/-! The characters of each value of the text segmentation properties, packed as in
`UrlRouting.Unicode.RangeCode`. A key is the property and its value, joined by an equals sign. -/

namespace UrlRouting.Unicode

def breakClasses : List (String × List String) :=
  [("graphemeclusterbreak=cn", [
     "09111H_2W1D0kh10nl40y_1021O6n1Flqt10m7BqXDFWZY13lc57bqhOVW3_3m7lm3"]),
   ("graphemeclusterbreak=cr", ["D0"]),
   ("graphemeclusterbreak=ex", [
     "WOl3p86d8i110111110e2Am1KG0b36252113Z10UQx2Aw1890O3181214h12y17g1N1Vt1010474036A1T0w1010",
     "238090A1Q021v1041412230U130B1v10441140K1M510w1011138072A1U0x1010C090e1030t1012521371B1T0",
     "w102020305171B1S1v1110238090A1T0e2040221080n2026C7Y3028B6f21R01010t1D14115A1Z190c3315112",
     "1P142G3D02160F0_L2oT2T1U1U1W2116802A90j1210r31Y10s32419062x6120w10161010276920m1Un13m161",
     "050e18C1W132112u10113012w1721u421C16406031c6_1iG0Z6W1-_22j40W3VgH5f31qkT319W11m21m803040",
     "P150t41QHD0c17PAk12m102321d10Z252121C080l10p1012215110g1180k702040mvJ0XNFGFkB1zI0Y70r44c",
     "q121153e1240b51zH3ZC1m22c2An13x30s1Ef1021A2n132170z12a1417-10C1q18A320_2220116020z4037L1",
     "v111010M0E634Z672210N0n202510201111h70236111R1r272011g30102510b322314Z8811r70A11040m4321",
     "40W19e1523809522k1C11sC61510o2L261111w3530111610e213010xA1B1q145010zd506EwqD4x16uW10_13n",
     "20ubJ1Xp4j12M-G012448726U3q42xz1s14n180E0M41Emg161G261114a30W56tB0z13yF3WV6j36mr24WXZO_2",
     "W4l7"]),
   ("graphemeclusterbreak=l", ["We4_2WWc1S"]),
   ("graphemeclusterbreak=lf", ["A0"]),
   ("graphemeclusterbreak=lv", [
     "WWh10R0R0R0R0R0R0R0R0R0R0R0R0R0R0R0R0R0R0R0R0R0R0R0R0R0R0R0R0R0R0R0R0R0R0R0R0R0R0R0R0R0R",
     "0R0R0R0R0R0R0R0R0R0R0R0R0R0R0R0R0R0R0R0R0R0R0R0R0R0R0R0R0R0R0R0R0R0R0R0R0R0R0R0R0R0R0R0R",
     "0R0R0R0R0R0R0R0R0R0R0R0R0R0R0R0R0R0R0R0R0R0R0R0R0R0R0R0R0R0R0R0R0R0R0R0R0R0R0R0R0R0R0R0R",
     "0R0R0R0R0R0R0R0R0R0R0R0R0R0R0R0R0R0R0R0R0R0R0R0R0R0R0R0R0R0R0R0R0R0R0R0R0R0R0R0R0R0R0R0R",
     "0R0R0R0R0R0R0R0R0R0R0R0R0R0R0R0R0R0R0R0R0R0R0R0R0R0R0R0R0R0R0R0R0R0R0R0R0R0R0R0R0R0R0R0R",
     "0R0R0R0R0R0R0R0R0R0R0R0R0R0R0R0R0R0R0R0R0R0R0R0R0R0R0R0R0R0R0R0R0R0R0R0R0R0R0R0R0R0R0R0R",
     "0R0R0R0R0R0R0R0R0R0R0R0R0R0R0R0R0R0R0R0R0R0R0R0R0R0R0R0R0R0R0R0R0R0R0R0R0R0R0R0R0R0R0R0R",
     "0R0R0R0R0R0R0R0R0R0R0R0R0R0R0R0R0R0R0R0R0R0R0R0R0R0R0R0R0R0R0R0R0R0R0R0R0R0R0R0R0R0R0R0R",
     "0R0R0R0R0R0R0R0R0R0R0R0R0R0R0R0R0R0R0R0R0R0R0R0R0R0R0R0R0R0R0R0R0R0R0R0R0R0R0R0R0R0R0R0R",
     "0R0R0R0R0"]),
   ("graphemeclusterbreak=lvt", [
     "XWh1Q1Q1Q1Q1Q1Q1Q1Q1Q1Q1Q1Q1Q1Q1Q1Q1Q1Q1Q1Q1Q1Q1Q1Q1Q1Q1Q1Q1Q1Q1Q1Q1Q1Q1Q1Q1Q1Q1Q1Q1Q1Q1",
     "Q1Q1Q1Q1Q1Q1Q1Q1Q1Q1Q1Q1Q1Q1Q1Q1Q1Q1Q1Q1Q1Q1Q1Q1Q1Q1Q1Q1Q1Q1Q1Q1Q1Q1Q1Q1Q1Q1Q1Q1Q1Q1Q1Q1",
     "Q1Q1Q1Q1Q1Q1Q1Q1Q1Q1Q1Q1Q1Q1Q1Q1Q1Q1Q1Q1Q1Q1Q1Q1Q1Q1Q1Q1Q1Q1Q1Q1Q1Q1Q1Q1Q1Q1Q1Q1Q1Q1Q1Q1",
     "Q1Q1Q1Q1Q1Q1Q1Q1Q1Q1Q1Q1Q1Q1Q1Q1Q1Q1Q1Q1Q1Q1Q1Q1Q1Q1Q1Q1Q1Q1Q1Q1Q1Q1Q1Q1Q1Q1Q1Q1Q1Q1Q1Q1",
     "Q1Q1Q1Q1Q1Q1Q1Q1Q1Q1Q1Q1Q1Q1Q1Q1Q1Q1Q1Q1Q1Q1Q1Q1Q1Q1Q1Q1Q1Q1Q1Q1Q1Q1Q1Q1Q1Q1Q1Q1Q1Q1Q1Q1",
     "Q1Q1Q1Q1Q1Q1Q1Q1Q1Q1Q1Q1Q1Q1Q1Q1Q1Q1Q1Q1Q1Q1Q1Q1Q1Q1Q1Q1Q1Q1Q1Q1Q1Q1Q1Q1Q1Q1Q1Q1Q1Q1Q1Q1",
     "Q1Q1Q1Q1Q1Q1Q1Q1Q1Q1Q1Q1Q1Q1Q1Q1Q1Q1Q1Q1Q1Q1Q1Q1Q1Q1Q1Q1Q1Q1Q1Q1Q1Q1Q1Q1Q1Q1Q1Q1Q1Q1Q1Q1",
     "Q1Q1Q1Q1Q1Q1Q1Q1Q1Q1Q1Q1Q1Q1Q1Q1Q1Q1Q1Q1Q1Q1Q1Q1Q1Q1Q1Q1Q1Q1Q1Q1Q1Q1Q1Q1Q1Q1Q1Q1Q1Q1Q1Q1",
     "Q1Q1Q1Q1Q1Q1Q1Q1Q1Q1Q1Q1Q1Q1Q1Q1Q1Q1Q1Q1Q1Q1Q1Q1Q1Q1Q1Q1Q1Q1Q1Q1Q1Q1Q1Q1Q1Q1Q1Q1Q1Q1Q1Q1",
     "Q1Q1Q1Q1Q"]),
   ("graphemeclusterbreak=pp", ["Wm15t60n10WC1m20hZ10kxW20F0q71xx1010u70f25yL0xD0"]),
   ("graphemeclusterbreak=ri", ["cly3P"]),
   ("graphemeclusterbreak=sm", [
     "Ze20t10228311o11x116121s10w12Y20w128011r11y106121o30113212q12z13z11w1011112111d10E1x1152",
     "12r11i2166J1_10_30g41_10n5091P1i10mq10U0X407711wA3224115W71w1010L5n40s101411z10U04120y10",
     "221031m1781h50L0hvY1120u21o1Fk41l10m114122k3121O0z402150j71111110pWP010_30j1241p30O1x10m",
     "1291D0z223110g52V1x10132122K1n628130h3160111020k716320n328110j301160l30b8290u7411402010k",
     "428340q20T1-10tC0E0g307020r644110-A1C0m118110lWKs1e31qhO060"]),
   ("graphemeclusterbreak=t", ["ej4t2hkn1m1"]),
   ("graphemeclusterbreak=v", ["Wh4d2emn1M"]),
   ("graphemeclusterbreak=zwj", ["jW80"]),
   ("sentencebreak=at", ["k10r_70jnt10x50"]),
   ("sentencebreak=cl", [
     "Y1042n1010T010j10F0-p33zw11xh27P1A1s11E1vJ3T1mX157Dl21V9pCL_13W11YW1DE129O0I7hD92712-ep1",
     "1t61SF21G5f51n1010T0101111ouz12"]),
   ("sentencebreak=cr", ["D0"]),
   ("sentencebreak=ex", [
     "WOl3p86d8i110111110e2Am1KG0b36252113Z10UQx2Aw1890O3181214h12y17g1N1W1s121H16A1T2u1016212",
     "290A1Q022u1014412230U130B2u10171212K1M512u1016212272A1U0x14321390e14t1016121371B1T2u1016",
     "121371B1F0C3t1116121390A1T2c20451017I1z1026C7Y3028B6f21R0101041n1J115A1Z190a3JN342122633",
     "DB10A3_L2oT3S2T1U1W2V90j1210r31Y10s3B4Bx64v191S20m1Un14l1Gc18C2UCu1Dm1Ju421K406022c6_1iG",
     "1Y6W1-_22j40W3VgH5f31qkT319W11m21m803040N440p21o1HQHD0c17PCi13l1Da10Z2DC081j12o101221511",
     "0f1451i7711mvJ0XNFGFkB1zI0Y70r44cq121153e1240b51zH3ZC1m22c2An13w32r1Ef1021A3j1A70z12a1DG",
     "1i10C2m1D8311y2B6020z4BL3t1116212290A12634W6HN0n2Jh7628R1o2Gg3Cb3EW8Er7511231011j462630S",
     "9e1613809Ak1FrC717o2L1Dw3530111610Y241114xA39110m1634zd506EwqD4x16uW101s173n20B1hbJ1Xp4j",
     "12M-G4358726U3q42xz1s14n180E0M41Emg161G261114a30W56tB0z13yF3WV6j36rsbO_2W4l7"]),
   ("sentencebreak=fo", [
     "j50og15M0W60n10WC1m20hv30y_1021Q4n1419lqt10v72Xc40F0Yx8FWZY13lc57cqhO0"]),
   ("sentencebreak=le", [
     "xD043m60a166BQ010b40aF0s3Q44i1g1Z111Y310F171A220G01TTu2B0OW191405L409030NO7A5N15Hf1w1r13",
     "0I079FF47212L16103330G0D112E1A085412L16111111V310J2G8121L16111430I0F1N0B7212L16111430U11",
     "2F0H015321331101131323BM0q17121M1F30Q22021U047121M191430V111F1H8121e120G05282O55H3N18102",
     "6w1l111C6w1110141N101911902410L3W10_171Z1R4p3g1K0G5433031724CC0X2g12hA132610132e1132W113",
     "2610132E1u1132Y2b1Fn3hJ2G1P5g23A7HDIEHEC12Fp1Z1040Z2u2742X1105b2AUn1T24Bh14Ps1M9q1o20z2k",
     "1H7s1TD1Ah1QZ1f12AZ1Ig122f13151130wX13d2223dz2t170GM9616161616161616m20rE2P874244r2621v2",
     "135g11z2HVm1FWG_j6W2iqLZ2j12i83FA1Y20G0W1l2d18e3060d303612131MTp1En1-153011BRAMPS7k1S0G4",
     "19A41e1N217KM303n11031242010O22A72C525259616n4Y1TZzACM4m1ae8jB2f3Z20191C141011111h3X1gBI",
     "_12r1e1Bq341c4f3t12U35252522Z1B1P1I111E2DY1w3b2q1h8S3m1l1VDT5b1AT2Z14714w3j2Y3d18p1y4s99",
     "LA7P1z35201h111302MAM9UX2I11ALAPc2t161W20F3121Sg1S3SZ171RRr1ALAIDHk3e2t5Z1yAf161k2SA08Lg",
     "1Hk1KRMCq1v1120Di1W1OQZ1T0208Y130Cl1E3L010Z1H1OJ1_1610131E197k1c17212L16111430I0C4-4q1I3",
     "K2Ul1K110u5k1f13a1l1K0x1g1D0d2Qb16v5h1p672027111NF010-272c1G010S0Ad170L0Bj1J0Ie2d881a1H0",
     "n1Tm36111b1L0P5111VE0dAIF01C1X1y30l2vSc3k3HZ6io2W3FlX1H5vz3cIvj8uH7UHk2HTIl1G3VK5ImRg250",
     "Y2CW2110St_58rc1g18dt8316111Y9F0T220E38hCae2g35C3879mp80rFi1A6G0XATIh1aFRqN613111E1a6c40",
     "qb131Q1110201913101060401010121110201010101011102316131310191G52141Gag4_sf1W1vX46z62Xq5E",
     "mf7_W3zGYl1gw45_Y4"]),
   ("sentencebreak=lf", ["A0"]),
   ("sentencebreak=lo", [
     "X3Pl10A040a1N171010101010101010101010101010101010101010101010101010101110101010101010111",
     "0101010101010101010101010101010101010101010102010122010203140203220201010201110203010212",
     "2602020101010101010101110101010101010101120103010101010101010101010101010101010101010101",
     "01010101010101016202110401010101a21Z171U4i40103023I0RY1113210101010101010101010101410202",
     "1p1l110101010101010101010101010101010109010101010101010101010101010101010101010101010101",
     "0101020101010101011101010101010101010101010101010101010101010101010101010101010101010101",
     "010101010101010101010101010m1e1px20xN5Ya28t3_5X20101010101010101010101010101010101010101",
     "0101010101010101010101010101010101010101010101010101010101010101010101010101010101010101",
     "0101010101010101010181010101010101010101010101010101010101010101010101010101010101010101",
     "010101010101010101010101010101885A78785A7878D2787878411603211832187A211v30D0GCj303130R04",
     "040218340X1F40hQPcw1l1103110101040111730101010101010101010101010101010101010101010101010",
     "10101010101010101010101010101010101010101010101011701040Cb11050peU0101010101010101010101",
     "01010101010101010101010J010101010101010101010101012b401010101010121010101010101010101010",
     "1010101010101010101010101010101010101019101020101010104010201210101010101010101010505010",
     "10101010101040106010101010O21012rPg11D6l2WwJ6C4fX1Pjc1d1e4Z1x4A1E1611ZE0221f118be1o1j-2V",
     "WiLVwiPPQ61HQPQ310161AQPQPQPQPQPQPQPQPQRSO15QO15QO15QO15QO1510qv191J65b8z1qb2X1"]),
   ("sentencebreak=nu", [
     "m19cn1911Z49c69yC9s39s39s39s39s39s39s39s39s39W39s39c29s89c29cw19c19i99W49c5969s59s29c496",
     "9ckY19cL9c19c69M9s29sC9suK9ci19ca29iP9W49y19m49s89sA9s39sB9c39c39cD9c39sN9s79c29cD9cuI9s",
     "29c49qZRn1Wg29cD9sF9sY19sq49"]),
   ("sentencebreak=sc", ["i11C0Yf10k51gF0fW4050gW21i_30kmp1110T1T13020A0e51C0f20"]),
   ("sentencebreak=se", ["b40Yz71"]),
   ("sentencebreak=sp", ["9011J0_30_k50_h2Aa10l10Wz30"]),
   ("sentencebreak=st", [
     "X10T0fg10p42q50h12s70z101031b91at11sO041bO0c61i6050w91YB3k5121T1y51X21yT192al30D0M1jD0yd",
     "T0k81Z7030-B1s21_20u41p42m41v70gpK1f50T0X20qt21zd14i13z51r33_32X4160G1u2111i30XD1rB15Ef3",
     "1v72bG010x71t21aD1qL1g21fvI1b40X21B0pQ0cmJ0el70"]),
   ("sentencebreak=up", [
     "X2Pb3M16X1010101010101010101010101010101010101010101010101010101020101010101010102010101",
     "0101010101010101010101010101010101010101110103110111223111231111010111020111210113071111",
     "1101010101010101020101010101010101021101210101010101010101010101010101010101010101010101",
     "010101010107111201310101010X90103080601210111G18Z10223010101010101010101010105020112o1m1",
     "0101010101010101010101010101010109010101010101010101010101010101010101010101010101010101",
     "1101010101010201010101010101010101010101010101010101010101010101010101010101010101010101",
     "0101010101010101010102b1fw2b11050oMr2gm2010101010101010101010101010101010101010101010101",
     "0101010101010101010101010101010101010101010101010101010101010101010101010101010101010101",
     "0101010101010901010101010101010101010101010101010101010101010101010101010101010101010101",
     "010101010101010101010109785A78785B010101087O7878784B4B3C4B4b8040322220346010101323A150QF",
     "J0oPPmv1l1m10122010101310208210101010101010101010101010101010101010101010101010101010101",
     "010101010101010101010101010101010101010801040jgU0101010101010101010101010101010101010101",
     "01010J010101010101010101010101010d401010101010103010101010101010101010101010101010101010",
     "1010101010101010101010A01011101010104010201030101010101010101010141410101010101010131060",
     "5010S0hvLPbc1d1e4Z1y4A1E1611gt1o1j_2VWiLVWjPPQPQPQ01120212317QPQ1132716R113141036RPQPQPQ",
     "PQPQPUOX1OX1OX1OX1OX10rf4X1kW2P6P6P"]),
   ("wordbreak=cr", ["D0"]),
   ("wordbreak=dq", ["Y10"]),
   ("wordbreak=ex", ["_20l-70F1J0-kt11O2l70"]),
   ("wordbreak=extend", [
     "WOl3p86d8i110111110e2Am1KG0b36252113Z10UQx2Aw1890O3181214h12y17g1N1W1s121H16A1T2u1016212",
     "290A1Q022u1014412230U130B2u10171212K1M512u1016212272A1U0x14321390e14t1016121371B1T2u1016",
     "121371B1F0C3t1116121390A1T2c20451017I1z1026C7Y3028B6f21R0101041n1J115A1Z190a3JN342122633",
     "DB10A3_L2oT3S2T1U1W2V90j1210r31Y10s3B4Bx64v191S20m1Un14l1Gc18C2UCu1Dm1Ju421K406022c6_1iG",
     "0Z6W1-_22j40W3VgH5f31qkT319W11m21m803040N440p21o1HQHD0c17PCi13l1Da10Z2DC081j12o101221511",
     "0f1451i7711mvJ0XNFGFkB1zI0Y70r44cq121153e1240b51zH3ZC1m22c2An13w32r1Ef1021A3j1A70z12a1DG",
     "1i10C2m1D8311y2B6020z4BL3t1116212290A12634W6HN0n2Jh7628R1o2Gg3Cb3EW8Er7511231011j462630S",
     "9e1613809Ak1FrC717o2L1Dw3530111610Y241114xA39110m1634zd506EwqD4x16uW101s173n20B1hbJ1Xp4j",
     "12M-G4358726U3q42xz1s14n180E0M41Emg161G261114a30W56tB0z13yF3WV6j36mr24WXZO_2W4l7"]),
   ("wordbreak=fo", ["j50og15M0W60n10WC1m20hv30__11Q4n1419lqt10v72Xc40F0Yx8FWZY13lc57cqhO0"]),
   ("wordbreak=hl", ["mk1Q43gfz10191C1410111119"]),
   ("wordbreak=ka", ["nXC4b313w213m7Fm6k11t2kWp1t1oYi13161110_82o10E3"]),
   ("wordbreak=le", [
     "X2P6Pl10A0405M1U1_E6X1m341123106012101J1o21g48b51b123101e110e30i1g1Z111Y310F171A220G01TT",
     "u2B0OW191405L409030NO7A5N15Hf1w1r130I079FF47212L16103330G0D112E1A085412L16111111V310J2G8",
     "121L16111430I0F1N0B7212L16111430U112F0H015321331101131323BM0q17121M1F30Q22021U047121M191",
     "430V111F1H8121e120G05282O55H3N181026v90_171Z1R4p8b110502g11iA132610132e1132W1132610132E1",
     "u1132Y2b1FGr2253hJ2G1P5g23A7HDIEHEC12l5u2742X1105b2AUX7Mk7k1H7s1TD1Ah1QZ1f12AZ1287g122f1",
     "31511305_5W2r8252b125271010101U2q11610321633254C5216q30D0GCb3040291034601010131A235440He",
     "1jPp1su1a76331Cb110502t170GM9616161616161616m20rE0r11e6g11z2HVWoRia1Z2j12i83FA1Kk1GU2l2O",
     "Y6511014OF12131MTp1En1-153011BRAMPS7k1S0m1e1N217q4A72C5252596161v16o3TZzACM4m1au86C4u1X3",
     "X1gBI_12r1e1Bq341c4a1P6Pb2U35252522Z1B1P1I111E2DY1w3b2q1h8S3m1l1VDT5b1AT2Z14714g1z4IZ14Z",
     "14d18p1CA1E16111A1E1611Z2s99LA7O51f118b25201h111302MAM9UX2I11ALAPc2t161W20F3121Sg1S3SZ17",
     "1RRr1ALAIDHk3e2t1o1Do1DZ1yAf161k2SA08Lg1Hk1KRMCq1v1120Di1W1OQZ1T0208Y130Cl1E3L010Z1H1OJ1",
     "_1610131E197k1c17212L16111430I0C4-4q1I3K2Ul1K110u5k1f13a1l1K0x1g1D0dAh1q3_1V72027111NF01",
     "0-272c1G010S0Ad170L0Bj1J0Ie2d881a1H0n1Tm36111b1L0P5111VE0dAIF01C1X1y30l2vSc3k3HZ6io2W3Fl",
     "X1H5vz3cIvj8uH7UHk2HTIl1G3VK5ImL_1W4g250Y2CW2110yWJg35C3879cx5q21c2112021231B10161W21327",
     "161R131410361pA2O1O1U1O1U1O1U1O1U1O17qv1U65b8z1o4i1A6G0XATIh1aFRqN613111E1a6x1Z270qb131Q",
     "1110201913101060401010121110201010101011102316131310191G52141GqJP6P6P"]),
   ("wordbreak=lf", ["A0"]),
   ("wordbreak=mb", ["k10f_71A0jnt10q5060"]),
   ("wordbreak=ml", ["w10y30lM0tE0q40on60hlt10X20a60"]),
   ("wordbreak=mn", ["i10E0YQ0gG0Y41-20hC0hY60hkt1030x1030t50E0"]),
   ("wordbreak=nl", ["B1u30Yz71"]),
   ("wordbreak=nu", [
     "m19cn1910a49c69yC9s39s39s39s39s39s39s39s39s39W39s39c29s89c29cw19c19i99W49c5969s59s29c496",
     "9ckY19cL9c19c69M9s29sC9suK9ci19ca29iP9W49y19m49s89sA9s39sB9c39c39cD9c39sN9s79c29cD9cuI9s",
     "29c49qZRn1Wg29cD9sF9sY19sq49"]),
   ("wordbreak=ri", ["cly3P"]),
   ("wordbreak=sq", ["d10"]),
   ("wordbreak=wsegspace", ["W10_o50_h2612q20Wz30"]),
   ("wordbreak=zwj", ["jW80"])]

end UrlRouting.Unicode
