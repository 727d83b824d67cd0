/-! The characters of each general category, packed as in `UrlRouting.Unicode.RangeCode`. The
unassigned characters are those of no category listed here. -/

namespace UrlRouting.Unicode

def categories : List (String × List String) :=
  [("Cc", ["0V_2W1"]),
   ("Cf", ["j50og15M0W60n10WC1m20hv30y_14Q4n1419lqt10v72Xc40F0Yx8FWZY13lc57cqhO0U_2"]),
   ("Co", ["WWu1_d6WuXSz__12z__1"]),
   ("Ll", [
     "X3Pw10f1N1710101010101010101010101010101010101010101010101010101011101010101010101110101",
     "0101010101010101010101010101010101010101020101220102031402032202010102011102030102122602",
     "0201010101010101011101010101010101011201030101010101010101010101010101010101010101010101",
     "0101010101016202110401010101a22PX60103032I0RY11132101010101010101010101014102021p1l11010",
     "1010101010101010101010101010109010101010101010101010101010101010101010101010101010102010",
     "1010101011101010101010101010101010101010101010101010101010101010101010101010101010101010",
     "101010101010101010m1e1dw2g122uN5Ya2810r3h1_1C1X1c301010101010101010101010101010101010101",
     "0101010101010101010101010101010101010101010101010101010101010101010101010101010101010101",
     "0101010101010101010101810101010101010101010101010101010101010101010101010101010101010101",
     "01010101010101010101010101010101885A78785A7878D2787878411603211832187A211o803130R0404021",
     "8340r10hr2l11031101010401115501010101010101010101010101010101010101010101010101010101010",
     "1010101010101010101010101010101010101011701040Cb11050peU01010101010101010101010101010101",
     "0101010101010J010101010101010101010101010d4010101010101210101010101010101010101010101010",
     "1010101010101010101010101010101710102010101010401020121010101010101010101050501010101010",
     "101040102010101010101010Q030rPg1587l2WwJ6C4fX1Pjc1d1e4Z1x4A1E1611Zu1o1z3Lwv2VWiLVx1OcgPP",
     "Q61HQPQ310161AQPQPQPQPQPQPQPQPQRSO15QO15QO15QO15QO1510qv191J65tl2X1"]),
   ("Lm", [
     "mLH4BE47010b4050-E0c70a51j8140V09030W50d50qc10_30rH0ws10h30ZJ0mE5k5-1D0Y1a1nL0D0GC_-21n7",
     "0_50rE0h1450X31z22suR0Yd15k80o30S1v38m20N0e3331rE0M0f40i30L1d3390cWL0j11W_151f118pi10W10",
     "rA0pu30chJ3yF2e11cHCW2110E1y_F31611nXCz1f66jT0pG0hI0"]),
   ("Lo", [
     "g50F0W8043m61wPQ43j1V19Z111Y310O1A220G01TTu2B0OW1LLg1O7A5N16Ge1x1r130I079GE47212L1610333",
     "0G0D112E1A085412L16111111V310J2G8121L16111430I0F1N0B7212L16111430U112F0H0153213311011313",
     "23BM0q17121M1F30Q21121U047121M191430U211F1H8121e120G05282O55H3N181026w1l111C5x1110141N10",
     "19119024N3W10_171Z1R4p3g1K0G5433031724CC0n3eA132610132e1132W1132610132E1u1132Y2b1Fn3hJ2G",
     "1P5g2677HDIEHEC12Fp1e10Z2Y11q1742X1105b2AUn1T24Bh14Ps1M9q1m5k1H7s1TD1Ah1QZ1f12ATn3315113",
     "0wX13t_2t1OM9616161616161616dH0r104r2801v2405g11z2HVm1FWG_j6W2qmK1sZ1Z2d18h84FA1Y20n1b2f",
     "50d303612131MTp1En1-153011BRAMPS7k1j1428A41e1N217KF15303n11031242010O13A70E525259616n4Y1",
     "TZzACM4m1ae8jB2f3Z20191C141011111h3X1gBI_12r1e1Bq341c4f391i12U35252522Z1B1P1I111E2DY1w3b",
     "CS3m1l1VDJ176b1AT2Z147W4j2Y3d18p1y2p1Cs99LA7u45201h111302MAM9UX2I11ALAP6Pc1t161W20F3121S",
     "g1S3SZ171RRr1ALAIDHk3e2t5Z1c1310m9f161G211u1SA08Lg1Hk1KRMCq1v1120Di1W1OQZ1T0208Y130Cl1E3",
     "L010Z1H1OJ1_1610131E197k1c17212L16111430I0C4U910201b110P010i1q1I3K2Ul1K110u5k1f13a1l1K0x",
     "1g1D0d2Qb16v5h1p672027111NF010-272c1G010S0Ad170L0Bj1J0Ie2d6W1V81a1H0n1Tm36111b1L0P5111VE",
     "0Ne111a8IF01C1X1y30l2vSc7Z6io2W3FlX1H5Pwy35cIvr6TYt1uH7UHk2HTIl1p1K5IpDd1rCg250l5rc7f1VX",
     "3o3jm8Y9F0T220E38hCae2g35C3879mp80rFi1X10XATIh1aFQb7T20l6U1211162490X7613111E1a6xf131Q11",
     "10201913101060401010121110201010101011102316131310191G52141Gag4_sf1W1ze42jq52mf7FjJYj2zG",
     "Yl1gw45ff8"]),
   ("Lt", ["bE02020c10ri778787C0F0l10"]),
   ("Lu", [
     "X2Pb3M16X1010101010101010101010101010101010101010101010101010101020101010101010102010101",
     "0101010101010101010101010101010101010101110103110111223111231111010111020111210113070202",
     "0201010101010101020101010101010101020201210101010101010101010101010101010101010101010101",
     "010101010107111201310101010X90103080601210111G18Z10223010101010101010101010105020112o1m1",
     "0101010101010101010101010101010109010101010101010101010101010101010101010101010101010101",
     "1101010101010201010101010101010101010101010101010101010101010101010101010101010101010101",
     "0101010101010101010102b1fw2b11050oMr2pa206g122WA0101010101010101010101010101010101010101",
     "0101010101010101010101010101010101010101010101010101010101010101010101010101010101010101",
     "0101010101010101010109010101010101010101010101010101010101010101010101010101010101010101",
     "01010101010101010101010101010109785A78785B010101087e23C3C3C4B3c8040322220346010101323A15",
     "0z10yp2l1m101220101013102082101010101010101010101010101010101010101010101010101010101010",
     "10101010101010101010101010101010101010801040jgU01010101010101010101010101010101010101010",
     "1010J010101010101010101010101010d4010101010101030101010101010101010101010101010101010101",
     "010101010101010101010A010111010101040102010301010101010101010101414101010101010101310111",
     "010101010101010O0hvLPbc1d1e4Z1y4A1E1611gt1o1z4Lwv2VWiLVW2OdgPPQPQPQ01120212317QPQ1132716",
     "R113141036RPQPQPQPQPQPUOX1OX1OX1OX1OX10rf4X1"]),
   ("Mc", [
     "Ze20t10228311o11w126121A0h10w12Y20w128011r11w10106121A0c31113212A0f12z13z11w1014211191S0",
     "E1w125212A0g11h2267I1gA1_10h51406021P1A226L12520A2up10U0X407711wA3224115W71w1010901185n4",
     "0m10501411z10U04120y10221031m1781h50L0sv41p_T120u21o1Fk41l10m114122k3121O0j1010j302150j7",
     "1111110pWP010_30j1241p30O1x10m1291D0z223110g52V1w1113212290A1q227020131110b328130g326013",
     "20j726320n328110j301160d301140b8290t7511402010k428340q20T1-10f603010d60E0g307020r644110-",
     "A1C0m118110elG2an3s1e31phO165"]),
   ("Me", ["ea11qn50-m1312hiX12"]),
   ("Mn", [
     "WOl3p84f8i110111110e2Am1KG0b36252113Z10UQx2Aw1890O3181214h12x18g1N1Vt1010474036A1T0w1043",
     "80K1Q021v1041412230U130B1v10441140K1M510w1020138071B1U0z10C0o1030t1012521371B1T0w1020605",
     "1K1S1v114380K1T0e207210w2026C7Y3028B6f21R01010t1D14115A1Z190c33151121P142G3D02160F0_L2oT",
     "2T1U1U1W2116802A90j1210r31Y10s32419062x6120w10161010276920m1D1U2BK3m10141050e18C1W132112",
     "u10113012w1721u421C16406031c6_1mMC403B-_22j40W3VgH3h31qkT049W11m21m803040P150t41QHD0c17P",
     "Ak12m102321d10Z252121C080l10p1012215110g1180k702040mvJ0XNFGFjU0Y70r44cq121153e1240b51zH3",
     "X24z91j25c2An13x30s1Ef1021A2n132170z12a1417-10C1q18A320_2220116020z4037L1v1130b1634c25D0",
     "1010E1r272210N0q25104111k736111R1r272011g30102510b30102314Z8811W811040m432140W19e1523809",
     "522k1C11c601210f661510o2L261111w3530111610e213010xA1B1q145010N0bd506EecBB32Wk24x16uW10_1",
     "3n20ubJ1Xp4j12MWH2H726U3q42xz1s14n180E0M41Emg161G261114a30W56tB0z13yF3-71p70207150wE6j36",
     "rzbOl7"]),
   ("Nd", [
     "m19cn19c49c69yC9s39s39s39s39s39s39s39s39s39W39s39c29s89c29cw19c19i99W49c5969s59s29c4969c",
     "kY19cL9c19c69M9s29sC9suK9ci19ca2969yO9W49y19m49s89sA9s39sB9c396Ji29cD9c39sK9s29s79c29s19",
     "cB9skG9cf29s29c49sG9sxN9qs2n1Wg29cD9sF9t79rQ9sq49"]),
   ("Nl", ["kt52lp2Y123-p30P8E2hrT9moMq1iE080c44gX8k3byI2"]),
   ("No", [
     "o515022rf25uB5u32b46v66H8nD9rX1JpZ19WF0rq103569c6Ff10sMx1k2LsJTfh10qa13g49U71EW19d1EmhT5",
     "ncMi1X23H1rAQa13qf17P6d18h24M5W512F2j1W28q11U2h24e37O7f16gA5WBU-49g13m36c4JxBJbg11kD8dRI",
     "pQKcyI6-OMfXPJCJi3Okg58XTw11213i2i11EYUC"]),
   ("Pc", ["_20_-71J0-kt11O2l70"]),
   ("Pd", ["j10yg10p10Xo30bW10fW25Xm3020V140S0-D0J0l30mip11b10A0f50Wp30-90"]),
   ("Pe", [
     "f10p10V0zr3010-w10fj20t10F0wJ010U0-X10101010101010m20W1010101010qC010101010101010101010W",
     "2010X10bX10101010i10101010iD0101010103010101021-ep10v60T01010101010101030H01010g50p10V02",
     "020"]),
   ("Pf", ["x50zw7030S0ek30104020F030"]),
   ("Pi", ["h50ix702120P0ek30104020F030"]),
   ("Po", [
     "X1212201011A131R0a2050E170-L080oE5f10s102020i11K111D012g23c30h1Df72s1EV0b81A0i40u30v30cC",
     "0C0lB0w20A1e5E10m30g2441l35h50aJ8bO0y32d21z4212b1513v91u61W4615W51A6S2y33x14-11W27B0YQ18",
     "78823223A1019wa3311m30l41422028111021A41923101C22iD2v10z50YWT1j82Z30A0p35yB3s21e1210n11l",
     "10X3CG1y33-31G1v70anK620M0K1233213726011r4212201011A131R0a1021wC2yK0m10-C0dN0d60V0m88c10",
     "m36Y26v23pP0a44i13z56j3113-33m11l2340D012u25h30g9111o34A110e30w7Mf32SCi20Y42y70e82x40y27",
     "p2214z29t60_24g11bK1g2Cl50mZ14yx21xpE1b40X2480eH2d93dA0ybJ0dl74px20-Q1"]),
   ("Ps", [
     "e10o10V0-r3010-w10-h2030c10t10F0wJ010U0-X10101010101010m20W1010101010qC01010101010101010",
     "1010W2010X10bX10101010P0I0101010iD0101010103010101020Xfp10t60T01010101010101030H01010g50",
     "o10V03020"]),
   ("Sc", ["a10z33fd10x30oF1oF170r70d80bI0xi20ac2X1sxX10ZkL0i30w40x6131s_73-um10mj20"]),
   ("Sk", [
     "-2010d20604030fG3CD56101Gr30E1Ye10qv5012B2D2D2D1ya41ZpTM91d31mU0E1cYKGxR010Y50tWz14"]),
   ("Sm", [
     "h10G2z1010j1040b10V0-N0lG2xn60D0d12D2h40d1460a245140202070V12010Vh8W11w20UOe15rE090s17l3",
     "0mA42UAFW8Y4M-14V2X8m1K25y-p10uP012a50G2z1010Z4063Xj31Whm10m-10P0V0P0V0P0V0P0V0P0iv51-k2",
     "8"]),
   ("So", [
     "c50204010nU0g81_31k60A0J1t70ZG0rB0Y4510a40l60f10dC2F01225K01010b47151153b61mN9pM0oM0z4X1",
     "XB998Zi111311A0116510101040B1E01110w1194231111161U21101Ui874J262m21TPd16d2MAn2j2Ms5181r1",
     "8k31t7i1h1W2_7WGl1L16c12f4b75bB1k1P1u2Cr6QF40D1C0L161mA149W1b190GUBT80FVAc1F_9Wk6_1mqLs1",
     "XR3A110zH2fgKFjBFW21s17j12aF03041D1v98v1G221C30l1i1wp11lI0eW17cZ20ra274GgwI350sgK0Zx3l7A",
     "23pD6MFFW3p3y1r7Ac12x152M17T4y1LX230w5s2fb1_Ft13o171D11es10yw20X40nMh14Z3CE2E1E1a1NW5u1S",
     "Dh14871E5w4w75uM3G3C3v66B40FB4t1896d18T2B41-1tA8D2C3A3u1104F2B497o41x2A0"]),
   ("Zl", ["eX80"]),
   ("Zp", ["fX80"]),
   ("Zs", ["W10_30_k50_h2Aa10l10Wz30"])]

end UrlRouting.Unicode
