/-! The characters of each script, and those that a script shares through its extensions, packed
as in `UrlRouting.Unicode.RangeCode`. A script is named by its four-letter code. -/

namespace UrlRouting.Unicode

def scripts : List (String × List String) :=
  [("Adlm", ["Wew3h24941"]),
   ("Aghb", ["mfX2p1B0"]),
   ("Ahom", ["Wub2Q2E4M"]),
   ("Arab", [
     "Wm14151D121V19BP1h31X1m2l1m7X15g21Smoy1jF2l4W1Fm341c4Zx3UZ2588X15Wut131Q1110201913101060",
     "401010121110201010101011102316131310191G52141Gq11"]),
   ("Armi", ["WYY2L18"]),
   ("Armn", ["nf1b12n122Ziz14"]),
   ("Avst", ["WuY2r136"]),
   ("Bali", ["Wu6i21n1"]),
   ("Bamu", ["Wrf1t2eem1uH"]),
   ("Bass", ["msw2T25"]),
   ("Batk", ["W-6p183"]),
   ("Beng", ["Wi2317212L1610332821238041142O"]),
   ("Berf", ["Wrx2O2O"]),
   ("Bhks", ["WWd281i11DAS"]),
   ("Bopo", ["gN1vmBg1m3V"]),
   ("Brah", ["WWa2j24Z190"]),
   ("Brai", ["WWA_7"]),
   ("Bugi", ["Wm6R21"]),
   ("Buhd", ["Ww5J"]),
   ("Cakm", ["Wea2q11H"]),
   ("Cans", ["WW5_JmHb2wjW2F"]),
   ("Cari", ["WrW2m1"]),
   ("Cham", ["Wmg1s19D2923"]),
   ("Cher", ["Wz4r225oxb1l2"]),
   ("Chrs", ["mzZ2R"]),
   ("Copt", ["YVDmaAp356"]),
   ("Cpmn", ["myh2Y3"]),
   ("Cprt", ["WWY25201h1113020"]),
   ("Cyrl", ["WW1a42e5mw5AW50i20dZ4VWYU_2kyL1Wmu1z1X10"]),
   ("Deva", ["We2m24E2PWxd1VWmS9"]),
   ("Diak", ["Wec262027111T112B99"]),
   ("Dogr", ["WWc2x1"]),
   ("Dsrt", ["WWX2l2"]),
   ("Dupl", ["WWl3g35C387923"]),
   ("Egyp", ["WWi2rY1Awy3"]),
   ("Elba", ["WeX2d1"]),
   ("Elym", ["W_Z2M"]),
   ("Ethi", [
     "Wm4e2132610132e1132W1132610132E1u1132Y22V3Pcl6M9616161616161616YfV525259616nbl2613111E"]),
   ("Gara", ["WgZ2b13S81"]),
   ("Geor", ["Wb4b110502g113my2g122WY4b11050"]),
   ("Glag", ["WWB_2Wzi361G261114"]),
   ("Gong", ["Whd25111a1111579"]),
   ("Gonm", ["Wed26111h130111889"]),
   ("Goth", ["mvW2Q"]),
   ("Gran", ["Wua2317212L1611142821222060562634"]),
   ("Grek", [
     "mR3122310401012101J1-1EFcf64o1444q20WAL252b125271010101U2q11E1D251I2218d90-nY10wkLk2H0_Y",
     "q1b2"]),
   ("Gujr", ["Xq2218121L16111429121220F32B76"]),
   ("Gukh", ["Weu2v1"]),
   ("Guru", ["Xm2215412L16111111201441223073107G"]),
   ("Hang", ["We4_7kn71X8z2n3UX2UXtTSZKZzACM4m1az9U35252522"]),
   ("Hani", [
     "WqBP1u2Cr6l1010P8E3aU_j6W2_lKWeMjB2f3eeT1C6fWa1_sf1W1ze42jq52mf7FjJYj2zGYl1gw45ff8"]),
   ("Hano", ["Wv5K"]),
   ("Hatr", ["WdY2I1154"]),
   ("Hebr", ["ni1s18Q45efz1P1410111119"]),
   ("Hira", ["XYCr262Xx_2-8I0T2jbG0"]),
   ("Hluw", ["WWn2cI"]),
   ("Hmng", ["Wuw2b2A9161K5I"]),
   ("Hmnp", ["Weu3i13D2941"]),
   ("Hung", ["WaZ2o1Do175"]),
   ("Ital", ["WuW2Z192"]),
   ("Java", ["Wig1j22941"]),
   ("Kali", ["Weg1j110"]),
   ("Kana", ["XbCv222m7Fm6k11t2kWp191i1oYi13161110_82o10E3"]),
   ("Kawi", ["Wud2G1e13S"]),
   ("Khar", ["WmY231157121S224978"]),
   ("Khmr", ["Wy5z22969cFV"]),
   ("Khoj", ["Wma2H1k1"]),
   ("Kits", ["a_x20xu6rEf10"]),
   ("Knda", ["Wa3C121M19142812137152132912"]),
   ("Krai", ["Wgx2v1"]),
   ("Kthi", ["Waa2Y2A0"]),
   ("Lana", ["Wn6-11S2A696D"]),
   ("Laoo", ["Xq3110141N101M2410161923"]),
   ("Latn", [
     "X2P6Pl10F05M1U1WEd14xm6b16m1535C1b2X2_7nB0D0GCj4160R0He1ts2VYrUb33n2KEmPg11813syJ6wW1P6P",
     "bX251f118bwr1U65"]),
   ("Lepc", ["WW7t13E32"]),
   ("Limb", ["We6U1B4B403B"]),
   ("Lina", ["WmX2s99LA7"]),
   ("Linb", ["WWW2B1P1I111E2DY1w3"]),
   ("Lisu", ["mcf1l1mrU0"]),
   ("Lyci", ["WqW2S"]),
   ("Lydi", ["WfY2P50"]),
   ("Mahj", ["mga2c1"]),
   ("Maka", ["Wtd2O"]),
   ("Mand", ["WY2R20"]),
   ("Mani", ["WsY2c14B"]),
   ("Marc", ["mZd2V2L1D"]),
   ("Medf", ["Wox2w2"]),
   ("Mend", ["WWw3a62F"]),
   ("Merc", ["WjY2N4J2j1"]),
   ("Mero", ["WiY2V"]),
   ("Mlym", ["We3C121o112154F2P"]),
   ("Modi", ["Wmb2a2B9"]),
   ("Mong", ["WW61201J6u27g1rj_1C"]),
   ("Mroo", ["Wow2U1941"]),
   ("Mtei", ["Wtg1Mf6j129"]),
   ("Mult", ["Wqa2610131E1A"]),
   ("Mymr", ["WW4_4Wgc1UX3VmYRJ"]),
   ("Nagm", ["mcv3f1"]),
   ("Nand", ["Wjc272j12A"]),
   ("Narb", ["WqY2V"]),
   ("Nbat", ["WaY2U88"]),
   ("Newa", ["WWb2x214"]),
   ("Nkoo", ["W-1w122"]),
   ("Nshu", ["X_x20kiGhC"]),
   ("Ogam", ["Wq5S"]),
   ("Olck", ["mY7l1"]),
   ("Onao", ["mkv3g140"]),
   ("Orkh", ["WWZ2e2"]),
   ("Orya", ["Xu2217212L1611142821227241142H"]),
   ("Osge", ["mbX2Z14Z1"]),
   ("Osma", ["WaX2T29"]),
   ("Ougr", ["mxZ2P"]),
   ("Palm", ["WZY2V"]),
   ("Pauc", ["Wsc2u1"]),
   ("Perm", ["mwW2g1"]),
   ("Phag", ["WYg1t1"]),
   ("Phli", ["WxY2I57"]),
   ("Phlp", ["WyY2H73C6"]),
   ("Phnx", ["WeY2R30"]),
   ("Plrd", ["Wux2g24u17G"]),
   ("Prti", ["WwY2L27"]),
   ("Rjng", ["mfg1Z1B0"]),
   ("Rohg", ["WeZ2d189"]),
   ("Runr", ["Wr5g23A"]),
   ("Samr", ["WW2j12E"]),
   ("Sarb", ["WpY2V"]),
   ("Saur", ["Wag1b28B"]),
   ("Sgnw", ["WWs3hKF41E"]),
   ("Shaw", ["mYX2l1"]),
   ("Shrd", ["Wia2_2Wi27"]),
   ("Sidd", ["Wib2r12b1"]),
   ("Sidt", ["WgY2P"]),
   ("Sind", ["mra2w159"]),
   ("Sinh", ["Xi321H3N181026304510176922i_W2J"]),
   ("Sogd", ["mvZ2f1"]),
   ("Sogo", ["WuZ2d1"]),
   ("Sora", ["mca2O79"]),
   ("Soyo", ["moc2o2"]),
   ("Sund", ["Wy6_1W87"]),
   ("Sunu", ["W-c2X1E9"]),
   ("Sylo", ["WWg1i1"]),
   ("Syrc", ["Wu1D1x122m8A"]),
   ("Tagb", ["Wx5C1211"]),
   ("Takr", ["Wqb2v169"]),
   ("Tale", ["mg6T24"]),
   ("Talu", ["Wi6h14P6A31"]),
   ("Taml", ["Yy2115321331101131323B4432132060EKb-a2n1D0"]),
   ("Tang", ["W_x20V_t6WGUX3o3"]),
   ("Tavt", ["Wqg1Y2O4"]),
   ("Tayo", ["Wsv3U1L81"]),
   ("Telu", ["WW3C121M1F281213711211232978"]),
   ("Tfng", ["mfBt171E0"]),
   ("Tglg", ["Wu5L90"]),
   ("Thaa", ["Wy1n1"]),
   ("Thai", ["Xm3v15R"]),
   ("Tibt", ["Wu3d21Z14c11Z11E1641"]),
   ("Tirh", ["Wab2d289"]),
   ("Tnsa", ["mpw2k219"]),
   ("Todr", ["WkX2p1"]),
   ("Tols", ["mjd2h149"]),
   ("Toto", ["mqu3U"]),
   ("Tutg", ["Wya2910201b119102013191181"]),
   ("Ugar", ["WyW2T10"]),
   ("Vaii", ["Wef1h9"]),
   ("Vith", ["mhX2A1E16111A1E1611"]),
   ("Wara", ["Wbc2o2C0"]),
   ("Wcho", ["Wsu3v150"]),
   ("Xpeo", ["WzW2Z14D"]),
   ("Xsux", ["WWe2vSc3k314BZ6"]),
   ("Yezi", ["WqZ2f11221"]),
   ("Yiii", ["WWe1ia13s1"]),
   ("Zanb", ["Wmc2d2"]),
   ("Zinh", [
     "WOl3r81aEAQ0WN3xg4j12BaF21C16406031c6_1iG1Y6W1vv33h31bhp1FGDlU0Y70wY40a-k1j12MWH2H726U3o",
     "whOl7"]),
   ("Zyyy", [
     "0W2Q5Qk11E14N0V0XEc1542Jq30906010zJ060E030W10y40aG0X41vc10rC3Y90ll12d21h6110jc10D0731512",
     "20bOB2s21A3A1EHX1-1b112251Q1Gf124vKMAL_SW8pJ2f4WGz2oCK101OF743x2130w21p4FW1b190m1_1Vm2l1",
     "0u2d5Wk6_1WeMX1c32b59q70W50hC0E1okK1m69MY11I13p401VQ5QAA0j11W2616A4Y824i138m2Cp1i1a7Qajk",
     "13yw3y73pD6MFG_2p3y1r7Ac12z13G817T4y1r6JCJCs29Od4q21c2112021231B10161W21327161R131410361",
     "pA2Z92n1nZ5Z2i2y1YMh14Z3CE2E1E1a1Aj5u1P11Dh14871E5w4uU3G3C3v66B40FB4t1896d18T2B41E8d1tA8",
     "D2C3A3u1104F2B497o41c3cWXO0U_2"])]

/-- Packed ranges of the characters used in a script, where they are not just those of the
script itself. -/
def scriptExtensions : List (String × List String) :=
  [("Adlm", ["_m10W10km60nl30-rk3h24941"]),
   ("Aghb", ["aO0i10i10nkW2p1B0"]),
   ("Arab", [
     "Wm141s61X1m2l1m7X15g21Slw50nl30kep1_JW1Fm341c4ZVRax2UZ2588X15Wut131Q11102019131010604010",
     "10121110201010101011102316131310191G52141Gq11"]),
   ("Armn", ["eO0eHb12n122Ziz14"]),
   ("Avst", ["t50uhB1kct1r136"]),
   ("Beng", ["yL0qq11H1Q317212L1610332821238041142Ons401021108080204022v_Y10"]),
   ("Bopo", ["dM012D0G1reB2491CA32060Z609g1m3Vbap11w84"]),
   ("Bugi", ["Wm6R21lzZ10"]),
   ("Buhd", ["rv519J"]),
   ("Cakm", ["cl29mo19sbW2q11H"]),
   ("Cari", ["t50Yz7020pk30kZr1m1"]),
   ("Cher", ["WO21061M1B1kZ4r225oxb1l2"]),
   ("Copt", ["t50eI03110i31i3DmaAp356t80ecr1R"]),
   ("Cpmn", ["WeW21kqBY3"]),
   ("Cprt", ["WeW224i138Ws15201h1113020"]),
   ("Cyrl", ["yL0Z221010102050k7l9mw5AW50i20_30d_3VZ20y_T_2kyL1Wmu1z1X10"]),
   ("Deva", ["yL0Zo1o22g1mw4c111sV0_vX19c5VWmS9"]),
   ("Dogr", ["ah2BWsd19c-Rx1"]),
   ("Dupl", ["t50lI110O1tuA0ZkZ3g35C387927"]),
   ("Elba", ["t50jI0wlW2d1"]),
   ("Ethi", [
     "kO0nt3e2132610132e1132W1132610132E1u1132Y22V3Pcl6M9616161616161616YfV525259616nbl2613111",
     "E"]),
   ("Gara", ["im10E030WvX2b13S81"]),
   ("Geor", ["t50nc10su2b110502l1my2g122wS0bb3b11050Z80"]),
   ("Glag", ["t50hI010-B020X80nx20-w30bz2_2ZF0hXU0mik261G261114"]),
   ("Gong", ["t50ib21w_a25111a1111579"]),
   ("Gonm", ["ah21wya26111h130111889"]),
   ("Goth", ["t50iI120e10-__1Q"]),
   ("Gran", ["ng21H1WKDyc4011U231sV0lmy1317212L1611141921222060562634xY3110"]),
   ("Grek", [
     "t50eI1201010A0k1020g172310401012101J1-1EFcf64o1444q22-9L252b125271010101U2q11E1D251I2218",
     "-20e60-nY10wkLk2H0_Yq1b2"]),
   ("Gujr", ["ng21H1x8218121L16111429121220F32B76mfd19"]),
   ("Gukh", ["bh20wyr2v1"]),
   ("Guru", ["ng21H1x4215412L16111111201441223073107Gvjd19"]),
   ("Hang", ["We4_7Xm72491CE260Z60r1z2n3UX2UXtTSZKZzACM4m1fo91w84w1U35252522"]),
   ("Hani", [
     "t50ekBP1u2Cr6QF121C1C1C2068x50q4FW1b190m1d1u1m1FBp10u2OA4W3U1_j6W2_lKWu17ulKjB2f3hR1w84y",
     "ZS1C6fxOH-s71kj3_sf1W1ze42jq52mf7FjJYj2zGYl1gw45ff8"]),
   ("Hano", ["Wv5M"]),
   ("Hebr", ["dO1eKs18Q45efz1P1410111119"]),
   ("Hira", ["XWC2491CG510413r227w21egp11w84A0j11XZi1-8I0T2jbG0"]),
   ("Hung", ["wY8020pk30F0-nt1o1Do175"]),
   ("Java", ["Wig1j21A41"]),
   ("Kali", ["Weg1l1"]),
   ("Kana", ["bO0T0zcB2491CG51041x233_2m7Fm6k11t2jto11w8-1mYi13161110_82o10E3"]),
   ("Khoj", ["ct29Wgd19ckQH1k1"]),
   ("Knda", ["ng21H1wOC121M19142812137152132912y-301160N010xvY15"]),
   ("Kthi", ["ch29Xc90-lU9cYQY2A0"]),
   ("Latn", [
     "X2P6Pl10C0205M1U1WE30A01210901064RE1110F27111c10504Cr81gc11ez10aW3b16m1535C1b2v107_7l90X",
     "20D0GCp20v1160R0He1ts2VtC0edU7Qb33n2KEk90XGg11813syJ6wW1P6PbX251f118bwr1U65"]),
   ("Limb", ["bh20wy3U1B4B403B"]),
   ("Lina", ["deW2i1ic1s99LA7"]),
   ("Linb", ["WWW2B1P1I111E2DY1w3524i138"]),
   ("Lisu", ["yL0G0yfB1acTl1mrU0"]),
   ("Lyci", ["wY80bnu1S"]),
   ("Lydi", ["t50vhB0kts1P50"]),
   ("Mahj", ["t50ib2BWsd19seQc1"]),
   ("Mand", ["Wo10_FR20"]),
   ("Mani", ["Wo10_ZX2c14B"]),
   ("Mero", ["zY80Yfw1V"]),
   ("Mlym", ["ng21H1wSC121o112154F2Pww30N0zvY12"]),
   ("Modi", ["mXg19ckRa2B9"]),
   ("Mong", ["WW6P6u27g1ay10n-3153qov1C"]),
   ("Mult", ["cp29mWY2610131E1A"]),
   ("Mymr", ["WW4_4kac10n5UX3VmYRJ"]),
   ("Nand", ["ng20I1WS9v_308070rvY15ghS72j12A"]),
   ("Newa", ["ng21Yy401190601010ouz1x214"]),
   ("Nkoo", ["im10E030WDw122-fz11"]),
   ("Onao", ["ah21gZt3g140"]),
   ("Orkh", ["wY80rk30lkt1e2"]),
   ("Orya", ["ng21H1xC217212L1611142821227241142HYh40N0"]),
   ("Osge", ["XO02060i20tgW2Z14Z1"]),
   ("Ougr", ["Wo10nbX20zZ1P"]),
   ("Perm", ["t50eI052A0lB0is_1g1"]),
   ("Phag", ["YW6110fX20o-30zXUt1"]),
   ("Phlp", ["Wo10_fX2H73C6"]),
   ("Rohg", ["im10E030W10p40hnX2d189"]),
   ("Runr", ["Wr5u2"]),
   ("Samr", ["WW2j12Eol90"]),
   ("Shaw", ["t50uyW2l1"]),
   ("Shrd", ["ng20by401021209020YwY1520dgQ_2Wi27"]),
   ("Sind", ["ah21gsd19spQw159"]),
   ("Sinh", ["ah21xW121H3N181026304510176922zt30kdz1J"]),
   ("Sogd", ["Wo10ldY2f1"]),
   ("Sunu", ["WO1109020S030kac2X1E9"]),
   ("Sylo", ["ah21W49mmd1i1"]),
   ("Syrc", ["ZO12110O27111wM0E120W10AAQ0l4D1x122m8Aji5010"]),
   ("Tagb", ["rv51f1C1211"]),
   ("Takr", ["ah21gsd19coRv169"]),
   ("Tale", ["WO15130pf39ce2T24"]),
   ("Taml", ["ng21H1yG115321331101131323B4432132060EK_c40uWZ10jmQ010t11Za3n1D0"]),
   ("Tang", ["m_BFlF0mll20V_t6WGUX3o3"]),
   ("Telu", ["ng21H1wKC121M1F281213711211232978rY411010N0"]),
   ("Tfng", ["YO01013P0imAt171E0"]),
   ("Tglg", ["Wu5L90L1"]),
   ("Thaa", ["im10E120W29s8n1Woz10A0"]),
   ("Thai", ["yL0Q0h10j10ls2v15R"]),
   ("Tibt", ["Wu3d21Z14c11Z11E1641jX83"]),
   ("Tirh", ["ng21H1lx40C0F0zvY19cYRd289"]),
   ("Todr", ["XO020209010g20XpW2p1"]),
   ("Toto", ["yL0p-t3U"]),
   ("Tutg", ["cd39YW4010xvY15x50kqQ910201b119102013191181"]),
   ("Yezi", ["im10E030W29sWY2f11221"]),
   ("Yiii", ["XWC15927_60auRia13s1wqM4"]),
   ("Zinh", ["lO0201E36202F111H1413ml11xg4j12BsMr11014iG1Y6Vmet1FGDlU0Yep1j12MWH2H726U3owhOl7"]),
   ("Zyyy", [
     "0W2Q5Qk11B1114N0V0XE2191030181015542J-306010zJ0t60aG0yg10rC3dX4B2W11U1911161A3A1EHX1-1b1",
     "12251Q1Gf124vKMAL_SW8pJ2f4WGM1N2913101PYD030D0D0L0nGNV0n1EC3X595_2V0Wk6_1eeMPc32mU0E1arK",
     "9MK2B1I13p401VQ5Q5_3616A4oCCp1i1Zmo1y73pD6MFG_2p3y1r7Ac12z13G817T4y1r6JCJCs2R6d4q21c2112",
     "021231B10161W21327161R131410361pA2Z92n1nZ5Z2i2y1YMh14Z3CE2E1E1a1Aj5u1P11Dh148N5w4uU3G3C3",
     "v66B40FB4t1896d18T2B41E8d1tA8D2C3A3u1104F2B497o41c3cWXO0U_2"])]

end UrlRouting.Unicode
