/-! The sets of characters that are the same once letter case is folded, for those with more than
one member. -/

namespace UrlRouting.Unicode

/-- For each set its size, its least member less that of the set before, and its further members
each less the one before; each number is written as in `UrlRouting.Unicode.RangeCode`. -/
def caseOrbitCode : List String :=
  ["2X2W121W121W121W121W121W121W121W121W121W131W1_b821W121W121W121W121W121W121W131W1i821W12",
   "1W121W121W121W121W121W13x2dNW12BW121W121W121W121W131W1cY821W121W121W121W121W121W121W121",
   "W121W121W121W121W121W121W121W121W121W122W121W121W121W121W121W121W121_j72W1v321122122122",
   "122122122122122122122122122122122122122122122122122122122122124122122123122122122122122",
   "122122123122122122122122122122122122122122122122122122122122122122122122122123122122123",
   "Z621o621122122k621122j621j621123l221g621h621122j621l621X321p621n621122Z521Xof121p621r62",
   "1Y421s621122122122w621122w623122w621122v621v621122122x621124123u13511331133112312212212",
   "212212212212212312212212212212212212212213311231241221221221221221221221221221221221221",
   "22122122122122122122124122122122122122122122122128hnA21123enA21_nA21_nA21123b221d221122",
   "122122122122_mA21ymA21-mA2Algf125hgf123dhf121eff121agf124agf121tlA21Xgf125zlA2CdlA25Zgf",
   "125gff12Mref121oef14d5q2W1bW72h1122124125Y421Y421Y422q327c122b121b121b122W222_121_121ZY",
   "721W131W1U21W121W131W1W221W121W141W1PZ132W1s121W122W121W121W131W1M31W1m132V121W121W131W",
   "1F21W121W131W1zg721W121W125pX72V829122122122122122122122122122122122124725123126m221m22",
   "1m221m221m221m221m221m221m221m221m221m221m221m221m221m221W121W131W1kY621W131W1jY621W121",
   "W121W121W121W121W121W121W121W131W1aY621W121W131W1YY641W1YY6121W121W121W121W121W121W121W",
   "131W1yX621W121W121W121W121W12n11321aX62212212212212212212212212212212212212212212212A12",
   "2122122122122122122122122122122122122122122122122122122122122122122122122122122F2112212",
   "212212212212212312212212212212212212212212212212212212212212212212212212212212212212212",
   "2122122122122122122122122122122122122122122122122122122122122122122122123m121m121m121m1",
   "21m121m121m121m121m121m121m121m121m121m121m121m121m121m121m121m121m121m121m121m121m121m",
   "121m121m121m121m121m121m121m121m121m121m121m121m12gw2WZ721WZ721WZ721WZ721WZ721WZ721WZ72",
   "1WZ721WZ721WZ721WZ721WZ721WZ721WZ721WZ721WZ721WZ721WZ721WZ721WZ721WZ721WZ721WZ721WZ721W",
   "Z721WZ721WZ721WZ721WZ721WZ721WZ721WZ721WZ721WZ721WZ721WZ721WZ721WZ722WZ726WZ723W-221W-2",
   "21W-221W-221W-221W-221W-221W-221W-221W-221W-221W-221W-221W-221W-221W-221W-221W-221W-221",
   "W-221W-221W-221W-221W-221W-221W-221W-221W-221W-221W-221W-221W-221W-221W-221W-221W-221W-",
   "221W-221W-221W-221W-221W-221W-223W-221W-221W-22XLm-b121m-b121m-b121m-b121m-b121m-b121m-",
   "b121m-b121m-b121m-b121m-b121m-b121m-b121m-b121m-b121m-b121m-b121m-b121m-b121m-b121m-b12",
   "1m-b121m-b121m-b121m-b121m-b121m-b121m-b121m-b121m-b121m-b121m-b121m-b121m-b121m-b121m-",
   "b121m-b121m-b121m-b121m-b121m-b121m-b121m-b121m-b121m-b121m-b121m-b121m-b121m-b121m-b12",
   "1m-b121m-b121m-b121m-b121m-b121m-b121m-b121m-b121m-b121m-b121m-b121m-b121m-b121m-b121m-",
   "b121m-b121m-b121m-b121m-b121m-b121m-b121m-b121m-b121m-b121m-b121m-b121m-b121m-b121m-b12",
   "1m-b12182182182182182183pa2YkY112112m7amY124ct32HunY12o31221221221221221221221221221221",
   "221221221221221221221221221221221221221221221221221221221221221221221221221221221221221",
   "221221221221221221221221321w12212212212212212212212212212212212212212212212212212212212",
   "212212212212212212212C12212212212212212212212212212212212212212212212212212212212212212",
   "212212212212212212212212212212212212212212212212212212212212212212212212212212282182182",
   "182182182182182982182182182182182B82182182182182182182182982182182182182182182182982182",
   "182182182182C822822822829821821821821821821821829g221g221s221s221s221s221a321a321W421W4",
   "21m321m321-321-323821821821821821821821829821821821821821821821829821821821821821821821",
   "82982182292G92D82182F82182472E92_9S2k1G21G21G21G21G21G21G21G21G21G21G21G21G21G21G21G2K1",
   "2pPQ21Q21Q21Q21Q21Q21Q21Q21Q21Q21Q21Q21Q21Q21Q21Q21Q21Q21Q21Q21Q21Q21Q21Q21Q21Q2nv1m121",
   "m121m121m121m121m121m121m121m121m121m121m121m121m121m121m121m121m121m121m121m121m121m12",
   "1m121m121m121m121m121m121m121m121m121m121m121m121m121m121m121m121m121m121m121m121m121m1",
   "21m121m121m12n112712212212712312B122122122122122122122122122122122122122122122122122122",
   "122122122122122122122122122122122122122122122122122122122122122122122122122122122122122",
   "12212212912212512kgU12212212212212412212212212212212212212212212212212212212212212212K1",
   "2212212212212212212212212212212212212212e4122122122122122122124122122122122122122122122",
   "12212212212212212212212212212212212212212212212212212212212212212212B122123122122122122",
   "125125122122m12212212212212212212212212212212BWT211221221221221221221221251221231221221",
   "2212212212212212R12muK12yW1W121W121W121W121W121W121W121W121W121W121W121W121W121W121W121",
   "W121W121W121W121W121W121W121W121W121W121W12cc1e121e121e121e121e121e121e121e121e121e121e",
   "121e121e121e121e121e121e121e121e121e121e121e121e121e121e121e121e121e121e121e121e121e121",
   "e121e121e121e121e121e121e121e12f4e121e121e121e121e121e121e121e121e121e121e121e121e121e1",
   "21e121e121e121e121e121e121e121e121e121e121e121e121e121e121e121e121e121e121e121e121e121e",
   "12z4d121d121d121d121d121d121d121d121d121d121d122d121d121d121d121d121d121d121d121d121d12",
   "1d121d121d121d121d122d121d121d121d121d121d121d122d121d12ht1W221W221W221W221W221W221W221",
   "W221W221W221W221W221W221W221W221W221W221W221W221W221W221W221W221W221W221W221W221W221W22",
   "1W221W221W221W221W221W221W221W221W221W221W221W221W221W221W221W221W221W221W221W221W221W2",
   "2-4W121W121W121W121W121W121W121W121W121W121W121W121W121W121W121W121W121W121W121W121W121",
   "W12xv2W121W121W121W121W121W121W121W121W121W121W121W121W121W121W121W121W121W121W121W121W",
   "121W121W121W121W121W121W121W121W121W121W121W12XiLW121W121W121W121W121W121W121W121W121W1",
   "21W121W121W121W121W121W121W121W121W121W121W121W121W121W121W121W121W121W121W121W121W121W",
   "12X2R21R21R21R21R21R21R21R21R21R21R21R21R21R21R21R21R21R21R21R21R21R21R21R21R2eoUY121Y1",
   "21Y121Y121Y121Y121Y121Y121Y121Y121Y121Y121Y121Y121Y121Y121Y121Y121Y121Y121Y121Y121Y121Y",
   "121Y121Y121Y121Y121Y121Y121Y121Y121Y121Y1"]

end UrlRouting.Unicode
