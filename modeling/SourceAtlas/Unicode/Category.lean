import SourceAtlas.Unicode.Spans

/-! The general category of characters. -/
namespace SourceAtlas.Unicode

set_option maxRecDepth 20000

def categories : Array String := #[
  "Cc", "Cf", "Cn", "Co", "Ll", "Lm", "Lo", "Lt", "Lu", "Mc", "Me", "Mn", "Nd", "Nl", "No", "Pc",
  "Pd", "Pe", "Pf", "Pi", "Po", "Ps", "Sc", "Sk", "Sm", "So", "Zl", "Zp", "Zs"]

/-- Where a run of characters of one category starts, times 256, plus the number of the
category. -/
def categoryRuns : Array Nat := Spans.ofRuns [
  (1,[0,8220,248,770,254,769,252,259,260,252,252,260,504,2568,516,764,500,6669,255,253,262,248,264,
  237,6673,259,249,263,232,8476,248,258,1027,251,259,258,237,269,261,233,280,254,258,255,246,521,
  237,272,515,247,248,268,252,774,244,5904,240,1788,6164,236,2052]),(27,[252,260]),(1,[252,516]),(7,
  [252,260]),(1,[252,516]),(23,[252,260]),(1,[508,260,252,260,252,772,508,260,252,260,508,260,764,
  516,1020,260,508,260,764,772,508,260,508,260,252,260,252,260,508,260,252,516,252,260,508,260,764,
  260,252,260,508,514,258,252,770,1026]),(3,[255,253,260]),(7,[252,260]),(1,[252,516]),(8,[252,
  260]),(1,[252,516,255,253,260,252,260,764]),(29,[260,252]),(1,[1796,508,260,508,516,252,260,
  1020]),(4,[260,252]),(1,[17666,510,6657,4626,1006,3090,3566,1298,1774,274,238,274,4340,28669,252,
  260,252,257,274,241,252,254,515,255,784,244,250,1045,497,268,244,762,262,250,262,508,260,4346,262,
  2300,8964,252,516,764,772]),(11,[252,260]),(1,[252,1284,252,276,240,252,260,508,516,13052,12292]),
  (16,[252,260]),(1,[252,277,242,1279,510]),(27,[252,260]),(1,[508]),(6,[260,252]),(1,[516]),(47,
  [252,260]),(1,[252,254,262,9722,515,271,1520,10512,252,242,535,509,236,265,11525,251,265,247,521,
  247,521,247,247,2052,6908,1028,1038,494,2815,1559,764,514,254,517,498,2825,237,275,754,8191,257,
  2565,5377,2568,1010,517,251,25358,242,261,1782,280,242,1530,518,526,242,1019,518,2554,787,493,270,
  3566,255,261,261,251,7685,6903,516,22789,2811,252,3594,2554,8453,2298,532,251,753,253,521,267,496,
  5637,1018,262,2298,262,762,262,1271,530,3822,260,6405,759,530,238,260,2812,1284,6161,239,1787,513,
  1289,2299,10495,262,6134,266,8190,253,13829,254,258,251,259,770,2046,1026,254,509,261,1787,2565,
  521,504,2568,241,257,3845,254,505,260,2044,516,508,516,5628,260,1788,260,252,772,1020,521,251,259,
  770,1015,519,505,519,514,251,252,2055,249,1028,508,260,773,503,522,2554,528,504,1547,253,240,270,
  247,247,521,510,249,260,1532,1028,508,516,5628,260,1788]),(3,[260,508]),(1,[521,247,263,770,503,
  1033,503,521,759,777,247,1796,1020,260,252,1802,2559,507,773,265,238,2569,510,249,260,2300,260,
  764,260,5628,260,1788,260,508,260,1276,521,251,259,770,1271,265,510,249,263,514,247,516,252,3844,
  517,503,522,2568,258,236,1796,261,1527,265,254,505,260,2044,516,508,516,5628,260,1788,260,508,260,
  1276,521,251,259,258,254,258,1015,519,505,519,514,247,1801,510,249,1028,508,260,773,503,522,2573,
  237,264,1524,2569,251,252,260,1532,772,764,260,1020,772,508,260,252,260,508,772,508,772,764,772,
  3068,1031,514,254,505,775,761,263,770,247,516,252,1543,249,3594,2562,779,1533,259,233,1289,254,
  770,251,2044,260,764,260,5884,260,4092,521,251,261,766,1017,265,759,265,1015,1801,503,260,764,260,
  508,516,517,503,522,2550,1810,250,1803,237,261,254,523,242,2044,260,764,260,5884,260,2556,260,
  1276,521,251,259,258,254,1273,265,254,505,263,514,503,1799,505,1284,764,260,517,503,522,2550,260,
  515,249,3081,510,509,2300,260,764,260,10501,507,259,770,1015,263,761,263,770,251,275,233,1028,771,
  261,1784,773,503,522,2562,2315,237,1532,265,254,505,260,4604,772,6140,260,2300,260,252,516,1788,
  777,247,1031,770,759,265,247,263,2041,1546,2550,519,523,238,3076,12293,251,517,1783,1044,240,1535,
  262,2057,248,2568,494,9476,508,260,252,260,1276,260,6140,260,252,260,2565,251,517,2299,252,516,
  1276,259,253,265,1783,266,2550,516,1020,8196,275,763,3845,251,261,754,526,1523,2562,2571,242,270,
  242,270,242,266,252,260,252,248,509,2044,260,9212,1033,3582,258,1289,247,507,1285,2807,265,9207,
  279,2034,270,1513,279,507,1285,1019,494,9476,11011,514,1022,258,1534,258,510,514,507,262,2568,
  1522,1539,514,507,1029,763,259,765,515,1789,773,1019,3333,254,514,510,1538,251,259,259,2557,770,
  270,495,9722,262,250,1286,250,514,11024,241,255,770,84220,260,1020,516,1788,260,252,260,1020,516,
  10492,260,1020,516,8444,260,1020,516,1788,260,252,260,1020,516,3836,260,14588,260,1020,516,17148,
  521,777,2298,5108,772,4115,2537,1542,22010,514,1534,526,246,158739,251,242,4374,234,6671,252,241,
  772,19214,761,761,2044,1796,4613,766,249,2308,4869,510,267,494,2308,4613,503,3076,3324,260,764,
  265,503,3076,13317,510,258,1790,2050,254,514,2825,753,271,770,240,261,247,522,2550,1548,2548,1554,
  1532,260,1015,758,266,257,2550,1540,8959,257,13564,1796,1285,507,8709,251,252,1284,17916,2564,
  7932,265,766,1026,510,761,1031,514,254,1538,759,1047,233,786,504,2554,7676,516,1276,2820,11260,
  1028,6652,1546,2562,244,791,8685,5893,510,514,247,530,498,13571,258,254,258,1783,265,254,258,254,
  514,2046,1538,2551,521,257,2550,1546,2550,1554,1777,271,1518,521,3583,257,7927,521,3063,5129,1022,
  253,12037,254,258,1278,258,254,1282,254,509,2044,274,504,2568,1797,2546,2318,2299,759,510,253,
  7683,258,1022,514,510,258,763,518,2554,11269,254,258,510,770,254,258,766,505,2066,1010,9219,2050,
  2046,514,503,786,1272,2550,772,774,2554,7679,1551,496,2308,252,254,1286,11002,518,780,2030,2057,
  777,247,3326,258,1787,1029,251,1541,251,515,258,507,252,1282,11265,16127,3329,255,8705,9478,
  16381]),(74,[252,260]),(1,[252,2308]),(48,[252,260]),(1,[252,2308,2044,1534,518,1530,514,2052,
  2044,2052,2044,1534,518,1530,514,2046]),(3,[262,250]),(1,[262,252,2052,2044,3582,514]),(3,[2051,
  2045]),(1,[1278,258,516,1023,272,237,275,749,766,258,516,1023,272,749,1022,514,516,1018,277,749,
  2052,1295,747,514,766,258,516,1023,272,491,282,2789,1295,1540,511,255,259,254,511,259,254,257,
  2054,257,230,1307,248,2303,255,258,1019,517,772,253,252,259,2820,252,251,261,2568,229,1281,255,
  2573,247,253,524,1546,765,252,244,265,2570,765,252,241,259,3325,788,8684,3593,3327,1025,255,769,
  3063,3863,495,273,1007,273,491,260,764,516,764,277,239,273,511,240,1297,1519]),(3,[273,239]),(1,
  [1041,235,260,1020,258,1022,277,491,516,528,1264,252,1045,255,257,491,277,245,4095,8955,252,265,
  1025,267,489,1046,1281,1279,513,1023,257,511,257,511,257,1791,257,7935,513,511,257,255,257,7935,
  68609,2044,252,260,252,264,5119,513,1788,252,264,20735,257,7679,6401,10239,1537,18409,5655,2793,
  5388,15371,19957,5643,46847,257,2303,257,13823,2049,28415,257,63484]),(6,[252,260]),(1,[252,253,
  7691,11263,1277,252,263,7933]),(4,[252,260]),(1,[252,263,4097,65535,33533]),(10,[252,260]),(1,
  [252,263,16125,252,260,252,263,8189,252,263,66049,12287,5377,511,1537,9961,535,35311,12284,12292,
  252,260,764,516]),(3,[252,260]),(1,[1020,260,252,516,252,1537,515,764]),(49,[260,252]),(1,[533,
  1519,252,260,252,263,765,252,254,1298,1018,262,496,9726,258,254,1282,254,516,14332,1795,271,238,
  3593,251,5884,2308]),(7,[1788,260]),(1,[1788,265,8201,511,255,257,255,258,767,255,258,255,255,258,
  2300,260,508,260,255,255,258,511,255,259]),(3,[252,260]),(1,[252,259,1265,271,2556,516,1020,260,
  257,255,3333,507,769]),(3,[252,260]),(1,[252,255,242,8727,6633,279,22761,3095,54761,6679,4099,248,
  773,236,257,263,264]),(4,[252,260]),(1,[252,264,508]),(3,[252,260]),(1,[252,255,261,252,520,244,
  2302,1022,519,245,1300,500,760,257,270,261,489,260,22012,521,524,494,513,266,246,23054,241,769,
  252,1284,11004,260,24060,279,501,1035,2541,8211,9705,2327,237,4115,7913,268,2571,7669,2059,245,
  3851,8181,2571,9973,3851,81901,1687571,16365,5379327,257,292604,791,14057,2308,10239,1551,498,
  68607,271,754,4102,2554,508,5126]),(22,[252,260]),(1,[252,258,261,255,778,247,2569,241,259]),(13,
  [252,260]),(1,[252,257,518,507,17927,2558,521,1518,2069,5870,2322,497]),(6,[252,260]),(1,[252,
  772]),(30,[252,260]),(1,[252,257,255,2052,252,260,252,260,508]),(4,[260,252]),(1,[257,274,497,252,
  260,252,258,258,252,260,252,772]),(10,[252,260]),(2,[1276,260]),(7,[252,260]),(1,[1020,260,252,
  260,508]),(7,[260,252]),(1,[260,250,5123,1027,252,258,255,511,258,1797,251,773,251,1029,251,5891,
  514,510,272,1010,247,780,1547,509,259,233,1540,13326,1006,2055,509,12803,4098,503,2066,504,2550,
  1545,4603,1550,754,270,242,517,257,2554,7173,2057,498,5893,2814,505,2834,242,7420,777,766,253,
  12037,254,514,1022,514,510,779,3310,259,263,2550,1042,498,1285,250,257,2310,2554,1276,260,10501,
  1534,514,510,514,503,2308,773,251,2053,254,249,522,2550,530,1010,4095,257,1555,749,259,258,254,
  253,12805,251,261,763,517,507,1285,507,261,251,252,6148,511,271,498,2819,258,510,523,498,255,516,
  258,247,2564,1532,516,1532,516,1532,2308,1788,260,1788,258,11027,238,1023,2305,274,491,1026,20482,
  8963,514,254,514,254,523,245,258,247,522,2550,1540,2860028,3076,5884,1028,12540,525313,1638403,
  93692,516,27132,9730,1790,3074,1278,1284,261,251,2578,238,3324,260,1276,260,252,260,508,260,508,
  260,27665,4354,4077,92939,260,260,4077,16403,493,13843,2025,8196,3088,259,754,4105,1793,252,259,
  238,1545,4105,252,511,518]),(7,[252,260]),(1,[252,259,513,252,259,1019,773,750,274,1020,261,252,
  260,252,260,252,259,772,248,264,746,274,258,254,494,1028,1276,260,34556,511,257,274,770,254,769,
  252,259,260,252,252,260,504,2568,516,764,500,6669,255,253,262,248,264,237,6673,259,249,263,253,
  252,259,257,252,259,498,2559,257,11519,513,7932,772]),(3,[1532,516]),(1,[764,788,514,255,258,253,
  492,279,255,1025,489,2559,792,489,516,3068,260,6652,260,4860,260,508,260,3836,516,3580,8708,31484,
  1298,750,1036,11508,791,2292,13569,1035,4341,523,745,279,3305,791,233,12055,11506,247,33284,7420,
  772,12540,3849,259,6900,1028,8200,1012,2308,5127,249,2055,245,1284,9733,1271,1284,7676,274,242,
  9212,1028,2062,249,1269,10758,10236,10242,19964,522,2550,1542,9210,1026,9214,1028,10236,2052,
  13308,2834,244,2810,262,3834,262,1786,262,506,258,2814,258,3838,258,1790,258,510,772,13308,3076,
  79612,2308,5628,2564,2044,6147,1533,259,10749,259,2301,17668,1532,516,252,260,11260,260,508,772,
  252,516,5884,274,250,2040,5907,501,1784,7932,2060,2292,12292,4860,260,508,1292,1272,5640,1524,786,
  242,6652,1298,242,6652,9732,14332,1036,504,520,4084,524,11768,261,759,265,503,1289,1019,1020,260,
  764,260,7420,521,759,1033,259,2292,1810,2286,1796,7432,518,242,7432,756,8196,2067,237,7173,503,
  1036,1286,1774,2308,13820,786,1778,5628,524,2040,4860,1292,2040,4604,1810,1006,3084,1780,20484,
  18684,14086,13050,3330,13054,1804,1528,9221,1015,2058,2550,1546,2554,1023,257,258,5626,777,1285,
  245,255,5630,2070,490,53260,7924,260,10748,265,517,242,516,508,4100,767,257,508,2066,261,2025,
  8457,1531,7432,2552,252,2052,5637,2819,1030,1262,5636,4613,1033,1006,9732,5384,1780,5124,5884,
  2311,258,254,253,13573,3849,1774,1036,5118,2559,251,517,507,252,2313,766,253,11523,770,1022,514,
  521,493,275,1015,247,2559,257,516,6396,1802,2550,1545,763,9221,1278,258,2039,266,2568,1010,259,
  509,252,2052,8965,265,498,252,2313,510,253,12291,770,2302,509,1038,1015,1033,245,258,257,2554,270,
  242,270,750,268,5108,2820,4604,260,6403,770,766,514,254,258,521,1527,251,517,247,15876,1788,260,
  252,260,1020,260,3836,260,2574,238,1540,12037,254,770,2039,1290,2550,1545,510,505,260,2044,516,
  508,516,5628,260,1788,260,508,260,1276,265,507,259,514,254,1017,519,505,519,761,516,252,1543,249,
  1284,1283,505,521,1783,777,1271,2820,2556,260,252,516,252,260,9724,260,259,770,1527,263,249,519,
  249,263,1017,263,514,254,258,251,261,251,270,494,274,494,2057,503,7428,13571,770,2046,514,766,258,
  251,1038,1272,2568,494,274,247,251,764,7684,12291,770,1534,258,254,1026,510,258,507,526,242,252,
  2058,2550,42500,12035,770,1015,519,1026,510,258,521,5874,1029,503,8708,12291,770,2046,514,254,258,
  521,754,252,2826,2550,1554,3310,4868,11013,254,258,254,514,1534,258,251,270,238,1546,2550,1546,
  5110,7172,6908,521,254,258,254,514,1022,258,1271,1034,2562,518,773,237,1788,47364,11267,770,2302,
  258,521,238,25606,8188,8200,2562,2292,3076,2044,516,252,516,2044,260,508,260,6147,1529,263,505,
  521,510,258,251,259,253,259,258,265,750,2314,2550,17924,2044,516,9987,770,1015,521,510,1026,251,
  270,242,259,249,6916,261,2555,10245,1534,253,261,1033,2039,247,2052,261,1534,514,763,11781,3326,
  258,521,754,270,1262,3332,18684,1810,2542,22025,254,258,766,258,254,249,22532,8462,238,3594,2550,
  1540,2300,260,9475,258,1783,265,1534,258,251,270,1262,2570,2562,4852,786,498,7676,521,5623,263,
  258,1790,258,510,258,503,18692,1788,260,508,260,9733,1527,777,247,265,503,265,1787,261,247,2058,
  2550,1540,1532,260,508,260,8195,1273,265,503,263,514,254,258,251,252,1802,2550,1540,10495,257,508,
  1034,2550,62980,4869,510,523,494,1801,507,259,253,3324,260,8707,514,1271,775,514,254,258,265,3320,
  2559,247,21764,252,3852,5387,2045,1027,4329,3346,242,236028,26123,28405,274,1262,2820,50172,
  674820,24846,494,3332,274427,4106,251,1541,3831,2564,1022716,1284,149244,1751300,7685,3070,770,
  769,2550,443908,145660,1796,7932,266,2550,1042,498,20220,266,2550,1540,7676,521,1289,238,2564,
  12293,1801,1285,1004,1039,261,233,2570,2550,268,1780,260,5372,1284,4860,110595,769,10239,527,760,
  2550,50694,8188,8202,5894,1006,1286,6394,514,6398,11268,19196,1033,251,259,14073,1801,1018,3325,
  16387,527,241,262,247,2823,508,520,757,2308,1889788,10500,8188,24836,29436,2227459,1021,259,1789,
  259,509,260,74492,3844,252,7428,764,516,252,3588,1020,2052,101372,590852,27388,1284,3324,772,2300,
  1796,2556,535,242,521,237,1025,1006615,61427,2573,745,791,111593,1559,5865,3863,4095,234,3849,
  11767,521,5879,2327,29673,15383,62953,2583,9961,535,15344,514,782,752,1528,2058,2062,498,1806,
  7666,1038,15593,5399,16882,782,233,31244,5108,3084,5108,3095,22249,2316,6388,34566,6652,6660,6652,
  1790,258,4612,6652,6660,250,262,506,518,250,518,506,518,1018,262,2044,1022,258,254,258,1790,258,
  2820,6652,6660,506,262,1018,518,2042,262,1786,258,6660,506,262,1018,262,1274,262,250,774,1786,
  258]),(6,[6660,6652]),(1,[7166,518,6416,236,6420,236,1540,6416,236,6420,236,1540,6416,236,6420,
  236,1540,6416,236,6420,236,1540,6416,236,6420,236,1540,252,254,522,12813,131058,14094,1010,12814,
  2034,270,3570,270,507,1262,3849,1271,265,3831,282626,2562,254,5118,1538,1534,54537,1783,265,4343,
  521,1783,265,503,265,1271,1283,15869,8457,247,28676,11516,777,1786,1789,522,2550,1028,275,233,
  81924,7685,247,4356,11269,1025,2550,1300,236,118788,6911,262,1025,2550,54788,7685,507,262,2550,
  1042,238,49156,7932,260,773,251,517,251,1797,507,1285,247,2052,255,253,57348,1788,260,1020,260,
  508,260,3836,260,50428,524,2301,1783,10502,8700,8711,1786,253,1034,2550,1042,494,200972,15115,245,
  776,248,1012,19468,11531,245,3828,49668,1020,260,6908,260,508,260,252,516,252,260,2556,260,1020,
  260,252,260,252,1540,252,1028]),(3,[252,260]),(1,[764,260,508,260,252,516]),(5,[252,260]),(1,[508,
  260,252,516,1020,260,1788,260,1020,260,1020,260,252,260,2556,260,4348,1284,764,260,1276,260,4348,
  13334,490,69143,11241,1047,25577,3095,3817,535,3817,279,3817,279,9449,2572,3339,41193,14359,7401,
  3351,11241,1047,2281,1815,489,3607,1513,39447,64254,1282,186601,791,4329,791,3305,791,55785,1559,
  3049,1047,233,3863,3049,1047,14313,2071,2537,1559,10217,2071,7657,535,3049,1047,489,3606,2282,
  10007,88041,2071,3561,535,3305,791,2793,791,14569,279,233,1047,4073,535,3049,1047,2537,1815,37609,
  279,23539,2573,233,263428,10936316,8196,1121788,516,1478140,516,1913084,3844,159228,631300,138748,
  385540,1264380,1284,2173436,181110527,257,7679,24577,32777,61431,16650241,16776703,513,16776703])]

def category (c : Char) : String :=
  categories.getD (Spans.valueAt categoryRuns c) ""

def categoryNames : List (String × List String) := [
  ("c", ["Cc", "Cf", "Cn", "Co"]), ("other", ["Cc", "Cf", "Cn", "Co"]), ("cc", ["Cc"]),
  ("control", ["Cc"]), ("cntrl", ["Cc"]), ("cf", ["Cf"]), ("format", ["Cf"]), ("cn", ["Cn"]),
  ("unassigned", ["Cn"]), ("co", ["Co"]), ("privateuse", ["Co"]), ("cs", []), ("surrogate", []),
  ("l", ["Ll", "Lm", "Lo", "Lt", "Lu"]), ("letter", ["Ll", "Lm", "Lo", "Lt", "Lu"]),
  ("lc", ["Lu", "Ll", "Lt"]), ("casedletter", ["Lu", "Ll", "Lt"]), ("ll", ["Ll"]),
  ("lowercaseletter", ["Ll"]), ("lm", ["Lm"]), ("modifierletter", ["Lm"]), ("lo", ["Lo"]),
  ("otherletter", ["Lo"]), ("lt", ["Lt"]), ("titlecaseletter", ["Lt"]), ("lu", ["Lu"]),
  ("uppercaseletter", ["Lu"]), ("m", ["Mc", "Me", "Mn"]), ("mark", ["Mc", "Me", "Mn"]),
  ("combiningmark", ["Mc", "Me", "Mn"]), ("mc", ["Mc"]), ("spacingmark", ["Mc"]), ("me", ["Me"]),
  ("enclosingmark", ["Me"]), ("mn", ["Mn"]), ("nonspacingmark", ["Mn"]),
  ("n", ["Nd", "Nl", "No"]), ("number", ["Nd", "Nl", "No"]), ("nd", ["Nd"]),
  ("decimalnumber", ["Nd"]), ("digit", ["Nd"]), ("nl", ["Nl"]), ("letternumber", ["Nl"]),
  ("no", ["No"]), ("othernumber", ["No"]), ("p", ["Pc", "Pd", "Pe", "Pf", "Pi", "Po", "Ps"]),
  ("punctuation", ["Pc", "Pd", "Pe", "Pf", "Pi", "Po", "Ps"]),
  ("punct", ["Pc", "Pd", "Pe", "Pf", "Pi", "Po", "Ps"]), ("pc", ["Pc"]),
  ("connectorpunctuation", ["Pc"]), ("pd", ["Pd"]), ("dashpunctuation", ["Pd"]), ("pe", ["Pe"]),
  ("closepunctuation", ["Pe"]), ("pf", ["Pf"]), ("finalpunctuation", ["Pf"]), ("pi", ["Pi"]),
  ("initialpunctuation", ["Pi"]), ("po", ["Po"]), ("otherpunctuation", ["Po"]), ("ps", ["Ps"]),
  ("openpunctuation", ["Ps"]), ("s", ["Sc", "Sk", "Sm", "So"]),
  ("symbol", ["Sc", "Sk", "Sm", "So"]), ("sc", ["Sc"]), ("currencysymbol", ["Sc"]),
  ("sk", ["Sk"]), ("modifiersymbol", ["Sk"]), ("sm", ["Sm"]), ("mathsymbol", ["Sm"]),
  ("so", ["So"]), ("othersymbol", ["So"]), ("z", ["Zl", "Zp", "Zs"]),
  ("separator", ["Zl", "Zp", "Zs"]), ("zl", ["Zl"]), ("lineseparator", ["Zl"]), ("zp", ["Zp"]),
  ("paragraphseparator", ["Zp"]), ("zs", ["Zs"]), ("spaceseparator", ["Zs"])]

end SourceAtlas.Unicode
