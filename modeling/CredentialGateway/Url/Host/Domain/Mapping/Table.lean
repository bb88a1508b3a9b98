/-
Which characters a domain name writes in another way or not at all, as data.

The images are those of the IDNA mapping table (UTS #46), less those that lower case
and normal form bring about by themselves.
-/
import CredentialGateway.Text.Span
import CredentialGateway.Text.Runs

namespace CredentialGateway.Url.Domain.Mapping

/-- The spans of the mapped characters; an ignored one has an empty image. -/
def imageLines : List String :=
  ["160 1 32,7 1 32 776,1 1 97,2 1,1 1 32 772,2 2 50,0 1 32 769,0 1 956,2 1 32 807,0 1 49",
   "0 1 111,1 1 49 8260 52,0 1 49 8260 50,0 1 51 8260 52,115 1 105 106,0 1 105 106",
   "11 1 108 183,0 1 108 183,8 1 700 110,53 1 115,68 1 100 382,0 1 100 382,0 1 100 382",
   "0 1 108 106,0 1 108 106,0 1 108 106,0 1 110 106,0 1 110 106,0 1 110 106,36 1 100 122",
   "0 1 100 122,0 1 100 122,188 1 104,0 1 614,0 1 106,0 1 114,0 1 633,0 1 635,0 1 641,0 1 119",
   "0 1 121,31 1 32 774,0 1 32 775,0 1 32 778,0 1 32 808,0 1 32 771,0 1 32 779,2 1 611,0 1 108",
   "0 1 115,0 1 120,0 1 661,96 1 953,9 1,42 1 32 953,9 1 32 769,0 1 32 776 769,74 1 946",
   "0 1 952,0 1 965,0 1 973,0 1 971,0 1 966,0 1 960,25 1 954,0 1 961,0 1 963,2 1 949,3 1 963",
   "397 1 1381 1410,237 1 1575 1652,0 1 1608 1652,0 1 1735 1652,0 1 1610 1652,1978 1 3661 3634",
   "127 1 3789 3762,40 1 3755 3737,0 1 3755 3745,46 1 3851,106 1 4018 3953 3968",
   "1 1 4019 3953 3968,386 1 4316,98 2,575 86 5024,2 6 5104,950 2,85 5,1136 1 1074,0 1 1076",
   "0 1 1086,0 2 1089,0 1 1090,0 1 1098,0 1 1123,0 1 42571,163 1 97,0 1 230,0 1 98,1 2 100",
   "0 1 477,0 8 103,1 1 111,0 1 547,0 1 112,0 1 114,0 2 116,0 1 119,0 1 97,0 2 592,0 1 7426",
   "0 1 98,0 2 100,0 1 601,0 2 603,0 1 103,1 1 107,0 1 109,0 1 331,0 1 111,0 1 596,0 2 7446",
   "0 1 112,0 2 116,0 1 7453,0 1 623,0 1 118,0 1 7461,0 3 946,0 2 966,0 1 105,0 1 114,0 2 117",
   "0 2 946,0 1 961,0 2 966,13 1 1085,34 1 594,0 1 99,0 1 597,0 1 240,0 1 604,0 1 102,0 1 607",
   "0 1 609,0 1 613,0 3 616,0 1 7547,0 1 669,0 1 621,0 1 7557,0 1 671,0 1 625,0 1 624,0 4 626",
   "0 1 632,0 2 642,0 1 427,0 2 649,0 1 7452,0 2 651,0 1 122,0 3 656,0 1 952,218 1 97 702",
   "0 1 7777,228 8 7936 953,0 8 7936 953,0 8 7968 953,0 8 7968 953,0 8 8032 953,0 8 8032 953",
   "2 1 8048 953,0 1 945 953,0 1 940 953,2 1 8118 953,4 1 945 953,0 1 32 787,1 1 32 787",
   "0 1 32 834,0 1 32 776 834,0 1 8052 953,0 1 951 953,0 1 942 953,2 1 8134 953,4 1 951 953",
   "0 1 32 787 768,0 1 32 787 769,0 1 32 787 834,13 1 32 788 768,0 1 32 788 769,0 1 32 788 834",
   "13 1 32 776 768,0 1 32 776 769,3 1 8060 953,0 1 969 953,0 1 974 953,2 1 8182 953",
   "4 1 969 953,0 1 32 769,0 1 32 788,1 1 32,0 1 32,0 1 32,0 1 32,0 1 32,0 1 32,0 1 32,0 1 32",
   "0 1 32,0 1 32,0 1 32,0 1,5 1 8208,5 1 32 819,23 1 32,3 1 8242 8242,0 1 8242 8242 8242",
   "1 1 8245 8245,0 1 8245 8245 8245,4 1 33 33,1 1 32 773,8 1 63 63,0 1 63 33,0 1 33 63",
   "13 1 8242 8242 8242 8242,7 1 32,0 5,5 6,0 1 48,0 1 105,2 6 52,0 1 43,0 1 8722,0 1 61",
   "0 2 40,0 1 110,0 10 48,0 1 43,0 1 8722,0 1 61,0 2 40,1 1 97,0 1 101,0 1 111,0 1 120",
   "0 1 601,0 1 104,0 4 107,0 1 112,0 2 115,11 1 114 115,87 1 97 47 99,0 1 97 47 115,0 1 99",
   "0 1 176 99,1 1 99 47 111,0 1 99 47 117,0 1 603,1 1 176 102,0 2 103,0 1 104,0 1 104,0 1 104",
   "0 1 295,0 1 105,0 1 105,0 1 108,0 1 108,1 1 110,0 1 110 111,2 3 112,0 1 114,0 1 114",
   "2 1 115 109,0 1 116 101 108,0 1 116 109,1 1 122,3 1 122,3 2 98,1 1 101,0 2 101,1 1 109",
   "0 1 111,0 4 1488,0 1 105,1 1 102 97 120,0 1 960,0 1 947,0 1 947,0 1 960,0 1 8721,4 1 100",
   "0 2 100,0 2 105,6 1 49 8260 55,0 1 49 8260 57,0 1 49 8260 49 48,0 2 49 8260 51",
   "0 4 49 8260 53,0 1 49 8260 54,0 1 53 8260 54,0 1 49 8260 56,0 1 51 8260 56,0 1 53 8260 56",
   "0 1 55 8260 56,0 1 49 8260,0 1 105,0 1 105 105,0 1 105 105 105,0 1 105 118,0 1 118",
   "0 1 118 105,0 1 118 105 105,0 1 118 105 105 105,0 1 105 120,0 1 120,0 1 120 105",
   "0 1 120 105 105,0 1 108,0 2 99,0 1 109,0 1 105,0 1 105 105,0 1 105 105 105,0 1 105 118",
   "0 1 118,0 1 118 105,0 1 118 105 105,0 1 118 105 105 105,0 1 105 120,0 1 120,0 1 120 105",
   "0 1 120 105 105,0 1 108,0 2 99,0 1 109,9 1 48 8260 51,162 1 8747 8747,0 1 8747 8747 8747",
   "1 1 8750 8750,0 1 8750 8750 8750,559 9 49,0 1 49 48,0 1 49 49,0 1 49 50,0 1 49 51",
   "0 1 49 52,0 1 49 53,0 1 49 54,0 1 49 55,0 1 49 56,0 1 49 57,0 1 50 48,0 1 40 49 41",
   "0 1 40 50 41,0 1 40 51 41,0 1 40 52 41,0 1 40 53 41,0 1 40 54 41,0 1 40 55 41,0 1 40 56 41",
   "0 1 40 57 41,0 1 40 49 48 41,0 1 40 49 49 41,0 1 40 49 50 41,0 1 40 49 51 41",
   "0 1 40 49 52 41,0 1 40 49 53 41,0 1 40 49 54 41,0 1 40 49 55 41,0 1 40 49 56 41",
   "0 1 40 49 57 41,0 1 40 50 48 41,20 1 40 97 41,0 1 40 98 41,0 1 40 99 41,0 1 40 100 41",
   "0 1 40 101 41,0 1 40 102 41,0 1 40 103 41,0 1 40 104 41,0 1 40 105 41,0 1 40 106 41",
   "0 1 40 107 41,0 1 40 108 41,0 1 40 109 41,0 1 40 110 41,0 1 40 111 41,0 1 40 112 41",
   "0 1 40 113 41,0 1 40 114 41,0 1 40 115 41,0 1 40 116 41,0 1 40 117 41,0 1 40 118 41",
   "0 1 40 119 41,0 1 40 120 41,0 1 40 121 41,0 1 40 122 41,0 26 97,0 26 97,0 1 48",
   "1313 1 8747 8747 8747 8747,103 1 58 58 61,0 1 61 61,0 1 61 61 61,517 1 106,0 1 118",
   "241 1 11617,303 1 27597,83 1 40863,12 1 19968,0 1 20008,0 1 20022,0 1 20031,0 1 20057",
   "0 1 20101,0 1 20108,0 1 20128,0 1 20154,0 1 20799,0 1 20837,0 1 20843,0 1 20866,0 1 20886",
   "0 1 20907,0 1 20960,0 1 20981,0 1 20992,0 1 21147,0 1 21241,0 1 21269,0 1 21274,0 1 21304",
   "0 1 21313,0 1 21340,0 1 21353,0 1 21378,0 1 21430,0 1 21448,0 1 21475,0 1 22231,0 1 22303",
   "0 1 22763,0 1 22786,0 1 22794,0 1 22805,0 1 22823,0 1 22899,0 1 23376,0 1 23424,0 1 23544",
   "0 1 23567,0 1 23586,0 1 23608,0 1 23662,0 1 23665,0 1 24027,0 1 24037,0 1 24049,0 1 24062",
   "0 1 24178,0 1 24186,0 1 24191,0 1 24308,0 1 24318,0 1 24331,0 1 24339,0 1 24400,0 1 24417",
   "0 1 24435,0 1 24515,0 1 25096,0 1 25142,0 1 25163,0 1 25903,0 1 25908,0 1 25991,0 1 26007",
   "0 1 26020,0 1 26041,0 1 26080,0 1 26085,0 1 26352,0 1 26376,0 1 26408,0 1 27424,0 1 27490",
   "0 1 27513,0 1 27571,0 1 27595,0 1 27604,0 1 27611,0 1 27663,0 1 27668,0 1 27700,0 1 28779",
   "0 1 29226,0 1 29238,0 1 29243,0 1 29247,0 1 29255,0 1 29273,0 1 29275,0 1 29356,0 1 29572",
   "0 1 29577,0 1 29916,0 1 29926,0 1 29976,0 1 29983,0 1 29992,0 1 30000,0 1 30091,0 1 30098",
   "0 1 30326,0 1 30333,0 1 30382,0 1 30399,0 1 30446,0 1 30683,0 1 30690,0 1 30707,0 1 31034",
   "0 1 31160,0 1 31166,0 1 31348,0 1 31435,0 1 31481,0 1 31859,0 1 31992,0 1 32566,0 1 32593",
   "0 1 32650,0 1 32701,0 1 32769,0 1 32780,0 1 32786,0 1 32819,0 1 32895,0 1 32905,0 1 33251",
   "0 1 33258,0 1 33267,0 1 33276,0 1 33292,0 1 33307,0 1 33311,0 1 33390,0 1 33394,0 1 33400",
   "0 1 34381,0 1 34411,0 1 34880,0 1 34892,0 1 34915,0 1 35198,0 1 35211,0 1 35282,0 1 35328",
   "0 1 35895,0 1 35910,0 1 35925,0 1 35960,0 1 35997,0 1 36196,0 1 36208,0 1 36275,0 1 36523",
   "0 1 36554,0 1 36763,0 1 36784,0 1 36789,0 1 37009,0 1 37193,0 1 37318,0 1 37324,0 1 37329",
   "0 1 38263,0 1 38272,0 1 38428,0 1 38582,0 1 38585,0 1 38632,0 1 38737,0 1 38750,0 1 38754",
   "0 1 38761,0 1 38859,0 1 38893,0 1 38899,0 1 38913,0 1 39080,0 1 39131,0 1 39135,0 1 39318",
   "0 1 39321,0 1 39340,0 1 39592,0 1 39640,0 1 39647,0 1 39717,0 1 39727,0 1 39730,0 1 39740",
   "0 1 39770,0 1 40165,0 1 40565,0 1 40575,0 1 40613,0 1 40635,0 1 40643,0 1 40653,0 1 40657",
   "0 1 40697,0 1 40701,0 1 40718,0 1 40723,0 1 40736,0 1 40763,0 1 40778,0 1 40786,0 1 40845",
   "0 1 40860,0 1 40864,42 1 32,1 1 46,51 1 12306,1 1 21313,0 2 21316,96 1 32 12441",
   "0 1 32 12442,2 1 12424 12426,95 1 12467 12488,49 2 4352,0 1 4522,0 1 4354,0 2 4524",
   "0 3 4355,0 6 4528,0 1 4378,0 3 4358,0 1 4385,0 10 4361,0 21 4449,0 1,0 2 4372,0 2 4551",
   "0 1 4556,0 1 4558,0 1 4563,0 1 4567,0 1 4569,0 1 4380,0 1 4573,0 1 4575,0 2 4381,0 1 4384",
   "0 2 4386,0 1 4391,0 1 4393,0 5 4395,0 1 4402,0 1 4406,0 1 4416,0 1 4423,0 1 4428,0 2 4593",
   "0 3 4439,0 2 4484,0 1 4488,0 2 4497,0 1 4500,0 1 4510,0 1 4513,3 1 19968,0 1 20108",
   "0 1 19977,0 1 22235,0 1 19978,0 1 20013,0 1 19979,0 1 30002,0 1 20057,0 1 19993,0 1 19969",
   "0 1 22825,0 1 22320,0 1 20154,96 1 40 4352 41,0 1 40 4354 41,0 1 40 4355 41,0 1 40 4357 41",
   "0 1 40 4358 41,0 1 40 4359 41,0 1 40 4361 41,0 1 40 4363 41,0 1 40 4364 41,0 1 40 4366 41",
   "0 1 40 4367 41,0 1 40 4368 41,0 1 40 4369 41,0 1 40 4370 41,0 1 40 44032 41",
   "0 1 40 45208 41,0 1 40 45796 41,0 1 40 46972 41,0 1 40 47560 41,0 1 40 48148 41",
   "0 1 40 49324 41,0 1 40 50500 41,0 1 40 51088 41,0 1 40 52264 41,0 1 40 52852 41",
   "0 1 40 53440 41,0 1 40 54028 41,0 1 40 54616 41,0 1 40 51452 41,0 1 40 50724 51204 41",
   "0 1 40 50724 54980 41,1 1 40 19968 41,0 1 40 20108 41,0 1 40 19977 41,0 1 40 22235 41",
   "0 1 40 20116 41,0 1 40 20845 41,0 1 40 19971 41,0 1 40 20843 41,0 1 40 20061 41",
   "0 1 40 21313 41,0 1 40 26376 41,0 1 40 28779 41,0 1 40 27700 41,0 1 40 26408 41",
   "0 1 40 37329 41,0 1 40 22303 41,0 1 40 26085 41,0 1 40 26666 41,0 1 40 26377 41",
   "0 1 40 31038 41,0 1 40 21517 41,0 1 40 29305 41,0 1 40 36001 41,0 1 40 31069 41",
   "0 1 40 21172 41,0 1 40 20195 41,0 1 40 21628 41,0 1 40 23398 41,0 1 40 30435 41",
   "0 1 40 20225 41,0 1 40 36039 41,0 1 40 21332 41,0 1 40 31085 41,0 1 40 20241 41",
   "0 1 40 33258 41,0 1 40 33267 41,0 1 21839,0 1 24188,0 1 25991,0 1 31631,8 1 112 116 101",
   "0 1 50 49,0 1 50 50,0 1 50 51,0 1 50 52,0 1 50 53,0 1 50 54,0 1 50 55,0 1 50 56,0 1 50 57",
   "0 1 51 48,0 1 51 49,0 1 51 50,0 1 51 51,0 1 51 52,0 1 51 53,0 1 4352,0 2 4354,0 3 4357",
   "0 1 4361,0 2 4363,0 5 4366,0 1 44032,0 1 45208,0 1 45796,0 1 46972,0 1 47560,0 1 48148",
   "0 1 49324,0 1 50500,0 1 51088,0 1 52264,0 1 52852,0 1 53440,0 1 54028,0 1 54616",
   "0 1 52280 44256,0 1 51452 51032,0 1 50864,1 1 19968,0 1 20108,0 1 19977,0 1 22235",
   "0 1 20116,0 1 20845,0 1 19971,0 1 20843,0 1 20061,0 1 21313,0 1 26376,0 1 28779,0 1 27700",
   "0 1 26408,0 1 37329,0 1 22303,0 1 26085,0 1 26666,0 1 26377,0 1 31038,0 1 21517,0 1 29305",
   "0 1 36001,0 1 31069,0 1 21172,0 1 31192,0 1 30007,0 1 22899,0 1 36969,0 1 20778,0 1 21360",
   "0 1 27880,0 1 38917,0 1 20241,0 1 20889,0 1 27491,0 1 19978,0 1 20013,0 1 19979,0 1 24038",
   "0 1 21491,0 1 21307,0 1 23447,0 1 23398,0 1 30435,0 1 20225,0 1 36039,0 1 21332,0 1 22812",
   "0 1 51 54,0 1 51 55,0 1 51 56,0 1 51 57,0 1 52 48,0 1 52 49,0 1 52 50,0 1 52 51,0 1 52 52",
   "0 1 52 53,0 1 52 54,0 1 52 55,0 1 52 56,0 1 52 57,0 1 53 48,0 9 49 26376,0 1 49 48 26376",
   "0 1 49 49 26376,0 1 49 50 26376,0 1 104 103,0 1 101 114 103,0 1 101 118,0 1 108 116 100",
   "0 1 12450,0 1 12452,0 1 12454,0 1 12456,0 2 12458,0 1 12461,0 1 12463,0 1 12465,0 1 12467",
   "0 1 12469,0 1 12471,0 1 12473,0 1 12475,0 1 12477,0 1 12479,0 1 12481,0 1 12484,0 1 12486",
   "0 1 12488,0 6 12490,0 1 12498,0 1 12501,0 1 12504,0 1 12507,0 5 12510,0 1 12516,0 1 12518",
   "0 6 12520,0 4 12527,0 1 20196 21644,0 1 12450 12497 12540 12488",
   "0 1 12450 12523 12501 12449,0 1 12450 12531 12506 12450,0 1 12450 12540 12523",
   "0 1 12452 12491 12531 12464,0 1 12452 12531 12481,0 1 12454 12457 12531",
   "0 1 12456 12473 12463 12540 12489,0 1 12456 12540 12459 12540,0 1 12458 12531 12473",
   "0 1 12458 12540 12512,0 1 12459 12452 12522,0 1 12459 12521 12483 12488",
   "0 1 12459 12525 12522 12540,0 1 12460 12525 12531,0 1 12460 12531 12510,0 1 12462 12460",
   "0 1 12462 12491 12540,0 1 12461 12517 12522 12540,0 1 12462 12523 12480 12540",
   "0 1 12461 12525,0 1 12461 12525 12464 12521 12512,0 1 12461 12525 12513 12540 12488 12523",
   "0 1 12461 12525 12527 12483 12488,0 1 12464 12521 12512,0 1 12464 12521 12512 12488 12531",
   "0 1 12463 12523 12476 12452 12525,0 1 12463 12525 12540 12493,0 1 12465 12540 12473",
   "0 1 12467 12523 12490,0 1 12467 12540 12509,0 1 12469 12452 12463 12523",
   "0 1 12469 12531 12481 12540 12512,0 1 12471 12522 12531 12464,0 1 12475 12531 12481",
   "0 1 12475 12531 12488,0 1 12480 12540 12473,0 1 12487 12471,0 1 12489 12523",
   "0 1 12488 12531,0 1 12490 12494,0 1 12494 12483 12488,0 1 12495 12452 12484",
   "0 1 12497 12540 12475 12531 12488,0 1 12497 12540 12484,0 1 12496 12540 12524 12523",
   "0 1 12500 12450 12473 12488 12523,0 1 12500 12463 12523,0 1 12500 12467,0 1 12499 12523",
   "0 1 12501 12449 12521 12483 12489,0 1 12501 12451 12540 12488",
   "0 1 12502 12483 12471 12455 12523,0 1 12501 12521 12531,0 1 12504 12463 12479 12540 12523",
   "0 1 12506 12477,0 1 12506 12491 12498,0 1 12504 12523 12484,0 1 12506 12531 12473",
   "0 1 12506 12540 12472,0 1 12505 12540 12479,0 1 12509 12452 12531 12488",
   "0 1 12508 12523 12488,0 1 12507 12531,0 1 12509 12531 12489,0 1 12507 12540 12523",
   "0 1 12507 12540 12531,0 1 12510 12452 12463 12525,0 1 12510 12452 12523",
   "0 1 12510 12483 12495,0 1 12510 12523 12463,0 1 12510 12531 12471 12519 12531",
   "0 1 12511 12463 12525 12531,0 1 12511 12522,0 1 12511 12522 12496 12540 12523",
   "0 1 12513 12460,0 1 12513 12460 12488 12531,0 1 12513 12540 12488 12523",
   "0 1 12516 12540 12489,0 1 12516 12540 12523,0 1 12518 12450 12531",
   "0 1 12522 12483 12488 12523,0 1 12522 12521,0 1 12523 12500 12540",
   "0 1 12523 12540 12502 12523,0 1 12524 12512,0 1 12524 12531 12488 12466 12531",
   "0 1 12527 12483 12488,0 10 48 28857,0 1 49 48 28857,0 1 49 49 28857,0 1 49 50 28857",
   "0 1 49 51 28857,0 1 49 52 28857,0 1 49 53 28857,0 1 49 54 28857,0 1 49 55 28857",
   "0 1 49 56 28857,0 1 49 57 28857,0 1 50 48 28857,0 1 50 49 28857,0 1 50 50 28857",
   "0 1 50 51 28857,0 1 50 52 28857,0 1 104 112 97,0 1 100 97,0 1 97 117,0 1 98 97 114",
   "0 1 111 118,0 1 112 99,0 1 100 109,0 1 100 109 50,0 1 100 109 51,0 1 105 117",
   "0 1 24179 25104,0 1 26157 21644,0 1 22823 27491,0 1 26126 27835",
   "0 1 26666 24335 20250 31038,0 1 112 97,0 1 110 97,0 1 956 97,0 1 109 97,0 1 107 97",
   "0 1 107 98,0 1 109 98,0 1 103 98,0 1 99 97 108,0 1 107 99 97 108,0 1 112 102,0 1 110 102",
   "0 1 956 102,0 1 956 103,0 1 109 103,0 1 107 103,0 1 104 122,0 1 107 104 122",
   "0 1 109 104 122,0 1 103 104 122,0 1 116 104 122,0 1 956 108,0 1 109 108,0 1 100 108",
   "0 1 107 108,0 1 102 109,0 1 110 109,0 1 956 109,0 1 109 109,0 1 99 109,0 1 107 109",
   "0 1 109 109 50,0 1 99 109 50,0 1 109 50,0 1 107 109 50,0 1 109 109 51,0 1 99 109 51",
   "0 1 109 51,0 1 107 109 51,0 1 109 8725 115,0 1 109 8725 115 50,0 1 112 97,0 1 107 112 97",
   "0 1 109 112 97,0 1 103 112 97,0 1 114 97 100,0 1 114 97 100 8725 115",
   "0 1 114 97 100 8725 115 50,0 1 112 115,0 1 110 115,0 1 956 115,0 1 109 115,0 1 112 118",
   "0 1 110 118,0 1 956 118,0 1 109 118,0 1 107 118,0 1 109 118,0 1 112 119,0 1 110 119",
   "0 1 956 119,0 1 109 119,0 1 107 119,0 1 109 119,0 1 107 969,0 1 109 969,1 1 98 113",
   "0 1 99 99,0 1 99 100,0 1 99 8725 107 103,1 1 100 98,0 1 103 121,0 1 104 97,0 1 104 112",
   "0 1 105 110,0 1 107 107,0 1 107 109,0 1 107 116,0 1 108 109,0 1 108 110,0 1 108 111 103",
   "0 1 108 120,0 1 109 98,0 1 109 105 108,0 1 109 111 108,0 1 112 104,1 1 112 112 109",
   "0 1 112 114,0 1 115 114,0 1 115 118,0 1 119 98,0 1 118 8725 109,0 1 97 8725 109",
   "0 9 49 26085,0 1 49 48 26085,0 1 49 49 26085,0 1 49 50 26085,0 1 49 51 26085",
   "0 1 49 52 26085,0 1 49 53 26085,0 1 49 54 26085,0 1 49 55 26085,0 1 49 56 26085",
   "0 1 49 57 26085,0 1 50 48 26085,0 1 50 49 26085,0 1 50 50 26085,0 1 50 51 26085",
   "0 1 50 52 26085,0 1 50 53 26085,0 1 50 54 26085,0 1 50 55 26085,0 1 50 56 26085",
   "0 1 50 57 26085,0 1 51 48 26085,0 1 51 49 26085,0 1 103 97 108,29340 1 1098,0 1 1100",
   "210 1 42863,128 1 115,0 1 99,0 1 102,0 1 113,3 1 295,0 1 339,866 1 42791,0 1 43831,0 1 619",
   "0 1 43858,9 1 653,6 80 5024,20288 1 102 102,0 1 102 105,0 1 102 108,0 1 102 102 105",
   "0 1 102 102 108,0 1 115 116,0 1 115 116,12 1 1396 1398,0 1 1396 1381,0 1 1396 1387",
   "0 1 1406 1398,0 1 1396 1389,8 1 1506,0 1 1488,0 2 1491,0 3 1499,0 1 1512,0 1 1514,0 1 43",
   "37 1 1488 1500,0 1 1649,0 1 1649,0 1 1659,0 1 1659,0 1 1659,0 1 1659,0 1 1662,0 1 1662",
   "0 1 1662,0 1 1662,0 1 1664,0 1 1664,0 1 1664,0 1 1664,0 1 1658,0 1 1658,0 1 1658,0 1 1658",
   "0 1 1663,0 1 1663,0 1 1663,0 1 1663,0 1 1657,0 1 1657,0 1 1657,0 1 1657,0 1 1700,0 1 1700",
   "0 1 1700,0 1 1700,0 1 1702,0 1 1702,0 1 1702,0 1 1702,0 1 1668,0 1 1668,0 1 1668,0 1 1668",
   "0 1 1667,0 1 1667,0 1 1667,0 1 1667,0 1 1670,0 1 1670,0 1 1670,0 2 1670,0 1 1671,0 1 1671",
   "0 1 1671,0 1 1677,0 1 1677,0 1 1676,0 1 1676,0 1 1678,0 1 1678,0 1 1672,0 1 1672,0 1 1688",
   "0 1 1688,0 1 1681,0 1 1681,0 1 1705,0 1 1705,0 1 1705,0 1 1705,0 1 1711,0 1 1711,0 1 1711",
   "0 1 1711,0 1 1715,0 1 1715,0 1 1715,0 1 1715,0 1 1713,0 1 1713,0 1 1713,0 1 1713,0 1 1722",
   "0 2 1722,0 1 1723,0 1 1723,0 1 1723,0 1 1728,0 2 1728,0 1 1729,0 1 1729,0 1 1729,0 1 1726",
   "0 1 1726,0 1 1726,0 1 1726,0 1 1746,0 2 1746,0 1 1747,33 1 1709,0 1 1709,0 1 1709,0 1 1709",
   "0 1 1735,0 1 1735,0 1 1734,0 1 1734,0 1 1736,0 1 1736,0 1 1735 1652,0 1 1739,0 1 1739",
   "0 1 1733,0 1 1733,0 1 1737,0 1 1737,0 1 1744,0 1 1744,0 1 1744,0 1 1744,0 1 1609,0 1 1609",
   "0 1 1574 1575,0 1 1574 1575,0 1 1574 1749,0 1 1574 1749,0 1 1574 1608,0 1 1574 1608",
   "0 1 1574 1735,0 1 1574 1735,0 1 1574 1734,0 1 1574 1734,0 1 1574 1736,0 1 1574 1736",
   "0 1 1574 1744,0 1 1574 1744,0 1 1574 1744,0 1 1574 1609,0 1 1574 1609,0 1 1574 1609",
   "0 1 1740,0 1 1740,0 1 1740,0 1 1740,0 1 1574 1580,0 1 1574 1581,0 1 1574 1605",
   "0 1 1574 1609,0 1 1574 1610,0 1 1576 1580,0 1 1576 1581,0 1 1576 1582,0 1 1576 1605",
   "0 1 1576 1609,0 1 1576 1610,0 1 1578 1580,0 1 1578 1581,0 1 1578 1582,0 1 1578 1605",
   "0 1 1578 1609,0 1 1578 1610,0 1 1579 1580,0 1 1579 1605,0 1 1579 1609,0 1 1579 1610",
   "0 1 1580 1581,0 1 1580 1605,0 1 1581 1580,0 1 1581 1605,0 1 1582 1580,0 1 1582 1581",
   "0 1 1582 1605,0 1 1587 1580,0 1 1587 1581,0 1 1587 1582,0 1 1587 1605,0 1 1589 1581",
   "0 1 1589 1605,0 1 1590 1580,0 1 1590 1581,0 1 1590 1582,0 1 1590 1605,0 1 1591 1581",
   "0 2 1591 1605,0 1 1593 1580,0 1 1593 1605,0 1 1594 1580,0 1 1594 1605,0 1 1601 1580",
   "0 1 1601 1581,0 1 1601 1582,0 1 1601 1605,0 1 1601 1609,0 1 1601 1610,0 1 1602 1581",
   "0 1 1602 1605,0 1 1602 1609,0 1 1602 1610,0 1 1603 1575,0 1 1603 1580,0 1 1603 1581",
   "0 1 1603 1582,0 1 1603 1604,0 1 1603 1605,0 1 1603 1609,0 1 1603 1610,0 1 1604 1580",
   "0 1 1604 1581,0 1 1604 1582,0 1 1604 1605,0 1 1604 1609,0 1 1604 1610,0 1 1605 1580",
   "0 1 1605 1581,0 1 1605 1582,0 1 1605 1605,0 1 1605 1609,0 1 1605 1610,0 1 1606 1580",
   "0 1 1606 1581,0 1 1606 1582,0 1 1606 1605,0 1 1606 1609,0 1 1606 1610,0 1 1607 1580",
   "0 1 1607 1605,0 1 1607 1609,0 1 1607 1610,0 1 1610 1580,0 1 1610 1581,0 1 1610 1582",
   "0 1 1610 1605,0 1 1610 1609,0 1 1610 1610,0 2 1584 1648,0 1 1609 1648,0 1 32 1612 1617",
   "0 1 32 1613 1617,0 1 32 1614 1617,0 1 32 1615 1617,0 1 32 1616 1617,0 1 32 1617 1648",
   "0 1 1574 1585,0 1 1574 1586,0 1 1574 1605,0 1 1574 1606,0 1 1574 1609,0 1 1574 1610",
   "0 1 1576 1585,0 1 1576 1586,0 1 1576 1605,0 1 1576 1606,0 1 1576 1609,0 1 1576 1610",
   "0 1 1578 1585,0 1 1578 1586,0 1 1578 1605,0 1 1578 1606,0 1 1578 1609,0 1 1578 1610",
   "0 1 1579 1585,0 1 1579 1586,0 1 1579 1605,0 1 1579 1606,0 1 1579 1609,0 1 1579 1610",
   "0 1 1601 1609,0 1 1601 1610,0 1 1602 1609,0 1 1602 1610,0 1 1603 1575,0 1 1603 1604",
   "0 1 1603 1605,0 1 1603 1609,0 1 1603 1610,0 1 1604 1605,0 1 1604 1609,0 1 1604 1610",
   "0 1 1605 1575,0 1 1605 1605,0 1 1606 1585,0 1 1606 1586,0 1 1606 1605,0 1 1606 1606",
   "0 1 1606 1609,0 1 1606 1610,0 1 1609 1648,0 1 1610 1585,0 1 1610 1586,0 1 1610 1605",
   "0 1 1610 1606,0 1 1610 1609,0 1 1610 1610,0 1 1574 1580,0 1 1574 1581,0 1 1574 1582",
   "0 1 1574 1605,0 1 1574 1607,0 1 1576 1580,0 1 1576 1581,0 1 1576 1582,0 1 1576 1605",
   "0 1 1576 1607,0 1 1578 1580,0 1 1578 1581,0 1 1578 1582,0 1 1578 1605,0 1 1578 1607",
   "0 1 1579 1605,0 1 1580 1581,0 1 1580 1605,0 1 1581 1580,0 1 1581 1605,0 1 1582 1580",
   "0 1 1582 1605,0 1 1587 1580,0 1 1587 1581,0 1 1587 1582,0 1 1587 1605,0 1 1589 1581",
   "0 1 1589 1582,0 1 1589 1605,0 1 1590 1580,0 1 1590 1581,0 1 1590 1582,0 1 1590 1605",
   "0 1 1591 1581,0 1 1592 1605,0 1 1593 1580,0 1 1593 1605,0 1 1594 1580,0 1 1594 1605",
   "0 1 1601 1580,0 1 1601 1581,0 1 1601 1582,0 1 1601 1605,0 1 1602 1581,0 1 1602 1605",
   "0 1 1603 1580,0 1 1603 1581,0 1 1603 1582,0 1 1603 1604,0 1 1603 1605,0 1 1604 1580",
   "0 1 1604 1581,0 1 1604 1582,0 1 1604 1605,0 1 1604 1607,0 1 1605 1580,0 1 1605 1581",
   "0 1 1605 1582,0 1 1605 1605,0 1 1606 1580,0 1 1606 1581,0 1 1606 1582,0 1 1606 1605",
   "0 1 1606 1607,0 1 1607 1580,0 1 1607 1605,0 1 1607 1648,0 1 1610 1580,0 1 1610 1581",
   "0 1 1610 1582,0 1 1610 1605,0 1 1610 1607,0 1 1574 1605,0 1 1574 1607,0 1 1576 1605",
   "0 1 1576 1607,0 1 1578 1605,0 1 1578 1607,0 1 1579 1605,0 1 1579 1607,0 1 1587 1605",
   "0 1 1587 1607,0 1 1588 1605,0 1 1588 1607,0 1 1603 1604,0 2 1603 1605,0 1 1606 1605",
   "0 1 1606 1607,0 1 1610 1605,0 1 1610 1607,0 1 1600 1614 1617,0 1 1600 1615 1617",
   "0 1 1600 1616 1617,0 1 1591 1609,0 1 1591 1610,0 1 1593 1609,0 1 1593 1610,0 1 1594 1609",
   "0 1 1594 1610,0 1 1587 1609,0 1 1587 1610,0 1 1588 1609,0 1 1588 1610,0 1 1581 1609",
   "0 1 1581 1610,0 1 1580 1609,0 1 1580 1610,0 1 1582 1609,0 1 1582 1610,0 1 1589 1609",
   "0 1 1589 1610,0 1 1590 1609,0 1 1590 1610,0 1 1588 1580,0 1 1588 1581,0 1 1588 1582",
   "0 1 1588 1605,0 1 1588 1585,0 1 1587 1585,0 2 1589 1585,0 1 1591 1609,0 1 1591 1610",
   "0 1 1593 1609,0 1 1593 1610,0 1 1594 1609,0 1 1594 1610,0 1 1587 1609,0 1 1587 1610",
   "0 1 1588 1609,0 1 1588 1610,0 1 1581 1609,0 1 1581 1610,0 1 1580 1609,0 1 1580 1610",
   "0 1 1582 1609,0 1 1582 1610,0 1 1589 1609,0 1 1589 1610,0 1 1590 1609,0 1 1590 1610",
   "0 1 1588 1580,0 1 1588 1581,0 1 1588 1582,0 1 1588 1605,0 1 1588 1585,0 1 1587 1585",
   "0 2 1589 1585,0 1 1588 1580,0 1 1588 1581,0 1 1588 1582,0 1 1588 1605,0 2 1587 1607",
   "0 1 1591 1605,0 1 1587 1580,0 1 1587 1581,0 1 1587 1582,0 1 1588 1580,0 1 1588 1581",
   "0 1 1588 1582,0 2 1591 1605,0 1 1575 1611,0 1 1575 1611,18 1 1578 1580 1605",
   "0 1 1578 1581 1580,0 1 1578 1581 1580,0 1 1578 1581 1605,0 1 1578 1582 1605",
   "0 1 1578 1605 1580,0 1 1578 1605 1581,0 1 1578 1605 1582,0 1 1580 1605 1581",
   "0 1 1580 1605 1581,0 1 1581 1605 1610,0 1 1581 1605 1609,0 1 1587 1581 1580",
   "0 1 1587 1580 1581,0 1 1587 1580 1609,0 1 1587 1605 1581,0 1 1587 1605 1581",
   "0 1 1587 1605 1580,0 1 1587 1605 1605,0 1 1587 1605 1605,0 1 1589 1581 1581",
   "0 1 1589 1581 1581,0 1 1589 1605 1605,0 1 1588 1581 1605,0 1 1588 1581 1605",
   "0 1 1588 1580 1610,0 1 1588 1605 1582,0 1 1588 1605 1582,0 1 1588 1605 1605",
   "0 1 1588 1605 1605,0 1 1590 1581 1609,0 1 1590 1582 1605,0 1 1590 1582 1605",
   "0 1 1591 1605 1581,0 1 1591 1605 1581,0 1 1591 1605 1605,0 1 1591 1605 1610",
   "0 1 1593 1580 1605,0 1 1593 1605 1605,0 1 1593 1605 1605,0 1 1593 1605 1609",
   "0 1 1594 1605 1605,0 1 1594 1605 1610,0 1 1594 1605 1609,0 1 1601 1582 1605",
   "0 1 1601 1582 1605,0 1 1602 1605 1581,0 1 1602 1605 1605,0 1 1604 1581 1605",
   "0 1 1604 1581 1610,0 1 1604 1581 1609,0 1 1604 1580 1580,0 1 1604 1580 1580",
   "0 1 1604 1582 1605,0 1 1604 1582 1605,0 1 1604 1605 1581,0 1 1604 1605 1581",
   "0 1 1605 1581 1580,0 1 1605 1581 1605,0 1 1605 1581 1610,0 1 1605 1580 1581",
   "0 1 1605 1580 1605,0 1 1605 1582 1580,0 1 1605 1582 1605,2 1 1605 1580 1582",
   "0 1 1607 1605 1580,0 1 1607 1605 1605,0 1 1606 1581 1605,0 1 1606 1581 1609",
   "0 1 1606 1580 1605,0 1 1606 1580 1605,0 1 1606 1580 1609,0 1 1606 1605 1610",
   "0 1 1606 1605 1609,0 1 1610 1605 1605,0 1 1610 1605 1605,0 1 1576 1582 1610",
   "0 1 1578 1580 1610,0 1 1578 1580 1609,0 1 1578 1582 1610,0 1 1578 1582 1609",
   "0 1 1578 1605 1610,0 1 1578 1605 1609,0 1 1580 1605 1610,0 1 1580 1581 1609",
   "0 1 1580 1605 1609,0 1 1587 1582 1609,0 1 1589 1581 1610,0 1 1588 1581 1610",
   "0 1 1590 1581 1610,0 1 1604 1580 1610,0 1 1604 1605 1610,0 1 1610 1581 1610",
   "0 1 1610 1580 1610,0 1 1610 1605 1610,0 1 1605 1605 1610,0 1 1602 1605 1610",
   "0 1 1606 1581 1610,0 1 1602 1605 1581,0 1 1604 1581 1605,0 1 1593 1605 1610",
   "0 1 1603 1605 1610,0 1 1606 1580 1581,0 1 1605 1582 1610,0 1 1604 1580 1605",
   "0 1 1603 1605 1605,0 1 1604 1580 1605,0 1 1606 1580 1581,0 1 1580 1581 1610",
   "0 1 1581 1580 1610,0 1 1605 1580 1610,0 1 1601 1605 1610,0 1 1576 1581 1610",
   "0 1 1603 1605 1605,0 1 1593 1580 1605,0 1 1589 1605 1605,0 1 1587 1582 1610",
   "0 1 1606 1580 1610,40 1 1589 1604 1746,0 1 1602 1604 1746,0 1 1575 1604 1604 1607",
   "0 1 1575 1603 1576 1585,0 1 1605 1581 1605 1583,0 1 1589 1604 1593 1605",
   "0 1 1585 1587 1608 1604,0 1 1593 1604 1610 1607,0 1 1608 1587 1604 1605,0 1 1589 1604 1609",
   "0 1 1589 1604 1609 32 1575 1604 1604 1607 32 1593 1604 1610 1607 32 1608 1587 1604 1605",
   "0 1 1580 1604 32 1580 1604 1575 1604 1607,0 1 1585 1740 1575 1604,3 16,0 1 44,0 1 12289",
   "1 2 58,0 1 33,0 1 63,0 2 12310,24 1 8212,0 1 8211,0 1 95,0 1 95,0 2 40,0 1 123,0 1 125",
   "0 2 12308,0 2 12304,0 2 12298,0 2 12296,0 4 12300,2 1 91,0 1 93,0 1 32 773,0 1 32 773",
   "0 1 32 773,0 1 32 773,0 1 95,0 1 95,0 1 95,0 1 44,0 1 12289,2 1 59,0 1 58,0 1 63,0 1 33",
   "0 1 8212,0 2 40,0 1 123,0 1 125,0 2 12308,0 1 35,0 1 38,0 2 42,0 1 45,0 1 60,0 1 62,0 1 61",
   "1 1 92,0 2 36,0 1 64,4 1 32 1611,0 1 1600 1611,0 1 32 1612,1 1 32 1613,1 1 32 1614",
   "0 1 1600 1614,0 1 32 1615,0 1 1600 1615,0 1 32 1616,0 1 1600 1616,0 1 32 1617",
   "0 1 1600 1617,0 1 32 1618,0 1 1600 1618,0 2 1569,0 2 1570,0 2 1571,0 2 1572,0 2 1573",
   "0 1 1574,0 1 1574,0 2 1574,0 2 1575,0 1 1576,0 1 1576,0 2 1576,0 2 1577,0 1 1578,0 1 1578",
   "0 2 1578,0 1 1579,0 1 1579,0 2 1579,0 1 1580,0 1 1580,0 2 1580,0 1 1581,0 1 1581,0 2 1581",
   "0 1 1582,0 1 1582,0 2 1582,0 2 1583,0 2 1584,0 2 1585,0 2 1586,0 1 1587,0 1 1587,0 2 1587",
   "0 1 1588,0 1 1588,0 2 1588,0 1 1589,0 1 1589,0 2 1589,0 1 1590,0 1 1590,0 2 1590,0 1 1591",
   "0 1 1591,0 2 1591,0 1 1592,0 1 1592,0 2 1592,0 1 1593,0 1 1593,0 2 1593,0 1 1594,0 1 1594",
   "0 1 1594,0 1 1601,0 1 1601,0 1 1601,0 2 1601,0 1 1602,0 1 1602,0 2 1602,0 1 1603,0 1 1603",
   "0 2 1603,0 1 1604,0 1 1604,0 2 1604,0 1 1605,0 1 1605,0 2 1605,0 1 1606,0 1 1606,0 2 1606",
   "0 1 1607,0 1 1607,0 2 1607,0 2 1608,0 2 1609,0 1 1610,0 1 1610,0 1 1610,0 1 1604 1570",
   "0 1 1604 1570,0 1 1604 1571,0 1 1604 1571,0 1 1604 1573,0 1 1604 1573,0 1 1604 1575",
   "0 1 1604 1575,2 1,1 32 33,0 26 97,0 36 91,0 2 10629,0 1 46,0 2 12300,0 1 12289,0 1 12539",
   "0 1 12530,0 1 12449,0 1 12451,0 1 12453,0 1 12455,0 1 12457,0 1 12515,0 1 12517,0 1 12519",
   "0 1 12483,0 1 12540,0 1 12450,0 1 12452,0 1 12454,0 1 12456,0 2 12458,0 1 12461,0 1 12463",
   "0 1 12465,0 1 12467,0 1 12469,0 1 12471,0 1 12473,0 1 12475,0 1 12477,0 1 12479,0 1 12481",
   "0 1 12484,0 1 12486,0 1 12488,0 6 12490,0 1 12498,0 1 12501,0 1 12504,0 1 12507,0 5 12510",
   "0 1 12516,0 1 12518,0 6 12520,0 1 12527,0 1 12531,0 2 12441,0 1,0 2 4352,0 1 4522,0 1 4354",
   "0 2 4524,0 3 4355,0 6 4528,0 1 4378,0 3 4358,0 1 4385,0 10 4361,3 6 4449,2 6 4455,2 6 4461",
   "2 3 4467,3 2 162,0 1 172,0 1 32 772,0 1 166,0 1 165,0 1 8361,1 1 9474,0 4 8592,0 1 9632",
   "0 1 9675,1938 2 720,0 1 230,0 1 665,0 1 595,1 1 675,0 1 43878,0 1 677,0 1 676,0 2 598",
   "0 1 7569,0 1 600,0 1 606,0 1 681,0 1 612,0 1 610,0 1 608,0 1 667,0 1 295,0 1 668,0 1 615",
   "0 1 644,0 2 682,0 1 620,0 1 122628,0 1 42894,0 1 622,0 1 122629,0 1 654,0 1 122630,0 1 248",
   "0 2 630,0 1 113,0 1 634,0 1 122632,0 2 637,0 1 640,0 1 680,0 1 678,0 1 43879,0 1 679",
   "0 1 648,0 1 11377,1 1 655,0 2 673,0 1 664,0 3 448,0 1 122634,0 1 122654,46309 4,4146 26 97",
   "0 10 48,1145 8,645 26 97,0 26 97,0 26 97,0 7 97,1 18 105,0 26 97,0 26 97,0 1 97,1 2 99",
   "2 1 103,2 2 106,2 4 110,1 8 115,0 4 97,1 1 102,1 7 104,1 11 112,0 26 97,0 26 97,0 2 97",
   "1 4 100,2 8 106,1 7 115,1 26 97,0 2 97,1 4 100,1 5 105,1 1 111,3 7 115,1 26 97,0 26 97",
   "0 26 97,0 26 97,0 26 97,0 26 97,0 26 97,0 26 97,0 26 97,0 26 97,0 26 97,0 26 97,0 26 97",
   "0 1 305,0 1 567,2 17 945,0 1 952,0 7 963,0 1 8711,0 17 945,0 1 963,0 7 963,0 1 8706",
   "0 1 949,0 1 952,0 1 954,0 1 966,0 1 961,0 1 960,0 17 945,0 1 952,0 7 963,0 1 8711,0 17 945",
   "0 1 963,0 7 963,0 1 8706,0 1 949,0 1 952,0 1 954,0 1 966,0 1 961,0 1 960,0 17 945,0 1 952",
   "0 7 963,0 1 8711,0 17 945,0 1 963,0 7 963,0 1 8706,0 1 949,0 1 952,0 1 954,0 1 966,0 1 961",
   "0 1 960,0 17 945,0 1 952,0 7 963,0 1 8711,0 17 945,0 1 963,0 7 963,0 1 8706,0 1 949",
   "0 1 952,0 1 954,0 1 966,0 1 961,0 1 960,0 17 945,0 1 952,0 7 963,0 1 8711,0 17 945,0 1 963",
   "0 7 963,0 1 8706,0 1 949,0 1 952,0 1 954,0 1 966,0 1 961,0 1 960,0 1 989,0 1 989,2 10 48",
   "0 10 48,0 10 48,0 10 48,0 10 48,2096 9 1072,0 3 1082,0 11 1086,0 1 1099,0 2 1101,0 1 42633",
   "0 1 1241,0 1 1110,0 1 1112,0 1 1257,0 1 1199,0 1 1231,0 9 1072,0 2 1082,0 2 1086,0 1 1089",
   "0 6 1091,0 2 1098,0 1 1169,0 1 1110,0 1 1109,0 1 1119,0 1 1195,0 1 42577,0 1 1201",
   "3474 2 1575,0 1 1580,0 1 1583,1 1 1608,0 1 1586,0 1 1581,0 1 1591,0 1 1610,0 4 1603",
   "0 1 1587,0 1 1593,0 1 1601,0 1 1589,0 1 1602,0 1 1585,0 1 1588,0 2 1578,0 1 1582,0 1 1584",
   "0 1 1590,0 1 1592,0 1 1594,0 1 1646,0 1 1722,0 1 1697,0 1 1647,1 1 1576,0 1 1580,1 1 1607",
   "2 1 1581,1 1 1610,0 4 1603,0 1 1587,0 1 1593,0 1 1601,0 1 1589,0 1 1602,1 1 1588,0 2 1578",
   "0 1 1582,1 1 1590,1 1 1594,6 1 1580,4 1 1581,1 1 1610,1 1 1604,1 1 1606,0 1 1587,0 1 1593",
   "1 1 1589,0 1 1602,1 1 1588,2 1 1582,1 1 1590,1 1 1594,1 1 1722,1 1 1647,1 1 1576,0 1 1580",
   "1 1 1607,2 1 1581,0 1 1591,0 1 1610,0 1 1603,1 2 1605,0 1 1587,0 1 1593,0 1 1601,0 1 1589",
   "0 1 1602,1 1 1588,0 2 1578,0 1 1582,1 1 1590,0 1 1592,0 1 1594,0 1 1646,1 1 1697,1 2 1575",
   "0 1 1580,0 1 1583,0 2 1607,0 1 1586,0 1 1581,0 1 1591,0 1 1610,1 3 1604,0 1 1587,0 1 1593",
   "0 1 1601,0 1 1589,0 1 1602,0 1 1585,0 1 1588,0 2 1578,0 1 1582,0 1 1584,0 1 1590,0 1 1592",
   "0 1 1594,5 1 1576,0 1 1580,0 1 1583,1 1 1608,0 1 1586,0 1 1581,0 1 1591,0 1 1610,1 3 1604",
   "0 1 1587,0 1 1593,0 1 1601,0 1 1589,0 1 1602,0 1 1585,0 1 1588,0 2 1578,0 1 1582,0 1 1584",
   "0 1 1590,0 1 1592,0 1 1594,581 10 48 44,5 1 40 97 41,0 1 40 98 41,0 1 40 99 41",
   "0 1 40 100 41,0 1 40 101 41,0 1 40 102 41,0 1 40 103 41,0 1 40 104 41,0 1 40 105 41",
   "0 1 40 106 41,0 1 40 107 41,0 1 40 108 41,0 1 40 109 41,0 1 40 110 41,0 1 40 111 41",
   "0 1 40 112 41,0 1 40 113 41,0 1 40 114 41,0 1 40 115 41,0 1 40 116 41,0 1 40 117 41",
   "0 1 40 118 41,0 1 40 119 41,0 1 40 120 41,0 1 40 121 41,0 1 40 122 41,0 1 12308 115 12309",
   "0 1 99,0 1 114,0 1 99 100,0 1 119 122,1 26 97,0 1 104 118,0 1 109 118,0 1 115 100",
   "0 1 115 115,0 1 112 112 118,0 1 119 99,26 1 109 99,0 1 109 100,0 1 109 114,35 1 100 106",
   "111 1 12411 12363,0 1 12467 12467,0 1 12469,13 1 25163,0 1 23383,0 1 21452,0 1 12487",
   "0 1 20108,0 1 22810,0 1 35299,0 1 22825,0 1 20132,0 1 26144,0 1 28961,0 1 26009,0 1 21069",
   "0 1 24460,0 1 20877,0 1 26032,0 1 21021,0 1 32066,0 1 29983,0 1 36009,0 1 22768,0 1 21561",
   "0 1 28436,0 1 25237,0 1 25429,0 1 19968,0 1 19977,0 1 36938,0 1 24038,0 1 20013,0 1 21491",
   "0 1 25351,0 1 36208,0 1 25171,0 1 31105,0 1 31354,0 1 21512,0 1 28288,0 1 26377,0 1 26376",
   "0 1 30003,0 1 21106,0 1 21942,0 1 37197,4 1 12308 26412 12309,0 1 12308 19977 12309",
   "0 1 12308 20108 12309,0 1 12308 23433 12309,0 1 12308 28857 12309,0 1 12308 25171 12309",
   "0 1 12308 30423 12309,0 1 12308 21213 12309,0 1 12308 25943 12309,7 1 24471,0 1 21487",
   "2462 10 48,787718 240"]

/-- The characters with an image of their own. -/
def images : List Text.Span :=
  Text.Span.ofLines imageLines

/-- The lengths of the alternating runs. -/
def disallowedLines : List String :=
  ["128 32 728 2 6 4 7 1 1 1 20 1 397 1 38 2 50 2 3 1 55 8 27 4 6 17 22 1 192 1 48 2 59 2 101",
   "14 59 2 49 2 15 1 28 2 1 1 11 5 32 7 75 1 161 1 8 2 2 2 22 1 7 1 1 3 4 2 9 2 2 2 4 8 1 4 2",
   "1 5 2 25 2 3 1 6 4 2 2 22 1 7 1 2 1 2 1 2 2 1 1 5 4 2 2 3 3 1 7 4 1 1 7 17 10 3 1 9 1 3 1",
   "22 1 7 1 2 1 5 2 10 1 3 1 3 2 1 15 4 2 12 7 7 1 3 1 8 2 2 2 22 1 7 1 2 1 5 2 9 2 2 2 3 7 3",
   "4 2 1 5 2 18 10 2 1 6 3 3 1 4 3 2 1 1 1 2 3 2 3 3 3 12 4 5 3 3 1 4 2 1 6 1 14 21 5 13 1 3",
   "1 23 1 16 2 9 1 3 1 4 7 2 1 3 1 2 2 4 2 10 7 22 1 3 1 23 1 10 1 5 2 9 1 3 1 4 7 2 5 3 1 4",
   "2 10 1 3 12 13 1 3 1 51 1 3 1 6 4 16 2 26 1 3 1 18 3 24 1 9 1 1 2 7 3 1 4 6 1 1 1 8 6 10 2",
   "3 12 58 4 29 37 2 1 1 1 5 1 24 1 1 1 23 2 5 1 1 1 7 1 10 2 4 32 72 1 36 4 39 1 36 1 15 1",
   "13 37 198 1 1 5 1 2 377 1 4 2 7 1 1 1 4 2 41 1 4 2 33 1 4 2 7 1 1 1 4 2 15 1 57 1 4 2 67 2",
   "32 3 26 6 86 2 6 2 640 1 28 3 89 7 22 9 24 9 20 12 13 1 3 1 2 12 94 2 10 6 10 6 26 6 89 7",
   "43 5 70 10 31 1 12 4 12 4 1 3 42 2 5 11 44 4 26 6 11 3 62 2 65 1 29 2 11 6 10 6 14 2 46 2",
   "12 20 77 1 166 8 60 3 15 3 62 5 43 2 11 8 43 5 534 2 6 2 38 2 6 2 8 1 1 1 1 1 1 1 31 2 53",
   "1 15 1 14 2 6 1 19 2 3 1 9 1 14 2 20 3 1 7 54 5 8 2 27 1 13 3 34 14 33 15 140 4 666 22 11",
   "21 40 20 1752 2 382 5 45 1 1 5 1 2 56 7 2 14 24 9 7 1 7 1 7 1 7 1 7 1 7 1 7 1 7 1 126 34",
   "26 1 89 12 214 42 64 1 86 2 103 5 43 1 94 1 86 10 47 1 418 1 4 1 16 1 28852 3 55 9 348 20",
   "184 8 221 20 60 3 10 6 56 8 70 8 12 6 116 11 30 3 78 1 11 4 33 1 55 9 14 2 10 2 103 24 28",
   "10 6 2 6 2 6 9 7 1 7 1 60 4 126 2 10 6 11172 12 23 4 49 8452 366 2 106 38 7 12 5 5 26 1 5",
   "1 1 1 2 1 2 1 650 32 34 1 6 7 16 1 33 2 19 1 4 4 5 1 135 2 1 1 190 3 6 2 6 2 6 2 3 3 7 1 7",
   "17 12 1 26 1 19 1 2 1 15 2 14 34 123 5 3 4 45 3 88 1 13 3 1 47 46 130 29 3 49 15 28 4 36 9",
   "30 5 43 5 30 1 37 4 14 42 158 2 10 6 36 4 36 4 40 8 52 11 12 1 15 1 7 1 2 1 11 1 15 1 7 1",
   "2 3 52 12 311 9 22 10 8 24 6 1 42 1 9 69 6 2 1 1 44 1 2 3 1 2 23 1 72 8 9 48 19 1 2 5 33 3",
   "27 5 27 38 56 4 20 2 50 1 2 5 8 1 3 1 29 2 3 4 10 7 9 7 64 32 39 4 12 9 54 3 29 2 27 5 26",
   "7 4 12 7 80 73 55 51 13 51 7 46 8 10 6 38 3 29 8 2 208 31 1 42 1 3 2 2 16 6 8 9 33 46 8 42",
   "22 26 38 28 20 23 9 78 4 36 9 62 1 5 13 25 7 10 6 53 1 18 8 39 9 96 1 20 11 18 1 47 62 7 1",
   "1 1 4 1 15 1 11 6 59 5 10 6 4 1 8 2 2 2 22 1 7 1 2 1 5 1 10 2 2 2 3 2 1 6 1 5 7 2 7 3 5 11",
   "10 1 1 2 1 1 38 1 10 1 1 2 1 1 4 1 10 1 2 8 2 29 92 1 5 30 72 8 10 166 54 2 38 34 69 11 10",
   "6 13 19 58 6 10 6 20 28 27 2 15 4 23 185 60 100 83 12 8 2 1 2 8 1 2 1 30 1 2 2 12 9 10 70",
   "8 2 46 2 11 27 72 8 83 13 73 7 10 86 8 88 34 14 10 6 9 1 45 1 14 10 29 3 32 2 22 1 14 73 7",
   "1 2 1 44 3 1 1 2 1 9 8 10 6 6 1 2 1 37 1 2 1 6 7 10 6 44 4 10 246 25 7 17 1 41 3 29 85 1",
   "15 50 13 923 102 111 1 5 11 196 2636 99 13 1072 16 22 10 3995 5 583 6841 58 1734 569 7 31",
   "1 10 4 81 1 10 6 30 2 6 10 70 10 10 1 7 1 21 5 19 432 58 198 91 5 25 2 25 44 75 4 57 7 17",
   "64 5 11 7 9 7382 41 32 97 115 8701 4 1 7 1 2 1 291 15 1 29 3 2 1 14 4 8 396 2308 107 5 13",
   "3 9 7 10 2 8 3932 253 3 436 6 23 15 17 15 46 2 23 9 116 60 246 10 39 2 194 21 70 122 20 12",
   "20 12 87 9 25 135 85 1 71 1 2 2 1 2 2 2 4 1 12 1 1 1 7 1 65 1 4 2 8 1 7 1 28 1 4 1 5 1 1 3",
   "7 1 340 2 292 2 702 15 5 1 15 1104 31 6 6 213 7 1 17 2 7 1 2 1 5 5 62 33 1 112 45 3 14 2",
   "10 4 2 320 31 17 58 5 1 464 42 214 43 4 1 192 31 1 22 8 2 224 7 1 4 1 2 1 15 1 197 2 16 41",
   "76 4 10 4 2 785 68 76 61 194 4 1 27 1 2 1 1 2 1 1 10 1 4 1 1 1 1 6 1 4 1 1 1 1 1 1 3 1 2 1",
   "1 2 1 1 1 1 1 1 1 1 1 1 2 1 1 2 4 1 7 1 4 1 4 1 1 1 10 1 17 5 3 1 5 1 17 52 2 270 44 4 100",
   "12 15 2 15 1 15 1 37 11 173 56 29 13 44 4 9 7 2 14 6 154 985 3 17 3 13 3 218 6 12 4 1 15",
   "12 4 56 8 10 6 40 8 30 2 12 4 2 14 9 39 344 8 14 2 13 3 11 3 57 1 1 4 16 2 12 4 10 7 147 1",
   "103 1029 42720 32 4382 2 5774 2 7473 15 622 2466 542 1506 4939 5 8490 707718 240 196112"]

/-- The characters that no domain name holds. -/
def disallowed : List Nat :=
  Text.Runs.ofLines disallowedLines

end CredentialGateway.Url.Domain.Mapping
