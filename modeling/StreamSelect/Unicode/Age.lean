import StreamSelect.Unicode.NamedSet

/-! Versions of the Unicode standard, up to version 16, with the characters that each one added. -/
namespace StreamSelect.Unicode.Age

def version1Point1 : NamedSet := .ofLines ["1.1", "v11"]
  ["0 501 4 29 56 88 7 46 1 9 22 69 26 1 18 1 4 0 3 0 5 6 1 0 1 19 1 43 1 6 3 0 1 0 1 0 1 0 1",
   "17 13 11 1 65 1 11 1 40 9 52 2 1 2 1 3 27 2 7 2 1 55 37 2 6 1 38 1 0 38 9 1 8 12 26 5 4 23",
   "0 14 0 3 0 1 25 5 18 13 13 2 71 2 4 1 14 1 29 2 9 519 2 1 52 2 17 2 4 3 24 16 2 1 7 2 1 2",
   "21 1 6 1 0 3 3 2 0 1 6 2 1 2 2 9 0 4 1 1 4 2 20 7 0 2 5 4 1 2 21 1 6 1 1 1 1 1 1 2 0 1 4 4",
   "1 2 2 11 3 1 0 7 14 12 2 1 6 1 0 1 2 1 21 1 6 1 1 1 4 2 9 1 2 1 2 2 0 15 0 5 9 17 2 1 7 2 1",
   "2 21 1 6 1 1 2 3 2 7 3 1 2 2 8 1 4 1 1 2 4 10 17 1 1 5 3 2 1 3 3 1 1 0 1 1 3 1 3 2 3 7 1 2",
   "4 4 3 2 1 3 9 0 15 11 14 2 1 7 1 2 1 22 1 9 1 4 4 6 1 2 1 3 7 1 9 1 4 9 18 1 1 7 1 2 1 22 1",
   "9 1 4 4 6 1 2 1 3 7 1 7 0 1 1 4 9 18 1 1 7 1 2 1 22 1 15 4 5 2 2 1 3 9 0 8 1 4 9 145 57 4",
   "28 37 1 1 0 2 1 1 0 2 0 6 3 1 6 1 2 1 0 1 0 2 1 1 12 1 2 2 4 1 0 1 5 2 9 2 1 450 37 10 38 4",
   "0 4 89 5 67 5 81 3078 154 5 89 6 21 2 5 2 37 2 5 2 7 1 0 1 0 1 0 1 30 2 52 1 14 1 13 2 5 1",
   "18 2 2 1 8 1 46 1 22 35 6 3 26 17 10 37 17 30 56 26 47 13 90 21 241 14 0 1 120 133 36 27 10",
   "21 138 21 149 10 79 16 19 6 85 145 3 1 3 2 27 1 34 1 0 1 3 3 0 1 6 2 6 14 30 3 23 1 13 2113",
   "55 7 0 1 83 4 5 2 93 6 39 4 93 1 15 96 28 3 35 28 27 3 49 15 11 4 46 1 118 4 98 2 30 6657",
   "20901 16474 6701 210 6 12 4 6 24 1 4 1 0 1 1 1 1 1 107 33 364 16 63 2 53 40 11 36 3 12 20 4",
   "9 1 18 1 3 4 2 1 0 1 134 2 0 1 93 2 93 3 5 2 5 2 5 2 2 3 6 1 6 14 2"]

def version2 : NamedSet := .ofLines ["2.0", "v20"]
  ["1425 16 1 12 20 0 2363 71 1 32 7 26 4 5 1 0 1 20 3 6 1 0 3809 0 527 0 35668 11171 75866 1",
   "65534 1 65534 1 65534 1 65534 1 65534 1 65534 1 65534 1 65534 1 65534 1 65534 1 65534 1",
   "65534 1 65534 131073"]

def version2Point1 : NamedSet := .ofLines ["2.1", "v21"]
  ["8364 0 57167 0"]

def version3 : NamedSet := .ofLines ["3.0", "v30"]
  ["502 3 30 7 2 17 117 4 49 0 10 4 87 8 19 0 116 0 3 0 1 0 1 0 1 0 30 0 12 0 66 0 12 0 42 1 2",
   "3 92 1 156 0 200 2 98 1 5 0 15 0 42 4 1 13 1 29 3 26 53 48 1489 1 1 17 3 23 1 8 1 0 2 6 3 0",
   "4 5 1 0 1 7 18 2 373 0 43 0 23 2 7 0 1 2 1 14 2 0 48 33 1 4 1 1 1 6 3 3 6 25 422 6 1 62 1 0",
   "1 3 2 6 1 0 1 3 2 38 1 0 1 3 2 30 1 0 1 3 2 6 1 0 1 3 2 6 1 6 1 22 1 30 1 0 1 3 2 6 1 38 1",
   "18 6 27 35 84 12 629 9 28 3 80 143 92 3 9 22 14 1 9 6 87 8 41 1925 0 24 5 95 2 50 1 85 1 72",
   "0 103 8 269 0 121 0 1 29 138 1 457 7 33 0 86 1 398 255 1408 25 1 88 12 213 26 11 60 2 3 0",
   "353 23 584 6581 21066 1164 3 17 2 15 1 11 1 2 1 0 22102 0 1243 2"]

def version3Point1 : NamedSet := .ofLines ["3.1", "v31"]
  ["1012 1 63962 31 1296 30 1 3 12 26 181 37 2 37 52146 245 10 38 3 179 546 84 1 70 1 1 2 0 2 1",
   "2 3 1 11 1 0 1 3 1 1 1 64 1 3 2 7 1 6 1 27 1 3 1 4 1 0 3 6 1 337 4 289 4 49 10240 42710",
   "20777 541 722403 0 30 95"]

def version3Point2 : NamedSet := .ofLines ["3.2", "v32"]
  ["544 0 302 0 19 12 104 1 28 0 147 1 57 1 2 1 2 1 49 15 350 1 321 0 2373 1 1543 12 1 6 11 22",
   "9 19 12 12 1 2 1 1 2259 0 6 4 4 0 7 4 13 0 62 1 50 6 82 14 168 11 242 13 124 0 30 51 284 19",
   "151 9 88 7 22 1 90 11 2 9 222 13 90 27 4 15 256 511 1339 2 87 1 8 1 94 0 240 15 81 14 81 14",
   "29154 1 16 0 12 0 3 0 21866 58 913 0 3 15 53 1 44 0 235 1"]

def version4 : NamedSet := .ofLines ["4.0", "v40"]
  ["545 0 18 2 119 1 63 16 80 7 5 2 151 4 516 3 9 8 64 2 149 1 15 0 45 2 29 2 436 0 184 0 67 0",
   "1 0 136 0 84 2 13 0 67 0 59 0 129 7 193 1 2847 0 18 9 262 28 3 11 4 11 4 0 3 41 2 4 107 31",
   "768 107 743 1 230 0 659 1 302 0 276 1 116 7 14 1 1118 13 1807 1 49 0 43 1 78 3 167 3 99 1",
   "31 0 6592 63 45053 0 73 1 439 11 1 25 1 18 1 1 1 14 2 13 34 122 5 2 4 44 3 8 576 29 1 0 134",
   "1 38 79 2 9 854 5 2 0 1 43 1 1 3 0 2 0 51904 86 362 0 797758 239"]

def version4Point1 : NamedSet := .ofLines ["4.1", "v41"]
  ["567 10 278 4 159 3 246 1 170 0 34 2 67 0 18 0 58 5 241 29 527 0 80 0 487 0 47 0 1001 1 295",
   "1 1 0 266 0 63 0 63 0 39 0 31 0 31 0 31 0 15 0 39 0 23 1 31 25 1510 41 6 25 6 9 4 1 32 27 2",
   "1 844 87 657 1 1 6 49 4 29 3 53 0 80 0 15 0 644 10 572 0 101 1 18 10 5 15 270 6 839 5 236",
   "46 1 46 33 106 14 44 10 53 9 0 16 22 9 6 1 6 1 6 1 6 1 6 1 6 1 6 1 6 33 23 4 1 930 15 174 0",
   "27943 21 1860 22 233 43 21060 105 822 9 806 74 533 35 4 13 1578 3 1 1 5 7 1 2 1 26 4 2 4 8",
   "8 8 51111 69 1118 1"]

def version5 : NamedSet := .ofLines ["5.0", "v50"]
  ["578 13 299 2 337 0 42 5 16 3 166 0 517 58 384 1 1 1 866 1 13 1 3597 75 4 44 583 6 51 1 748",
   "3 93 1 53 0 599 11 714 0 276 3 841 6 5 3 316 12 7 3 31391 3 5 1 286 55 24712 25 5 0 5856",
   "878 145 98 13 3 44780 17 1112 1"]

def version5Point1 : NamedSet := .ofLines ["5.1", "v51"]
  ["880 3 2 1 87 0 183 0 140 15 226 4 11 4 32 4 302 17 497 1 222 0 35 0 206 0 29 1 108 0 108 0",
   "26 1 8 1 20 7 189 0 6 0 29 1 12 5 3 6 491 1 97 0 3 2 77 0 5 0 2 0 7 2 4 5 26 63 4 1 2058 0",
   "725 42 3 11 70 55 3 14 3 50 331 27 181 3 90 5 356 0 139 0 94 0 53 3 1300 0 21 9 3 3 264 0",
   "31 3 811 4 4 40 3 4 280 2 1 2 4 5 354 31 24 3 2 18 764 0 162 19 28120 7 1340 299 20 31 2 17",
   "8 27 131 4 2 106 110 4 128 68 9 11 38 83 11 0 160 54 9 13 2 9 2 3 21444 2 873 11 52 45 130",
   "28 3 48 1615 25 5 0 51177 0 7894 43 4 99"]

def version5Point2 : NamedSet := .ofLines ["5.2", "v52"]
  ["1316 1 730 45 2 14 193 0 77 0 6 0 35 1 128 0 1497 3 193 3 188 4 68 4 82 5 512 0 630 8 560",
   "69 180 1 46 0 69 62 1 28 2 10 6 9 6 13 546 34 266 0 696 2 151 2 54 0 606 0 693 1 29 2 4 9 1",
   "18 1 0 4 23 87 0 1021 4 278 0 13 1 107 6 319 0 1042 11 28020 7 1284 47 416 87 312 9 166 27",
   "100 28 3 77 1 10 4 1 128 27 4 66 24 4 224 45 2 9 11190 22 4 48 8815 2 3538 21 1 8 186 1 324",
   "31 128 53 3 28 2 26 5 7 128 72 535 30 513 65 7998 1070 48337 10 5 30 2 0 11 0 1 0 2 0 3 0 3",
   "4 8 0 7 0 25 0 1 1 2 0 10 3 2 0 111 0 15 33 14 8 46263 4148"]

def version6 : NamedSet := .ofLines ["6.0", "v60"]
  ["1318 1 248 0 62 0 480 27 2 0 219 1 19 0 6 1 27 4 506 5 433 0 16 0 19 0 573 3 73 1 898 1",
   "2145 51 8 3 508 0 664 7 28 0 815 10 730 0 19 0 1 3 29 0 4 1 28 0 35 0 1 0 4 2 9 1 52 2 24 0",
   "14 0 14 1 1440 0 14 0 1080 2 29861 1 299 1 1 1 14 9 80 0 774 5 2 5 2 5 9 6 1 6 20611 15",
   "5182 77 4 29 22416 568 17863 1 16542 14 2 13 2 14 1 14 80 0 1 10 1 0 1 1 1 2 1 2 5 7 1 6 1",
   "9 6 8 1 0 2 1 1 9 4 1 1 9 75 25 1 1 47 8 21 1 174 32 15 5 1 69 3 19 12 36 1 4 21 16 15 62 1",
   "0 1 181 1 3 3 61 18 23 147 4 1 15 1 2 1 0 1 0 1 0 1 2 1 5 2 3 1 0 2 3 1 11 4 10 48 69 58",
   "115 49100 221"]

def version6Point1 : NamedSet := .ofLines ["6.1", "v61"]
  ["1423 0 116 0 667 0 1 10 55 26 497 0 1005 1 487 0 5 0 47 2 2731 2 12 5 256 7 43 3 2772 0 1 0",
   "1316 1 51 0 5 0 56 1 202 9 29072 0 1703 7 35 0 242 1 22 0 77 1 742 22 20279 1 3920 55 6 1",
   "1808 24 7 9 6 52 1 13 60 72 7 9 1190 55 8 9 22582 68 11 46 16 16 32352 3 1 26 1 1 1 0 2 0 1",
   "9 1 3 1 0 1 0 6 0 4 0 1 0 1 0 1 2 1 1 1 0 2 0 1 0 1 0 1 0 1 0 1 1 1 0 2 3 1 6 1 3 1 3 1 0 1",
   "9 1 16 5 2 1 4 1 16 52 1 632 1 980 3 188 0 16 0 3 0 1 0 1 0 1 0 3 0 6 1 4 0 1 1 4 0"]

def version6Point2 : NamedSet := .ofLines ["6.2", "v62"]
  ["8378 0"]

def version6Point3 : NamedSet := .ofLines ["6.3", "v63"]
  ["1564 0 6729 3"]

def version7 : NamedSet := .ofLines ["7.0", "v70"]
  ["895 0 424 7 93 1 118 0 667 0 11 5 76 0 120 0 7 0 639 0 51 0 76 0 127 0 228 9 2305 7 548 1",
   "401 14 569 1 237 14 709 2 822 6 773 0 1100 2 10 25 2 31 2 33 3 11 1 7 618 6 30805 5 246 11",
   "11 2 2 1 69 0 488 30 125 3 176 47 4 1 21185 6 861 1 19 0 319 27 35 0 48 42 389 39 8 51 11 0",
   "144 310 9 21 10 7 248 62 8 8 464 31 32 38 4 11 137 17 7 3 12 6 1231 0 208 38 86 0 12 0 6 19",
   "11 17 1 42 114 58 5 9 7 2 1 7 2 1 2 21 1 6 1 1 1 4 2 8 2 1 2 2 9 0 5 6 2 6 3 4 267 71 8 9",
   "166 53 2 17 54 68 11 9 582 82 12 0 448 56 2166 41 202 11 5 0 17867 30 1 9 4 1 96 29 2 5 10",
   "69 10 9 1 6 1 20 5 18 20592 106 5 12 3 8 7 9 2 7 11100 196 2 15 2024 0 32 21 21 1 532 11 9",
   "0 70 0 22 11 37 0 5 3 5 11 17 6 71 0 1 0 182 0 4 1 63 1 4 6 29 17 1 40 1 85 70 1 13 47 70 9",
   "16 12 3 3 140 84 43 11 4 55 8 9 6 39 8 29"]

def version8 : NamedSet := .ofLines ["8.0", "v80"]
  ["2227 1 46 0 533 0 352 0 260 0 1685 0 2 5 3264 0 203 1 2656 3 29661 8 1736 0 240 0 34 5 324",
   "1 610 3 12 79 21102 1 2736 18 1 1 5 4 188 1 2 15 2 45 640 50 13 50 7 5 1225 3 14 4 160 6 1",
   "0 1 3 1 14 1 10 86 0 79 0 633 19 290 25 3 14 4 15 3161 0 230 195 7868 582 35735 10 1559 651",
   "15 4 1 14 6269 2 78 1 79 4 36 7 255 0 75 4 243 1 139 0 575 8 103 4 59 0 48735 5761"]

def version9 : NamedSet := .ofLines ["9.0", "v90"]
  ["2230 7 22 14 925 0 206 0 4 2 1 6 23 2 3847 8 370 0 1535 3 2628 1 31081 0 278 0 22727 1 801",
   "35 4 35 3394 0 449 89 1 0 1 0 514 12 1427 8 1 44 1 13 10 28 3 31 2 21 1 13 21289 0 31 6124",
   "19 754 21773 6 1 16 2 6 1 1 1 4 2261 74 5 9 4 1 2107 17 142 0 830 0 41 0 300 1 33 2 546 5 1",
   "7 8 0 2 11 1 11 4 14 38 12"]

def version10 : NamedSet := .ofLines ["10.0", "v100"]
  ["2144 10 401 1 252 5 512 0 58 1 4026 0 254 3 709 0 831 0 2002 0 626 4 740 0 28327 20 25410 2",
   "5840 71 8 51 2 22 1 4 605 6 1 1 1 43 3 0 1 1 1 8 8 9 21127 0 16416 284 81 395 16228 5 1133",
   "1 34 1 519 11 19 0 8 7 1 1 25 0 18 12 38 5 56 22 54473 7472"]

def version11 : NamedSet := .ofLines ["11.0", "v110"]
  ["1376 0 39 0 102 0 525 2 211 0 298 0 119 0 397 0 127 0 3059 0 1047 42 2 2 3834 2 22 24 4 14",
   "587 4 736 0 28347 4 1983 0 8 1 324 1 24884 1 18 0 695 39 8 9 454 39 8 41 371 0 118 2 500 0",
   "290 0 699 0 229 59 609 0 706 5 1 1 1 36 1 1 1 5 7 9 310 24 20295 90 6482 4 19182 19 126 6",
   "6392 67 1146 0 1481 0 219 3 372 2 28 4 2 3 3 0 1 3 24 10 13 9 7 1 36 24 96 13"]

def version12 : NamedSet := .ofLines ["12.0", "v120"]
  ["3191 0 526 0 2 0 2 0 1 5 4 0 7 0 7 1 2 0 13 0 3647 0 3790 0 53 0 591 0 31082 5 2 4 927 1",
   "25720 22 1128 0 600 0 743 7 2 45 2 10 159 1 1338 49 13 0 5168 8 15116 5 4 0 47 8 90 1 6158",
   "5 10584 2 17 3 12184 44 3 13 2 9 4 1 368 57 5 0 1611 0 949 60 1070 0 1384 0 36 0 229 11 289",
   "2 47 0 49 0 9 0 41 5 3 1 10 5 3 7 2 2 48 83 28 3 4 2 5 2 13 5"]

def version12Point1 : NamedSet := .ofLines ["12.1", "v121"]
  ["13055 0"]

def version13 : NamedSet := .ofLines ["13.0", "v130"]
  ["2238 9 653 0 430 0 124 0 3389 1 4310 0 696 2 872 4 7158 9 21040 12 1994 3 42 1 53 0 827 3",
   "22064 0 3299 41 1 2 2 1 254 27 379 0 134 1 650 0 5 1 1182 6 2 0 2 7 1 1 1 29 1 1 2 11 9 9",
   "1622 0 20531 0 11 1 6913 482 42 8 25604 2 93 2 61 0 1320 1 35 1 435 1 90 0 101 0 4 1 42 1 6",
   "2 29 0 168 0 14 3 15 18 7 6 9 2 13 6 41 146 1 54 37 9 43741 6 22818 4938"]

def version14 : NamedSet := .ofLines ["14.0", "v140"]
  ["1565 0 594 30 1 1 6 7 21 0 18 10 873 0 32 0 127 0 2607 0 7 0 9 0 239 0 689 13 125 0 48 1",
   "635 0 709 0 2926 0 47 0 499 10 29087 2 1984 1 14 1 1 0 1 4 24 2 21453 0 381 15 127 0 46 1",
   "1904 10 1 14 1 6 1 1 1 10 1 14 1 6 1 1 451 5 1 41 1 8 1973 25 230 5 76 0 1526 0 134 6 873",
   "15 5328 98 14973 78 1 9 17702 3 1 6 1 1 288 3 7645 45 2 22 9 115 549 1 3349 30 881 30 1329",
   "6 1 3 1 1 1 14 3806 2 272 0 392 0 82 0 174 1 44 3 10 3 8 2 17 2 6 7 8 6 44007 1 4181 3"]

def version15 : NamedSet := .ofLines ["15.0", "v150"]
  ["3315 0 474 0 65582 2 831 2 2238 9 1014 16 1 40 3 27 5333 0 9 28 31964 0 34 0 8554 19 3153 5",
   "261 61 33 0 1088 41 4578 0 151 2 4 4 89 0 667 2 15 1 36 2 11 2 1 0 14 1 10 1 12 0 14 1",
   "48192 0 23574 4191"]

def version15Point1 : NamedSet := .ofLines ["15.1", "v151"]
  ["12284 3 495 0 178688 621"]

def version16 : NamedSet := .ofLines ["16.0", "v160"]
  ["2199 0 4790 1 47 0 265 1 1948 2 3514 1 30181 2 12 2 24035 51 1868 37 3 28 8 1 306 2 55 0",
   "1155 9 1 0 2 0 1 37 1 9 1 0 2 0 1 3 1 9 1 1 8 1 749 19 1244 33 14 9 864 0 5381 3994 7429 57",
   "3078 57 8069 0 16128 249 6 435 5916 42 4 0 4786 9 4 1 455 0 5 0 46 0 7 0 21 0 2 0 9 0 225 36"]

/-- The versions in order of time. -/
def all : List NamedSet :=
  [version1Point1, version2, version2Point1, version3, version3Point1, version3Point2,
   version4, version4Point1, version5, version5Point1, version5Point2, version6,
   version6Point1, version6Point2, version6Point3, version7, version8, version9,
   version10, version11, version12, version12Point1, version13, version14,
   version15, version15Point1, version16]

/-- The characters that the version of a normalized name has: its own and those of the versions
before it. -/
def upTo? (name : String) : Option CharSet :=
  (all.findIdx? (·.names.contains name)).map fun i =>
    .unionAll ((all.take (i + 1)).map (·.set))

end StreamSelect.Unicode.Age
