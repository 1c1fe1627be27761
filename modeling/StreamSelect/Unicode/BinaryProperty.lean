import StreamSelect.Unicode.NamedSet

/-! Binary properties of version 16 of the Unicode standard. -/
namespace StreamSelect.Unicode.BinaryProperty

def asciiHexDigit : NamedSet := .ofLines ["ahex", "asciihexdigit"]
  ["48 9 7 5 26 5"]

def alphabetic : NamedSet := .ofLines ["alpha", "alphabetic"]
  ["65 25 6 25 47 0 10 0 4 0 5 22 1 30 1 457 4 11 14 4 7 0 1 0 86 0 29 17 1 1 2 3 1 0 6 0 1 2 1",
   "0 1 19 1 82 1 138 8 165 1 37 2 0 6 40 39 13 1 0 1 1 1 1 1 0 8 26 4 3 29 10 5 55 1 6 14 101",
   "1 7 4 7 4 2 10 2 2 0 16 47 13 100 24 32 9 1 4 0 5 23 2 18 19 24 7 10 5 23 1 5 8 0 8 41 10",
   "11 3 6 6 75 1 15 1 2 4 14 13 18 1 7 2 1 2 21 1 6 1 0 3 3 3 7 2 1 2 1 1 0 8 0 4 1 1 4 12 1",
   "10 0 4 2 1 5 4 1 2 21 1 6 1 1 1 1 1 1 4 4 4 1 2 1 4 0 7 3 1 0 17 5 11 2 1 8 1 2 1 21 1 6 1",
   "1 1 4 3 8 1 2 1 1 3 0 15 3 21 3 4 2 1 7 2 1 2 21 1 6 1 1 1 4 3 7 2 1 2 1 9 1 4 1 1 4 13 0",
   "16 1 1 5 3 2 1 3 3 1 1 0 1 1 3 1 3 2 3 11 4 4 3 2 1 2 3 0 6 0 40 12 1 2 1 22 1 15 3 7 1 2 1",
   "2 8 1 1 2 2 0 2 3 28 3 1 7 1 2 1 22 1 9 1 4 3 7 1 2 1 2 8 1 6 1 1 3 13 2 12 12 1 2 1 40 2 7",
   "1 2 1 2 1 0 5 3 7 4 22 5 1 2 1 17 3 23 1 8 1 0 2 6 8 5 1 0 1 7 18 1 13 57 5 6 6 0 51 1 1 0",
   "1 4 1 23 1 0 1 18 1 2 2 4 1 0 6 0 14 3 32 0 63 7 1 35 4 18 4 15 1 35 67 54 1 0 2 4 16 63 10",
   "3 2 37 1 0 5 0 2 42 1 332 1 3 2 6 1 0 1 3 2 40 1 3 2 32 1 3 2 6 1 0 1 3 2 14 1 56 1 3 2 66",
   "37 15 16 85 2 5 3 619 2 16 1 25 5 74 3 10 7 19 11 20 12 19 12 12 1 2 1 1 12 51 2 18 14 0 4",
   "0 67 88 7 42 5 69 10 30 1 11 4 8 23 29 2 4 11 43 4 25 54 27 4 62 2 19 50 0 23 1 11 2 49 51",
   "1 14 1 7 51 41 2 3 10 43 1 10 14 54 22 2 10 35 2 10 5 42 2 2 41 3 1 5 1 1 3 0 5 191 19 33",
   "11 277 2 5 2 37 2 5 2 7 1 0 1 0 1 0 1 30 2 52 1 6 1 0 3 2 1 6 3 3 2 5 4 12 5 2 1 6 116 0 13",
   "0 16 12 101 0 4 0 2 9 1 0 3 4 6 0 1 0 1 0 1 3 1 10 2 3 5 4 4 0 17 40 813 51 1814 228 6 3 3",
   "1 12 37 1 0 5 0 2 55 7 0 16 22 9 6 1 6 1 6 1 6 1 6 1 6 1 6 1 6 1 31 47 0 469 2 25 8 7 4 2 4",
   "4 85 6 2 1 89 1 3 5 42 1 93 17 31 48 15 512 6591 64 22156 67 45 2 268 3 15 10 1 20 46 5 7 3",
   "112 39 8 2 102 2 66 2 1 1 0 1 7 21 19 1 32 24 51 12 67 1 0 44 5 3 0 1 2 10 32 5 34 13 28 3",
   "50 1 11 15 0 16 15 10 4 1 54 9 13 18 22 3 68 1 0 1 0 24 2 2 15 2 3 11 5 2 5 2 5 9 6 1 6 1",
   "42 1 13 6 122 21 11171 12 22 4 48 8452 365 2 105 38 6 12 4 5 11 1 12 1 4 1 0 1 1 1 1 1 107",
   "33 362 18 63 2 53 40 11 116 4 1 134 36 25 6 25 11 88 3 5 2 5 2 5 2 2 35 11 1 25 1 18 1 1 1",
   "14 2 13 34 122 69 52 267 28 3 48 47 31 13 29 5 42 5 29 2 35 4 7 1 4 42 157 18 35 4 35 4 39",
   "8 51 12 10 1 14 1 6 1 1 1 10 1 14 1 6 1 1 3 51 12 310 9 21 10 7 24 5 1 41 1 8 69 5 2 0 1 43",
   "1 1 3 0 2 22 10 22 9 30 65 18 1 1 10 21 10 25 70 55 6 1 64 3 1 1 5 7 1 2 1 28 42 28 3 28 35",
   "7 1 27 27 53 10 21 10 18 13 17 110 72 55 50 13 50 13 39 34 27 3 0 5 22 250 41 1 1 3 1 16 2",
   "55 0 3 28 10 0 8 21 42 17 46 20 27 22 9 69 43 4 10 56 9 0 13 24 23 50 17 3 8 34 3 0 9 63 1",
   "3 9 1 10 0 1 0 35 17 1 33 2 0 6 3 62 6 1 0 1 3 1 14 1 9 7 56 23 3 1 7 2 1 2 21 1 6 1 1 1 4",
   "3 7 2 1 2 1 3 0 6 0 5 6 28 9 1 0 2 0 1 37 1 9 1 0 2 0 1 3 1 1 3 0 1 0 44 65 1 2 1 3 20 2 30",
   "65 2 1 1 0 184 53 2 6 25 5 34 62 1 0 3 0 59 53 2 0 71 26 2 13 21 6 185 56 103 63 31 7 2 0 2",
   "7 1 1 1 29 1 1 2 1 2 3 93 7 2 45 2 5 1 0 1 1 27 50 2 9 17 71 5 0 18 72 199 32 31 8 1 44 1 6",
   "1 0 49 29 2 21 1 13 73 6 1 1 1 43 3 0 1 1 1 2 1 0 2 1 24 5 1 1 1 36 1 1 1 3 1 0 327 22 9 16",
   "1 40 3 2 111 0 79 921 102 110 17 195 2636 96 15 1071 17 5 25 3994 5 582 6841 46 1745 568 7",
   "30 17 78 17 29 18 47 16 3 31 20 5 18 432 44 211 63 128 74 4 56 7 16 64 1 1 0 12 1 14 6135 8",
   "1237 41 9 8935 3 1 6 1 1 1 290 15 0 29 2 2 0 14 3 8 395 2308 106 5 12 3 8 7 9 4 0 5985 84 1",
   "70 1 1 2 0 2 1 2 3 1 11 1 0 1 6 1 64 1 3 2 7 1 6 1 27 1 3 1 4 1 0 3 6 1 339 2 24 1 24 1 30",
   "1 24 1 30 1 24 1 30 1 24 1 30 1 24 1 7 1844 30 6 5 213 6 1 16 2 6 1 1 1 4 5 61 33 0 112 44",
   "10 6 16 0 321 29 18 43 484 27 228 29 2 0 495 6 1 3 1 1 1 14 1 196 59 67 3 0 3 0 1204 3 1 26",
   "1 1 1 0 2 0 1 9 1 3 1 0 1 0 6 0 4 0 1 0 1 0 1 2 1 1 1 0 2 0 1 0 1 0 1 0 1 0 1 1 1 0 2 3 1 6",
   "1 3 1 3 1 0 1 9 1 16 5 2 1 4 1 16 628 25 6 25 6 25 3702 42719 32 4153 6 221 2 5761 14 7472",
   "15 621 2466 541 1506 4938 5 4191"]

def bidiControl : NamedSet := .ofLines ["bidic", "bidicontrol"]
  ["1564 0 6641 1 26 4 55 3"]

def bidiMirrored : NamedSet := .ofLines ["bidim", "bidimirrored"]
  ["40 1 18 0 1 0 28 0 1 0 29 0 1 0 45 0 15 0 3710 3 1885 1 2460 1 10 1 54 1 14 1 177 0 192 3 3",
   "5 3 0 3 1 3 3 1 3 1 0 1 0 4 8 5 0 1 17 5 3 9 1 1 0 1 7 1 31 2 3 5 0 9 1 2 18 5 1 9 4 2 1 4",
   "23 2 15 8 3 20 1 7 1 1085 13 74 0 2 3 1 1 1 2 5 3 5 2 3 13 403 21 2 5 1 13 8 0 7 5 3 0 4 4",
   "1 1 2 4 4 0 1 2 2 1 10 5 2 1 12 18 1 3 2 0 1 0 2 0 1 3 5 1 6 2 24 1 11 1 4 3 1 1 2 1 4 42 2",
   "7 1 39 5 0 1 0 3 4 5 2 4 0 3 4 1 0 256 0 515 3 3 1 1 1 14 1 2 9 43 7 427 9 2 7 52797 5 5 1",
   "162 1 18 0 1 0 28 0 1 0 29 0 1 0 1 1 1 1 55159 0 57 0 57 0 57 0 57 0"]

def caseIgnorable : NamedSet := .ofLines ["caseignorable", "ci"]
  ["39 0 6 0 11 0 35 0 1 0 71 0 4 0 1 0 4 0 2 1 503 191 4 1 4 0 9 1 1 0 251 6 207 0 5 0 49 44 1",
   "0 1 1 1 1 1 0 44 0 11 5 10 10 1 0 35 0 10 20 16 0 101 7 1 9 1 3 33 0 1 0 30 26 91 10 58 10",
   "4 0 2 0 24 23 43 2 44 0 7 1 5 8 41 57 55 0 1 0 4 7 4 0 3 6 10 1 13 0 15 0 58 0 4 3 8 0 20 1",
   "26 0 2 1 57 0 4 1 4 1 2 2 3 0 30 1 3 0 11 1 57 0 4 4 1 1 4 0 20 1 22 5 1 0 58 0 2 0 1 3 8 0",
   "7 1 11 1 30 0 61 0 12 0 50 0 3 0 55 0 1 2 5 2 1 3 7 1 11 1 29 0 58 0 2 0 6 0 5 1 20 1 28 1",
   "57 1 4 3 8 0 20 1 29 0 72 0 7 2 1 0 90 0 2 6 11 8 98 0 2 8 9 0 1 6 73 1 27 0 1 0 1 0 55 13",
   "1 4 1 1 5 10 1 35 9 0 102 3 1 5 1 1 2 1 25 1 4 2 16 3 13 0 2 1 6 0 15 0 94 0 608 2 946 2 29",
   "1 30 1 30 1 64 1 1 6 8 0 2 10 3 0 5 0 45 4 51 0 65 1 34 0 118 2 4 1 9 0 6 2 219 1 2 0 58 0",
   "1 6 1 0 1 0 2 7 6 9 2 0 39 0 8 30 49 3 48 0 1 4 1 0 5 0 40 8 12 1 32 3 2 1 1 2 56 0 1 1 3 0",
   "1 2 58 7 2 1 64 5 82 2 1 12 1 6 4 0 6 0 3 1 50 62 13 0 34 100 445 0 1 2 11 2 13 2 13 2 13 1",
   "12 4 8 1 10 0 2 0 2 4 49 4 1 9 1 0 13 0 16 12 51 32 2955 1 113 2 125 0 15 0 96 31 47 0 469",
   "0 36 3 3 4 5 0 93 5 93 2 28438 0 1250 5 270 0 98 3 1 9 1 0 28 3 80 1 14 33 78 0 23 2 103 2",
   "3 1 8 0 3 0 4 0 25 1 5 0 151 1 26 17 13 0 38 7 25 10 46 2 48 0 2 3 2 1 17 0 21 1 66 5 2 1 2",
   "1 12 0 8 0 35 0 11 0 51 0 1 2 2 1 5 1 1 0 27 0 14 1 5 1 1 0 100 4 9 2 121 0 2 0 4 0 20272 0",
   "147 16 573 15 3 0 12 15 34 0 2 0 169 0 7 0 6 0 11 0 35 0 1 0 47 0 45 1 67 0 21 2 513 0 226",
   "0 149 4 1029 5 1 41 1 8 582 2 1 1 5 3 40 2 4 0 165 1 573 3 38 0 26 4 1 0 315 1 79 3 70 10",
   "49 3 123 0 54 14 41 0 2 1 10 2 49 3 2 1 2 0 4 0 10 0 50 2 36 4 1 7 62 0 12 1 52 8 10 3 2 0",
   "95 2 2 0 1 1 6 0 2 0 157 0 3 7 21 1 57 1 3 0 37 6 3 4 70 5 13 0 1 0 1 0 14 1 85 7 2 2 1 0",
   "23 0 84 5 1 0 4 1 1 1 238 3 6 1 1 1 27 1 85 7 2 0 1 1 106 0 1 0 2 5 1 0 101 0 1 0 2 3 1 4",
   "259 8 1 1 256 1 1 0 4 0 144 3 2 1 4 0 32 9 40 5 2 3 8 0 9 5 2 2 46 12 1 1 406 6 1 5 1 0 82",
   "21 2 6 1 1 1 1 122 5 3 0 1 1 1 6 1 0 72 1 3 0 1 0 347 1 11 1 52 4 5 0 1 0 23 0 5333 16 6 14",
   "11464 11 3 2 2496 4 59 6 9 3 508 2 40 1 482 0 63 16 64 1 1 1 16395 3 1 6 1 1 3230 1 1 3",
   "4700 45 2 22 544 2 9 15 2 6 30 3 148 2 1979 54 4 49 8 0 14 0 22 4 1 14 1360 6 1 16 2 6 1 1",
   "1 4 5 61 33 0 160 13 368 0 61 3 507 4 254 1 736 6 109 7 2735 4 789505 0 30 95 128 239"]

def cased : NamedSet := .ofLines ["cased"]
  ["65 25 6 25 47 0 10 0 4 0 5 22 1 30 1 194 1 3 4 207 1 35 7 1 30 4 96 0 42 3 2 1 2 3 1 0 6 0",
   "1 2 1 0 1 19 1 82 1 138 8 165 1 37 9 40 2839 37 1 0 5 0 2 42 1 3 672 85 2 5 2178 10 5 42 2",
   "2 64 191 64 277 2 5 2 37 2 5 2 7 1 0 1 0 1 0 1 30 2 52 1 6 1 0 3 2 1 6 3 3 2 5 4 12 5 2 1 6",
   "116 0 13 0 16 12 101 0 4 0 2 9 1 0 3 4 6 0 1 0 1 0 1 3 1 5 4 0 2 3 5 4 4 0 17 31 3 1 817 51",
   "1814 228 6 3 3 1 12 37 1 0 5 0 30994 45 18 29 132 101 3 3 1 61 2 1 1 0 1 7 21 4 1 2 821 42",
   "1 13 6 79 20288 6 12 4 1033 25 6 25 1189 79 96 35 4 35 116 10 1 14 1 6 1 1 1 10 1 14 1 6 1",
   "1 451 0 2 2 1 41 1 8 1221 50 13 50 93 21 10 21 2842 63 21856 63 25984 84 1 70 1 1 2 0 2 1 2",
   "3 1 11 1 0 1 6 1 64 1 3 2 7 1 6 1 27 1 3 1 4 1 0 3 6 1 339 2 24 1 24 1 30 1 24 1 30 1 24 1",
   "30 1 24 1 30 1 24 1 7 1844 9 1 19 6 5 261 61 2194 67 2028 25 6 25 6 25"]

def changesWhenCasefolded : NamedSet := .ofLines ["changeswhencasefolded", "cwcf"]
  ["65 25 90 0 10 22 1 7 32 0 1 0 1 0 1 0 1 0 1 0 1 0 1 0 1 0 1 0 1 0 1 0 1 0 1 0 1 0 1 0 1 0 1",
   "0 1 0 1 0 1 0 1 0 1 0 1 0 1 0 1 0 1 0 1 0 2 0 1 0 1 0 1 0 1 0 1 0 1 0 1 0 1 1 1 0 1 0 1 0 1",
   "0 1 0 1 0 1 0 1 0 1 0 1 0 1 0 1 0 1 0 1 0 1 0 1 0 1 0 1 0 1 0 1 0 1 0 1 0 1 1 1 0 1 0 1 0 1",
   "1 1 0 1 1 1 2 2 3 1 1 1 2 3 1 1 1 1 0 1 0 1 1 1 0 2 0 1 1 1 2 1 0 1 1 3 0 7 1 1 1 1 1 1 0 1",
   "0 1 0 1 0 1 0 1 0 1 0 1 0 2 0 1 0 1 0 1 0 1 0 1 0 1 0 1 0 1 0 2 1 1 0 1 2 1 0 1 0 1 0 1 0 1",
   "0 1 0 1 0 1 0 1 0 1 0 1 0 1 0 1 0 1 0 1 0 1 0 1 0 1 0 1 0 1 0 1 0 1 0 1 0 1 0 1 0 1 0 1 0 1",
   "0 1 0 7 1 1 1 2 0 1 3 1 0 1 0 1 0 1 0 246 0 42 0 1 0 3 0 8 0 6 0 1 2 1 0 1 1 1 16 1 8 22 0",
   "12 2 3 1 1 0 1 0 1 0 1 0 1 0 1 0 1 0 1 0 1 0 1 0 1 0 1 0 1 1 2 1 1 0 1 1 2 50 48 0 1 0 1 0",
   "1 0 1 0 1 0 1 0 1 0 1 0 1 0 1 0 1 0 1 0 1 0 1 0 1 0 1 0 9 0 1 0 1 0 1 0 1 0 1 0 1 0 1 0 1 0",
   "1 0 1 0 1 0 1 0 1 0 1 0 1 0 1 0 1 0 1 0 1 0 1 0 1 0 1 0 1 0 1 0 1 0 1 0 1 1 1 0 1 0 1 0 1 0",
   "1 0 1 0 2 0 1 0 1 0 1 0 1 0 1 0 1 0 1 0 1 0 1 0 1 0 1 0 1 0 1 0 1 0 1 0 1 0 1 0 1 0 1 0 1 0",
   "1 0 1 0 1 0 1 0 1 0 1 0 1 0 1 0 1 0 1 0 1 0 1 0 1 0 1 0 1 0 1 0 1 0 1 0 1 0 1 0 1 0 1 0 1 0",
   "1 0 1 0 1 0 1 0 2 37 48 0 2840 37 1 0 5 0 810 5 2178 9 6 42 2 2 320 0 1 0 1 0 1 0 1 0 1 0 1",
   "0 1 0 1 0 1 0 1 0 1 0 1 0 1 0 1 0 1 0 1 0 1 0 1 0 1 0 1 0 1 0 1 0 1 0 1 0 1 0 1 0 1 0 1 0 1",
   "0 1 0 1 0 1 0 1 0 1 0 1 0 1 0 1 0 1 0 1 0 1 0 1 0 1 0 1 0 1 0 1 0 1 0 1 0 1 0 1 0 1 0 1 0 1",
   "0 1 0 1 0 1 0 1 0 1 0 1 0 1 0 1 0 1 0 1 0 1 0 1 0 1 0 1 0 1 0 1 0 1 0 1 0 1 0 1 0 1 0 1 0 5",
   "1 2 0 1 0 1 0 1 0 1 0 1 0 1 0 1 0 1 0 1 0 1 0 1 0 1 0 1 0 1 0 1 0 1 0 1 0 1 0 1 0 1 0 1 0 1",
   "0 1 0 1 0 1 0 1 0 1 0 1 0 1 0 1 0 1 0 1 0 1 0 1 0 1 0 1 0 1 0 1 0 1 0 1 0 1 0 1 0 1 0 1 0 1",
   "0 1 0 1 0 1 0 9 7 8 5 10 7 8 7 8 5 11 0 1 0 1 0 1 0 8 7 16 47 2 2 2 5 5 2 2 5 11 3 12 4 5 2",
   "2 5 297 0 3 1 6 0 45 15 19 0 818 25 1840 47 48 0 1 2 2 0 1 0 1 0 1 3 1 0 2 0 8 2 1 0 1 0 1",
   "0 1 0 1 0 1 0 1 0 1 0 1 0 1 0 1 0 1 0 1 0 1 0 1 0 1 0 1 0 1 0 1 0 1 0 1 0 1 0 1 0 1 0 1 0 1",
   "0 1 0 1 0 1 0 1 0 1 0 1 0 1 0 1 0 1 0 1 0 1 0 1 0 1 0 1 0 1 0 1 0 1 0 1 0 1 0 1 0 1 0 1 0 1",
   "0 8 0 1 0 4 0 31053 0 1 0 1 0 1 0 1 0 1 0 1 0 1 0 1 0 1 0 1 0 1 0 1 0 1 0 1 0 1 0 1 0 1 0 1",
   "0 1 0 1 0 1 0 1 0 19 0 1 0 1 0 1 0 1 0 1 0 1 0 1 0 1 0 1 0 1 0 1 0 1 0 1 0 135 0 1 0 1 0 1",
   "0 1 0 1 0 1 0 3 0 1 0 1 0 1 0 1 0 1 0 1 0 1 0 1 0 1 0 1 0 1 0 1 0 1 0 1 0 1 0 1 0 1 0 1 0 1",
   "0 1 0 1 0 1 0 1 0 1 0 1 0 1 0 1 0 1 0 1 0 1 0 10 0 1 0 1 1 1 0 1 0 1 0 1 0 4 0 1 0 2 0 1 0",
   "3 0 1 0 1 0 1 0 1 0 1 0 1 0 1 0 1 0 1 0 1 4 1 4 1 0 1 0 1 0 1 0 1 0 1 0 1 0 1 3 1 0 1 1 3 0",
   "5 0 1 0 1 0 1 0 24 0 890 79 20288 6 12 4 1033 25 1221 39 136 35 156 10 1 14 1 6 1 1 1770 50",
   "157 21 2874 31 21888 31 31392 33"]

def changesWhenCasemapped : NamedSet := .ofLines ["changeswhencasemapped", "cwcm"]
  ["65 25 6 25 58 0 10 22 1 30 1 63 1 83 1 27 2 13 2 1 1 0 4 92 1 17 6 26 1 1 1 0 1 1 3 1 1 3 1",
   "4 2 0 1 1 2 0 7 0 2 0 1 1 3 5 5 0 10 1 166 0 42 3 2 1 3 2 1 0 6 0 1 2 1 0 1 19 1 46 3 32 1",
   "4 1 132 8 165 1 37 10 38 2840 37 1 0 5 0 2 42 2 2 672 85 2 5 2178 10 5 42 2 2 185 0 3 0 16",
   "0 113 155 2 0 1 117 2 5 2 37 2 5 2 7 1 0 1 0 1 0 1 30 2 52 1 6 1 0 3 2 1 6 3 3 2 5 4 12 5 2",
   "1 6 297 0 3 1 6 0 27 0 17 31 3 1 817 51 1814 112 1 1 1 1 7 101 7 3 3 1 12 37 1 0 5 0 30994",
   "45 18 27 134 13 2 61 9 14 3 2 2 4 1 24 1 29 2 1 4 6 24 1 860 0 28 79 20288 6 12 4 1033 25 6",
   "25 1189 79 96 35 4 35 116 10 1 14 1 6 1 1 1 10 1 14 1 6 1 1 1731 50 13 50 93 21 10 21 2842",
   "63 21856 63 31360 67"]

def changesWhenLowercased : NamedSet := .ofLines ["changeswhenlowercased", "cwl"]
  ["65 25 101 22 1 6 33 0 1 0 1 0 1 0 1 0 1 0 1 0 1 0 1 0 1 0 1 0 1 0 1 0 1 0 1 0 1 0 1 0 1 0 1",
   "0 1 0 1 0 1 0 1 0 1 0 1 0 1 0 1 0 1 0 2 0 1 0 1 0 1 0 1 0 1 0 1 0 1 0 2 0 1 0 1 0 1 0 1 0 1",
   "0 1 0 1 0 1 0 1 0 1 0 1 0 1 0 1 0 1 0 1 0 1 0 1 0 1 0 1 0 1 0 1 0 1 0 1 1 1 0 1 0 3 1 1 0 1",
   "1 1 2 2 3 1 1 1 2 3 1 1 1 1 0 1 0 1 1 1 0 2 0 1 1 1 2 1 0 1 1 3 0 7 1 1 1 1 1 1 0 1 0 1 0 1",
   "0 1 0 1 0 1 0 1 0 2 0 1 0 1 0 1 0 1 0 1 0 1 0 1 0 1 0 2 1 1 0 1 2 1 0 1 0 1 0 1 0 1 0 1 0 1",
   "0 1 0 1 0 1 0 1 0 1 0 1 0 1 0 1 0 1 0 1 0 1 0 1 0 1 0 1 0 1 0 1 0 1 0 1 0 1 0 1 0 1 0 1 0 7",
   "1 1 1 2 0 1 3 1 0 1 0 1 0 1 0 289 0 1 0 3 0 8 0 6 0 1 2 1 0 1 1 1 16 1 8 35 0 8 0 1 0 1 0 1",
   "0 1 0 1 0 1 0 1 0 1 0 1 0 1 0 1 0 5 0 2 0 1 1 2 50 48 0 1 0 1 0 1 0 1 0 1 0 1 0 1 0 1 0 1 0",
   "1 0 1 0 1 0 1 0 1 0 1 0 1 0 9 0 1 0 1 0 1 0 1 0 1 0 1 0 1 0 1 0 1 0 1 0 1 0 1 0 1 0 1 0 1 0",
   "1 0 1 0 1 0 1 0 1 0 1 0 1 0 1 0 1 0 1 0 1 0 1 1 1 0 1 0 1 0 1 0 1 0 1 0 2 0 1 0 1 0 1 0 1 0",
   "1 0 1 0 1 0 1 0 1 0 1 0 1 0 1 0 1 0 1 0 1 0 1 0 1 0 1 0 1 0 1 0 1 0 1 0 1 0 1 0 1 0 1 0 1 0",
   "1 0 1 0 1 0 1 0 1 0 1 0 1 0 1 0 1 0 1 0 1 0 1 0 1 0 1 0 1 0 1 0 1 0 1 0 1 0 1 0 2 37 2889",
   "37 1 0 5 0 722 85 2195 0 6 42 2 2 320 0 1 0 1 0 1 0 1 0 1 0 1 0 1 0 1 0 1 0 1 0 1 0 1 0 1 0",
   "1 0 1 0 1 0 1 0 1 0 1 0 1 0 1 0 1 0 1 0 1 0 1 0 1 0 1 0 1 0 1 0 1 0 1 0 1 0 1 0 1 0 1 0 1 0",
   "1 0 1 0 1 0 1 0 1 0 1 0 1 0 1 0 1 0 1 0 1 0 1 0 1 0 1 0 1 0 1 0 1 0 1 0 1 0 1 0 1 0 1 0 1 0",
   "1 0 1 0 1 0 1 0 1 0 1 0 1 0 1 0 1 0 1 0 1 0 1 0 1 0 1 0 1 0 9 0 1 0 1 0 1 0 1 0 1 0 1 0 1 0",
   "1 0 1 0 1 0 1 0 1 0 1 0 1 0 1 0 1 0 1 0 1 0 1 0 1 0 1 0 1 0 1 0 1 0 1 0 1 0 1 0 1 0 1 0 1 0",
   "1 0 1 0 1 0 1 0 1 0 1 0 1 0 1 0 1 0 1 0 1 0 1 0 1 0 1 0 1 0 1 0 1 0 1 0 9 7 8 5 10 7 8 7 8",
   "5 11 0 1 0 1 0 1 0 8 7 24 7 8 7 8 7 8 4 11 4 11 3 12 4 11 4 297 0 3 1 6 0 45 15 19 0 818 25",
   "1840 47 48 0 1 2 2 0 1 0 1 0 1 3 1 0 2 0 8 2 1 0 1 0 1 0 1 0 1 0 1 0 1 0 1 0 1 0 1 0 1 0 1",
   "0 1 0 1 0 1 0 1 0 1 0 1 0 1 0 1 0 1 0 1 0 1 0 1 0 1 0 1 0 1 0 1 0 1 0 1 0 1 0 1 0 1 0 1 0 1",
   "0 1 0 1 0 1 0 1 0 1 0 1 0 1 0 1 0 1 0 1 0 1 0 1 0 1 0 1 0 8 0 1 0 4 0 31053 0 1 0 1 0 1 0 1",
   "0 1 0 1 0 1 0 1 0 1 0 1 0 1 0 1 0 1 0 1 0 1 0 1 0 1 0 1 0 1 0 1 0 1 0 1 0 19 0 1 0 1 0 1 0",
   "1 0 1 0 1 0 1 0 1 0 1 0 1 0 1 0 1 0 1 0 135 0 1 0 1 0 1 0 1 0 1 0 1 0 3 0 1 0 1 0 1 0 1 0 1",
   "0 1 0 1 0 1 0 1 0 1 0 1 0 1 0 1 0 1 0 1 0 1 0 1 0 1 0 1 0 1 0 1 0 1 0 1 0 1 0 1 0 1 0 1 0 1",
   "0 1 0 1 0 10 0 1 0 1 1 1 0 1 0 1 0 1 0 4 0 1 0 2 0 1 0 3 0 1 0 1 0 1 0 1 0 1 0 1 0 1 0 1 0",
   "1 0 1 4 1 4 1 0 1 0 1 0 1 0 1 0 1 0 1 0 1 3 1 0 1 1 3 0 5 0 1 0 1 0 1 0 24 0 22315 25 1221",
   "39 136 35 156 10 1 14 1 6 1 1 1770 50 157 21 2874 31 21888 31 31392 33"]

def changesWhenTitlecased : NamedSet := .ofLines ["changeswhentitlecased", "cwt"]
  ["97 25 58 0 41 23 1 7 1 0 1 0 1 0 1 0 1 0 1 0 1 0 1 0 1 0 1 0 1 0 1 0 1 0 1 0 1 0 1 0 1 0 1",
   "0 1 0 1 0 1 0 1 0 1 0 1 0 1 0 1 0 1 0 1 0 2 0 1 0 1 0 1 0 1 0 1 0 1 0 1 1 1 0 1 0 1 0 1 0 1",
   "0 1 0 1 0 1 0 1 0 1 0 1 0 1 0 1 0 1 0 1 0 1 0 1 0 1 0 1 0 1 0 1 0 1 0 1 0 2 0 1 0 1 2 2 0 1",
   "0 2 0 3 0 5 0 2 0 3 2 2 0 2 0 1 0 1 0 2 0 4 0 2 0 3 0 1 0 2 0 3 0 1 0 4 0 1 1 1 1 1 0 1 0 1",
   "0 1 0 1 0 1 0 1 0 1 0 1 1 1 0 1 0 1 0 1 0 1 0 1 0 1 0 1 0 1 2 1 0 1 0 3 0 1 0 1 0 1 0 1 0 1",
   "0 1 0 1 0 1 0 1 0 1 0 1 0 1 0 1 0 1 0 1 0 1 0 1 0 1 0 1 0 3 0 1 0 1 0 1 0 1 0 1 0 1 0 1 0 1",
   "0 8 0 2 1 1 0 4 0 1 0 1 0 1 0 1 5 1 1 1 0 1 1 3 1 1 3 1 4 2 0 1 1 2 0 7 0 2 0 1 1 3 5 5 0",
   "10 1 166 0 43 0 1 0 3 0 3 2 18 0 27 34 1 1 3 2 1 0 1 0 1 0 1 0 1 0 1 0 1 0 1 0 1 0 1 0 1 0",
   "1 4 1 0 2 0 2 0 52 47 1 0 1 0 1 0 1 0 1 0 1 0 1 0 1 0 1 0 1 0 1 0 1 0 1 0 1 0 1 0 1 0 1 0 9",
   "0 1 0 1 0 1 0 1 0 1 0 1 0 1 0 1 0 1 0 1 0 1 0 1 0 1 0 1 0 1 0 1 0 1 0 1 0 1 0 1 0 1 0 1 0 1",
   "0 1 0 1 0 1 0 2 0 1 0 1 0 1 0 1 0 1 0 1 1 1 0 1 0 1 0 1 0 1 0 1 0 1 0 1 0 1 0 1 0 1 0 1 0 1",
   "0 1 0 1 0 1 0 1 0 1 0 1 0 1 0 1 0 1 0 1 0 1 0 1 0 1 0 1 0 1 0 1 0 1 0 1 0 1 0 1 0 1 0 1 0 1",
   "0 1 0 1 0 1 0 1 0 1 0 1 0 1 0 1 0 1 0 1 0 1 0 1 0 49 38 3696 5 2178 8 1 0 238 0 3 0 16 0",
   "114 0 1 0 1 0 1 0 1 0 1 0 1 0 1 0 1 0 1 0 1 0 1 0 1 0 1 0 1 0 1 0 1 0 1 0 1 0 1 0 1 0 1 0 1",
   "0 1 0 1 0 1 0 1 0 1 0 1 0 1 0 1 0 1 0 1 0 1 0 1 0 1 0 1 0 1 0 1 0 1 0 1 0 1 0 1 0 1 0 1 0 1",
   "0 1 0 1 0 1 0 1 0 1 0 1 0 1 0 1 0 1 0 1 0 1 0 1 0 1 0 1 0 1 0 1 0 1 0 1 0 1 0 1 0 1 0 1 0 1",
   "0 1 0 1 0 1 0 1 0 1 0 1 6 5 0 1 0 1 0 1 0 1 0 1 0 1 0 1 0 1 0 1 0 1 0 1 0 1 0 1 0 1 0 1 0 1",
   "0 1 0 1 0 1 0 1 0 1 0 1 0 1 0 1 0 1 0 1 0 1 0 1 0 1 0 1 0 1 0 1 0 1 0 1 0 1 0 1 0 1 0 1 0 1",
   "0 1 0 1 0 1 0 1 0 1 0 1 0 1 0 1 8 8 5 10 7 8 7 8 5 10 7 8 7 8 13 2 7 8 7 8 7 8 4 1 1 6 0 3",
   "2 1 1 8 3 2 1 8 7 10 2 1 1 342 0 33 15 4 0 843 25 1862 47 1 0 3 1 1 0 1 0 1 0 6 0 2 0 10 0",
   "1 0 1 0 1 0 1 0 1 0 1 0 1 0 1 0 1 0 1 0 1 0 1 0 1 0 1 0 1 0 1 0 1 0 1 0 1 0 1 0 1 0 1 0 1 0",
   "1 0 1 0 1 0 1 0 1 0 1 0 1 0 1 0 1 0 1 0 1 0 1 0 1 0 1 0 1 0 1 0 1 0 1 0 1 0 1 0 1 0 1 0 1 0",
   "1 0 1 0 1 0 8 0 1 0 4 0 12 37 1 0 5 0 30995 0 1 0 1 0 1 0 1 0 1 0 1 0 1 0 1 0 1 0 1 0 1 0 1",
   "0 1 0 1 0 1 0 1 0 1 0 1 0 1 0 1 0 1 0 1 0 19 0 1 0 1 0 1 0 1 0 1 0 1 0 1 0 1 0 1 0 1 0 1 0",
   "1 0 1 0 135 0 1 0 1 0 1 0 1 0 1 0 1 0 3 0 1 0 1 0 1 0 1 0 1 0 1 0 1 0 1 0 1 0 1 0 1 0 1 0 1",
   "0 1 0 1 0 1 0 1 0 1 0 1 0 1 0 1 0 1 0 1 0 1 0 1 0 1 0 1 0 1 0 1 0 1 0 10 0 1 0 2 0 1 0 1 0",
   "1 0 1 0 4 0 4 0 1 1 2 0 1 0 1 0 1 0 1 0 1 0 1 0 1 0 1 0 1 0 11 0 1 0 1 0 1 0 1 0 1 0 1 0 1",
   "0 4 0 1 0 2 0 3 0 5 0 1 0 1 0 26 0 860 0 28 79 20288 6 12 4 1065 25 1229 39 136 35 155 10 1",
   "14 1 6 1 1 1795 50 125 21 2874 31 21888 31 31394 33"]

def changesWhenUppercased : NamedSet := .ofLines ["changeswhenuppercased", "cwu"]
  ["97 25 58 0 41 23 1 7 1 0 1 0 1 0 1 0 1 0 1 0 1 0 1 0 1 0 1 0 1 0 1 0 1 0 1 0 1 0 1 0 1 0 1",
   "0 1 0 1 0 1 0 1 0 1 0 1 0 1 0 1 0 1 0 1 0 2 0 1 0 1 0 1 0 1 0 1 0 1 0 1 1 1 0 1 0 1 0 1 0 1",
   "0 1 0 1 0 1 0 1 0 1 0 1 0 1 0 1 0 1 0 1 0 1 0 1 0 1 0 1 0 1 0 1 0 1 0 1 0 2 0 1 0 1 2 2 0 1",
   "0 2 0 3 0 5 0 2 0 3 2 2 0 2 0 1 0 1 0 2 0 4 0 2 0 3 0 1 0 2 0 3 0 1 0 5 1 1 1 1 1 1 0 1 0 1",
   "0 1 0 1 0 1 0 1 0 1 1 1 0 1 0 1 0 1 0 1 0 1 0 1 0 1 0 1 1 1 1 1 0 3 0 1 0 1 0 1 0 1 0 1 0 1",
   "0 1 0 1 0 1 0 1 0 1 0 1 0 1 0 1 0 1 0 1 0 1 0 1 0 1 0 3 0 1 0 1 0 1 0 1 0 1 0 1 0 1 0 1 0 8",
   "0 2 1 1 0 4 0 1 0 1 0 1 0 1 5 1 1 1 0 1 1 3 1 1 3 1 4 2 0 1 1 2 0 7 0 2 0 1 1 3 5 5 0 10 1",
   "166 0 43 0 1 0 3 0 3 2 18 0 27 34 1 1 3 2 1 0 1 0 1 0 1 0 1 0 1 0 1 0 1 0 1 0 1 0 1 0 1 4 1",
   "0 2 0 2 0 52 47 1 0 1 0 1 0 1 0 1 0 1 0 1 0 1 0 1 0 1 0 1 0 1 0 1 0 1 0 1 0 1 0 1 0 9 0 1 0",
   "1 0 1 0 1 0 1 0 1 0 1 0 1 0 1 0 1 0 1 0 1 0 1 0 1 0 1 0 1 0 1 0 1 0 1 0 1 0 1 0 1 0 1 0 1 0",
   "1 0 1 0 2 0 1 0 1 0 1 0 1 0 1 0 1 1 1 0 1 0 1 0 1 0 1 0 1 0 1 0 1 0 1 0 1 0 1 0 1 0 1 0 1 0",
   "1 0 1 0 1 0 1 0 1 0 1 0 1 0 1 0 1 0 1 0 1 0 1 0 1 0 1 0 1 0 1 0 1 0 1 0 1 0 1 0 1 0 1 0 1 0",
   "1 0 1 0 1 0 1 0 1 0 1 0 1 0 1 0 1 0 1 0 1 0 49 38 2888 42 2 2 760 5 2178 8 1 0 238 0 3 0 16",
   "0 114 0 1 0 1 0 1 0 1 0 1 0 1 0 1 0 1 0 1 0 1 0 1 0 1 0 1 0 1 0 1 0 1 0 1 0 1 0 1 0 1 0 1 0",
   "1 0 1 0 1 0 1 0 1 0 1 0 1 0 1 0 1 0 1 0 1 0 1 0 1 0 1 0 1 0 1 0 1 0 1 0 1 0 1 0 1 0 1 0 1 0",
   "1 0 1 0 1 0 1 0 1 0 1 0 1 0 1 0 1 0 1 0 1 0 1 0 1 0 1 0 1 0 1 0 1 0 1 0 1 0 1 0 1 0 1 0 1 0",
   "1 0 1 0 1 0 1 0 1 0 1 0 1 6 5 0 1 0 1 0 1 0 1 0 1 0 1 0 1 0 1 0 1 0 1 0 1 0 1 0 1 0 1 0 1 0",
   "1 0 1 0 1 0 1 0 1 0 1 0 1 0 1 0 1 0 1 0 1 0 1 0 1 0 1 0 1 0 1 0 1 0 1 0 1 0 1 0 1 0 1 0 1 0",
   "1 0 1 0 1 0 1 0 1 0 1 0 1 0 1 0 1 8 8 5 10 7 8 7 8 5 10 7 8 7 8 13 2 52 1 1 4 0 1 0 3 2 1 1",
   "4 0 3 3 2 1 8 7 10 2 1 1 4 0 337 0 33 15 4 0 843 25 1862 47 1 0 3 1 1 0 1 0 1 0 6 0 2 0 10",
   "0 1 0 1 0 1 0 1 0 1 0 1 0 1 0 1 0 1 0 1 0 1 0 1 0 1 0 1 0 1 0 1 0 1 0 1 0 1 0 1 0 1 0 1 0 1",
   "0 1 0 1 0 1 0 1 0 1 0 1 0 1 0 1 0 1 0 1 0 1 0 1 0 1 0 1 0 1 0 1 0 1 0 1 0 1 0 1 0 1 0 1 0 1",
   "0 1 0 1 0 1 0 8 0 1 0 4 0 12 37 1 0 5 0 30995 0 1 0 1 0 1 0 1 0 1 0 1 0 1 0 1 0 1 0 1 0 1 0",
   "1 0 1 0 1 0 1 0 1 0 1 0 1 0 1 0 1 0 1 0 1 0 19 0 1 0 1 0 1 0 1 0 1 0 1 0 1 0 1 0 1 0 1 0 1",
   "0 1 0 1 0 135 0 1 0 1 0 1 0 1 0 1 0 1 0 3 0 1 0 1 0 1 0 1 0 1 0 1 0 1 0 1 0 1 0 1 0 1 0 1 0",
   "1 0 1 0 1 0 1 0 1 0 1 0 1 0 1 0 1 0 1 0 1 0 1 0 1 0 1 0 1 0 1 0 1 0 1 0 10 0 1 0 2 0 1 0 1",
   "0 1 0 1 0 4 0 4 0 1 1 2 0 1 0 1 0 1 0 1 0 1 0 1 0 1 0 1 0 1 0 11 0 1 0 1 0 1 0 1 0 1 0 1 0",
   "1 0 4 0 1 0 2 0 3 0 5 0 1 0 1 0 26 0 860 0 28 79 20288 6 12 4 1065 25 1229 39 136 35 155 10",
   "1 14 1 6 1 1 1795 50 125 21 2874 31 21888 31 31394 33"]

def dash : NamedSet := .ofLines ["dash"]
  ["45 0 1372 0 51 0 3649 0 1029 0 2057 5 61 0 39 0 15 0 390 0 3076 0 2 0 31 1 4 0 28 0 446 0",
   "19 0 111 0 52624 1 37 0 10 0 169 0 3680 0 318 0"]

def defaultIgnorableCodePoint : NamedSet := .ofLines ["defaultignorablecodepoint", "di"]
  ["173 0 673 0 716 0 2882 1 1619 1 85 4 2043 4 26 4 49 15 4340 0 52379 15 239 0 160 0 79 8",
   "48295 3 5327 7 798341 4095"]

def deprecated : NamedSet := .ofLines ["dep", "deprecated"]
  ["329 0 1321 0 2307 0 1 0 2089 1 2245 5 697 1 908502 0"]

def diacritic : NamedSet := .ofLines ["dia", "diacritic"]
  ["94 0 1 0 71 0 6 0 4 0 2 1 503 158 1 7 5 5 17 1 4 0 9 1 253 4 209 0 55 16 1 26 1 0 1 1 1 0",
   "134 7 4 1 134 1 4 1 3 2 67 26 91 10 58 10 34 1 126 7 41 9 16 27 61 0 16 0 3 3 28 0 74 0 16",
   "0 110 0 16 0 110 0 16 0 47 2 60 0 16 0 7 0 119 0 110 0 16 0 110 0 16 0 109 1 16 0 124 0 111",
   "0 12 5 1 0 107 0 13 4 75 1 27 0 1 0 1 0 4 1 66 2 1 1 62 0 112 0 1 1 40 1 4 4 25 6 1 0 10 1",
   "705 2 948 1 30 0 148 10 9 0 347 2 292 0 20 7 2 0 48 14 2 10 104 0 15 0 38 8 54 1 58 0 11 1",
   "66 1 64 5 82 24 4 0 6 0 2 2 50 62 89 11 37 10 445 0 1 2 11 2 13 2 13 2 13 1 3312 2 317 0",
   "506 5 105 3 95 0 30066 0 12 1 1 0 28 1 82 1 14 33 102 2 109 1 12 0 37 0 151 0 27 17 57 3 36",
   "0 95 0 12 0 36 0 149 2 65 3 51 0 100 4 9 2 128 1 20272 0 769 15 270 0 1 0 47 0 45 1 67 0",
   "764 0 1183 5 1 41 1 8 637 2 4 0 165 1 571 5 38 0 26 4 399 2 70 10 49 3 192 0 41 0 72 1 120",
   "1 62 0 76 0 9 2 104 1 178 1 80 1 16 0 24 6 3 4 89 2 1 1 13 1 95 0 3 0 123 1 251 1 126 0 118",
   "1 115 0 269 1 258 1 4 0 156 0 83 0 18 0 81 0 421 0 258 0 1 1 81 0 425 1 23 0 5356 14 11481",
   "0 2496 4 59 6 564 1 546 16 80 1 16382 3 1 6 1 1 7937 45 2 22 544 2 3 5 8 7 2 6 30 3 3714 61",
   "194 6 375 0 61 3 766 1 736 6 109 2 1 2"]

def emoji : NamedSet := .ofLines ["emoji"]
  ["35 0 6 0 5 9 111 0 4 0 8077 0 12 0 216 0 22 0 90 5 15 1 367 1 12 0 166 0 25 10 4 2 199 0",
   "231 1 10 0 9 0 58 3 1 4 9 0 2 0 2 1 2 0 4 0 2 0 1 1 2 0 3 0 3 1 8 2 5 0 1 0 5 11 11 1 2 0 1",
   "1 1 0 18 0 2 1 18 5 1 0 1 1 3 1 5 0 2 1 4 1 11 1 5 1 2 0 5 1 1 0 1 1 20 1 5 5 1 3 2 0 4 0 2",
   "0 2 5 1 0 2 0 1 0 1 0 6 0 3 0 6 0 10 1 15 0 2 0 4 0 1 0 4 2 1 0 11 1 48 2 9 0 14 0 14 0 372",
   "1 463 2 19 1 51 0 4 0 1242 0 12 0 601 0 1 0 114026 0 202 0 160 1 12 1 14 0 2 9 75 25 1 1 23",
   "0 20 0 2 8 21 1 174 33 2 111 2 1 1 2 2 82 2 2 1 262 1 62 11 5 1 23 7 1 2 7 12 0 2 3 2 0 4 1",
   "13 1 2 0 8 1 9 0 5 2 12 2 8 2 2 0 1 0 4 0 6 0 3 0 6 85 48 69 5 7 2 2 4 9 3 0 1 1 3 0 2 9",
   "227 11 4 0 283 46 1 9 1 184 112 12 3 9 5 55 7 14 2 10 6 8"]

def emojiComponent : NamedSet := .ofLines ["ecomp", "emojicomponent"]
  ["35 0 6 0 5 9 8147 0 213 0 56619 0 62422 25 507 4 1456 3 788076 95"]

def emojiModifier : NamedSet := .ofLines ["emod", "emojimodifier"]
  ["127995 4"]

def emojiModifierBase : NamedSet := .ofLines ["ebase", "emojimodifierbase"]
  ["9757 0 219 0 16 3 117879 0 60 2 2 0 2 2 117 1 2 10 21 18 3 0 4 2 1 2 7 0 1 0 24 0 201 1 4 0",
   "21 0 4 1 174 2 3 4 83 0 16 2 9 0 11 0 575 0 2 0 8 7 6 0 9 9 2 2 56 0 61 1 1 1 1 0 17 2 1 12",
   "229 2 42 8"]

def emojiPresentation : NamedSet := .ofLines ["emojipresentation", "epres"]
  ["8986 1 205 3 3 0 2 0 521 1 21 1 50 11 43 0 19 0 13 0 8 1 17 1 5 1 8 0 5 0 21 0 7 1 1 0 4 0",
   "2 0 7 0 4 1 28 0 35 0 1 0 4 2 1 0 61 2 24 0 14 0 859 1 51 0 4 0 115886 0 202 0 190 0 2 9 75",
   "25 1 0 24 0 20 0 2 4 1 2 21 1 174 32 12 8 1 69 1 21 12 42 4 4 12 16 3 0 3 70 1 0 1 186 2 62",
   "13 3 1 23 18 0 26 1 13 0 86 84 48 69 6 0 3 2 2 2 4 3 11 1 7 8 227 11 4 0 283 46 1 9 1 184",
   "112 12 3 9 5 55 7 14 2 10 6 8"]

def extendedPictographic : NamedSet := .ofLines ["extendedpictographic", "extpict"]
  ["169 0 4 0 8077 0 12 0 216 0 22 0 90 5 15 1 367 1 12 0 95 0 70 0 25 10 4 2 199 0 231 1 10 0",
   "9 0 58 3 1 5 1 11 1 113 10 117 2 10 1 0 1 0 6 0 3 0 6 0 10 1 15 0 2 0 4 0 1 0 4 2 1 0 11 4",
   "45 2 9 0 14 0 14 0 372 1 463 2 19 1 51 0 4 0 1242 0 12 0 601 0 1 0 114022 255 13 2 31 0 60",
   "5 12 1 14 0 2 9 18 56 27 14 10 0 20 0 2 8 1 3 9 433 5 317 8 265 48 127 116 11 85 42 12 3 56",
   "7 10 5 40 7 30 81 12 46 1 9 1 440 256 1021"]

def extender : NamedSet := .ofLines ["ext", "extender"]
  ["183 0 536 1 878 0 441 0 630 0 137 0 89 0 752 0 127 0 2371 0 56 0 611 0 398 0 68 0 5001 0 43",
   "4 103 1 93 2 28438 0 1526 0 962 0 22 0 137 0 108 0 21 1 21627 0 2064 1 1483 0 27 0 4 0 1223",
   "0 293 0 116 1 498 2 1231 0 20649 1 1180 1 1 0 29016 1 1201 0 852 2"]

def graphemeBase : NamedSet := .ofLines ["graphemebase", "grbase"]
  ["32 94 33 12 1 593 112 7 2 5 4 6 1 0 1 19 1 223 7 165 1 37 2 49 2 2 46 0 1 0 2 0 2 0 9 26 4",
   "5 17 9 11 0 1 45 21 15 1 100 8 0 6 1 2 0 4 31 2 0 1 29 29 88 11 0 14 42 9 6 3 23 4 0 9 0 3",
   "0 7 14 1 24 5 0 1 10 5 30 17 41 57 54 1 0 1 3 8 3 1 2 7 9 2 28 1 1 1 7 2 1 2 21 1 6 1 0 3 3",
   "3 0 1 1 6 1 2 1 1 0 13 1 1 2 4 23 5 0 1 5 4 1 2 21 1 6 1 1 1 1 1 1 4 2 24 3 1 0 7 9 2 2 1 0",
   "12 0 1 8 1 2 1 21 1 6 1 1 1 4 3 3 8 0 1 1 3 0 15 1 4 11 7 0 8 1 1 7 2 1 2 21 1 6 1 1 1 4 3",
   "0 2 0 6 1 2 1 15 1 1 2 4 17 11 0 1 5 3 2 1 3 3 1 1 0 1 1 3 1 3 2 3 11 5 0 1 1 3 2 1 2 3 0",
   "21 20 6 2 1 7 1 2 1 22 1 15 3 0 3 3 19 2 2 0 2 1 4 9 7 9 1 10 1 2 1 22 1 9 1 4 3 1 2 0 1 1",
   "24 1 1 1 4 9 1 2 14 10 1 2 1 40 2 0 1 1 5 2 1 2 1 1 4 2 1 9 4 25 2 1 1 17 3 23 1 8 1 0 2 6",
   "9 1 6 6 7 9 2 2 12 47 1 1 11 7 8 12 37 1 1 0 1 4 1 23 1 0 1 9 1 1 9 0 2 4 1 0 9 9 2 3 32 23",
   "2 26 1 0 1 0 1 13 1 35 18 0 5 0 2 4 49 7 1 5 1 12 37 44 4 0 6 0 2 1 2 24 2 3 3 15 4 12 1 1",
   "2 5 1 14 1 39 1 0 5 0 2 376 1 3 2 6 1 0 1 3 2 40 1 3 2 32 1 3 2 6 1 0 1 3 2 14 1 56 1 3 2",
   "66 5 28 3 25 6 85 2 5 2 668 3 88 7 17 13 18 3 1 9 17 14 12 1 2 15 51 2 0 7 7 1 1 11 8 3 9 6",
   "9 6 10 5 9 6 88 7 4 2 33 1 0 5 69 10 30 4 3 2 2 4 1 1 5 7 0 3 41 2 4 11 43 4 25 6 10 3 56 2",
   "1 3 55 1 0 9 0 1 1 8 5 13 9 6 9 6 13 86 47 10 3 3 7 1 28 9 11 2 31 4 1 6 55 1 0 2 2 1 0 13",
   "47 8 1 5 14 3 61 5 42 2 10 11 0 13 0 7 3 1 5 1 2 2 0 5 191 64 277 2 5 2 37 2 5 2 7 1 0 1 0",
   "1 0 1 30 2 52 1 14 1 13 2 5 1 18 2 2 1 8 1 10 5 23 7 48 16 1 2 26 1 12 3 32 63 139 4 665 22",
   "10 21 1811 2 31 1 343 3 1 5 44 1 0 5 0 2 55 7 1 15 22 9 6 1 6 1 6 1 6 1 6 1 6 1 6 1 6 33 93",
   "34 25 1 88 12 213 26 57 6 15 1 85 4 100 5 42 1 93 1 85 9 47 1 29292 3 54 9 347 20 46 4 0 10",
   "31 2 79 2 5 8 205 2 1 1 0 1 7 21 15 1 2 1 3 1 24 2 4 4 9 6 55 8 67 10 11 24 12 1 37 8 24 11",
   "0 12 29 6 47 1 1 4 1 2 1 1 12 1 10 4 6 1 24 1 40 6 1 2 1 11 2 1 7 1 0 2 9 2 31 1 50 1 0 3 1",
   "2 4 2 0 1 0 24 16 2 7 11 5 2 5 2 5 9 6 1 6 1 59 4 116 1 1 1 3 3 9 6 11171 12 22 4 48 8452",
   "365 2 105 38 6 12 4 5 0 1 23 1 4 1 0 1 1 1 1 1 124 16 444 2 53 7 0 32 15 16 9 22 34 1 18 1",
   "3 4 4 1 134 4 156 2 30 3 5 2 5 2 5 2 2 3 6 1 6 13 1 2 11 1 25 1 18 1 1 1 14 2 13 34 122 5 2",
   "4 44 3 87 1 12 3 0 47 44 131 28 3 48 16 26 4 35 9 29 5 37 10 29 1 36 4 13 42 157 2 9 6 35 4",
   "35 4 39 8 51 11 11 1 14 1 6 1 1 1 10 1 14 1 6 1 1 3 51 12 310 9 21 10 7 24 5 1 41 1 8 69 5",
   "2 0 1 43 1 1 3 0 2 22 1 71 8 8 48 18 1 1 5 32 3 26 5 0 64 55 4 19 2 46 15 3 1 2 1 28 10 8 7",
   "8 7 63 32 36 6 11 9 53 3 28 2 26 5 25 7 3 12 6 80 72 55 50 13 50 7 41 12 9 6 37 8 23 8 1",
   "208 30 1 41 3 0 2 1 16 2 59 39 8 21 11 8 22 17 4 3 38 27 20 22 9 0 1 53 15 6 4 29 1 1 2 0",
   "12 48 4 1 2 1 1 3 14 24 7 9 9 35 5 0 9 17 8 34 1 2 11 51 9 0 1 7 4 1 1 15 1 19 11 17 1 27 3",
   "1 4 5 1 1 63 6 1 0 1 3 1 14 1 10 6 46 1 2 13 9 8 1 1 7 2 1 2 21 1 6 1 1 1 4 3 0 1 0 1 3 2 1",
   "2 1 3 0 12 6 28 9 1 0 2 0 1 37 1 0 1 1 15 0 1 1 3 0 1 2 1 1 39 55 8 1 3 0 1 20 1 0 1 2 30",
   "47 1 1 6 0 1 1 1 0 2 0 2 3 8 9 166 46 1 1 6 3 2 0 2 26 36 50 8 1 1 0 2 3 11 9 6 12 19 42 1",
   "0 1 1 8 1 6 9 6 19 28 26 3 0 1 1 4 0 9 22 185 46 9 0 2 0 100 82 12 7 2 0 2 7 1 1 1 23 1 4 1",
   "1 6 3 1 2 9 9 70 7 2 41 8 3 1 3 27 0 10 39 6 1 4 7 9 0 6 1 3 45 13 0 2 8 13 72 7 9 182 33",
   "14 9 6 8 1 37 14 0 1 5 10 28 3 31 25 0 7 0 2 0 75 6 1 1 1 37 21 0 9 9 6 5 1 1 1 36 4 1 1 0",
   "1 0 7 9 310 18 2 3 9 14 1 35 8 1 3 22 86 0 15 49 13 922 102 110 1 4 11 195 2636 98 13 1071",
   "17 5 25 3994 5 582 6841 29 12 2 3 9 1734 568 7 30 1 9 4 80 1 9 6 29 7 0 10 47 7 14 10 9 1 6",
   "1 20 5 18 432 57 198 90 101 74 5 55 11 12 64 3 28 6135 8 1237 41 9 8935 3 1 6 1 1 1 290 15",
   "0 29 2 2 0 14 3 8 395 2308 106 5 12 3 8 7 9 2 0 2 0 3936 249 6 435 156 115 60 245 10 38 2",
   "59 5 2 22 1 7 29 4 60 21 65 3 0 122 19 12 19 12 86 9 24 135 84 1 70 1 1 2 0 2 1 2 3 1 11 1",
   "0 1 6 1 64 1 3 2 7 1 6 1 27 1 3 1 4 1 0 3 6 1 339 2 291 2 561 55 3 50 7 1 13 1 6 1140 30 6",
   "5 261 61 146 44 10 6 2 9 4 1 320 29 18 43 4 9 5 0 464 27 4 9 214 29 2 10 4 0 480 6 1 3 1 1",
   "1 14 1 196 2 8 48 67 7 0 4 9 4 1 785 67 76 60 194 3 1 26 1 1 1 0 2 0 1 9 1 3 1 0 1 0 6 0 4",
   "0 1 0 1 0 1 2 1 1 1 0 2 0 1 0 1 0 1 0 1 0 1 1 1 0 2 3 1 6 1 3 1 3 1 0 1 9 1 16 5 2 1 4 1 16",
   "52 1 270 43 4 99 12 14 2 14 1 14 1 36 10 173 56 28 13 43 4 8 7 1 14 5 154 983 4 16 3 12 3",
   "118 4 94 6 11 4 0 15 11 4 55 8 9 6 39 8 29 2 11 4 1 62 339 12 13 2 12 3 9 5 55 7 14 2 10 6",
   "8 7 146 1 101 1030 42719 32 4153 6 221 2 5761 14 7472 15 621 2466 541 1506 4938 5 4191"]

def graphemeExtend : NamedSet := .ofLines ["graphemeextend", "grext"]
  ["768 111 275 6 263 44 1 0 1 1 1 1 1 0 72 10 48 20 16 0 101 6 2 5 2 1 1 3 35 0 30 26 91 10 58",
   "8 9 0 24 3 1 8 1 2 1 4 43 2 59 8 42 23 1 31 55 0 1 0 4 7 4 0 3 6 10 1 29 0 58 0 1 0 2 3 8 0",
   "9 0 10 1 26 0 2 1 57 0 4 1 4 1 2 2 3 0 30 1 3 0 11 1 57 0 4 4 1 1 4 0 20 1 22 5 1 0 58 0 1",
   "1 1 3 8 0 7 2 10 1 30 0 59 0 1 0 12 0 9 0 40 0 3 0 55 0 1 2 5 2 1 3 7 1 11 1 29 0 58 0 2 1",
   "1 0 3 2 1 3 7 1 11 1 28 1 57 1 1 0 2 3 8 0 9 0 10 1 29 0 72 0 4 0 2 2 1 0 8 0 81 0 2 6 12 7",
   "98 0 2 8 11 6 73 1 27 0 1 0 1 0 55 13 1 4 1 1 5 10 1 35 9 0 102 3 1 5 1 1 2 1 25 1 4 2 16 3",
   "13 0 2 1 6 0 15 0 703 2 946 3 28 2 29 1 30 1 64 1 1 6 8 0 2 10 9 0 45 2 1 0 117 1 34 0 118",
   "2 4 1 9 0 6 2 219 1 2 0 58 0 1 6 1 0 1 0 2 7 6 9 2 0 48 30 49 3 48 9 4 2 38 8 12 1 32 3 2 5",
   "56 0 1 1 3 0 1 4 56 7 2 1 152 2 1 12 1 6 4 0 6 0 3 1 198 63 524 0 195 32 3070 2 141 0 96 31",
   "554 5 105 1 30164 3 1 9 32 1 80 1 272 0 3 0 4 0 25 1 5 0 151 1 26 17 13 0 38 7 25 10 1 0 44",
   "2 48 0 2 3 2 1 2 0 36 0 67 5 2 1 2 1 12 0 8 0 47 0 51 0 1 2 2 1 5 1 1 0 42 1 8 0 238 0 2 0",
   "4 0 20272 0 737 15 16 15 366 1 605 0 226 0 149 4 1670 2 1 1 5 3 40 2 4 0 165 1 573 3 65 4",
   "317 1 79 3 70 10 49 3 123 0 54 14 41 0 2 1 10 2 49 3 2 1 7 0 61 2 36 4 1 7 62 0 12 1 52 8 1",
   "0 8 3 2 0 95 2 2 3 6 0 2 0 157 0 3 7 21 1 57 1 1 0 1 0 12 0 9 0 14 6 3 4 67 0 2 5 1 0 2 0 1",
   "2 4 2 1 0 14 1 85 7 2 2 1 0 23 0 81 0 2 5 1 0 2 0 1 1 1 1 235 0 2 3 6 1 1 1 27 1 85 7 2 0 1",
   "1 106 0 1 0 2 7 101 0 1 0 2 3 1 4 259 8 1 1 245 0 10 3 4 0 144 3 2 1 4 0 32 9 40 5 2 3 8 0",
   "9 5 2 2 46 12 1 1 406 6 1 5 1 0 82 21 2 6 1 1 1 1 122 5 3 0 1 1 1 6 1 0 72 1 3 0 1 0 347 1",
   "11 1 52 4 5 2 23 0 5349 0 6 14 11464 11 3 2 2496 4 59 6 1048 0 63 3 81 0 11 1 19627 1 4705",
   "45 2 22 542 4 3 5 8 7 2 6 30 3 148 2 1979 54 4 49 8 0 14 0 22 4 1 14 1360 6 1 16 2 6 1 1 1",
   "4 100 0 160 6 375 0 61 3 508 3 254 1 736 6 109 6 792277 95 128 239"]

def graphemeLink : NamedSet := .ofLines ["graphemelink", "grlink"]
  ["2381 0 127 0 127 0 127 0 127 0 127 0 127 0 127 0 109 1 16 0 124 0 111 0 127 0 201 0 180 1",
   "1753 1 30 0 157 0 653 0 227 0 101 1 70 1 4491 0 31366 0 37 0 151 0 142 0 108 0 309 0 246 0",
   "24145 0 1542 0 41 0 14 0 57 0 121 1 139 0 116 0 180 0 98 0 128 2 113 0 127 0 252 0 127 0",
   "118 0 116 0 269 0 259 1 161 0 83 0 18 0 81 0 421 0 260 1 81 0 425 1 16876 0"]

def hexDigit : NamedSet := .ofLines ["hex", "hexdigit"]
  ["48 9 7 5 26 5 65193 9 7 5 26 5"]

def hyphen : NamedSet := .ofLines ["hyphen"]
  ["45 0 127 0 1244 0 4731 0 2057 1 3589 0 739 0 52583 0 169 0 87 0"]

def idsBinaryOperator : NamedSet := .ofLines ["idsb", "idsbinaryoperator"]
  ["12272 1 2 9 497 0"]

def idsTrinaryOperator : NamedSet := .ofLines ["idst", "idstrinaryoperator"]
  ["12274 1"]

def idsUnaryOperator : NamedSet := .ofLines ["idsu", "idsunaryoperator"]
  ["12286 1"]

def idCompatMathContinue : NamedSet := .ofLines ["idcompatmathcontinue"]
  ["178 1 5 0 8118 0 3 10 1 14 371 0 4 0 22 0 111778 0 25 0 31 0 25 0 31 0 25 0 31 0 25 0 31 0",
   "25 0"]

def idCompatMathStart : NamedSet := .ofLines ["idcompatmathstart"]
  ["8706 0 4 0 22 0 111778 0 25 0 31 0 25 0 31 0 25 0 31 0 25 0 31 0 25 0"]

def idContinue : NamedSet := .ofLines ["idc", "idcontinue"]
  ["48 9 7 25 4 0 1 25 47 0 10 0 1 0 2 0 5 22 1 30 1 457 4 11 14 4 7 0 1 0 17 116 1 1 2 3 1 0 6",
   "4 1 0 1 19 1 82 1 138 1 4 2 165 1 37 2 0 6 40 8 44 1 0 1 1 1 1 1 0 8 26 4 3 29 10 5 73 4",
   "101 1 7 2 9 1 18 2 0 16 58 2 100 14 53 4 0 2 0 2 45 18 27 4 10 5 23 1 5 8 74 1 128 2 9 1 18",
   "1 7 2 1 2 21 1 6 1 0 3 3 2 8 2 1 2 3 8 0 4 1 1 4 2 11 10 0 1 0 2 2 1 5 4 1 2 21 1 6 1 1 1 1",
   "1 1 2 0 1 4 4 1 2 2 3 0 7 3 1 0 7 15 11 2 1 8 1 2 1 21 1 6 1 1 1 4 2 9 1 2 1 2 2 0 15 3 2 9",
   "9 6 1 2 1 7 2 1 2 21 1 6 1 1 1 4 2 8 2 1 2 2 7 2 4 1 1 4 2 9 1 0 16 1 1 5 3 2 1 3 3 1 1 0 1",
   "1 3 1 3 2 3 11 4 4 3 2 1 3 2 0 6 0 14 9 16 12 1 2 1 22 1 15 2 8 1 2 1 3 7 1 1 2 2 0 2 3 2 9",
   "16 3 1 7 1 2 1 22 1 9 1 4 2 8 1 2 1 3 7 1 6 1 1 3 2 9 1 2 12 12 1 2 1 50 1 2 1 4 5 3 7 4 2",
   "9 10 5 1 2 1 17 3 23 1 8 1 0 2 6 3 0 4 5 1 0 1 7 6 9 2 1 13 57 5 14 1 9 39 1 1 0 1 4 1 23 1",
   "0 1 22 2 4 1 0 1 6 1 9 2 3 32 0 23 1 6 9 11 0 1 0 1 0 4 9 1 35 4 19 1 17 1 35 9 0 57 73 6",
   "77 2 37 1 0 5 0 2 42 1 332 1 3 2 6 1 0 1 3 2 40 1 3 2 32 1 3 2 6 1 0 1 3 2 14 1 56 1 3 2 66",
   "2 2 9 8 14 15 16 85 2 5 3 619 2 16 1 25 5 74 3 10 7 21 9 21 11 19 12 12 1 2 1 1 12 83 3 0 4",
   "1 2 9 33 2 1 10 6 88 7 42 5 69 10 30 1 11 4 11 10 39 2 4 11 43 4 25 6 10 37 27 4 62 1 28 2",
   "10 6 9 13 0 8 13 1 15 49 76 3 9 17 8 12 115 12 55 8 9 3 48 2 10 5 42 2 2 16 2 1 38 5 533 2",
   "5 2 37 2 5 2 7 1 0 1 0 1 0 1 30 2 52 1 6 1 0 3 2 1 6 3 3 2 5 4 12 5 2 1 6 15 1 49 1 19 0 28",
   "0 13 0 16 12 51 12 4 0 3 11 17 0 4 0 2 9 1 0 2 5 6 0 1 0 1 0 1 15 2 3 5 4 4 0 17 40 2679",
   "228 6 8 12 37 1 0 5 0 2 55 7 0 15 23 9 6 1 6 1 6 1 6 1 6 1 6 1 6 1 6 1 31 517 2 25 14 1 4 2",
   "4 4 85 2 6 1 94 5 42 1 93 17 31 48 15 512 6591 64 22156 67 45 2 268 3 27 20 47 4 9 1 114 37",
   "8 2 102 2 66 2 1 1 0 1 7 21 53 4 0 19 51 12 69 10 9 6 23 3 0 1 48 2 35 12 28 3 64 14 10 6",
   "30 1 54 9 13 2 9 6 22 3 72 24 2 2 15 2 4 10 5 2 5 2 5 9 6 1 6 1 42 1 13 6 122 1 1 2 9 6",
   "11171 12 22 4 48 8452 365 2 105 38 6 12 4 5 11 1 12 1 4 1 0 1 1 1 1 1 107 33 362 18 63 2 53",
   "40 11 4 15 16 15 3 1 24 2 32 4 1 134 19 9 7 25 4 0 1 25 10 89 3 5 2 5 2 5 2 2 35 11 1 25 1",
   "18 1 1 1 14 2 13 34 122 69 52 136 0 130 28 3 48 15 0 31 31 13 29 5 42 5 29 2 35 4 7 1 4 42",
   "157 2 9 6 35 4 35 4 39 8 51 12 10 1 14 1 6 1 1 1 10 1 14 1 6 1 1 3 51 12 310 9 21 10 7 24 5",
   "1 41 1 8 69 5 2 0 1 43 1 1 3 0 2 22 10 22 9 30 65 18 1 1 10 21 10 25 70 55 6 1 64 3 1 1 5 7",
   "1 2 1 28 2 2 4 0 32 28 3 28 35 7 1 29 25 53 10 21 10 18 13 17 110 72 55 50 13 50 13 39 8 9",
   "6 37 3 4 1 22 250 41 1 1 3 1 16 2 55 32 10 0 8 32 31 21 42 20 27 22 9 70 31 15 9 59 7 0 13",
   "24 7 9 6 52 1 9 4 3 8 35 2 0 9 68 4 3 1 12 1 0 35 17 1 36 6 3 62 6 1 0 1 3 1 14 1 9 7 58 5",
   "9 6 3 1 7 2 1 2 21 1 6 1 1 1 4 1 9 2 1 2 2 2 0 6 0 5 6 2 6 3 4 11 9 1 0 2 0 1 37 1 9 1 0 2",
   "0 1 3 1 7 13 1 29 74 5 9 4 3 30 69 1 0 8 9 166 53 2 8 23 5 34 64 3 0 11 9 38 56 7 9 6 19 28",
   "26 2 14 4 9 6 6 185 58 101 73 21 7 2 0 2 7 1 1 1 29 1 1 2 8 12 9 70 7 2 45 2 7 1 1 27 62 8",
   "0 8 73 3 0 18 72 199 32 15 9 6 8 1 44 1 8 15 9 24 29 2 21 1 13 73 6 1 1 1 43 3 0 1 1 1 8 8",
   "9 6 5 1 1 1 36 1 1 1 5 7 9 310 22 9 16 1 40 3 4 13 10 85 0 79 921 102 110 17 195 2636 96 15",
   "1071 16 21 10 3994 5 582 6841 57 1734 568 7 30 1 9 6 78 1 9 6 29 2 4 11 54 9 3 12 9 9 20 5",
   "18 432 44 3 9 198 63 128 74 4 56 7 16 64 1 1 1 11 1 14 6135 8 1237 41 9 8935 3 1 6 1 1 1",
   "290 15 0 29 2 2 0 14 3 8 395 2308 106 5 12 3 8 7 9 3 1 4177 9 518 45 2 22 542 4 3 5 8 7 2 6",
   "30 3 148 2 443 84 1 70 1 1 2 0 2 1 2 3 1 11 1 0 1 6 1 64 1 3 2 7 1 6 1 27 1 3 1 4 1 0 3 6 1",
   "339 2 24 1 24 1 30 1 24 1 30 1 24 1 30 1 24 1 30 1 24 1 7 2 49 512 54 4 49 8 0 14 0 22 4 1",
   "14 1104 30 6 5 213 6 1 16 2 6 1 1 1 4 5 61 33 0 112 44 3 13 2 9 4 0 321 30 17 57 470 41 214",
   "42 485 6 1 3 1 1 1 14 1 196 11 6 41 75 4 9 1190 3 1 26 1 1 1 0 2 0 1 9 1 3 1 0 1 0 6 0 4 0",
   "1 0 1 0 1 2 1 1 1 0 2 0 1 0 1 0 1 0 1 0 1 1 1 0 2 3 1 6 1 3 1 3 1 0 1 9 1 16 5 2 1 4 1 16",
   "3380 9 1030 42719 32 4153 6 221 2 5761 14 7472 15 621 2466 541 1506 4938 5 4191 712016 239"]

def idStart : NamedSet := .ofLines ["ids", "idstart"]
  ["65 25 6 25 47 0 10 0 4 0 5 22 1 30 1 457 4 11 14 4 7 0 1 0 129 4 1 1 2 3 1 0 6 0 1 2 1 0 1",
   "19 1 82 1 138 8 165 1 37 2 0 6 40 71 26 4 3 45 42 35 1 1 98 1 0 15 1 7 1 10 2 2 0 16 0 1 29",
   "29 88 11 0 24 32 9 1 4 0 5 21 4 0 9 0 3 0 23 24 7 10 5 23 1 5 17 41 58 53 3 0 18 0 7 9 15",
   "15 4 7 2 1 2 21 1 6 1 0 3 3 3 0 16 0 13 1 1 2 14 1 10 0 8 5 4 1 2 21 1 6 1 1 1 1 1 1 31 3 1",
   "0 19 2 16 8 1 2 1 21 1 6 1 1 1 4 3 0 18 0 15 1 23 0 11 7 2 1 2 21 1 6 1 1 1 4 3 0 30 1 1 2",
   "15 0 17 0 1 5 3 2 1 3 3 1 1 0 1 1 3 1 3 2 3 11 22 0 52 7 1 2 1 22 1 15 3 0 26 2 2 0 2 1 30",
   "0 4 7 1 2 1 22 1 9 1 4 3 0 31 1 1 1 15 1 17 8 1 2 1 40 2 0 16 0 5 2 8 2 24 5 5 17 3 23 1 8",
   "1 0 2 6 58 47 1 1 12 6 58 1 1 0 1 4 1 23 1 0 1 9 1 1 9 0 2 4 1 0 21 3 32 0 63 7 1 35 27 4",
   "115 42 20 0 16 5 4 3 3 0 3 1 7 2 4 12 12 0 17 37 1 0 5 0 2 42 1 332 1 3 2 6 1 0 1 3 2 40 1",
   "3 2 32 1 3 2 6 1 0 1 3 2 14 1 56 1 3 2 66 37 15 16 85 2 5 3 619 2 16 1 25 5 74 3 10 7 17 13",
   "18 14 17 14 12 1 2 15 51 35 0 4 0 67 88 7 40 1 0 5 69 10 30 49 29 2 4 11 43 4 25 54 22 9 52",
   "82 0 93 46 17 7 54 29 13 1 10 43 26 35 41 2 10 35 2 10 5 42 2 2 41 3 1 5 1 1 3 0 5 191 64",
   "277 2 5 2 37 2 5 2 7 1 0 1 0 1 0 1 30 2 52 1 6 1 0 3 2 1 6 3 3 2 5 4 12 5 2 1 6 116 0 13 0",
   "16 12 101 0 4 0 2 9 1 0 2 5 6 0 1 0 1 0 1 15 2 3 5 4 4 0 17 40 2679 228 6 3 3 1 12 37 1 0 5",
   "0 2 55 7 0 16 22 9 6 1 6 1 6 1 6 1 6 1 6 1 6 1 6 550 2 25 8 7 4 2 4 4 85 4 4 1 89 1 3 5 42",
   "1 93 17 31 48 15 512 6591 64 22156 67 45 2 268 3 15 10 1 20 46 16 30 2 79 39 8 2 102 2 66 2",
   "1 1 0 1 7 21 15 1 2 1 3 1 22 29 51 14 49 62 5 3 0 1 1 11 27 10 22 25 28 7 46 28 0 16 4 1 9",
   "10 4 1 40 23 2 1 7 20 22 3 0 3 49 1 0 3 1 2 4 2 0 1 0 24 2 2 10 7 2 12 5 2 5 2 5 9 6 1 6 1",
   "42 1 13 6 114 29 11171 12 22 4 48 8452 365 2 105 38 6 12 4 5 0 1 9 1 12 1 4 1 0 1 1 1 1 1",
   "107 33 362 18 63 2 53 40 11 116 4 1 134 36 25 6 25 11 88 3 5 2 5 2 5 2 2 35 11 1 25 1 18 1",
   "1 1 14 2 13 34 122 69 52 267 28 3 48 47 31 13 29 5 37 10 29 2 35 4 7 1 4 42 157 18 35 4 35",
   "4 39 8 51 12 10 1 14 1 6 1 1 1 10 1 14 1 6 1 1 3 51 12 310 9 21 10 7 24 5 1 41 1 8 69 5 2 0",
   "1 43 1 1 3 0 2 22 10 22 9 30 65 18 1 1 10 21 10 25 70 55 6 1 64 0 15 3 1 2 1 28 42 28 3 28",
   "35 7 1 27 27 53 10 21 10 18 13 17 110 72 55 50 13 50 13 35 38 27 9 22 250 41 6 1 16 2 59 28",
   "10 0 8 21 42 17 46 20 27 22 12 52 57 1 2 0 13 44 32 24 26 35 29 0 2 0 8 34 3 0 12 47 14 3",
   "21 0 1 0 35 17 1 24 19 1 63 6 1 0 1 3 1 14 1 9 7 46 38 7 2 1 2 21 1 6 1 1 1 4 3 0 18 0 12 4",
   "30 9 1 0 2 0 1 37 1 0 25 0 1 0 44 52 18 3 20 2 30 47 20 1 1 0 184 46 41 3 36 47 20 0 59 42",
   "13 0 71 26 37 6 185 43 116 63 31 7 2 0 2 7 1 1 1 23 15 0 1 0 94 7 2 38 16 0 1 0 28 0 10 39",
   "7 0 21 0 11 45 19 0 18 72 199 32 31 8 1 36 17 0 49 29 112 6 1 1 1 37 21 0 25 5 1 1 1 31 14",
   "0 327 18 15 0 1 12 1 33 124 0 79 921 102 110 17 195 2636 96 15 1071 17 5 25 3994 5 582 6841",
   "29 1762 568 7 30 17 78 17 29 18 47 16 3 31 20 5 18 432 44 211 63 128 74 5 0 66 12 64 1 1 0",
   "28 6135 8 1237 41 9 8935 3 1 6 1 1 1 290 15 0 29 2 2 0 14 3 8 395 2308 106 5 12 3 8 7 9",
   "5990 84 1 70 1 1 2 0 2 1 2 3 1 11 1 0 1 6 1 64 1 3 2 7 1 6 1 27 1 3 1 4 1 0 3 6 1 339 2 24",
   "1 24 1 30 1 24 1 30 1 24 1 30 1 24 1 30 1 24 1 7 1844 30 6 5 261 61 146 44 10 6 16 0 321 29",
   "18 43 484 27 228 29 2 0 495 6 1 3 1 1 1 14 1 196 59 67 7 0 1204 3 1 26 1 1 1 0 2 0 1 9 1 3",
   "1 0 1 0 6 0 4 0 1 0 1 0 1 2 1 1 1 0 2 0 1 0 1 0 1 0 1 0 1 1 1 0 2 3 1 6 1 3 1 3 1 0 1 9 1",
   "16 5 2 1 4 1 16 4420 42719 32 4153 6 221 2 5761 14 7472 15 621 2466 541 1506 4938 5 4191"]

def ideographic : NamedSet := .ofLines ["ideo", "ideographic"]
  ["12294 1 25 8 14 2 965 6591 64 20991 22784 365 2 105 29962 0 27 6135 8 1237 41 9 9319 395",
   "19716 42719 32 4153 6 221 2 5761 14 7472 15 621 2466 541 1506 4938 5 4191"]

def joinControl : NamedSet := .ofLines ["joinc", "joincontrol"]
  ["8204 1"]

def logicalOrderException : NamedSet := .ofLines ["loe", "logicalorderexception"]
  ["3648 4 123 4 2800 2 2 0 37114 1 2 0 1 1"]

def lowercase : NamedSet := .ofLines ["lower", "lowercase"]
  ["97 25 47 0 10 0 4 0 36 23 1 7 1 0 1 0 1 0 1 0 1 0 1 0 1 0 1 0 1 0 1 0 1 0 1 0 1 0 1 0 1 0 1",
   "0 1 0 1 0 1 0 1 0 1 0 1 0 1 0 1 0 1 0 1 0 1 0 1 1 1 0 1 0 1 0 1 0 1 0 1 0 1 0 1 1 1 0 1 0 1",
   "0 1 0 1 0 1 0 1 0 1 0 1 0 1 0 1 0 1 0 1 0 1 0 1 0 1 0 1 0 1 0 1 0 1 0 1 0 1 0 1 0 2 0 1 0 1",
   "2 2 0 1 0 2 0 3 1 4 0 2 0 3 2 2 0 2 0 1 0 1 0 2 0 1 1 1 0 2 0 3 0 1 0 2 1 2 2 6 0 2 0 2 0 1",
   "0 1 0 1 0 1 0 1 0 1 0 1 0 1 1 1 0 1 0 1 0 1 0 1 0 1 0 1 0 1 0 1 1 2 0 1 0 3 0 1 0 1 0 1 0 1",
   "0 1 0 1 0 1 0 1 0 1 0 1 0 1 0 1 0 1 0 1 0 1 0 1 0 1 0 1 0 1 0 1 0 1 0 1 0 1 0 1 0 1 0 1 0 1",
   "0 1 0 1 6 2 0 2 1 1 0 4 0 1 0 1 0 1 0 1 68 1 35 7 1 30 4 96 0 43 0 1 0 3 0 2 3 18 0 27 34 1",
   "1 3 2 1 0 1 0 1 0 1 0 1 0 1 0 1 0 1 0 1 0 1 0 1 0 1 4 1 0 2 0 2 1 51 47 1 0 1 0 1 0 1 0 1 0",
   "1 0 1 0 1 0 1 0 1 0 1 0 1 0 1 0 1 0 1 0 1 0 1 0 9 0 1 0 1 0 1 0 1 0 1 0 1 0 1 0 1 0 1 0 1 0",
   "1 0 1 0 1 0 1 0 1 0 1 0 1 0 1 0 1 0 1 0 1 0 1 0 1 0 1 0 1 0 1 0 2 0 1 0 1 0 1 0 1 0 1 0 1 1",
   "1 0 1 0 1 0 1 0 1 0 1 0 1 0 1 0 1 0 1 0 1 0 1 0 1 0 1 0 1 0 1 0 1 0 1 0 1 0 1 0 1 0 1 0 1 0",
   "1 0 1 0 1 0 1 0 1 0 1 0 1 0 1 0 1 0 1 0 1 0 1 0 1 0 1 0 1 0 1 0 1 0 1 0 1 0 1 0 1 0 1 0 1 0",
   "1 0 1 0 48 40 2887 42 1 3 760 5 2178 8 1 0 117 191 65 0 1 0 1 0 1 0 1 0 1 0 1 0 1 0 1 0 1 0",
   "1 0 1 0 1 0 1 0 1 0 1 0 1 0 1 0 1 0 1 0 1 0 1 0 1 0 1 0 1 0 1 0 1 0 1 0 1 0 1 0 1 0 1 0 1 0",
   "1 0 1 0 1 0 1 0 1 0 1 0 1 0 1 0 1 0 1 0 1 0 1 0 1 0 1 0 1 0 1 0 1 0 1 0 1 0 1 0 1 0 1 0 1 0",
   "1 0 1 0 1 0 1 0 1 0 1 0 1 0 1 0 1 0 1 0 1 0 1 0 1 0 1 0 1 0 1 0 1 0 1 0 1 8 1 0 1 0 1 0 1 0",
   "1 0 1 0 1 0 1 0 1 0 1 0 1 0 1 0 1 0 1 0 1 0 1 0 1 0 1 0 1 0 1 0 1 0 1 0 1 0 1 0 1 0 1 0 1 0",
   "1 0 1 0 1 0 1 0 1 0 1 0 1 0 1 0 1 0 1 0 1 0 1 0 1 0 1 0 1 0 1 0 1 0 1 0 1 0 1 0 1 0 1 8 8 5",
   "10 7 8 7 8 5 10 7 8 7 8 13 2 7 8 7 8 7 8 4 1 1 6 0 3 2 1 1 8 3 2 1 8 7 10 2 1 1 121 0 13 0",
   "16 12 109 0 3 1 3 0 27 0 4 0 4 0 2 1 8 3 4 0 33 15 4 0 843 25 1862 47 1 0 3 1 1 0 1 0 1 0 4",
   "0 1 1 1 7 3 0 1 0 1 0 1 0 1 0 1 0 1 0 1 0 1 0 1 0 1 0 1 0 1 0 1 0 1 0 1 0 1 0 1 0 1 0 1 0 1",
   "0 1 0 1 0 1 0 1 0 1 0 1 0 1 0 1 0 1 0 1 0 1 0 1 0 1 0 1 0 1 0 1 0 1 0 1 0 1 0 1 0 1 0 1 0 1",
   "0 1 0 1 0 1 0 1 0 1 0 1 1 7 0 1 0 4 0 12 37 1 0 5 0 30995 0 1 0 1 0 1 0 1 0 1 0 1 0 1 0 1 0",
   "1 0 1 0 1 0 1 0 1 0 1 0 1 0 1 0 1 0 1 0 1 0 1 0 1 0 1 0 19 0 1 0 1 0 1 0 1 0 1 0 1 0 1 0 1",
   "0 1 0 1 0 1 0 1 0 1 2 133 0 1 0 1 0 1 0 1 0 1 0 1 2 1 0 1 0 1 0 1 0 1 0 1 0 1 0 1 0 1 0 1 0",
   "1 0 1 0 1 0 1 0 1 0 1 0 1 0 1 0 1 0 1 0 1 0 1 0 1 0 1 0 1 0 1 0 1 0 1 0 1 0 1 0 1 9 1 0 1 0",
   "2 0 1 0 1 0 1 0 1 0 4 0 1 0 2 0 1 2 1 0 1 0 1 0 1 0 1 0 1 0 1 0 1 0 1 0 1 0 5 0 5 0 1 0 1 0",
   "1 0 1 0 1 0 1 0 1 0 4 0 1 0 2 0 3 0 1 0 1 0 1 0 1 0 1 0 22 2 1 0 1 2 821 42 1 13 6 79 20288",
   "6 12 4 1065 25 1229 39 136 35 155 10 1 14 1 6 1 1 451 0 2 2 1 41 1 8 1285 50 125 21 2874 31",
   "21888 31 26010 25 26 6 1 17 26 25 26 3 1 0 1 6 1 10 26 25 26 25 26 25 26 25 26 25 26 25 26",
   "25 26 25 26 27 28 24 1 5 26 24 1 5 26 24 1 5 26 24 1 5 26 24 1 5 1 0 1844 9 1 19 6 5 261 61",
   "2228 33"]

def math : NamedSet := .ofLines ["math"]
  ["43 0 16 2 31 0 29 0 1 0 45 0 4 0 37 0 31 0 728 2 2 0 26 1 2 2 527 2 6669 0 27 2 11 0 3 0 13",
   "0 14 3 21 4 11 4 65 12 4 0 3 1 4 4 18 0 4 0 2 9 1 0 2 5 6 0 3 1 2 1 1 2 1 5 3 13 1 0 68 23",
   "1 5 1 1 4 1 4 31 1 0 6 1 14 267 8 3 20 1 90 0 30 26 1 0 24 0 11 6 445 1 12 9 4 5 4 1 2 1 3",
   "4 14 0 1 0 2 5 11 7 5 1 57 0 1 0 29 3 9 2 336 63 256 511 48 20 2 5 53212 0 823 5 1 0 162 0",
   "16 2 29 0 1 0 29 0 1 0 131 0 6 3 3489 1 50800 84 1 70 1 1 2 0 2 1 2 3 1 11 1 0 1 6 1 64 1 3",
   "2 7 1 6 1 27 1 3 1 4 1 0 3 6 1 339 2 291 2 49 5632 3 1 26 1 1 1 0 2 0 1 9 1 3 1 0 1 0 6 0 4",
   "0 1 0 1 0 1 2 1 1 1 0 2 0 1 0 1 0 1 0 1 0 1 1 1 0 2 3 1 6 1 3 1 3 1 0 1 9 1 16 5 2 1 4 1 16",
   "52 1"]

def modifierCombiningMark : NamedSet := .ofLines ["mcm", "modifiercombiningmark"]
  ["1620 1 2 0 131 0 6 0 3 1 481 1 1 2 3 0 31 0"]

def noncharacterCodePoint : NamedSet := .ofLines ["nchar", "noncharactercodepoint"]
  ["64976 31 526 1 65534 1 65534 1 65534 1 65534 1 65534 1 65534 1 65534 1 65534 1 65534 1",
   "65534 1 65534 1 65534 1 65534 1 65534 1 65534 1 65534 1"]

def otherAlphabetic : NamedSet := .ofLines ["oalpha", "otheralphabetic"]
  ["837 0 29 12 576 13 1 0 1 1 1 1 1 0 72 10 48 12 1 6 16 0 101 6 4 3 2 1 4 0 35 0 30 15 102 10",
   "101 1 3 8 1 2 1 3 106 0 60 11 3 6 6 19 54 1 2 14 1 1 5 2 10 1 29 2 58 6 2 1 2 1 10 0 10 1",
   "29 2 58 4 4 1 2 1 4 0 30 1 3 0 11 2 58 7 1 2 1 1 21 1 22 2 4 2 58 6 2 1 2 1 9 1 10 1 30 0",
   "59 4 3 2 1 2 10 0 40 4 57 6 1 2 1 2 8 1 11 1 29 2 58 6 1 2 1 2 8 1 11 1 15 0 12 3 58 6 1 2",
   "1 2 10 0 10 1 29 2 75 5 1 0 1 7 18 1 61 0 2 6 18 0 99 0 2 5 1 1 16 0 163 18 9 10 1 35 110",
   "11 1 0 2 3 23 3 4 2 1 2 2 6 3 3 13 11 1 0 10 3 1652 1 30 1 30 1 30 1 66 18 188 1 34 0 118",
   "11 4 8 222 4 57 9 2 19 74 1 11 2 49 4 48 14 60 2 30 8 2 1 57 10 50 18 412 33 1729 51 2294",
   "31 30836 7 34 1 354 0 8 0 23 4 88 1 50 15 1 0 57 0 38 4 28 11 45 3 48 11 37 0 67 13 12 0 8",
   "1 45 2 50 0 1 2 2 1 5 0 44 4 5 0 237 7 20275 0 2135 4 1670 2 1 1 5 3 788 3 65 0 321 1 79 0",
   "259 2 53 13 45 1 11 2 45 8 9 0 61 2 36 11 18 1 57 2 48 12 14 1 92 8 2 0 6 0 2 0 157 9 23 3",
   "58 6 2 1 2 1 10 0 10 1 84 8 1 0 2 0 1 3 1 1 103 12 1 2 106 17 237 6 2 6 29 1 82 14 1 0 106",
   "10 103 13 257 12 247 5 1 1 2 1 3 0 1 0 142 6 2 5 4 0 28 9 42 4 1 3 18 10 46 13 407 7 1 6 83",
   "21 1 13 122 5 3 0 1 1 1 2 1 0 3 0 66 4 1 1 1 3 348 3 9 1 1 0 48 6 3 2 16861 16 3616 0 1 54",
   "7 3 93 1 19628 0 9057 6 1 16 2 6 1 1 1 4 100 0 2231 0 2024 25 6 25 6 25"]

def otherDefaultIgnorableCodePoint : NamedSet := .ofLines ["odi", "otherdefaultignorablecodepoint"]
  ["847 0 3599 1 1619 1 2223 0 4350 0 52795 0 79 8 851975 0 1 29 96 127 240 3599"]

def otherGraphemeExtend : NamedSet := .ofLines ["ogrext", "othergraphemeextend"]
  ["2494 0 24 0 358 0 24 0 102 0 24 0 232 0 1 0 4 1 1 1 9 1 103 0 24 0 119 0 15 0 2357 0 30 0",
   "1024 0 5 0 1 0 5 1 101 0 71 1 1048 0 4129 1 31011 0 108 0 21981 1 4640 0 116 0 264 0 14 0 9",
   "0 96 0 9 0 2 0 1 2 5 0 224 0 12 0 241 0 262 0 633 0 12 0 1539 0 20654 1 24947 1 6 5 798381",
   "95"]

def otherIDContinue : NamedSet := .ofLines ["oidc", "otheridcontinue"]
  ["183 0 719 0 4065 8 1640 0 1585 1 4333 0 52841 0"]

def otherIDStart : NamedSet := .ofLines ["oids", "otheridstart"]
  ["6277 1 2193 0 21 0 3948 1"]

def otherLowercase : NamedSet := .ofLines ["olower", "otherlowercase"]
  ["170 0 15 0 501 8 7 1 30 4 96 0 52 0 3457 0 3119 62 13 0 34 36 689 0 13 0 16 12 211 15 848",
   "25 1938 1 31262 1 210 0 129 2 3 1 866 3 9 0 23574 0 2 2 1 41 1 8 55413 61"]

def otherMath : NamedSet := .ofLines ["omath", "othermath"]
  ["94 0 881 2 2 0 26 1 2 1 7200 0 27 2 11 0 32 3 24 1 14 1 65 12 4 0 3 1 4 4 18 0 4 0 2 9 1 0",
   "3 4 6 0 3 1 2 1 1 2 1 5 3 3 5 4 75 4 2 3 1 1 1 1 1 0 1 4 2 1 4 1 4 17 2 1 1 0 1 6 1 0 6 1",
   "290 3 168 1 1 0 24 0 17 0 445 1 12 8 5 4 5 1 2 1 3 4 14 0 1 0 2 5 24 1 57 0 1 0 29 3 9 1",
   "342 1 31 9 403 21 63 3 32 1 54371 0 1 0 4 0 211 0 1 0 54465 84 1 70 1 1 2 0 2 1 2 3 1 11 1",
   "0 1 6 1 64 1 3 2 7 1 6 1 27 1 3 1 4 1 0 3 6 1 339 2 24 1 24 1 30 1 24 1 30 1 24 1 30 1 24 1",
   "30 1 24 1 7 2 49 5632 3 1 26 1 1 1 0 2 0 1 9 1 3 1 0 1 0 6 0 4 0 1 0 1 0 1 2 1 1 1 0 2 0 1",
   "0 1 0 1 0 1 0 1 1 1 0 2 3 1 6 1 3 1 3 1 0 1 9 1 16 5 2 1 4 1 16"]

def otherUppercase : NamedSet := .ofLines ["otheruppercase", "oupper"]
  ["8544 15 838 25 117856 25 6 25 6 25"]

def patternSyntax : NamedSet := .ofLines ["patsyn", "patternsyntax"]
  ["33 14 10 6 26 3 1 0 26 3 34 6 1 0 1 1 1 0 1 1 4 0 4 0 3 0 23 0 31 0 7960 23 8 14 2 18 1 9",
   "305 719 160 629 30 1131 512 127 385 2 4 24 15 0 52493 1 261 1"]

def patternWhiteSpace : NamedSet := .ofLines ["patternwhitespace", "patws"]
  ["9 4 18 0 100 0 8072 1 24 1"]

def prependedConcatenationMark : NamedSet := .ofLines ["pcm", "prependedconcatenationmark"]
  ["1536 5 215 0 49 0 384 1 80 0 67546 0 15 0"]

def quotationMark : NamedSet := .ofLines ["qmark", "quotationmark"]
  ["34 0 4 0 131 0 15 0 8028 7 25 1 3591 0 457 3 13 2 52769 3 189 0 4 0 90 1"]

def radical : NamedSet := .ofLines ["radical"]
  ["11904 25 1 88 12 213"]

def regionalIndicator : NamedSet := .ofLines ["regionalindicator", "ri"]
  ["127462 25"]

def sentenceTerminal : NamedSet := .ofLines ["sentenceterminal", "sterm"]
  ["33 0 12 0 16 0 1353 0 147 2 180 0 43 2 246 0 61 0 1 0 3 1 293 1 1764 1 790 0 4 1 773 0 198",
   "1 157 1 45 0 5 0 314 1 354 3 162 1 10 1 2 1 29 2 187 1 65 1 932 0 23 1 9 2 3247 2 306 0 13",
   "0 22 1 429 0 29948 0 270 1 227 0 3 0 382 1 86 1 95 0 152 1 147 2 144 1 249 0 21030 0 2 1 59",
   "0 3 1 169 0 12 0 16 0 65 0 2804 1 1277 4 44 3 189 1 117 3 127 2 129 1 6 0 16 1 88 1 1 1 108",
   "0 298 1 117 1 373 1 5 14 105 1 249 2 517 0 1 0 251 1 87 1 420 1 692 1 74 1 19241 1 133 0 65",
   "1 11 0 553 1 296 0 19974 0 7656 0"]

def softDotted : NamedSet := .ofLines ["sd", "softdotted"]
  ["105 1 196 0 281 0 30 0 52 0 20 0 320 0 98 0 1 0 6409 0 51 0 13 0 3 0 132 0 157 0 421 0 214",
   "1 2866 0 108453 1 50 1 50 1 50 1 50 1 50 1 50 1 50 1 50 1 50 1 50 1 50 1 50 1 2182 0 305 1",
   "26 0"]

def terminalPunctuation : NamedSet := .ofLines ["term", "terminalpunctuation"]
  ["33 0 10 0 1 0 11 1 3 0 830 0 8 0 513 0 57 0 72 0 14 0 1 2 180 0 43 10 1 0 235 1 54 5 1 7 31",
   "0 261 1 1268 1 172 0 4 5 311 1 789 7 773 0 124 2 71 1 157 2 3 0 39 3 2 1 314 1 354 3 162 1",
   "10 1 1 2 29 2 187 4 62 1 932 0 23 1 9 2 3247 2 306 0 13 0 4 0 10 0 1 1 3 1 428 1 29947 1",
   "269 2 227 4 382 1 86 1 95 0 151 2 147 2 127 0 16 1 249 0 21030 0 2 1 57 2 1 3 169 0 10 0 1",
   "0 11 1 3 0 65 0 2 0 1082 0 48 0 1158 0 199 0 310 1 152 5 68 5 89 3 952 4 44 3 189 6 112 3",
   "127 2 129 1 6 0 16 1 88 4 108 0 298 1 117 2 12 1 358 3 3 14 105 1 249 2 517 0 1 0 251 1 87",
   "1 4 1 414 2 45 0 645 1 74 1 1323 4 17913 1 133 0 65 2 10 0 553 1 295 1 19974 0 7655 3"]

def unifiedIdeograph : NamedSet := .ofLines ["uideo", "unifiedideograph"]
  ["13312 6591 64 20991 23054 1 1 0 1 1 10 0 1 0 1 1 2 2 67030 42719 32 4153 6 221 2 5761 14",
   "7472 15 621 4514 4938 5 4191"]

def uppercase : NamedSet := .ofLines ["upper", "uppercase"]
  ["65 25 101 22 1 6 33 0 1 0 1 0 1 0 1 0 1 0 1 0 1 0 1 0 1 0 1 0 1 0 1 0 1 0 1 0 1 0 1 0 1 0 1",
   "0 1 0 1 0 1 0 1 0 1 0 1 0 1 0 1 0 1 0 2 0 1 0 1 0 1 0 1 0 1 0 1 0 1 0 2 0 1 0 1 0 1 0 1 0 1",
   "0 1 0 1 0 1 0 1 0 1 0 1 0 1 0 1 0 1 0 1 0 1 0 1 0 1 0 1 0 1 0 1 0 1 0 1 1 1 0 1 0 3 1 1 0 1",
   "1 1 2 2 3 1 1 1 2 3 1 1 1 1 0 1 0 1 1 1 0 2 0 1 1 1 2 1 0 1 1 3 0 7 0 2 0 2 0 2 0 1 0 1 0 1",
   "0 1 0 1 0 1 0 1 0 2 0 1 0 1 0 1 0 1 0 1 0 1 0 1 0 1 0 2 0 2 0 1 2 1 0 1 0 1 0 1 0 1 0 1 0 1",
   "0 1 0 1 0 1 0 1 0 1 0 1 0 1 0 1 0 1 0 1 0 1 0 1 0 1 0 1 0 1 0 1 0 1 0 1 0 1 0 1 0 1 0 1 0 7",
   "1 1 1 2 0 1 3 1 0 1 0 1 0 1 0 289 0 1 0 3 0 8 0 6 0 1 2 1 0 1 1 1 16 1 8 35 0 2 2 3 0 1 0 1",
   "0 1 0 1 0 1 0 1 0 1 0 1 0 1 0 1 0 1 0 5 0 2 0 1 1 2 50 48 0 1 0 1 0 1 0 1 0 1 0 1 0 1 0 1 0",
   "1 0 1 0 1 0 1 0 1 0 1 0 1 0 1 0 9 0 1 0 1 0 1 0 1 0 1 0 1 0 1 0 1 0 1 0 1 0 1 0 1 0 1 0 1 0",
   "1 0 1 0 1 0 1 0 1 0 1 0 1 0 1 0 1 0 1 0 1 0 1 0 1 1 1 0 1 0 1 0 1 0 1 0 1 0 2 0 1 0 1 0 1 0",
   "1 0 1 0 1 0 1 0 1 0 1 0 1 0 1 0 1 0 1 0 1 0 1 0 1 0 1 0 1 0 1 0 1 0 1 0 1 0 1 0 1 0 1 0 1 0",
   "1 0 1 0 1 0 1 0 1 0 1 0 1 0 1 0 1 0 1 0 1 0 1 0 1 0 1 0 1 0 1 0 1 0 1 0 1 0 1 0 1 0 2 37",
   "2889 37 1 0 5 0 722 85 2195 0 6 42 2 2 320 0 1 0 1 0 1 0 1 0 1 0 1 0 1 0 1 0 1 0 1 0 1 0 1",
   "0 1 0 1 0 1 0 1 0 1 0 1 0 1 0 1 0 1 0 1 0 1 0 1 0 1 0 1 0 1 0 1 0 1 0 1 0 1 0 1 0 1 0 1 0 1",
   "0 1 0 1 0 1 0 1 0 1 0 1 0 1 0 1 0 1 0 1 0 1 0 1 0 1 0 1 0 1 0 1 0 1 0 1 0 1 0 1 0 1 0 1 0 1",
   "0 1 0 1 0 1 0 1 0 1 0 1 0 1 0 1 0 1 0 1 0 1 0 1 0 1 0 1 0 1 0 1 0 9 0 1 0 1 0 1 0 1 0 1 0 1",
   "0 1 0 1 0 1 0 1 0 1 0 1 0 1 0 1 0 1 0 1 0 1 0 1 0 1 0 1 0 1 0 1 0 1 0 1 0 1 0 1 0 1 0 1 0 1",
   "0 1 0 1 0 1 0 1 0 1 0 1 0 1 0 1 0 1 0 1 0 1 0 1 0 1 0 1 0 1 0 1 0 1 0 1 0 1 0 9 7 8 5 10 7",
   "8 7 8 5 11 0 1 0 1 0 1 0 8 7 72 3 12 3 12 3 12 4 11 3 262 0 4 0 3 2 2 2 2 0 3 4 6 0 1 0 1 0",
   "1 3 2 3 10 1 5 0 26 15 19 0 818 25 1840 47 48 0 1 2 2 0 1 0 1 0 1 3 1 0 2 0 8 2 1 0 1 0 1 0",
   "1 0 1 0 1 0 1 0 1 0 1 0 1 0 1 0 1 0 1 0 1 0 1 0 1 0 1 0 1 0 1 0 1 0 1 0 1 0 1 0 1 0 1 0 1 0",
   "1 0 1 0 1 0 1 0 1 0 1 0 1 0 1 0 1 0 1 0 1 0 1 0 1 0 1 0 1 0 1 0 1 0 1 0 1 0 1 0 1 0 1 0 1 0",
   "8 0 1 0 4 0 31053 0 1 0 1 0 1 0 1 0 1 0 1 0 1 0 1 0 1 0 1 0 1 0 1 0 1 0 1 0 1 0 1 0 1 0 1 0",
   "1 0 1 0 1 0 1 0 19 0 1 0 1 0 1 0 1 0 1 0 1 0 1 0 1 0 1 0 1 0 1 0 1 0 1 0 135 0 1 0 1 0 1 0",
   "1 0 1 0 1 0 3 0 1 0 1 0 1 0 1 0 1 0 1 0 1 0 1 0 1 0 1 0 1 0 1 0 1 0 1 0 1 0 1 0 1 0 1 0 1 0",
   "1 0 1 0 1 0 1 0 1 0 1 0 1 0 1 0 1 0 1 0 1 0 10 0 1 0 1 1 1 0 1 0 1 0 1 0 4 0 1 0 2 0 1 0 3",
   "0 1 0 1 0 1 0 1 0 1 0 1 0 1 0 1 0 1 0 1 4 1 4 1 0 1 0 1 0 1 0 1 0 1 0 1 0 1 3 1 0 1 1 3 0 5",
   "0 1 0 1 0 1 0 24 0 22315 25 1221 39 136 35 156 10 1 14 1 6 1 1 1770 50 157 21 2874 31 21888",
   "31 26016 25 26 25 26 25 26 0 1 1 2 0 2 1 2 3 1 7 26 25 26 1 1 3 2 7 1 6 27 1 1 3 1 4 1 0 3",
   "6 27 25 26 25 26 25 26 25 26 25 26 25 30 24 33 24 33 24 33 24 33 24 33 0 4405 33 2062 25 6",
   "25 6 25"]

def variationSelector : NamedSet := .ofLines ["variationselector", "vs"]
  ["6155 2 1 0 58864 15 852720 239"]

def whiteSpace : NamedSet := .ofLines ["space", "whitespace", "wspace"]
  ["9 4 18 0 100 0 26 0 5599 0 2431 10 29 1 5 0 47 0 4000 0"]

def xidContinue : NamedSet := .ofLines ["xidc", "xidcontinue"]
  ["48 9 7 25 4 0 1 25 47 0 10 0 1 0 2 0 5 22 1 30 1 457 4 11 14 4 7 0 1 0 17 116 1 1 3 2 1 0 6",
   "4 1 0 1 19 1 82 1 138 1 4 2 165 1 37 2 0 6 40 8 44 1 0 1 1 1 1 1 0 8 26 4 3 29 10 5 73 4",
   "101 1 7 2 9 1 18 2 0 16 58 2 100 14 53 4 0 2 0 2 45 18 27 4 10 5 23 1 5 8 74 1 128 2 9 1 18",
   "1 7 2 1 2 21 1 6 1 0 3 3 2 8 2 1 2 3 8 0 4 1 1 4 2 11 10 0 1 0 2 2 1 5 4 1 2 21 1 6 1 1 1 1",
   "1 1 2 0 1 4 4 1 2 2 3 0 7 3 1 0 7 15 11 2 1 8 1 2 1 21 1 6 1 1 1 4 2 9 1 2 1 2 2 0 15 3 2 9",
   "9 6 1 2 1 7 2 1 2 21 1 6 1 1 1 4 2 8 2 1 2 2 7 2 4 1 1 4 2 9 1 0 16 1 1 5 3 2 1 3 3 1 1 0 1",
   "1 3 1 3 2 3 11 4 4 3 2 1 3 2 0 6 0 14 9 16 12 1 2 1 22 1 15 2 8 1 2 1 3 7 1 1 2 2 0 2 3 2 9",
   "16 3 1 7 1 2 1 22 1 9 1 4 2 8 1 2 1 3 7 1 6 1 1 3 2 9 1 2 12 12 1 2 1 50 1 2 1 4 5 3 7 4 2",
   "9 10 5 1 2 1 17 3 23 1 8 1 0 2 6 3 0 4 5 1 0 1 7 6 9 2 1 13 57 5 14 1 9 39 1 1 0 1 4 1 23 1",
   "0 1 22 2 4 1 0 1 6 1 9 2 3 32 0 23 1 6 9 11 0 1 0 1 0 4 9 1 35 4 19 1 17 1 35 9 0 57 73 6",
   "77 2 37 1 0 5 0 2 42 1 332 1 3 2 6 1 0 1 3 2 40 1 3 2 32 1 3 2 6 1 0 1 3 2 14 1 56 1 3 2 66",
   "2 2 9 8 14 15 16 85 2 5 3 619 2 16 1 25 5 74 3 10 7 21 9 21 11 19 12 12 1 2 1 1 12 83 3 0 4",
   "1 2 9 33 2 1 10 6 88 7 42 5 69 10 30 1 11 4 11 10 39 2 4 11 43 4 25 6 10 37 27 4 62 1 28 2",
   "10 6 9 13 0 8 13 1 15 49 76 3 9 17 8 12 115 12 55 8 9 3 48 2 10 5 42 2 2 16 2 1 38 5 533 2",
   "5 2 37 2 5 2 7 1 0 1 0 1 0 1 30 2 52 1 6 1 0 3 2 1 6 3 3 2 5 4 12 5 2 1 6 15 1 49 1 19 0 28",
   "0 13 0 16 12 51 12 4 0 3 11 17 0 4 0 2 9 1 0 2 5 6 0 1 0 1 0 1 15 2 3 5 4 4 0 17 40 2679",
   "228 6 8 12 37 1 0 5 0 2 55 7 0 15 23 9 6 1 6 1 6 1 6 1 6 1 6 1 6 1 6 1 31 517 2 25 14 1 4 2",
   "4 4 85 2 1 2 2 1 94 5 42 1 93 17 31 48 15 512 6591 64 22156 67 45 2 268 3 27 20 47 4 9 1",
   "114 37 8 2 102 2 66 2 1 1 0 1 7 21 53 4 0 19 51 12 69 10 9 6 23 3 0 1 48 2 35 12 28 3 64 14",
   "10 6 30 1 54 9 13 2 9 6 22 3 72 24 2 2 15 2 4 10 5 2 5 2 5 9 6 1 6 1 42 1 13 6 122 1 1 2 9",
   "6 11171 12 22 4 48 8452 365 2 105 38 6 12 4 5 11 1 12 1 4 1 0 1 1 1 1 1 107 33 138 6 217 18",
   "63 2 53 40 9 6 15 16 15 3 1 24 2 33 0 1 0 3 0 1 0 1 0 1 0 1 125 19 9 7 25 4 0 1 25 10 89 3",
   "5 2 5 2 5 2 2 35 11 1 25 1 18 1 1 1 14 2 13 34 122 69 52 136 0 130 28 3 48 15 0 31 31 13 29",
   "5 42 5 29 2 35 4 7 1 4 42 157 2 9 6 35 4 35 4 39 8 51 12 10 1 14 1 6 1 1 1 10 1 14 1 6 1 1",
   "3 51 12 310 9 21 10 7 24 5 1 41 1 8 69 5 2 0 1 43 1 1 3 0 2 22 10 22 9 30 65 18 1 1 10 21",
   "10 25 70 55 6 1 64 3 1 1 5 7 1 2 1 28 2 2 4 0 32 28 3 28 35 7 1 29 25 53 10 21 10 18 13 17",
   "110 72 55 50 13 50 13 39 8 9 6 37 3 4 1 22 250 41 1 1 3 1 16 2 55 32 10 0 8 32 31 21 42 20",
   "27 22 9 70 31 15 9 59 7 0 13 24 7 9 6 52 1 9 4 3 8 35 2 0 9 68 4 3 1 12 1 0 35 17 1 36 6 3",
   "62 6 1 0 1 3 1 14 1 9 7 58 5 9 6 3 1 7 2 1 2 21 1 6 1 1 1 4 1 9 2 1 2 2 2 0 6 0 5 6 2 6 3 4",
   "11 9 1 0 2 0 1 37 1 9 1 0 2 0 1 3 1 7 13 1 29 74 5 9 4 3 30 69 1 0 8 9 166 53 2 8 23 5 34",
   "64 3 0 11 9 38 56 7 9 6 19 28 26 2 14 4 9 6 6 185 58 101 73 21 7 2 0 2 7 1 1 1 29 1 1 2 8",
   "12 9 70 7 2 45 2 7 1 1 27 62 8 0 8 73 3 0 18 72 199 32 15 9 6 8 1 44 1 8 15 9 24 29 2 21 1",
   "13 73 6 1 1 1 43 3 0 1 1 1 8 8 9 6 5 1 1 1 36 1 1 1 5 7 9 310 22 9 16 1 40 3 4 13 10 85 0",
   "79 921 102 110 17 195 2636 96 15 1071 16 21 10 3994 5 582 6841 57 1734 568 7 30 1 9 6 78 1",
   "9 6 29 2 4 11 54 9 3 12 9 9 20 5 18 432 44 3 9 198 63 128 74 4 56 7 16 64 1 1 1 11 1 14",
   "6135 8 1237 41 9 8935 3 1 6 1 1 1 290 15 0 29 2 2 0 14 3 8 395 2308 106 5 12 3 8 7 9 3 1",
   "4177 9 518 45 2 22 542 4 3 5 8 7 2 6 30 3 148 2 443 84 1 70 1 1 2 0 2 1 2 3 1 11 1 0 1 6 1",
   "64 1 3 2 7 1 6 1 27 1 3 1 4 1 0 3 6 1 339 2 24 1 24 1 30 1 24 1 30 1 24 1 30 1 24 1 30 1 24",
   "1 7 2 49 512 54 4 49 8 0 14 0 22 4 1 14 1104 30 6 5 213 6 1 16 2 6 1 1 1 4 5 61 33 0 112 44",
   "3 13 2 9 4 0 321 30 17 57 470 41 214 42 485 6 1 3 1 1 1 14 1 196 11 6 41 75 4 9 1190 3 1 26",
   "1 1 1 0 2 0 1 9 1 3 1 0 1 0 6 0 4 0 1 0 1 0 1 2 1 1 1 0 2 0 1 0 1 0 1 0 1 0 1 1 1 0 2 3 1 6",
   "1 3 1 3 1 0 1 9 1 16 5 2 1 4 1 16 3380 9 1030 42719 32 4153 6 221 2 5761 14 7472 15 621",
   "2466 541 1506 4938 5 4191 712016 239"]

def xidStart : NamedSet := .ofLines ["xids", "xidstart"]
  ["65 25 6 25 47 0 10 0 4 0 5 22 1 30 1 457 4 11 14 4 7 0 1 0 129 4 1 1 3 2 1 0 6 0 1 2 1 0 1",
   "19 1 82 1 138 8 165 1 37 2 0 6 40 71 26 4 3 45 42 35 1 1 98 1 0 15 1 7 1 10 2 2 0 16 0 1 29",
   "29 88 11 0 24 32 9 1 4 0 5 21 4 0 9 0 3 0 23 24 7 10 5 23 1 5 17 41 58 53 3 0 18 0 7 9 15",
   "15 4 7 2 1 2 21 1 6 1 0 3 3 3 0 16 0 13 1 1 2 14 1 10 0 8 5 4 1 2 21 1 6 1 1 1 1 1 1 31 3 1",
   "0 19 2 16 8 1 2 1 21 1 6 1 1 1 4 3 0 18 0 15 1 23 0 11 7 2 1 2 21 1 6 1 1 1 4 3 0 30 1 1 2",
   "15 0 17 0 1 5 3 2 1 3 3 1 1 0 1 1 3 1 3 2 3 11 22 0 52 7 1 2 1 22 1 15 3 0 26 2 2 0 2 1 30",
   "0 4 7 1 2 1 22 1 9 1 4 3 0 31 1 1 1 15 1 17 8 1 2 1 40 2 0 16 0 5 2 8 2 24 5 5 17 3 23 1 8",
   "1 0 2 6 58 47 1 0 13 6 58 1 1 0 1 4 1 23 1 0 1 9 1 0 10 0 2 4 1 0 21 3 32 0 63 7 1 35 27 4",
   "115 42 20 0 16 5 4 3 3 0 3 1 7 2 4 12 12 0 17 37 1 0 5 0 2 42 1 332 1 3 2 6 1 0 1 3 2 40 1",
   "3 2 32 1 3 2 6 1 0 1 3 2 14 1 56 1 3 2 66 37 15 16 85 2 5 3 619 2 16 1 25 5 74 3 10 7 17 13",
   "18 14 17 14 12 1 2 15 51 35 0 4 0 67 88 7 40 1 0 5 69 10 30 49 29 2 4 11 43 4 25 54 22 9 52",
   "82 0 93 46 17 7 54 29 13 1 10 43 26 35 41 2 10 35 2 10 5 42 2 2 41 3 1 5 1 1 3 0 5 191 64",
   "277 2 5 2 37 2 5 2 7 1 0 1 0 1 0 1 30 2 52 1 6 1 0 3 2 1 6 3 3 2 5 4 12 5 2 1 6 116 0 13 0",
   "16 12 101 0 4 0 2 9 1 0 2 5 6 0 1 0 1 0 1 15 2 3 5 4 4 0 17 40 2679 228 6 3 3 1 12 37 1 0 5",
   "0 2 55 7 0 16 22 9 6 1 6 1 6 1 6 1 6 1 6 1 6 1 6 550 2 25 8 7 4 2 4 4 85 6 2 1 89 1 3 5 42",
   "1 93 17 31 48 15 512 6591 64 22156 67 45 2 268 3 15 10 1 20 46 16 30 2 79 39 8 2 102 2 66 2",
   "1 1 0 1 7 21 15 1 2 1 3 1 22 29 51 14 49 62 5 3 0 1 1 11 27 10 22 25 28 7 46 28 0 16 4 1 9",
   "10 4 1 40 23 2 1 7 20 22 3 0 3 49 1 0 3 1 2 4 2 0 1 0 24 2 2 10 7 2 12 5 2 5 2 5 9 6 1 6 1",
   "42 1 13 6 114 29 11171 12 22 4 48 8452 365 2 105 38 6 12 4 5 0 1 9 1 12 1 4 1 0 1 1 1 1 1",
   "107 33 138 6 217 18 63 2 53 40 9 119 0 1 0 3 0 1 0 1 0 1 0 1 125 36 25 6 25 11 55 2 30 3 5",
   "2 5 2 5 2 2 35 11 1 25 1 18 1 1 1 14 2 13 34 122 69 52 267 28 3 48 47 31 13 29 5 37 10 29 2",
   "35 4 7 1 4 42 157 18 35 4 35 4 39 8 51 12 10 1 14 1 6 1 1 1 10 1 14 1 6 1 1 3 51 12 310 9",
   "21 10 7 24 5 1 41 1 8 69 5 2 0 1 43 1 1 3 0 2 22 10 22 9 30 65 18 1 1 10 21 10 25 70 55 6 1",
   "64 0 15 3 1 2 1 28 42 28 3 28 35 7 1 27 27 53 10 21 10 18 13 17 110 72 55 50 13 50 13 35 38",
   "27 9 22 250 41 6 1 16 2 59 28 10 0 8 21 42 17 46 20 27 22 12 52 57 1 2 0 13 44 32 24 26 35",
   "29 0 2 0 8 34 3 0 12 47 14 3 21 0 1 0 35 17 1 24 19 1 63 6 1 0 1 3 1 14 1 9 7 46 38 7 2 1 2",
   "21 1 6 1 1 1 4 3 0 18 0 12 4 30 9 1 0 2 0 1 37 1 0 25 0 1 0 44 52 18 3 20 2 30 47 20 1 1 0",
   "184 46 41 3 36 47 20 0 59 42 13 0 71 26 37 6 185 43 116 63 31 7 2 0 2 7 1 1 1 23 15 0 1 0",
   "94 7 2 38 16 0 1 0 28 0 10 39 7 0 21 0 11 45 19 0 18 72 199 32 31 8 1 36 17 0 49 29 112 6 1",
   "1 1 37 21 0 25 5 1 1 1 31 14 0 327 18 15 0 1 12 1 33 124 0 79 921 102 110 17 195 2636 96 15",
   "1071 17 5 25 3994 5 582 6841 29 1762 568 7 30 17 78 17 29 18 47 16 3 31 20 5 18 432 44 211",
   "63 128 74 5 0 66 12 64 1 1 0 28 6135 8 1237 41 9 8935 3 1 6 1 1 1 290 15 0 29 2 2 0 14 3 8",
   "395 2308 106 5 12 3 8 7 9 5990 84 1 70 1 1 2 0 2 1 2 3 1 11 1 0 1 6 1 64 1 3 2 7 1 6 1 27 1",
   "3 1 4 1 0 3 6 1 339 2 24 1 24 1 30 1 24 1 30 1 24 1 30 1 24 1 30 1 24 1 7 1844 30 6 5 261",
   "61 146 44 10 6 16 0 321 29 18 43 484 27 228 29 2 0 495 6 1 3 1 1 1 14 1 196 59 67 7 0 1204",
   "3 1 26 1 1 1 0 2 0 1 9 1 3 1 0 1 0 6 0 4 0 1 0 1 0 1 2 1 1 1 0 2 0 1 0 1 0 1 0 1 0 1 1 1 0",
   "2 3 1 6 1 3 1 3 1 0 1 9 1 16 5 2 1 4 1 16 4420 42719 32 4153 6 221 2 5761 14 7472 15 621",
   "2466 541 1506 4938 5 4191"]

def all : List NamedSet :=
  [asciiHexDigit, alphabetic, bidiControl, bidiMirrored,
   caseIgnorable, cased, changesWhenCasefolded, changesWhenCasemapped,
   changesWhenLowercased, changesWhenTitlecased, changesWhenUppercased, dash,
   defaultIgnorableCodePoint, deprecated, diacritic, emoji,
   emojiComponent, emojiModifier, emojiModifierBase, emojiPresentation,
   extendedPictographic, extender, graphemeBase, graphemeExtend,
   graphemeLink, hexDigit, hyphen, idsBinaryOperator,
   idsTrinaryOperator, idsUnaryOperator, idCompatMathContinue, idCompatMathStart,
   idContinue, idStart, ideographic, joinControl,
   logicalOrderException, lowercase, math, modifierCombiningMark,
   noncharacterCodePoint, otherAlphabetic, otherDefaultIgnorableCodePoint, otherGraphemeExtend,
   otherIDContinue, otherIDStart, otherLowercase, otherMath,
   otherUppercase, patternSyntax, patternWhiteSpace, prependedConcatenationMark,
   quotationMark, radical, regionalIndicator, sentenceTerminal,
   softDotted, terminalPunctuation, unifiedIdeograph, uppercase,
   variationSelector, whiteSpace, xidContinue, xidStart]

end StreamSelect.Unicode.BinaryProperty
