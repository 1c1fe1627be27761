import StreamSelect.Unicode.CharSet

/-! Scripts of version 16 of the Unicode standard, with the characters that extend them. -/
namespace StreamSelect.Unicode

/-- A script under its normalized names: the characters that belong to it, and those in use with it. -/
structure Script where
  names : List String
  own : CharSet
  extended : CharSet

namespace Script

def ofLines (names own extended : List String) : Script :=
  ⟨names, .ofLines own, .ofLines extended⟩

/-- A script whose characters are those in use with it. -/
def plain (names own : List String) : Script :=
  let characters := CharSet.ofLines own
  ⟨names, characters, characters⟩

def adlam : Script := .ofLines ["adlm", "adlam"]
  ["125184 75 4 9 4 1"]
  ["1567 0 32 0 6670 0 3569 0 113342 75 4 9 4 1"]

def ahom : Script := .plain ["ahom"]
  ["71424 26 2 14 4 22"]

def anatolianHieroglyphs : Script := .plain ["hluw", "anatolianhieroglyphs"]
  ["82944 582"]

def arabic : Script := .ofLines ["arab", "arabic"]
  ["1536 4 1 5 1 13 1 2 1 31 1 9 11 25 1 107 1 33 80 47 240 30 1 1 5 74 1 28 62032 114 16 362 2",
   "79 2 53 7 0 32 15 112 4 1 134 3939 30 67 2 55 3 57088 3 1 26 1 1 1 0 2 0 1 9 1 3 1 0 1 0 6",
   "0 4 0 1 0 1 0 1 2 1 1 1 0 2 0 1 0 1 0 1 0 1 0 1 1 1 0 2 3 1 6 1 3 1 3 1 0 1 9 1 16 5 2 1 4",
   "1 16 52 1"]
  ["1536 4 1 214 1 33 80 47 240 30 1 1 5 74 1 28 5967 0 3569 0 52494 114 16 444 2 53 7 0 32 15",
   "112 4 1 134 995 27 2916 30 67 2 55 3 57088 3 1 26 1 1 1 0 2 0 1 9 1 3 1 0 1 0 6 0 4 0 1 0 1",
   "0 1 2 1 1 1 0 2 0 1 0 1 0 1 0 1 0 1 1 1 0 2 3 1 6 1 3 1 3 1 0 1 9 1 16 5 2 1 4 1 16 52 1"]

def armenian : Script := .ofLines ["armn", "armenian"]
  ["1329 37 2 49 2 2 62851 4"]
  ["776 0 552 37 2 49 2 2 62851 4"]

def avestan : Script := .ofLines ["avst", "avestan"]
  ["68352 53 3 6"]
  ["183 0 11640 1 56526 53 3 6"]

def balinese : Script := .plain ["bali", "balinese"]
  ["6912 76 1 49"]

def bamum : Script := .plain ["bamu", "bamum"]
  ["42656 87 49416 568"]

def bassaVah : Script := .plain ["bass", "bassavah"]
  ["92880 29 2 5"]

def batak : Script := .plain ["batk", "batak"]
  ["7104 51 8 3"]

def bengali : Script := .ofLines ["beng", "bengali"]
  ["2432 3 1 7 2 1 2 21 1 6 1 0 3 3 2 8 2 1 2 3 8 0 4 1 1 4 2 24"]
  ["700 0 1684 1 17 1 26 3 1 7 2 1 2 21 1 6 1 0 3 3 2 8 2 1 2 3 8 0 4 1 1 4 2 24 4817 0 1 0 2 1",
   "1 0 8 0 8 0 2 0 4 0 2 2 35833 0"]

def bhaiksuki : Script := .plain ["bhks", "bhaiksuki"]
  ["72704 8 1 44 1 13 10 28"]

def bopomofo : Script := .ofLines ["bopo", "bopomofo"]
  ["746 1 11801 42 112 31"]
  ["711 0 1 2 13 0 16 1 11541 2 4 9 1 12 10 3 2 0 6 0 195 0 9 42 112 31 52357 1 282 4"]

def brahmi : Script := .plain ["brah", "brahmi"]
  ["69632 77 4 35 9 0"]

def braille : Script := .plain ["brai", "braille"]
  ["10240 255"]

def buginese : Script := .ofLines ["bugi", "buginese"]
  ["6656 27 2 1"]
  ["6656 27 2 1 36783 0"]

def buhid : Script := .ofLines ["buhd", "buhid"]
  ["5952 19"]
  ["5941 1 9 19"]

def canadianAboriginal : Script := .plain ["cans", "canadianaboriginal"]
  ["5120 639 560 69 65978 15"]

def carian : Script := .ofLines ["cari", "carian"]
  ["66208 48"]
  ["183 0 8098 0 2 0 3539 0 54382 48"]

def caucasianAlbanian : Script := .ofLines ["aghb", "caucasianalbanian"]
  ["66864 51 11 0"]
  ["772 0 44 0 44 0 66001 51 11 0"]

def chakma : Script := .ofLines ["cakm", "chakma"]
  ["69888 52 1 17"]
  ["2534 9 1616 9 65718 52 1 17"]

def cham : Script := .plain ["cham"]
  ["43520 54 9 13 2 9 2 3"]

def cherokee : Script := .ofLines ["cher", "cherokee"]
  ["5024 85 2 5 38770 79"]
  ["768 2 1 0 6 1 22 1 11 1 4206 85 2 5 38770 79"]

def chorasmian : Script := .plain ["chrs", "chorasmian"]
  ["69552 27"]

def common : Script := .ofLines ["zyyy", "common"]
  ["0 64 26 5 26 46 1 14 1 4 23 0 31 0 449 38 5 4 2 19 116 0 9 0 6 0 1 0 637 0 6 0 14 0 3 0 32",
   "0 156 0 516 0 129 1 1241 0 405 3 290 0 1519 2 71 1 203 1 1 0 1229 0 13 0 7 3 1 5 1 2 2 0",
   "773 11 2 86 1 10 3 10 1 14 17 32 63 37 1 2 2 5 1 26 1 16 41 2 4 665 22 10 21 927 256 627 2",
   "31 1 104 512 93 402 20 1 0 1 24 15 7 4 3 91 1 3 0 90 1 147 15 32 37 9 0 48 63 31 80 47 0 88",
   "167 6592 63 22784 33 102 2 165 9 244 0 160 0 395 0 14 1 20946 1 208 9 22 34 1 18 1 3 147 0",
   "1 31 26 5 26 10 10 0 45 1 64 6 1 6 10 4 258 2 4 44 3 8 80 12 51 44 228 26 47524 3 3932 249",
   "6 435 156 115 60 245 10 38 2 61 3 16 8 1 7 29 4 60 213 19 12 19 12 86 9 24 135 84 1 70 1 1",
   "2 0 2 1 2 3 1 11 1 0 1 6 1 64 1 3 2 7 1 6 1 27 1 3 1 4 1 0 3 6 1 339 2 291 2 49 5233 67 76",
   "60 706 43 4 99 12 14 2 14 1 14 1 36 10 173 56 25 1 1 13 43 4 8 7 1 14 5 154 983 4 16 3 12 3",
   "118 4 94 6 11 4 0 15 11 4 55 8 9 6 39 8 29 2 11 4 1 62 339 12 13 2 12 3 9 5 55 7 14 2 10 6",
   "8 7 146 1 101 787463 0 30 95"]
  ["0 64 26 5 26 46 1 11 1 1 1 4 23 0 31 0 449 2 1 9 1 0 3 0 1 8 1 0 1 5 5 4 2 19 126 0 6 0 1 0",
   "637 0 215 0 516 0 1372 0 405 3 4135 11 2 32 1 30 1 9 1 1 1 6 1 10 3 10 1 14 17 32 63 37 1 2",
   "2 5 1 26 1 16 41 2 4 665 22 10 21 927 256 627 2 31 1 104 512 22 1 23 2 9 1 3 1 0 1 25 418 0",
   "3 0 13 0 13 0 21 0 529 23 31 0 49 14 12 3 161 9 5 95 31 0 6592 63 22792 25 102 2 976 0 14 1",
   "21156 9 22 20 2 11 1 18 1 3 147 0 1 31 26 5 26 5 127 6 1 6 10 4 402 12 51 44 51715 249 6",
   "435 156 115 60 245 10 38 2 61 3 16 8 1 7 29 4 60 213 19 12 19 12 86 27 6 135 84 1 70 1 1 2",
   "0 2 1 2 3 1 11 1 0 1 6 1 64 1 3 2 7 1 6 1 27 1 3 1 4 1 0 3 6 1 339 2 291 2 49 5233 67 76 60",
   "706 43 4 99 12 14 2 14 1 14 1 36 10 173 56 25 1 1 13 43 4 8 23 5 154 983 4 16 3 12 3 118 4",
   "94 6 11 4 0 15 11 4 55 8 9 6 39 8 29 2 11 4 1 62 339 12 13 2 12 3 9 5 55 7 14 2 10 6 8 7",
   "146 1 101 787463 0 30 95"]

def coptic : Script := .ofLines ["copt", "qaac", "coptic"]
  ["994 13 10384 115 5 6"]
  ["183 0 584 0 3 1 1 0 108 1 108 13 10384 115 5 6 279 0 54472 27"]

def cuneiform : Script := .plain ["xsux", "cuneiform"]
  ["73728 921 102 110 1 4 11 195"]

def cypriot : Script := .ofLines ["cprt", "cypriot"]
  ["67584 5 2 0 1 43 1 1 3 0 2 0"]
  ["65792 2 4 44 3 8 1728 5 2 0 1 43 1 1 3 0 2 0"]

def cyproMinoan : Script := .ofLines ["cpmn", "cyprominoan"]
  ["77712 98"]
  ["65792 1 11918 98"]

def cyrillic : Script := .ofLines ["cyrl", "cyrillic"]
  ["1024 132 2 168 5968 10 160 0 76 0 4199 31 30784 95 22414 1 57856 61 33 0"]
  ["700 0 67 2 1 0 1 0 1 0 2 0 5 0 238 303 5968 10 160 0 76 0 127 0 4071 31 67 0 30716 95 22414",
   "1 57856 61 33 0"]

def deseret : Script := .plain ["dsrt", "deseret"]
  ["66560 79"]

def devanagari : Script := .ofLines ["deva", "devanagari"]
  ["2304 80 4 14 2 25 40800 31 29184 9"]
  ["700 0 1603 82 2 42 4944 38 1 1 1014 0 34623 9 166 31 29184 9"]

def divesAkuru : Script := .plain ["diak", "divesakuru"]
  ["71936 6 2 0 2 7 1 1 1 29 1 1 2 11 9 9"]

def dogra : Script := .ofLines ["dogr", "dogra"]
  ["71680 59"]
  ["2404 11 40640 9 28614 59"]

def duployan : Script := .ofLines ["dupl", "duployan"]
  ["113664 106 5 12 3 8 7 9 2 3"]
  ["183 0 591 1 1 0 24 1 11031 0 101827 106 5 12 3 8 7 9 2 7"]

def egyptianHieroglyphs : Script := .plain ["egyp", "egyptianhieroglyphs"]
  ["77824 1109 10 3994"]

def elbasan : Script := .ofLines ["elba", "elbasan"]
  ["66816 39"]
  ["183 0 589 0 66042 39"]

def elymaic : Script := .plain ["elym", "elymaic"]
  ["69600 22"]

def ethiopic : Script := .ofLines ["ethi", "ethiopic"]
  ["4608 72 1 3 2 6 1 0 1 3 2 40 1 3 2 32 1 3 2 6 1 0 1 3 2 14 1 56 1 3 2 66 2 31 3 25 6630 22",
   "9 6 1 6 1 6 1 6 1 6 1 6 1 6 1 6 32034 5 2 5 2 5 9 6 1 6 81073 6 1 3 1 1 1 14"]
  ["782 0 3825 72 1 3 2 6 1 0 1 3 2 40 1 3 2 32 1 3 2 6 1 0 1 3 2 14 1 56 1 3 2 66 2 31 3 25",
   "6630 22 9 6 1 6 1 6 1 6 1 6 1 6 1 6 1 6 32034 5 2 5 2 5 9 6 1 6 81073 6 1 3 1 1 1 14"]

def garay : Script := .ofLines ["gara", "garay"]
  ["68928 37 3 28 8 1"]
  ["1548 0 14 0 3 0 67360 37 3 28 8 1"]

def georgian : Script := .ofLines ["geor", "georgian"]
  ["4256 37 1 0 5 0 2 42 1 3 2960 42 2 2 4160 37 1 0 5 0"]
  ["183 0 1233 0 2838 37 1 0 5 0 2 47 2960 42 2 2 922 0 3237 37 1 0 5 0 259 0"]

def glagolitic : Script := .ofLines ["glag", "glagolitic"]
  ["11264 95 111520 6 1 16 2 6 1 1 1 4"]
  ["183 0 587 0 1 0 382 0 2 0 257 0 2929 0 3934 0 2981 95 483 0 30763 0 80272 6 1 16 2 6 1 1 1 4"]

def gothic : Script := .ofLines ["goth", "gothic"]
  ["66352 26"]
  ["183 0 588 1 2 0 40 0 65534 26"]

def grantha : Script := .ofLines ["gran", "grantha"]
  ["70400 3 1 7 2 1 2 21 1 6 1 1 1 4 2 8 2 1 2 2 2 0 6 0 5 6 2 6 3 4"]
  ["2385 1 17 1 640 13 4316 0 1 1 30 2 3 1 1014 0 61967 3 1 7 2 1 2 21 1 6 1 1 1 4 1 9 2 1 2 2",
   "2 0 6 0 5 6 2 6 3 4 3163 1 1 0"]

def greek : Script := .ofLines ["grek", "greek"]
  ["880 3 1 2 2 3 1 0 4 0 1 0 1 2 1 0 1 19 1 62 14 15 6438 4 50 4 4 4 84 0 320 21 2 5 2 37 2 5",
   "2 7 1 0 1 0 1 0 1 30 2 52 1 14 1 13 2 5 1 18 2 2 1 8 295 0 35390 0 21978 78 17 0 53343 69"]
  ["183 0 584 1 2 0 1 0 1 0 10 0 46 0 2 0 42 7 2 3 1 0 4 0 1 0 1 2 1 0 1 19 1 62 14 15 6438 4",
   "50 4 4 4 84 2 318 21 2 5 2 37 2 5 2 7 1 0 1 0 1 0 1 30 2 52 1 14 1 13 2 5 1 18 2 2 1 8 94 0",
   "200 0 35390 0 21978 78 17 0 53343 69"]

def gujarati : Script := .ofLines ["gujr", "gujarati"]
  ["2689 2 1 8 1 2 1 21 1 6 1 1 1 4 2 9 1 2 1 2 2 0 15 3 2 11 7 6"]
  ["2385 1 17 1 283 2 1 8 1 2 1 21 1 6 1 1 1 4 2 9 1 2 1 2 2 0 15 3 2 11 7 6 40240 9"]

def gunjalaGondi : Script := .ofLines ["gong", "gunjalagondi"]
  ["73056 5 1 1 1 36 1 1 1 5 7 9"]
  ["183 0 2220 1 70650 5 1 1 1 36 1 1 1 5 7 9"]

def gurmukhi : Script := .ofLines ["guru", "gurmukhi"]
  ["2561 2 1 5 4 1 2 21 1 6 1 1 1 1 1 1 2 0 1 4 4 1 2 2 3 0 7 3 1 0 7 16"]
  ["2385 1 17 1 155 2 1 5 4 1 2 21 1 6 1 1 1 1 1 1 2 0 1 4 4 1 2 2 3 0 7 3 1 0 7 16 40377 9"]

def gurungKhema : Script := .ofLines ["gukh", "gurungkhema"]
  ["90368 57"]
  ["2405 0 87962 57"]

def han : Script := .ofLines ["hani", "han"]
  ["11904 25 1 88 12 213 47 0 1 0 25 8 14 3 964 6591 64 20991 22784 365 2 105 29960 1 12 1",
   "36878 42719 32 4153 6 221 2 5761 14 7472 15 621 2466 541 1506 4938 5 4191"]
  ["183 0 11720 25 1 88 12 213 26 15 1 2 1 12 1 12 1 12 2 0 6 8 187 0 148 15 32 37 9 0 48 39 56",
   "48 15 11 51 0 88 24 10 4 96 30 1 6591 64 20991 1792 7 20984 365 2 105 875 1 282 4 28796 1",
   "12 1 25454 17 7902 1 3502 42719 32 4153 6 221 2 5761 14 7472 15 621 2466 541 1506 4938 5",
   "4191"]

def hangul : Script := .ofLines ["hang", "hangul"]
  ["4352 255 7726 1 257 93 113 30 65 30 30433 28 643 11171 12 22 4 48 10148 30 3 5 2 5 2 5 2 2"]
  ["4352 255 7681 2 4 9 1 12 14 2 6 0 195 0 53 93 113 30 65 30 30433 28 643 11171 12 22 4 48",
   "9801 1 282 4 58 30 3 5 2 5 2 5 2 2"]

def hanifiRohingya : Script := .ofLines ["rohg", "hanifirohingya"]
  ["68864 39 8 9"]
  ["1548 0 14 0 3 0 32 0 147 0 67115 39 8 9"]

def hanunoo : Script := .ofLines ["hano", "hanunoo"]
  ["5920 20"]
  ["5920 22"]

def hatran : Script := .plain ["hatr", "hatran"]
  ["67808 18 1 1 5 4"]

def hebrew : Script := .ofLines ["hebr", "hebrew"]
  ["1425 54 8 26 4 5 62760 25 1 4 1 0 1 1 1 1 1 9"]
  ["775 1 648 54 8 26 4 5 62760 25 1 4 1 0 1 1 1 1 1 9"]

def hiragana : Script := .ofLines ["hira", "hiragana"]
  ["12353 85 6 2 98145 286 18 0 29 2 16557 0"]
  ["12289 2 4 9 1 12 16 5 1 0 4 1 3 85 2 7 90 1 52552 1 282 4 10 0 45 1 45153 286 18 0 29 2",
   "16557 0"]

def imperialAramaic : Script := .plain ["armi", "imperialaramaic"]
  ["67648 21 1 8"]

def inherited : Script := .ofLines ["qaai", "zinh", "inherited"]
  ["768 111 277 1 452 10 26 0 736 3 4443 30 513 2 1 12 1 6 4 0 6 0 3 1 198 63 524 1 194 32 3897",
   "3 107 1 52581 15 16 13 975 0 226 0 4186 0 48068 45 2 22 544 2 17 7 2 6 30 3 798546 239"]
  ["783 0 2 0 1 11 1 1 3 6 2 0 2 15 1 1 1 17 1 4 1 3 1520 1 4443 30 755 53 1 0 1 4 524 1 194 31",
   "56592 15 16 13 975 0 52482 45 2 22 544 2 17 7 2 6 30 3 798546 239"]

def inscriptionalPahlavi : Script := .plain ["phli", "inscriptionalpahlavi"]
  ["68448 18 5 7"]

def inscriptionalParthian : Script := .plain ["prti", "inscriptionalparthian"]
  ["68416 21 2 7"]

def javanese : Script := .ofLines ["java", "javanese"]
  ["43392 77 2 9 4 1"]
  ["43392 77 1 10 4 1"]

def kaithi : Script := .ofLines ["kthi", "kaithi"]
  ["69760 66 10 0"]
  ["2406 9 9409 0 31230 9 26694 66 10 0"]

def kannada : Script := .ofLines ["knda", "kannada"]
  ["3200 12 1 2 1 22 1 9 1 4 2 8 1 2 1 3 7 1 6 1 1 3 2 9 1 2"]
  ["2385 1 17 1 794 12 1 2 1 22 1 9 1 4 2 8 1 2 1 3 7 1 6 1 1 3 2 9 1 2 4060 0 1 1 6 0 23 0 1 0",
   "35643 5"]

def katakana : Script := .ofLines ["kana", "katakana"]
  ["12449 89 2 2 240 15 208 46 1 87 52238 9 1 44 45138 3 1 6 1 1 1 0 287 2 50 0 14 3"]
  ["773 0 29 0 11485 2 4 9 1 12 16 5 1 0 4 1 91 3 3 95 240 15 208 46 1 87 51949 1 282 62 45136",
   "3 1 6 1 1 1 0 287 2 50 0 14 3"]

def kawi : Script := .plain ["kawi"]
  ["73472 16 1 40 3 28"]

def kayahLi : Script := .ofLines ["kali", "kayahli"]
  ["43264 45 1 0"]
  ["43264 47"]

def kharoshthi : Script := .plain ["khar", "kharoshthi"]
  ["68096 3 1 1 5 7 1 2 1 28 2 2 4 9 7 8"]

def khitanSmallScript : Script := .plain ["kits", "khitansmallscript"]
  ["94180 0 6939 469 41 0"]

def khmer : Script := .plain ["khmr", "khmer"]
  ["6016 93 2 9 6 9 486 31"]

def khojki : Script := .ofLines ["khoj", "khojki"]
  ["70144 17 1 46"]
  ["2790 9 40256 9 27078 17 1 46"]

def khudawadi : Script := .ofLines ["sind", "khudawadi"]
  ["70320 58 5 9"]
  ["2404 1 40650 9 27254 58 5 9"]

def kiratRai : Script := .plain ["krai", "kiratrai"]
  ["93504 57"]

def lao : Script := .plain ["laoo", "lao"]
  ["3713 1 1 0 1 4 1 23 1 0 1 22 2 4 1 0 1 6 1 9 2 3"]

def latin : Script := .ofLines ["latn", "latin"]
  ["65 25 6 25 47 0 15 0 5 22 1 30 1 448 39 4 6683 37 6 48 5 3 5 12 1 69 65 255 369 0 13 0 16",
   "12 141 1 6 0 27 0 17 40 2775 31 31394 101 3 66 2 1 1 0 1 7 21 13 816 42 1 8 1 3 20374 6",
   "1050 25 6 25 2085 5 1 41 1 8 55109 30 6 5"]
  ["65 25 6 25 47 0 12 0 2 0 5 22 1 30 1 448 3 0 10 0 1 2 1 0 9 0 1 0 6 4 27 14 1 1 1 0 12 0 2",
   "2 7 1 1 1 38 0 5 0 4 12 277 1 1226 1 1960 0 3076 37 6 48 5 3 5 12 1 69 57 0 7 255 303 0 65",
   "0 13 0 16 12 83 0 57 1 6 0 27 0 17 40 2775 31 407 0 30952 7 26 101 3 66 2 1 1 0 1 7 21 13",
   "302 0 513 42 1 8 1 3 20374 6 1050 25 6 25 2085 5 1 41 1 8 55109 30 6 5"]

def lepcha : Script := .plain ["lepc", "lepcha"]
  ["7168 55 3 14 3 2"]

def limbu : Script := .ofLines ["limb", "limbu"]
  ["6400 30 1 11 4 11 4 0 3 11"]
  ["2405 0 3994 30 1 11 4 11 4 0 3 11"]

def linearA : Script := .ofLines ["lina", "lineara"]
  ["67072 310 9 21 10 7"]
  ["65799 44 1228 310 9 21 10 7"]

def linearB : Script := .ofLines ["linb", "linearb"]
  ["65536 11 1 25 1 18 1 1 1 14 2 13 34 122"]
  ["65536 11 1 25 1 18 1 1 1 14 2 13 34 122 5 2 4 44 3 8"]

def lisu : Script := .ofLines ["lisu"]
  ["42192 47 31408 0"]
  ["700 0 16 0 11580 1 29892 47 31408 0"]

def lycian : Script := .ofLines ["lyci", "lycian"]
  ["66176 28"]
  ["8282 0 57893 28"]

def lydian : Script := .ofLines ["lydi", "lydian"]
  ["67872 25 5 0"]
  ["183 0 11641 0 56046 25 5 0"]

def mahajani : Script := .ofLines ["mahj", "mahajani"]
  ["69968 38"]
  ["183 0 2220 11 40640 9 26902 38"]

def makasar : Script := .plain ["maka", "makasar"]
  ["73440 24"]

def malayalam : Script := .ofLines ["mlym", "malayalam"]
  ["3328 12 1 2 1 50 1 2 1 5 4 15 2 25"]
  ["2385 1 17 1 922 12 1 2 1 50 1 2 1 5 4 15 2 25 3930 0 23 0 35645 2"]

def mandaic : Script := .ofLines ["mand", "mandaic"]
  ["2112 27 2 0"]
  ["1600 0 511 27 2 0"]

def manichaean : Script := .ofLines ["mani", "manichaean"]
  ["68288 38 4 11"]
  ["1600 0 66687 38 4 11"]

def marchen : Script := .plain ["marc", "marchen"]
  ["72816 31 2 21 1 13"]

def masaramGondi : Script := .ofLines ["gonm", "masaramgondi"]
  ["72960 6 1 1 1 43 3 0 1 1 1 8 8 9"]
  ["2404 1 70554 6 1 1 1 43 3 0 1 1 1 8 8 9"]

def medefaidrin : Script := .plain ["medf", "medefaidrin"]
  ["93760 90"]

def meeteiMayek : Script := .plain ["mtei", "meeteimayek"]
  ["43744 22 201 45 2 9"]

def mendeKikakui : Script := .plain ["mend", "mendekikakui"]
  ["124928 196 2 15"]

def meroiticCursive : Script := .plain ["merc", "meroiticcursive"]
  ["68000 23 4 19 2 45"]

def meroiticHieroglyphs : Script := .ofLines ["mero", "meroitichieroglyphs"]
  ["67968 31"]
  ["8285 0 59682 31"]

def miao : Script := .plain ["miao", "plrd"]
  ["93952 74 4 56 7 16"]

def modi : Script := .ofLines ["modi"]
  ["71168 68 11 9"]
  ["43056 9 28102 68 11 9"]

def mongolian : Script := .ofLines ["mong", "mongolian"]
  ["6144 1 2 0 1 19 6 88 7 42 64949 12"]
  ["6144 25 6 88 7 42 1924 0 4049 1 5 3 58964 12"]

def mro : Script := .plain ["mroo", "mro"]
  ["92736 30 1 9 4 1"]

def multani : Script := .ofLines ["mult", "multani"]
  ["70272 6 1 0 1 3 1 14 1 10"]
  ["2662 9 67600 6 1 0 1 3 1 14 1 10"]

def myanmar : Script := .ofLines ["mymr", "myanmar"]
  ["4096 159 39232 30 97 31 27728 19"]
  ["4096 159 39054 0 177 30 97 31 27728 19"]

def nabataean : Script := .plain ["nbat", "nabataean"]
  ["67712 30 8 8"]

def nagMundari : Script := .plain ["nagm", "nagmundari"]
  ["124112 41"]

def nandinagari : Script := .ofLines ["nand", "nandinagari"]
  ["72096 7 2 45 2 10"]
  ["2404 1 896 9 4089 0 8 0 7 0 35637 5 29034 7 2 45 2 10"]

def newTaiLue : Script := .plain ["talu", "newtailue"]
  ["6528 43 4 25 6 10 3 1"]

def newa : Script := .plain ["newa"]
  ["70656 91 1 4"]

def nko : Script := .ofLines ["nkoo", "nko"]
  ["1984 58 2 2"]
  ["1548 0 14 0 3 0 416 58 2 2 62782 1"]

def nushu : Script := .plain ["nshu", "nushu"]
  ["94177 0 16782 395"]

def nyiakengPuachueHmong : Script := .plain ["hmnp", "nyiakengpuachuehmong"]
  ["123136 44 3 13 2 9 4 1"]

def ogham : Script := .plain ["ogam", "ogham"]
  ["5760 28"]

def olChiki : Script := .plain ["olck", "olchiki"]
  ["7248 47"]

def olOnal : Script := .ofLines ["onao", "olonal"]
  ["124368 42 4 0"]
  ["2404 1 121962 42 4 0"]

def oldHungarian : Script := .ofLines ["hung", "oldhungarian"]
  ["68736 50 13 50 7 5"]
  ["8282 0 2 0 3539 0 15 0 56894 50 13 50 7 5"]

def oldItalic : Script := .plain ["ital", "olditalic"]
  ["66304 35 9 2"]

def oldNorthArabian : Script := .plain ["narb", "oldnortharabian"]
  ["68224 31"]

def oldPermic : Script := .ofLines ["perm", "oldpermic"]
  ["66384 42"]
  ["183 0 584 0 5 2 10 0 367 0 65228 42"]

def oldPersian : Script := .plain ["xpeo", "oldpersian"]
  ["66464 35 4 13"]

def oldSogdian : Script := .plain ["sogo", "oldsogdian"]
  ["69376 39"]

def oldSouthArabian : Script := .plain ["sarb", "oldsoutharabian"]
  ["68192 31"]

def oldTurkic : Script := .ofLines ["orkh", "oldturkic"]
  ["68608 72"]
  ["8282 0 3541 0 56783 72"]

def oldUyghur : Script := .ofLines ["ougr", "olduyghur"]
  ["69488 25"]
  ["1600 0 66737 0 1149 25"]

def oriya : Script := .ofLines ["orya", "oriya"]
  ["2817 2 1 7 2 1 2 21 1 6 1 1 1 4 2 8 2 1 2 2 7 2 4 1 1 4 2 17"]
  ["2385 1 17 1 411 2 1 7 2 1 2 21 1 6 1 1 1 4 2 8 2 1 2 2 7 2 4 1 1 4 2 17 4450 0 23 0"]

def osage : Script := .ofLines ["osge", "osage"]
  ["66736 35 4 35"]
  ["769 0 2 0 6 0 76 0 65879 35 4 35"]

def osmanya : Script := .plain ["osma", "osmanya"]
  ["66688 29 2 9"]

def pahawhHmong : Script := .plain ["hmng", "pahawhhmong"]
  ["92928 69 10 9 1 6 1 20 5 18"]

def palmyrene : Script := .plain ["palm", "palmyrene"]
  ["67680 31"]

def pauCinHau : Script := .plain ["pauc", "paucinhau"]
  ["72384 56"]

def phagsPa : Script := .ofLines ["phag", "phagspa"]
  ["43072 55"]
  ["6146 1 1 0 2089 0 4050 0 30781 55"]

def phoenician : Script := .plain ["phnx", "phoenician"]
  ["67840 27 3 0"]

def psalterPahlavi : Script := .ofLines ["phlp", "psalterpahlavi"]
  ["68480 17 7 3 12 6"]
  ["1600 0 66879 17 7 3 12 6"]

def rejang : Script := .plain ["rjng", "rejang"]
  ["43312 35 11 0"]

def runic : Script := .ofLines ["runr", "runic"]
  ["5792 74 3 10"]
  ["5792 88"]

def samaritan : Script := .ofLines ["samr", "samaritan"]
  ["2048 45 2 14"]
  ["2048 45 2 14 9714 0"]

def saurashtra : Script := .plain ["saur", "saurashtra"]
  ["43136 69 8 11"]

def sharada : Script := .ofLines ["shrd", "sharada"]
  ["70016 95"]
  ["2385 0 4997 0 1 0 2 1 2 0 35663 5 2 0 26951 95"]

def shavian : Script := .ofLines ["shaw", "shavian"]
  ["66640 47"]
  ["183 0 66456 47"]

def siddham : Script := .plain ["sidd", "siddham"]
  ["71040 53 2 37"]

def signWriting : Script := .plain ["sgnw", "signwriting"]
  ["120832 651 15 4 1 14"]

def sinhala : Script := .ofLines ["sinh", "sinhala"]
  ["3457 2 1 17 3 23 1 8 1 0 2 6 3 0 4 5 1 0 1 7 6 9 2 2 66540 19"]
  ["2404 1 1051 2 1 17 3 23 1 8 1 0 2 6 3 0 4 5 1 0 1 7 6 9 2 2 3837 0 62702 19"]

def sogdian : Script := .ofLines ["sogd", "sogdian"]
  ["69424 41"]
  ["1600 0 67823 41"]

def soraSompeng : Script := .plain ["sora", "sorasompeng"]
  ["69840 24 7 9"]

def soyombo : Script := .plain ["soyo", "soyombo"]
  ["72272 82"]

def sundanese : Script := .plain ["sund", "sundanese"]
  ["7040 63 256 7"]

def sunuwar : Script := .ofLines ["sunu", "sunuwar"]
  ["72640 33 14 9"]
  ["768 1 1 0 9 0 2 0 28 0 3 0 71822 33 14 9"]

def sylotiNagri : Script := .ofLines ["sylo", "sylotinagri"]
  ["43008 44"]
  ["2404 1 128 9 40464 44"]

def syriac : Script := .ofLines ["syrc", "syriac"]
  ["1792 13 1 59 2 2 272 10"]
  ["771 1 2 1 1 0 21 0 2 2 7 1 1 0 731 0 14 1 2 0 32 0 10 10 26 0 143 13 1 59 2 2 272 10 5517 0",
   "1 0"]

def tagalog : Script := .ofLines ["tglg", "tagalog"]
  ["5888 21 9 0"]
  ["5888 21 9 0 21 1"]

def tagbanwa : Script := .ofLines ["tagb", "tagbanwa"]
  ["5984 12 1 2 1 1"]
  ["5941 1 41 12 1 2 1 1"]

def taiLe : Script := .ofLines ["tale", "taile"]
  ["6480 29 2 4"]
  ["768 1 5 1 3 0 3379 9 2310 29 2 4"]

def taiTham : Script := .plain ["lana", "taitham"]
  ["6688 62 1 28 2 10 6 9 6 13"]

def taiViet : Script := .plain ["tavt", "taiviet"]
  ["43648 66 24 4"]

def takri : Script := .ofLines ["takr", "takri"]
  ["71296 57 6 9"]
  ["2404 1 40650 9 28230 57 6 9"]

def tamil : Script := .ofLines ["taml", "tamil"]
  ["2946 1 1 5 3 2 1 3 3 1 1 0 1 1 3 1 3 2 3 11 4 4 3 2 1 3 2 0 6 0 14 20 70597 49 13 0"]
  ["2385 1 17 1 540 1 1 5 3 2 1 3 3 1 1 0 1 1 3 1 3 2 3 11 4 4 3 2 1 3 2 0 6 0 14 20 4319 0",
   "35864 0 27149 0 1 0 55 1 3203 49 13 0"]

def tangsa : Script := .plain ["tnsa", "tangsa"]
  ["92784 78 1 9"]

def tangut : Script := .ofLines ["tang", "tangut"]
  ["94176 0 31 6135 8 767 512 8"]
  ["12272 15 495 0 81392 0 31 6135 8 767 512 8"]

def telugu : Script := .ofLines ["telu", "telugu"]
  ["3072 12 1 2 1 22 1 15 2 8 1 2 1 3 7 1 1 2 2 0 2 3 2 9 7 8"]
  ["2385 1 17 1 666 12 1 2 1 22 1 15 2 8 1 2 1 3 7 1 1 2 2 0 2 3 2 9 7 8 4186 0 23 0"]

def thaana : Script := .ofLines ["thaa", "thaana"]
  ["1920 49"]
  ["1548 0 14 1 2 0 64 9 278 49 63040 0 10 0"]

def thai : Script := .ofLines ["thai"]
  ["3585 57 5 27"]
  ["700 0 26 0 43 0 45 0 2767 57 5 27"]

def tibetan : Script := .ofLines ["tibt", "tibetan"]
  ["3840 71 1 35 4 38 1 35 1 14 1 6 4 1"]
  ["3840 71 1 35 4 38 1 35 1 14 1 6 4 1 8237 3"]

def tifinagh : Script := .ofLines ["tfng", "tifinagh"]
  ["11568 55 7 1 14 0"]
  ["770 0 1 0 2 0 1 0 10790 55 7 1 14 0"]

def tirhuta : Script := .ofLines ["tirh", "tirhuta"]
  ["70784 71 8 9"]
  ["2385 1 17 1 5004 0 35645 9 27718 71 8 9"]

def todhri : Script := .ofLines ["todr", "todhri"]
  ["67008 51"]
  ["769 0 2 0 2 0 9 0 1 0 74 0 66145 51"]

def toto : Script := .ofLines ["toto"]
  ["123536 30"]
  ["700 0 122835 30"]

def tuluTigalari : Script := .ofLines ["tutg", "tulutigalari"]
  ["70528 9 1 0 2 0 1 37 1 9 1 0 2 0 1 3 1 9 1 1 8 1"]
  ["3302 9 4098 0 1 0 35643 5 187 0 27278 9 1 0 2 0 1 37 1 9 1 0 2 0 1 3 1 9 1 1 8 1"]

def ugaritic : Script := .plain ["ugar", "ugaritic"]
  ["66432 29 1 0"]

def vai : Script := .plain ["vaii", "vai"]
  ["42240 299"]

def vithkuqi : Script := .plain ["vith", "vithkuqi"]
  ["66928 10 1 14 1 6 1 1 1 10 1 14 1 6 1 1"]

def wancho : Script := .plain ["wcho", "wancho"]
  ["123584 57 5 0"]

def warangCiti : Script := .plain ["wara", "warangciti"]
  ["71840 82 12 0"]

def yezidi : Script := .ofLines ["yezi", "yezidi"]
  ["69248 41 1 2 2 1"]
  ["1548 0 14 0 3 0 64 9 67606 41 1 2 2 1"]

def yi : Script := .ofLines ["yiii", "yi"]
  ["40960 1164 3 54"]
  ["12289 1 5 9 2 7 223 0 28420 1164 3 54 23194 4"]

def zanabazarSquare : Script := .plain ["zanb", "zanabazarsquare"]
  ["72192 71"]

def all : List Script :=
  [adlam, ahom, anatolianHieroglyphs, arabic, armenian, avestan,
   balinese, bamum, bassaVah, batak, bengali, bhaiksuki,
   bopomofo, brahmi, braille, buginese, buhid, canadianAboriginal,
   carian, caucasianAlbanian, chakma, cham, cherokee, chorasmian,
   common, coptic, cuneiform, cypriot, cyproMinoan, cyrillic,
   deseret, devanagari, divesAkuru, dogra, duployan, egyptianHieroglyphs,
   elbasan, elymaic, ethiopic, garay, georgian, glagolitic,
   gothic, grantha, greek, gujarati, gunjalaGondi, gurmukhi,
   gurungKhema, han, hangul, hanifiRohingya, hanunoo, hatran,
   hebrew, hiragana, imperialAramaic, inherited, inscriptionalPahlavi, inscriptionalParthian,
   javanese, kaithi, kannada, katakana, kawi, kayahLi,
   kharoshthi, khitanSmallScript, khmer, khojki, khudawadi, kiratRai,
   lao, latin, lepcha, limbu, linearA, linearB,
   lisu, lycian, lydian, mahajani, makasar, malayalam,
   mandaic, manichaean, marchen, masaramGondi, medefaidrin, meeteiMayek,
   mendeKikakui, meroiticCursive, meroiticHieroglyphs, miao, modi, mongolian,
   mro, multani, myanmar, nabataean, nagMundari, nandinagari,
   newTaiLue, newa, nko, nushu, nyiakengPuachueHmong, ogham,
   olChiki, olOnal, oldHungarian, oldItalic, oldNorthArabian, oldPermic,
   oldPersian, oldSogdian, oldSouthArabian, oldTurkic, oldUyghur, oriya,
   osage, osmanya, pahawhHmong, palmyrene, pauCinHau, phagsPa,
   phoenician, psalterPahlavi, rejang, runic, samaritan, saurashtra,
   sharada, shavian, siddham, signWriting, sinhala, sogdian,
   soraSompeng, soyombo, sundanese, sunuwar, sylotiNagri, syriac,
   tagalog, tagbanwa, taiLe, taiTham, taiViet, takri,
   tamil, tangsa, tangut, telugu, thaana, thai,
   tibetan, tifinagh, tirhuta, todhri, toto, tuluTigalari,
   ugaritic, vai, vithkuqi, wancho, warangCiti, yezidi,
   yi, zanabazarSquare]

/-- The script of a normalized name. -/
def find? (name : String) : Option Script := all.find? (·.names.contains name)

end Script
end StreamSelect.Unicode
