import StreamSelect.Unicode.NamedSet

/-! What version 16 of the Unicode standard says of characters at the breaks of text: between the
clusters that readers take for one character, between words, and between sentences. -/
namespace StreamSelect.Unicode

/-- Of each block of Hangul syllables that begin alike, those from one place on to another. -/
def syllables (first last : Nat) : CharSet :=
  ⟨((List.range 399).map fun k => (0xAC00 + 28 * k + first, 0xAC00 + 28 * k + last)).toArray⟩

namespace ClusterBreak

def carriageReturn : NamedSet := .ofLines ["cr"]
  ["13 0"]

def control : NamedSet := .ofLines ["cn", "control"]
  ["0 9 1 1 1 17 95 32 13 0 1390 0 4593 0 2044 0 2 1 24 6 49 15 56975 0 240 11 13364 15 34912 3",
   "5327 7 798341 31 96 127 240 3599"]

def extending : NamedSet := .ofLines ["ex", "extend"]
  ["768 111 275 6 263 44 1 0 1 1 1 1 1 0 72 10 48 20 16 0 101 6 2 5 2 1 1 3 35 0 30 26 91 10 58",
   "8 9 0 24 3 1 8 1 2 1 4 43 2 59 8 42 23 1 31 55 0 1 0 4 7 4 0 3 6 10 1 29 0 58 0 1 0 2 3 8 0",
   "9 0 10 1 26 0 2 1 57 0 4 1 4 1 2 2 3 0 30 1 3 0 11 1 57 0 4 4 1 1 4 0 20 1 22 5 1 0 58 0 1",
   "1 1 3 8 0 7 2 10 1 30 0 59 0 1 0 12 0 9 0 40 0 3 0 55 0 1 2 5 2 1 3 7 1 11 1 29 0 58 0 2 1",
   "1 0 3 2 1 3 7 1 11 1 28 1 57 1 1 0 2 3 8 0 9 0 10 1 29 0 72 0 4 0 2 2 1 0 8 0 81 0 2 6 12 7",
   "98 0 2 8 11 6 73 1 27 0 1 0 1 0 55 13 1 4 1 1 5 10 1 35 9 0 102 3 1 5 1 1 2 1 25 1 4 2 16 3",
   "13 0 2 1 6 0 15 0 703 2 946 3 28 2 29 1 30 1 64 1 1 6 8 0 2 10 9 0 45 2 1 0 117 1 34 0 118",
   "2 4 1 9 0 6 2 219 1 2 0 58 0 1 6 1 0 1 0 2 7 6 9 2 0 48 30 49 3 48 9 4 2 38 8 12 1 32 3 2 5",
   "56 0 1 1 3 0 1 4 56 7 2 1 152 2 1 12 1 6 4 0 6 0 3 1 198 63 524 0 195 32 3070 2 141 0 96 31",
   "554 5 105 1 30164 3 1 9 32 1 80 1 272 0 3 0 4 0 25 1 5 0 151 1 26 17 13 0 38 7 25 10 1 0 44",
   "2 48 0 2 3 2 1 2 0 36 0 67 5 2 1 2 1 12 0 8 0 47 0 51 0 1 2 2 1 5 1 1 0 42 1 8 0 238 0 2 0",
   "4 0 20272 0 737 15 16 15 366 1 605 0 226 0 149 4 1670 2 1 1 5 3 40 2 4 0 165 1 573 3 65 4",
   "317 1 79 3 70 10 49 3 123 0 54 14 41 0 2 1 10 2 49 3 2 1 7 0 61 2 36 4 1 7 62 0 12 1 52 8 1",
   "0 8 3 2 0 95 2 2 3 6 0 2 0 157 0 3 7 21 1 57 1 1 0 1 0 12 0 9 0 14 6 3 4 67 0 2 5 1 0 2 0 1",
   "2 4 2 1 0 14 1 85 7 2 2 1 0 23 0 81 0 2 5 1 0 2 0 1 1 1 1 235 0 2 3 6 1 1 1 27 1 85 7 2 0 1",
   "1 106 0 1 0 2 7 101 0 1 0 2 3 1 4 259 8 1 1 245 0 10 3 4 0 144 3 2 1 4 0 32 9 40 5 2 3 8 0",
   "9 5 2 2 46 12 1 1 406 6 1 5 1 0 82 21 2 6 1 1 1 1 122 5 3 0 1 1 1 6 1 0 72 1 3 0 1 0 347 1",
   "11 1 52 4 5 2 23 0 5349 0 6 14 11464 11 3 2 2496 4 59 6 1048 0 63 3 81 0 11 1 19627 1 4705",
   "45 2 22 542 4 3 5 8 7 2 6 30 3 148 2 1979 54 4 49 8 0 14 0 22 4 1 14 1360 6 1 16 2 6 1 1 1",
   "4 100 0 160 6 375 0 61 3 508 3 254 1 736 6 109 6 2736 4 789536 95 128 239"]

def leading : NamedSet := .ofLines ["l"]
  ["4352 95 38912 28"]

def lineFeed : NamedSet := .ofLines ["lf"]
  ["10 0"]

def syllable : NamedSet := ⟨["lv"], syllables 0 0⟩

def closedSyllable : NamedSet := ⟨["lvt"], syllables 1 27⟩

def prepended : NamedSet := .ofLines ["pp", "prepend"]
  ["1536 5 215 0 49 0 384 1 80 0 1131 0 66414 0 15 0 244 1 525 0 1389 0 1 0 248 0 73 5 700 0",
   "443 0"]

def regionalIndicator : NamedSet := .ofLines ["regionalindicator", "ri"]
  ["127462 25"]

def spacingMark : NamedSet := .ofLines ["sm", "spacingmark"]
  ["2307 0 55 0 2 2 8 3 1 1 50 1 59 1 6 1 2 1 54 0 58 2 66 0 58 2 8 0 1 1 53 1 60 0 6 1 2 1 114",
   "0 1 1 3 2 1 2 52 2 61 3 61 1 58 0 2 0 1 1 46 0 14 1 59 1 5 2 1 2 53 1 76 1 6 6 19 1 63 0",
   "127 0 138 1 63 0 177 0 9 1 25 1 44 0 1841 0 7 7 1 1 346 3 2 2 4 1 1 5 224 1 58 0 1 0 21 5",
   "145 0 57 3 64 0 30 0 4 1 63 0 2 2 1 0 53 7 8 1 171 0 21 0 35627 1 2 0 88 1 50 15 142 0 48 0",
   "48 1 4 1 2 1 111 1 2 1 24 0 157 0 2 1 5 0 237 1 1 1 1 1 1 0 25619 0 1 0 127 0 45 2 4 1 115",
   "0 24 1 59 0 48 2 9 0 14 0 93 2 3 1 172 2 31 1 59 0 1 3 2 1 2 1 21 1 85 1 15 0 1 1 103 2 8 1",
   "3 0 107 1 6 0 1 1 1 0 2 0 238 1 6 3 2 0 113 2 8 1 1 0 109 0 1 1 110 0 7 0 261 2 9 0 248 4 1",
   "1 7 0 1 0 142 2 8 3 4 0 84 0 29 1 62 0 407 0 14 0 106 0 7 0 2 0 213 4 4 1 1 0 350 1 12 0 48",
   "1 8 1 16874 2 3620 54"]

def trailing : NamedSet := .ofLines ["t"]
  ["4520 87 50635 48"]

def vowel : NamedSet := .ofLines ["v"]
  ["4448 71 50696 22 38300 0 3 3"]

def joiner : NamedSet := .ofLines ["zwj"]
  ["8205 0"]

def all : List NamedSet :=
  [carriageReturn, control, extending, leading, lineFeed, syllable,
   closedSyllable, prepended, regionalIndicator, spacingMark, trailing, vowel,
   joiner]

end ClusterBreak

namespace WordBreak

def letter : NamedSet := .ofLines ["aletter", "le"]
  ["65 25 6 25 47 0 10 0 4 0 5 22 1 30 1 479 6 33 112 4 1 1 2 3 1 0 6 0 1 2 1 0 1 19 1 82 1 138",
   "8 165 1 37 2 3 1 0 1 40 1 0 104 0 44 42 35 1 1 98 1 0 15 1 7 1 10 2 2 0 15 1 1 29 29 88 11",
   "0 24 32 9 1 4 0 5 21 4 0 9 0 3 0 23 24 7 10 5 23 1 5 17 41 58 53 3 0 18 0 7 9 15 15 4 7 2 1",
   "2 21 1 6 1 0 3 3 3 0 16 0 13 1 1 2 14 1 10 0 8 5 4 1 2 21 1 6 1 1 1 1 1 1 31 3 1 0 19 2 16",
   "8 1 2 1 21 1 6 1 1 1 4 3 0 18 0 15 1 23 0 11 7 2 1 2 21 1 6 1 1 1 4 3 0 30 1 1 2 15 0 17 0",
   "1 5 3 2 1 3 3 1 1 0 1 1 3 1 3 2 3 11 22 0 52 7 1 2 1 22 1 15 3 0 26 2 2 0 2 1 30 0 4 7 1 2",
   "1 22 1 9 1 4 3 0 31 1 1 1 15 1 17 8 1 2 1 40 2 0 16 0 5 2 8 2 24 5 5 17 3 23 1 8 1 0 2 6",
   "313 0 63 7 1 35 27 4 275 37 1 0 5 0 2 42 1 332 1 3 2 6 1 0 1 3 2 40 1 3 2 32 1 3 2 6 1 0 1",
   "3 2 14 1 56 1 3 2 66 37 15 16 85 2 5 3 619 2 16 1 25 5 74 3 10 7 17 13 18 14 17 14 12 1 2",
   "175 88 7 4 2 33 1 0 5 69 10 30 225 22 238 46 17 7 54 29 13 1 10 43 26 35 41 2 10 35 2 10 5",
   "42 2 2 41 3 1 5 1 1 3 0 5 191 64 277 2 5 2 37 2 5 2 7 1 0 1 0 1 0 1 30 2 52 1 6 1 0 3 2 1 6",
   "3 3 2 5 4 12 5 2 1 6 116 0 13 0 16 12 101 0 4 0 2 9 1 0 3 4 6 0 1 0 1 0 1 3 1 10 2 3 5 4 4",
   "0 17 40 813 51 1814 228 6 3 3 1 12 37 1 0 5 0 2 55 7 0 16 22 9 6 1 6 1 6 1 6 1 6 1 6 1 6 1",
   "6 80 0 469 0 53 1 200 42 1 93 17 31 28224 1164 67 45 2 268 3 15 10 1 20 46 16 30 2 79 24",
   "197 2 1 1 0 1 7 21 15 1 2 1 3 1 22 29 51 14 49 62 5 3 0 1 1 11 27 10 22 25 28 7 46 28 0 48",
   "40 23 2 1 7 148 10 7 2 12 5 2 5 2 5 9 6 1 6 1 57 6 114 29 11171 12 22 4 48 8964 6 12 4 56",
   "97 33 362 18 63 2 53 40 11 116 4 1 134 36 25 6 25 69 30 3 5 2 5 2 5 2 2 35 11 1 25 1 18 1 1",
   "1 14 2 13 34 122 69 52 267 28 3 48 47 31 13 29 5 37 10 29 2 35 4 7 1 4 42 157 18 35 4 35 4",
   "39 8 51 12 10 1 14 1 6 1 1 1 10 1 14 1 6 1 1 3 51 12 310 9 21 10 7 24 5 1 41 1 8 69 5 2 0 1",
   "43 1 1 3 0 2 22 10 22 9 30 65 18 1 1 10 21 10 25 70 55 6 1 64 0 15 3 1 2 1 28 42 28 3 28 35",
   "7 1 27 27 53 10 21 10 18 13 17 110 72 55 50 13 50 13 35 38 27 9 22 250 41 6 1 16 2 59 28 10",
   "0 8 21 42 17 46 20 27 22 12 52 57 1 2 0 13 44 32 24 26 35 29 0 2 0 8 34 3 0 12 47 14 3 21 0",
   "1 0 35 17 1 24 19 1 63 6 1 0 1 3 1 14 1 9 7 46 38 7 2 1 2 21 1 6 1 1 1 4 3 0 18 0 12 4 30 9",
   "1 0 2 0 1 37 1 0 25 0 1 0 44 52 18 3 20 2 30 47 20 1 1 0 184 46 41 3 36 47 20 0 59 42 13 0",
   "327 43 116 63 31 7 2 0 2 7 1 1 1 23 15 0 1 0 94 7 2 38 16 0 1 0 28 0 10 39 7 0 21 0 11 45",
   "19 0 18 72 199 32 31 8 1 36 17 0 49 29 112 6 1 1 1 37 21 0 25 5 1 1 1 31 14 0 327 18 15 0 1",
   "12 1 33 124 0 79 921 102 110 17 195 2636 96 15 1071 17 5 25 3994 5 582 6841 29 1762 568 7",
   "30 17 78 17 29 18 47 16 3 31 20 5 18 432 44 211 63 128 74 5 0 66 12 64 1 1 0 19484 106 5 12",
   "3 8 7 9 5990 84 1 70 1 1 2 0 2 1 2 3 1 11 1 0 1 6 1 64 1 3 2 7 1 6 1 27 1 3 1 4 1 0 3 6 1",
   "339 2 24 1 24 1 30 1 24 1 30 1 24 1 30 1 24 1 30 1 24 1 7 1844 30 6 5 261 61 146 44 10 6 16",
   "0 321 29 18 43 484 27 228 29 2 0 495 6 1 3 1 1 1 14 1 196 59 67 7 0 1204 3 1 26 1 1 1 0 2 0",
   "1 9 1 3 1 0 1 0 6 0 4 0 1 0 1 0 1 2 1 1 1 0 2 0 1 0 1 0 1 0 1 0 1 1 1 0 2 3 1 6 1 3 1 3 1 0",
   "1 9 1 16 5 2 1 4 1 16 628 25 6 25 6 25"]

def carriageReturn : NamedSet := .ofLines ["cr"]
  ["13 0"]

def doubleQuote : NamedSet := .ofLines ["doublequote", "dq"]
  ["34 0"]

def extending : NamedSet := .ofLines ["extend"]
  ["768 111 275 6 263 44 1 0 1 1 1 1 1 0 72 10 48 20 16 0 101 6 2 5 2 1 1 3 35 0 30 26 91 10 58",
   "8 9 0 24 3 1 8 1 2 1 4 43 2 59 8 42 23 1 32 54 2 1 17 1 6 10 1 29 2 56 0 1 6 2 1 2 2 9 0 10",
   "1 26 0 2 2 56 0 1 4 4 1 2 2 3 0 30 1 3 0 11 2 56 0 1 7 1 2 1 2 20 1 22 5 1 2 56 0 1 6 2 1 2",
   "2 7 2 10 1 30 0 59 4 3 2 1 3 9 0 40 4 55 0 1 6 1 2 1 3 7 1 11 1 29 2 56 0 1 6 1 2 1 3 7 1",
   "11 1 15 0 12 3 55 1 1 6 1 2 1 3 9 0 10 1 29 2 70 0 4 5 1 0 1 7 18 1 61 0 2 6 12 7 98 0 2 8",
   "11 6 73 1 27 0 1 0 1 0 4 1 49 19 1 1 5 10 1 35 9 0 100 19 23 3 4 2 1 2 2 6 3 3 13 11 1 0 10",
   "3 703 2 946 3 28 2 29 1 30 1 64 31 9 0 45 2 1 0 117 1 34 0 118 11 4 11 219 4 57 9 1 28 2 0",
   "48 30 49 4 47 16 38 8 12 2 30 12 56 13 48 19 152 2 1 20 4 0 6 0 2 2 198 63 524 0 195 32",
   "3070 2 141 0 96 31 554 5 105 1 30164 3 1 9 32 1 80 1 272 0 3 0 4 0 23 4 4 0 83 1 50 17 26",
   "17 13 0 38 7 25 12 44 3 47 13 36 0 67 13 12 0 8 1 45 2 50 0 1 2 2 1 5 1 1 0 41 4 5 1 236 7",
   "1 1 20272 0 737 15 16 15 366 1 605 0 226 0 149 4 1670 2 1 1 5 3 40 2 4 0 165 1 573 3 65 4",
   "317 1 79 3 70 10 49 3 122 2 53 14 41 0 2 1 10 3 45 10 7 0 61 2 36 13 16 1 44 0 12 2 48 13 8",
   "3 1 1 92 11 6 0 2 0 157 11 21 3 55 1 1 6 2 1 2 2 9 0 10 1 2 6 3 4 67 8 1 0 2 0 1 3 1 4 1 0",
   "14 1 82 17 23 0 81 19 235 6 2 8 27 1 82 16 106 12 101 14 256 14 245 5 1 1 2 3 1 0 1 1 141 6",
   "2 6 3 0 28 9 40 6 1 3 8 0 9 10 46 15 405 7 1 7 82 21 1 13 122 5 3 0 1 1 1 6 1 0 66 4 1 1 1",
   "4 347 3 9 1 1 0 48 6 3 4 23 0 5349 0 6 14 11464 17 2496 4 59 6 1048 0 1 54 7 3 81 0 11 1",
   "19627 1 4705 45 2 22 542 4 3 5 8 7 2 6 30 3 148 2 1979 54 4 49 8 0 14 0 22 4 1 14 1360 6 1",
   "16 2 6 1 1 1 4 100 0 160 6 375 0 61 3 508 3 254 1 736 6 109 6 2736 4 789536 95 128 239"]

def extender : NamedSet := .ofLines ["ex", "extendnumlet"]
  ["95 0 8143 0 15 1 19 0 56798 1 24 2 239 0"]

def format : NamedSet := .ofLines ["fo", "format"]
  ["173 0 1390 0 4593 0 2047 1 26 4 49 4 1 9 56975 0 249 2 13364 15 34912 3 5327 7 798342 0"]

def hebrewLetter : NamedSet := .ofLines ["hebrewletter", "hl"]
  ["1488 26 4 3 62762 0 1 9 1 12 1 4 1 0 1 1 1 1 1 9"]

def katakana : NamedSet := .ofLines ["ka", "katakana"]
  ["12337 4 101 1 3 90 1 3 240 15 208 46 1 87 52238 55 45138 3 1 6 1 1 1 0 287 2 50 0 14 3"]

def lineFeed : NamedSet := .ofLines ["lf"]
  ["10 0"]

def midLetter : NamedSet := .ofLines ["midletter", "ml"]
  ["58 0 124 0 719 0 471 0 148 0 6706 0 56811 0 65 0 196 0"]

def midNum : NamedSet := .ofLines ["midnum", "mn"]
  ["44 0 14 0 834 0 522 0 130 1 94 0 395 0 6219 0 56843 0 3 0 183 0 14 0"]

def midNumLet : NamedSet := .ofLines ["mb", "midnumlet"]
  ["46 0 8169 1 10 0 56877 0 180 0 6 0"]

def newline : NamedSet := .ofLines ["newline", "nl"]
  ["11 1 120 0 8098 1"]

def numeric : NamedSet := .ofLines ["nu", "numeric"]
  ["48 9 1478 5 90 9 1 0 113 0 18 9 198 9 198 1 80 0 131 9 118 9 118 9 118 9 118 9 118 9 118 9",
   "118 9 118 9 118 9 96 9 118 9 70 9 278 9 70 9 1862 9 38 9 300 9 128 10 165 9 6 9 182 9 86 9",
   "134 9 6 9 35270 9 678 9 38 9 198 9 22 9 86 9 406 9 21270 9 1414 9 2182 9 6 9 796 9 77 0 15",
   "0 34 9 60 9 144 9 278 9 342 9 118 9 374 9 102 9 6 19 76 9 422 9 102 9 662 9 86 9 246 9 70 9",
   "422 9 16854 9 2342 9 86 9 134 9 534 9 24438 9 2772 49 2368 9 422 9 502 9 247 9 853 9 4758 9"]

def regionalIndicator : NamedSet := .ofLines ["regionalindicator", "ri"]
  ["127462 25"]

def singleQuote : NamedSet := .ofLines ["singlequote", "sq"]
  ["39 0"]

def space : NamedSet := .ofLines ["wsegspace"]
  ["32 0 5727 0 2431 6 1 2 84 0 4000 0"]

def joiner : NamedSet := .ofLines ["zwj"]
  ["8205 0"]

def all : List NamedSet :=
  [letter, carriageReturn, doubleQuote, extending, extender, format,
   hebrewLetter, katakana, lineFeed, midLetter, midNum, midNumLet,
   newline, numeric, regionalIndicator, singleQuote, space, joiner]

end WordBreak

namespace SentenceBreak

def fullStop : NamedSet := .ofLines ["at", "aterm"]
  ["46 0 8181 0 56877 0 187 0"]

def carriageReturn : NamedSet := .ofLines ["cr"]
  ["13 0"]

def closing : NamedSet := .ofLines ["cl", "close"]
  ["34 0 4 2 49 0 1 0 29 0 1 0 45 0 15 0 3710 3 1885 1 2427 7 25 1 10 1 54 1 14 1 633 3 29 1",
   "1072 5 7 13 79 1 31 9 403 21 63 3 32 1 1026 13 14 1 2 9 24 0 18 7 427 9 2 7 1 2 52510 1 215",
   "1 28 15 2 1 16 5 169 1 49 0 1 0 29 0 1 0 1 1 1 1 63250 2"]

def extending : NamedSet := .ofLines ["ex", "extend"]
  ["768 111 275 6 263 44 1 0 1 1 1 1 1 0 72 10 48 20 16 0 101 6 2 5 2 1 1 3 35 0 30 26 91 10 58",
   "8 9 0 24 3 1 8 1 2 1 4 43 2 59 8 42 23 1 32 54 2 1 17 1 6 10 1 29 2 56 0 1 6 2 1 2 2 9 0 10",
   "1 26 0 2 2 56 0 1 4 4 1 2 2 3 0 30 1 3 0 11 2 56 0 1 7 1 2 1 2 20 1 22 5 1 2 56 0 1 6 2 1 2",
   "2 7 2 10 1 30 0 59 4 3 2 1 3 9 0 40 4 55 0 1 6 1 2 1 3 7 1 11 1 29 2 56 0 1 6 1 2 1 3 7 1",
   "11 1 15 0 12 3 55 1 1 6 1 2 1 3 9 0 10 1 29 2 70 0 4 5 1 0 1 7 18 1 61 0 2 6 12 7 98 0 2 8",
   "11 6 73 1 27 0 1 0 1 0 4 1 49 19 1 1 5 10 1 35 9 0 100 19 23 3 4 2 1 2 2 6 3 3 13 11 1 0 10",
   "3 703 2 946 3 28 2 29 1 30 1 64 31 9 0 45 2 1 0 117 1 34 0 118 11 4 11 219 4 57 9 1 28 2 0",
   "48 30 49 4 47 16 38 8 12 2 30 12 56 13 48 19 152 2 1 20 4 0 6 0 2 2 198 63 524 1 194 32",
   "3070 2 141 0 96 31 554 5 105 1 30164 3 1 9 32 1 80 1 272 0 3 0 4 0 23 4 4 0 83 1 50 17 26",
   "17 13 0 38 7 25 12 44 3 47 13 36 0 67 13 12 0 8 1 45 2 50 0 1 2 2 1 5 1 1 0 41 4 5 1 236 7",
   "1 1 20272 0 737 15 16 15 366 1 605 0 226 0 149 4 1670 2 1 1 5 3 40 2 4 0 165 1 573 3 65 4",
   "317 1 79 3 70 10 49 3 122 2 53 14 41 0 2 1 10 3 45 10 7 0 61 2 36 13 16 1 44 0 12 2 48 13 8",
   "3 1 1 92 11 6 0 2 0 157 11 21 3 55 1 1 6 2 1 2 2 9 0 10 1 2 6 3 4 67 8 1 0 2 0 1 3 1 4 1 0",
   "14 1 82 17 23 0 81 19 235 6 2 8 27 1 82 16 106 12 101 14 256 14 245 5 1 1 2 3 1 0 1 1 141 6",
   "2 6 3 0 28 9 40 6 1 3 8 0 9 10 46 15 405 7 1 7 82 21 1 13 122 5 3 0 1 1 1 6 1 0 66 4 1 1 1",
   "4 347 3 9 1 1 0 48 6 3 4 23 0 5349 0 6 14 11464 17 2496 4 59 6 1048 0 1 54 7 3 81 0 11 1",
   "19627 1 4705 45 2 22 542 4 3 5 8 7 2 6 30 3 148 2 1979 54 4 49 8 0 14 0 22 4 1 14 1360 6 1",
   "16 2 6 1 1 1 4 100 0 160 6 375 0 61 3 508 3 254 1 736 6 109 6 792277 95 128 239"]

def format : NamedSet := .ofLines ["fo", "format"]
  ["173 0 1390 0 242 0 4350 0 2044 0 2 1 26 4 49 4 1 9 56975 0 249 2 13364 15 34912 3 5327 7",
   "798342 0"]

def lineFeed : NamedSet := .ofLines ["lf"]
  ["10 0"]

def lowercase : NamedSet := .ofLines ["lo", "lower"]
  ["97 25 47 0 10 0 4 0 36 23 1 7 1 0 1 0 1 0 1 0 1 0 1 0 1 0 1 0 1 0 1 0 1 0 1 0 1 0 1 0 1 0 1",
   "0 1 0 1 0 1 0 1 0 1 0 1 0 1 0 1 0 1 0 1 0 1 0 1 1 1 0 1 0 1 0 1 0 1 0 1 0 1 0 1 1 1 0 1 0 1",
   "0 1 0 1 0 1 0 1 0 1 0 1 0 1 0 1 0 1 0 1 0 1 0 1 0 1 0 1 0 1 0 1 0 1 0 1 0 1 0 1 0 2 0 1 0 1",
   "2 2 0 1 0 2 0 3 1 4 0 2 0 3 2 2 0 2 0 1 0 1 0 2 0 1 1 1 0 2 0 3 0 1 0 2 1 2 2 6 0 2 0 2 0 1",
   "0 1 0 1 0 1 0 1 0 1 0 1 0 1 1 1 0 1 0 1 0 1 0 1 0 1 0 1 0 1 0 1 1 2 0 1 0 3 0 1 0 1 0 1 0 1",
   "0 1 0 1 0 1 0 1 0 1 0 1 0 1 0 1 0 1 0 1 0 1 0 1 0 1 0 1 0 1 0 1 0 1 0 1 0 1 0 1 0 1 0 1 0 1",
   "0 1 0 1 6 2 0 2 1 1 0 4 0 1 0 1 0 1 0 1 68 1 35 7 1 30 4 140 0 1 0 3 0 2 3 18 0 27 34 1 1 3",
   "2 1 0 1 0 1 0 1 0 1 0 1 0 1 0 1 0 1 0 1 0 1 0 1 4 1 0 2 0 2 1 51 47 1 0 1 0 1 0 1 0 1 0 1 0",
   "1 0 1 0 1 0 1 0 1 0 1 0 1 0 1 0 1 0 1 0 1 0 9 0 1 0 1 0 1 0 1 0 1 0 1 0 1 0 1 0 1 0 1 0 1 0",
   "1 0 1 0 1 0 1 0 1 0 1 0 1 0 1 0 1 0 1 0 1 0 1 0 1 0 1 0 1 0 2 0 1 0 1 0 1 0 1 0 1 0 1 1 1 0",
   "1 0 1 0 1 0 1 0 1 0 1 0 1 0 1 0 1 0 1 0 1 0 1 0 1 0 1 0 1 0 1 0 1 0 1 0 1 0 1 0 1 0 1 0 1 0",
   "1 0 1 0 1 0 1 0 1 0 1 0 1 0 1 0 1 0 1 0 1 0 1 0 1 0 1 0 1 0 1 0 1 0 1 0 1 0 1 0 1 0 1 0 1 0",
   "1 0 48 40 2931 0 763 5 2178 8 1 0 117 191 65 0 1 0 1 0 1 0 1 0 1 0 1 0 1 0 1 0 1 0 1 0 1 0",
   "1 0 1 0 1 0 1 0 1 0 1 0 1 0 1 0 1 0 1 0 1 0 1 0 1 0 1 0 1 0 1 0 1 0 1 0 1 0 1 0 1 0 1 0 1 0",
   "1 0 1 0 1 0 1 0 1 0 1 0 1 0 1 0 1 0 1 0 1 0 1 0 1 0 1 0 1 0 1 0 1 0 1 0 1 0 1 0 1 0 1 0 1 0",
   "1 0 1 0 1 0 1 0 1 0 1 0 1 0 1 0 1 0 1 0 1 0 1 0 1 0 1 0 1 0 1 0 1 8 1 0 1 0 1 0 1 0 1 0 1 0",
   "1 0 1 0 1 0 1 0 1 0 1 0 1 0 1 0 1 0 1 0 1 0 1 0 1 0 1 0 1 0 1 0 1 0 1 0 1 0 1 0 1 0 1 0 1 0",
   "1 0 1 0 1 0 1 0 1 0 1 0 1 0 1 0 1 0 1 0 1 0 1 0 1 0 1 0 1 0 1 0 1 0 1 0 1 0 1 8 8 5 10 7 8",
   "7 8 5 10 7 8 7 8 13 2 7 8 7 8 7 8 4 1 1 6 0 3 2 1 1 8 3 2 1 8 7 10 2 1 1 121 0 13 0 16 12",
   "109 0 3 1 3 0 27 0 4 0 4 0 2 1 8 3 4 0 33 15 4 0 843 25 1862 47 1 0 3 1 1 0 1 0 1 0 4 0 1 1",
   "1 7 3 0 1 0 1 0 1 0 1 0 1 0 1 0 1 0 1 0 1 0 1 0 1 0 1 0 1 0 1 0 1 0 1 0 1 0 1 0 1 0 1 0 1 0",
   "1 0 1 0 1 0 1 0 1 0 1 0 1 0 1 0 1 0 1 0 1 0 1 0 1 0 1 0 1 0 1 0 1 0 1 0 1 0 1 0 1 0 1 0 1 0",
   "1 0 1 0 1 0 1 0 1 1 7 0 1 0 4 0 12 37 1 0 5 0 30995 0 1 0 1 0 1 0 1 0 1 0 1 0 1 0 1 0 1 0 1",
   "0 1 0 1 0 1 0 1 0 1 0 1 0 1 0 1 0 1 0 1 0 1 0 1 0 19 0 1 0 1 0 1 0 1 0 1 0 1 0 1 0 1 0 1 0",
   "1 0 1 0 1 0 1 2 133 0 1 0 1 0 1 0 1 0 1 0 1 2 1 0 1 0 1 0 1 0 1 0 1 0 1 0 1 0 1 0 1 0 1 0 1",
   "0 1 0 1 0 1 0 1 0 1 0 1 0 1 0 1 0 1 0 1 0 1 0 1 0 1 0 1 0 1 0 1 0 1 0 1 0 1 9 1 0 1 0 2 0 1",
   "0 1 0 1 0 1 0 4 0 1 0 2 0 1 2 1 0 1 0 1 0 1 0 1 0 1 0 1 0 1 0 1 0 1 0 5 0 5 0 1 0 1 0 1 0 1",
   "0 1 0 1 0 1 0 4 0 1 0 2 0 3 0 1 0 1 0 1 0 1 0 1 0 22 2 1 0 1 2 821 42 1 13 6 79 20288 6 12",
   "4 1065 25 1229 39 136 35 155 10 1 14 1 6 1 1 451 0 2 2 1 41 1 8 1285 50 125 21 2874 31",
   "21888 31 26010 25 26 6 1 17 26 25 26 3 1 0 1 6 1 10 26 25 26 25 26 25 26 25 26 25 26 25 26",
   "25 26 25 26 27 28 24 1 5 26 24 1 5 26 24 1 5 26 24 1 5 26 24 1 5 1 0 1844 9 1 19 6 5 261 61",
   "2228 33"]

def numeric : NamedSet := .ofLines ["nu", "numeric"]
  ["48 9 1478 5 90 9 1 1 112 0 18 9 198 9 198 1 80 0 131 9 118 9 118 9 118 9 118 9 118 9 118 9",
   "118 9 118 9 118 9 96 9 118 9 70 9 278 9 70 9 1862 9 38 9 300 9 128 10 165 9 6 9 182 9 86 9",
   "134 9 6 9 35270 9 678 9 38 9 198 9 22 9 86 9 406 9 21270 9 1414 9 2182 9 6 9 796 9 77 0 15",
   "0 34 9 60 9 144 9 278 9 342 9 118 9 374 9 102 9 6 19 76 9 422 9 102 9 662 9 86 9 246 9 70 9",
   "422 9 16854 9 2342 9 86 9 134 9 534 9 24438 9 2772 49 2368 9 422 9 502 9 247 9 853 9 4758 9"]

def otherLetter : NamedSet := .ofLines ["le", "oletter"]
  ["443 0 4 3 208 0 36 6 6 11 26 0 1 0 133 0 484 0 118 26 4 4 44 42 35 1 1 98 1 0 15 1 7 1 10 2",
   "2 0 16 0 1 29 29 88 11 0 24 32 9 1 4 0 5 21 4 0 9 0 3 0 23 24 7 10 5 23 1 5 17 41 58 53 3 0",
   "18 0 7 9 15 15 4 7 2 1 2 21 1 6 1 0 3 3 3 0 16 0 13 1 1 2 14 1 10 0 8 5 4 1 2 21 1 6 1 1 1",
   "1 1 1 31 3 1 0 19 2 16 8 1 2 1 21 1 6 1 1 1 4 3 0 18 0 15 1 23 0 11 7 2 1 2 21 1 6 1 1 1 4",
   "3 0 30 1 1 2 15 0 17 0 1 5 3 2 1 3 3 1 1 0 1 1 3 1 3 2 3 11 22 0 52 7 1 2 1 22 1 15 3 0 26",
   "2 2 0 2 1 30 0 4 7 1 2 1 22 1 9 1 4 3 0 31 1 1 1 15 1 17 8 1 2 1 40 2 0 16 0 5 2 8 2 24 5 5",
   "17 3 23 1 8 1 0 2 6 58 47 1 1 12 6 58 1 1 0 1 4 1 23 1 0 1 9 1 1 9 0 2 4 1 0 21 3 32 0 63 7",
   "1 35 27 4 115 42 20 0 16 5 4 3 3 0 3 1 7 2 4 12 12 0 65 42 2 331 1 3 2 6 1 0 1 3 2 40 1 3 2",
   "32 1 3 2 6 1 0 1 3 2 14 1 56 1 3 2 66 37 15 113 619 2 16 1 25 5 74 3 10 7 17 13 18 14 17 14",
   "12 1 2 15 51 35 0 4 0 67 88 7 4 2 33 1 0 5 69 10 30 49 29 2 4 11 43 4 25 54 22 9 52 82 0 93",
   "46 17 7 54 29 13 1 10 43 26 35 41 2 10 35 18 42 2 2 41 3 1 5 1 1 3 0 1082 3 71 2 2 3 2983",
   "55 7 0 16 22 9 6 1 6 1 6 1 6 1 6 1 6 1 6 1 6 80 0 469 2 25 8 7 4 2 4 4 85 6 2 1 89 1 3 5 42",
   "1 93 17 31 48 15 512 6591 64 22156 67 45 2 268 3 15 10 1 66 0 16 0 32 79 39 8 104 0 6 0 103",
   "0 3 6 1 2 1 3 1 22 29 51 14 49 62 5 3 0 1 1 11 27 10 22 25 28 7 46 28 0 16 4 1 9 10 4 1 40",
   "23 2 1 7 20 22 3 0 3 49 1 0 3 1 2 4 2 0 1 0 24 2 2 10 7 2 12 5 2 5 2 5 9 6 1 6 145 34 29",
   "11171 12 22 4 48 8452 365 2 105 67 0 1 9 1 12 1 4 1 0 1 1 1 1 1 107 33 362 18 63 2 53 40 11",
   "116 4 1 134 105 55 2 30 3 5 2 5 2 5 2 2 35 11 1 25 1 18 1 1 1 14 2 13 34 122 69 52 267 28 3",
   "48 47 31 13 29 5 37 10 29 2 35 4 7 1 4 122 77 98 39 8 51 92 51 12 310 9 21 10 7 25 1 125 5",
   "2 0 1 43 1 1 3 0 2 22 10 22 9 30 65 18 1 1 10 21 10 25 70 55 6 1 64 0 15 3 1 2 1 28 42 28 3",
   "28 35 7 1 27 27 53 10 21 10 18 13 17 110 72 183 35 38 5 31 0 272 41 6 1 16 2 59 28 10 0 8",
   "21 42 17 46 20 27 22 12 52 57 1 2 0 13 44 32 24 26 35 29 0 2 0 8 34 3 0 12 47 14 3 21 0 1 0",
   "35 17 1 24 19 1 63 6 1 0 1 3 1 14 1 9 7 46 38 7 2 1 2 21 1 6 1 1 1 4 3 0 18 0 12 4 30 9 1 0",
   "2 0 1 37 1 0 25 0 1 0 44 52 18 3 20 2 30 47 20 1 1 0 184 46 41 3 36 47 20 0 59 42 13 0 71",
   "26 37 6 185 43 211 7 2 0 2 7 1 1 1 23 15 0 1 0 94 7 2 38 16 0 1 0 28 0 10 39 7 0 21 0 11 45",
   "19 0 18 72 199 32 31 8 1 36 17 0 49 29 112 6 1 1 1 37 21 0 25 5 1 1 1 31 14 0 327 18 15 0 1",
   "12 1 33 124 0 79 921 102 110 17 195 2636 96 15 1071 17 5 25 3994 5 582 6841 29 1762 568 7",
   "30 17 78 17 29 18 47 16 3 31 20 5 18 432 44 403 74 5 0 66 12 64 1 1 0 28 6135 8 1237 41 9",
   "8935 3 1 6 1 1 1 290 15 0 29 2 2 0 14 3 8 395 2308 106 5 12 3 8 7 9 8816 0 501 44 10 6 16 0",
   "321 29 18 43 484 27 228 29 2 0 495 6 1 3 1 1 1 14 1 196 134 0 1204 3 1 26 1 1 1 0 2 0 1 9 1",
   "3 1 0 1 0 6 0 4 0 1 0 1 0 1 2 1 1 1 0 2 0 1 0 1 0 1 0 1 0 1 1 1 0 2 3 1 6 1 3 1 3 1 0 1 9 1",
   "16 5 2 1 4 1 16 4420 42719 32 4153 6 221 2 5761 14 7472 15 621 2466 541 1506 4938 5 4191"]

def continuing : NamedSet := .ofLines ["sc", "scontinue"]
  ["44 1 12 1 834 0 478 0 174 1 490 0 4105 0 5 0 2058 1 4076 0 52750 1 1 1 28 1 29 1 2 1 2 0 10",
   "0 168 1 12 1 72 0"]

def terminal : NamedSet := .ofLines ["st", "sterm"]
  ["33 0 29 0 1353 0 147 2 180 0 43 2 246 0 61 0 1 0 3 1 293 1 1764 1 790 0 4 1 773 0 198 1 157",
   "1 45 0 5 0 314 1 354 3 162 1 10 1 2 1 29 2 187 1 65 1 956 1 9 2 3247 2 306 0 13 0 22 1 429",
   "0 29948 0 270 1 227 0 3 0 382 1 86 1 95 0 152 1 147 2 144 1 249 0 21030 0 2 1 63 1 169 0 29",
   "0 65 0 2804 1 1277 4 44 3 189 1 117 3 127 2 129 1 6 0 16 1 88 1 1 1 108 0 298 1 117 1 373 1",
   "5 14 105 1 249 2 517 0 1 0 251 1 87 1 420 1 692 1 74 1 19241 1 133 0 65 1 11 0 553 1 296 0",
   "19974 0 7656 0"]

def separator : NamedSet := .ofLines ["se", "sep"]
  ["133 0 8098 1"]

def space : NamedSet := .ofLines ["sp"]
  ["9 0 1 1 19 0 127 0 5599 0 2431 10 36 0 47 0 4000 0"]

def uppercase : NamedSet := .ofLines ["up", "upper"]
  ["65 25 101 22 1 6 33 0 1 0 1 0 1 0 1 0 1 0 1 0 1 0 1 0 1 0 1 0 1 0 1 0 1 0 1 0 1 0 1 0 1 0 1",
   "0 1 0 1 0 1 0 1 0 1 0 1 0 1 0 1 0 1 0 2 0 1 0 1 0 1 0 1 0 1 0 1 0 1 0 2 0 1 0 1 0 1 0 1 0 1",
   "0 1 0 1 0 1 0 1 0 1 0 1 0 1 0 1 0 1 0 1 0 1 0 1 0 1 0 1 0 1 0 1 0 1 0 1 1 1 0 1 0 3 1 1 0 1",
   "1 1 2 2 3 1 1 1 2 3 1 1 1 1 0 1 0 1 1 1 0 2 0 1 1 1 2 1 0 1 1 3 0 7 1 1 1 1 1 1 0 1 0 1 0 1",
   "0 1 0 1 0 1 0 1 0 2 0 1 0 1 0 1 0 1 0 1 0 1 0 1 0 1 0 2 1 1 0 1 2 1 0 1 0 1 0 1 0 1 0 1 0 1",
   "0 1 0 1 0 1 0 1 0 1 0 1 0 1 0 1 0 1 0 1 0 1 0 1 0 1 0 1 0 1 0 1 0 1 0 1 0 1 0 1 0 1 0 1 0 7",
   "1 1 1 2 0 1 3 1 0 1 0 1 0 1 0 289 0 1 0 3 0 8 0 6 0 1 2 1 0 1 1 1 16 1 8 35 0 2 2 3 0 1 0 1",
   "0 1 0 1 0 1 0 1 0 1 0 1 0 1 0 1 0 1 0 5 0 2 0 1 1 2 50 48 0 1 0 1 0 1 0 1 0 1 0 1 0 1 0 1 0",
   "1 0 1 0 1 0 1 0 1 0 1 0 1 0 1 0 9 0 1 0 1 0 1 0 1 0 1 0 1 0 1 0 1 0 1 0 1 0 1 0 1 0 1 0 1 0",
   "1 0 1 0 1 0 1 0 1 0 1 0 1 0 1 0 1 0 1 0 1 0 1 0 1 1 1 0 1 0 1 0 1 0 1 0 1 0 2 0 1 0 1 0 1 0",
   "1 0 1 0 1 0 1 0 1 0 1 0 1 0 1 0 1 0 1 0 1 0 1 0 1 0 1 0 1 0 1 0 1 0 1 0 1 0 1 0 1 0 1 0 1 0",
   "1 0 1 0 1 0 1 0 1 0 1 0 1 0 1 0 1 0 1 0 1 0 1 0 1 0 1 0 1 0 1 0 1 0 1 0 1 0 1 0 1 0 2 37",
   "2889 37 1 0 5 0 722 85 2195 0 374 0 1 0 1 0 1 0 1 0 1 0 1 0 1 0 1 0 1 0 1 0 1 0 1 0 1 0 1 0",
   "1 0 1 0 1 0 1 0 1 0 1 0 1 0 1 0 1 0 1 0 1 0 1 0 1 0 1 0 1 0 1 0 1 0 1 0 1 0 1 0 1 0 1 0 1 0",
   "1 0 1 0 1 0 1 0 1 0 1 0 1 0 1 0 1 0 1 0 1 0 1 0 1 0 1 0 1 0 1 0 1 0 1 0 1 0 1 0 1 0 1 0 1 0",
   "1 0 1 0 1 0 1 0 1 0 1 0 1 0 1 0 1 0 1 0 1 0 1 0 1 0 1 0 9 0 1 0 1 0 1 0 1 0 1 0 1 0 1 0 1 0",
   "1 0 1 0 1 0 1 0 1 0 1 0 1 0 1 0 1 0 1 0 1 0 1 0 1 0 1 0 1 0 1 0 1 0 1 0 1 0 1 0 1 0 1 0 1 0",
   "1 0 1 0 1 0 1 0 1 0 1 0 1 0 1 0 1 0 1 0 1 0 1 0 1 0 1 0 1 0 1 0 1 0 9 7 8 5 10 7 8 7 8 5 11",
   "0 1 0 1 0 1 0 8 7 24 7 8 7 8 7 8 4 11 4 11 3 12 4 11 4 261 0 4 0 3 2 2 2 2 0 3 4 6 0 1 0 1",
   "0 1 3 2 3 10 1 5 0 26 15 19 0 818 25 1840 47 48 0 1 2 2 0 1 0 1 0 1 3 1 0 2 0 8 2 1 0 1 0 1",
   "0 1 0 1 0 1 0 1 0 1 0 1 0 1 0 1 0 1 0 1 0 1 0 1 0 1 0 1 0 1 0 1 0 1 0 1 0 1 0 1 0 1 0 1 0 1",
   "0 1 0 1 0 1 0 1 0 1 0 1 0 1 0 1 0 1 0 1 0 1 0 1 0 1 0 1 0 1 0 1 0 1 0 1 0 1 0 1 0 1 0 1 0 1",
   "0 8 0 1 0 4 0 31053 0 1 0 1 0 1 0 1 0 1 0 1 0 1 0 1 0 1 0 1 0 1 0 1 0 1 0 1 0 1 0 1 0 1 0 1",
   "0 1 0 1 0 1 0 1 0 19 0 1 0 1 0 1 0 1 0 1 0 1 0 1 0 1 0 1 0 1 0 1 0 1 0 1 0 135 0 1 0 1 0 1",
   "0 1 0 1 0 1 0 3 0 1 0 1 0 1 0 1 0 1 0 1 0 1 0 1 0 1 0 1 0 1 0 1 0 1 0 1 0 1 0 1 0 1 0 1 0 1",
   "0 1 0 1 0 1 0 1 0 1 0 1 0 1 0 1 0 1 0 1 0 1 0 10 0 1 0 1 1 1 0 1 0 1 0 1 0 4 0 1 0 2 0 1 0",
   "3 0 1 0 1 0 1 0 1 0 1 0 1 0 1 0 1 0 1 0 1 4 1 4 1 0 1 0 1 0 1 0 1 0 1 0 1 0 1 3 1 0 1 1 3 0",
   "5 0 1 0 1 0 1 0 24 0 22315 25 1221 39 136 35 156 10 1 14 1 6 1 1 1770 50 157 21 2874 31",
   "21888 31 26016 25 26 25 26 25 26 0 1 1 2 0 2 1 2 3 1 7 26 25 26 1 1 3 2 7 1 6 27 1 1 3 1 4",
   "1 0 3 6 27 25 26 25 26 25 26 25 26 25 26 25 30 24 33 24 33 24 33 24 33 24 33 0 4405 33 2062",
   "25 6 25 6 25"]

def all : List NamedSet :=
  [fullStop, carriageReturn, closing, extending, format, lineFeed,
   lowercase, numeric, otherLetter, continuing, terminal, separator,
   space, uppercase]

end SentenceBreak

end StreamSelect.Unicode
