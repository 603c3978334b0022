import NamedQuery.Text.Collation.Order
import NamedQuery.Text.Composition
import NamedQuery.Text.SimpleForm

/-!
# Spelling characters out

A character without a place of its own is sorted as the characters that it stands for: a letter and
its accents, a small letter, the letters of a ligature, the digit of another script.

* `spell` — the characters that a character stands for, each with a place of its own.
-/

namespace NamedQuery.Text

/-- What characters stand for in a dictionary, where it is not their simple form. -/
def spellingTable : String :=
  "00C6: 0061+0065 00D0: 0064 00D8: 006F+0338 00DF: 0073+0073 00E6: 0061+0065 00F0: 0064 00F8:
  006F+0338 0110: 0064+0335 0064+0335 0126: 0068+0335 0068+0335 013F: 006C 006C 006C+0335
  006C+0335 0152: 006F+0065 006F+0065 018D: 007A+0077 01BE: 0074+0073 0238: 0064+0062 0071+0070
  02A3: 0064+007A 0064+0292 0064+0291 0074+0073 0074+0283 0074+0255 0066+014B 006C+0073 006C+007A
  0363: 0061 0065 0069 006F 0075 0063-0064 0068 006D 0072 0074 0076 0078 037A: 03B9 0384: 00B4
  03C2: 03C3 03CF: 03BA+03B1+03B9 03D7: 03BA+03B1+03B9 0490: 0433 0433 05DA: 05DB 05DD: 05DE
  05DF: 05E0 05E3: 05E4 05E5: 05E6 05EF: 05D9+05D4+05D5+05D4 05D5+05D5 05D5+05D9 05D9+05D9 0660:
  0030-0039 0674: 0621 0627+0621 0648+0621 06C7+0621 064A+0621 06E5: 0648 064A 06F0: 0030-0039
  06FD: 0621 0645 0714: 0713 071C: 071B 0724: 0723 0727: 0726 072D: 0712-0713 0715 07C0:
  0030-0039 07E8: 07D6-07D7 07D9 08AD: 0627 0966: 0030-0039 09CE: 09A4+09CD 09E6: 0030-0039 0A66:
  0030-0039 0AE6: 0030-0039 0B66: 0030-0039 0BE6: 0030-0039 0C66: 0030-0039 0C78: 0030-0033
  0031-0033 0CE6: 0030-0039 0D3B: 0D4D 0D4D 0D4E: 0D30+0D4D 0D54: 0D2E+0D4D 0D2F+0D4D 0D34+0D4D
  0D66: 0030-0039 0D7A: 0D23+0D4D 0D28+0D4D 0D30+0D4D 0D32+0D4D 0D33+0D4D 0D15+0D4D 0DE6:
  0030-0039 0E50: 0030-0039 0ED0: 0030-0039 0F00: 0F68+0F7C+0902 0F20: 0030-0039 0031-0039 0030
  0F6A: 0F62 0FBA: 0FAD 0FB1-0FB2 102B: 102C 103F: 101E+1039+101E 0030-0039 1090: 0030-0039 1369:
  0031-0039 1680: 0020 16A1: 16A0 16A4: 16A2 16A2 16A7: 16A6 16A9: 16A8 16AC: 16A8 16A8 16A8
  16B3: 16B2 16B2 16B2 16B2 16BB: 16BA 16BA 16BA 16BF: 16BE 16BE 16C2: 16C1 16C4: 16C3 16C6: 16C5
  16CB: 16CA 16CA 16CA 16CA 16D0: 16CF 16CF 16D3: 16D2 16D2 16C8 16D8: 16D7 16D7 16DB: 16DA 16DD:
  16DC 16E7: 16E6 16E6 16B9 16CA 16EE: 16C5+16DA 16D7+16D7 16A6+16A6 17E0: 0030-0039 17F0:
  0030-0039 1810: 0030-0039 191D: 1908+1929 190B+192A 1946: 0030-0039 19D0: 0030-0039 0031 19DE:
  199C+19B6 199C+19B6+19C1 1A54: 1A46+1A60+1A46 1A58: 1A26 1A26 1A3B 1A3B 1A64: 1A63 1A80:
  0030-0039 1A90: 0030-0039 1ABF: 0077 028D 1B50: 0030-0039 1BB0: 0030-0039 1B83 1BBE: 1B8A 1B99
  1BC1: 1BC0 1BC3: 1BC2 1BC2 1BC6: 1BC5 1BC8: 1BC7 1BCA: 1BC9 1BCC: 1BCB 1BCB 1BCF: 1BCE 1BD3:
  1BD2 1BD5: 1BD4 1BD7: 1BD6 1BD9: 1BD8 1BD8 1BDC: 1BDB 1BDF: 1BDE 1BE8: 1BE7 1BEB: 1BEA 1BED:
  1BEC 1BEF: 1BEE 1C40: 0030-0039 1C50: 0030-0039 1CEA: 1CE9 1CE9 1CE9 1CEE: 1CE9 1CE9 1CE9 1CE9
  1CFA: 1CE9 1D2D: 0061+0065 1D4C: 1D08 1D4E: 1D09 1D79: 0067 0074+0068 1D9E: 0064 1DCA: 0072
  1DD2: A76F 0061 0061+0065 0061+006F 0061+0076 0063+0327 0064 0064 0067 0262 006B-006C 029F 1D0D
  006E 0274 0280 A75B 0073 0073 007A 0251 0062 A7B5 0259 0066 AB38 006F+0316 0070 0283 0075+0316
  0077 0061+0308 006F+0308 0075+0308 1E9E: 0073+0073 1EFA: 006C+006C 006C+006C 1FBF: 1FBD 2024:
  002E 002E+002E 002E+002E+002E 210F: 0068+0335 214D: 0061+002F+0073 2185: 0036 2488: 0031+002E
  0032+002E 0033+002E 0034+002E 0035+002E 0036+002E 0037+002E 0038+002E 0039+002E 0031+0030+002E
  0031+0031+002E 0031+0032+002E 0031+0033+002E 0031+0034+002E 0031+0035+002E 0031+0036+002E
  0031+0037+002E 0031+0038+002E 0031+0039+002E 0032+0030+002E 24EB: 0031+0031 0031+0032 0031+0033
  0031+0034 0031+0035 0031+0036 0031+0037 0031+0038 0031+0039 0032+0030 0031-0039 0031+0030 0030
  2776: 0031-0039 0031+0030 0031-0039 0031+0030 0031-0039 0031+0030 2CE4: 2C95+2C81+2C93 2DE0:
  0431-0434 0436-0437 043A-0442 0445-0449 0473 0441+0442 0430 0435 A649 A64B 0463 044E A657 0467
  046B 046D 3006: 3057+3081 0030 3021: 0031-0039 3032: 3031+3099 3034: 3033+3099 303C: 307E+3059
  3041: 3042 3043: 3044 3045: 3046 3047: 3048 3049: 304A 3063: 3064 3083: 3084 3085: 3086 3087:
  3088 308E: 308F 3095: 304B 3051 30A1: 3042 3042 3044 3044 3046 3046 3048 3048 304A 304A-304B
  30AD: 304D 30AF: 304F 30B1: 3051 30B3: 3053 30B5: 3055 30B7: 3057 30B9: 3059 30BB: 305B 30BD:
  305D 30BF: 305F 30C1: 3061 30C3: 3064 3064 30C6: 3066 30C8: 3068 30CA: 306A-306F 30D2: 3072
  30D5: 3075 30D8: 3078 30DB: 307B 30DE: 307E-3082 3084 3084 3086 3086 3088 3088-308D 308F
  308F-3093 30F5: 304B 3051 30FF: 3053+3068 312E: 311C 31F0: 304F 3057 3059 3068 306C 306F 3072
  3075 3078 307B 3080 3089-308D"

/-- The runs of `spellingTable`. -/
def spellings : List FormRun := readForms spellingTable

/-- Whether a character is sorted by a place of its own, or not at all. -/
def isSpelled (c : Char) : Bool :=
  (place? c).isSome || isIgnored c || (markPlace? c).isSome

/-- What a character stands for at first sight. -/
def standsFor (c : Char) : List Char :=
  match formIn? spellings c, halves? c with
  | some form, _ => form
  | none, some (first, second) => [first, second]
  | none, none => simpleForm c

/-- What a character stands for, looked through `depth` times. -/
def spellTo : (depth : Nat) → Char → List Char
  | 0, c => [c]
  | depth + 1, c =>
    if isSpelled c || standsFor c == [c] then [c]
    else (standsFor c).flatMap (spellTo depth)

/-- The characters that a character stands for. No character stands for others more than six times
over. -/
def spell (c : Char) : List Char := spellTo 6 c

end NamedQuery.Text
