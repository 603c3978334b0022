/-!
# Blank text

A table name, an index name or a configuration entry that holds nothing but white space counts as
missing. `isBlank` decides that for a text, by the characters that count as white space:

* `blankRanges` — the white space characters, the line terminators and the byte order mark. The
  next-line control, the zero-width space and the separators of the C0 block are *not* among them.
-/

namespace NamedQuery.Text

/-- The code points of the blank characters, as closed ranges in ascending order. -/
def blankRanges : List (Nat × Nat) :=
  [(0x0009, 0x000D), (0x0020, 0x0020), (0x00A0, 0x00A0), (0x1680, 0x1680), (0x2000, 0x200A),
   (0x2028, 0x2029), (0x202F, 0x202F), (0x205F, 0x205F), (0x3000, 0x3000), (0xFEFF, 0xFEFF)]

/-- Whether a character is white space. -/
def isBlankChar (c : Char) : Bool :=
  blankRanges.any fun range => range.1 ≤ c.toNat && c.toNat ≤ range.2

/-- Whether a text has no character besides white space. The empty text is blank. -/
def isBlank (text : String) : Bool :=
  text.toList.all isBlankChar

@[simp] theorem isBlank_empty : isBlank "" = true := rfl

end NamedQuery.Text
