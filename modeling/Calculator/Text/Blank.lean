import Calculator.Text.Ranges

/-! # Blank text

Which characters count as white space in a query, and when a text holds nothing else.
-/

namespace Calculator.Text

/-- The characters with the property White_Space, as ranges of code points. -/
def blankRanges : List (Nat × Nat) :=
  [(0x09, 0x0D), (0x20, 0x20), (0x85, 0x85), (0xA0, 0xA0), (0x1680, 0x1680), (0x2000, 0x200A),
    (0x2028, 0x2029), (0x202F, 0x202F), (0x205F, 0x205F), (0x3000, 0x3000)]

theorem blankRanges_ascending : Ascending blankRanges := by decide

/-- Whether a character is white space. -/
def isBlankChar (c : Char) : Bool := inRanges blankRanges c.toNat

/-- Whether a text is empty or all white space. -/
def isBlank (text : String) : Bool := text.toList.all isBlankChar

end Calculator.Text
