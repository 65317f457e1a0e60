/-!
# Blank characters

White space in the sense of the Unicode property `White_Space`, and the two operations that look
at it: trimming, and asking whether a text shows anything at all.
-/

namespace EntitySlice.Text

/-- The property `White_Space`. -/
def isBlank (c : Char) : Bool :=
  let n := c.toNat
  (9 ≤ n && n ≤ 13) || n = 0x20 || n = 0x85 || n = 0xA0 || n = 0x1680
    || (0x2000 ≤ n && n ≤ 0x200A) || n = 0x2028 || n = 0x2029 || n = 0x202F || n = 0x205F
    || n = 0x3000

/-- The characters without the blank ones at both ends. -/
def trimChars (cs : List Char) : List Char :=
  ((cs.dropWhile isBlank).reverse.dropWhile isBlank).reverse

/-- The text without the blank characters at both ends. -/
def trim (s : String) : String :=
  String.ofList (trimChars s.toList)

/-- Whether every character is blank; so is the empty text. -/
def isBlankText (s : String) : Bool :=
  s.toList.all isBlank

end EntitySlice.Text
