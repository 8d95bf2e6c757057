/-!
White space: the characters that have the Unicode property, and trimming by them.
-/
namespace CodeJudge.Text

/-- Whether a code point lies in one of the closed ranges. -/
def inRanges (table : List (Nat × Nat)) (n : Nat) : Bool :=
  table.any fun range => range.1 ≤ n && n ≤ range.2

/-- The ranges of the property `White_Space`. -/
def blankRanges : List (Nat × Nat) :=
  [(0x9, 0xD), (0x20, 0x20), (0x85, 0x85), (0xA0, 0xA0), (0x1680, 0x1680), (0x2000, 0x200A),
    (0x2028, 0x2029), (0x202F, 0x202F), (0x205F, 0x205F), (0x3000, 0x3000)]

/-- A character with the property `White_Space`. -/
def isBlank (c : Char) : Bool := inRanges blankRanges c.toNat

/-- The list without its longest tail of characters in `p`. -/
def dropEndWhile (p : Char → Bool) (cs : List Char) : List Char :=
  (cs.reverse.dropWhile p).reverse

/-- The list without the characters of `p` at either end. -/
def dropBothWhile (p : Char → Bool) (cs : List Char) : List Char :=
  dropEndWhile p (cs.dropWhile p)

/-- The characters between leading and trailing white space. -/
def trimmed (cs : List Char) : List Char := dropBothWhile isBlank cs

/-- The text between leading and trailing white space. -/
def trim (s : String) : String := String.ofList (trimmed s.toList)

/-- The text from its first character that is not white space. -/
def trimStart (s : String) : String := String.ofList (s.toList.dropWhile isBlank)

/-- The text up to its last character that is not white space. -/
def trimEnd (s : String) : String := String.ofList (dropEndWhile isBlank s.toList)

/-- A text of white space only. -/
def isBlankText (s : String) : Bool := s.toList.all isBlank

/-- The text with ASCII capitals made small and nothing else changed. -/
def lowerAscii (s : String) : String := String.ofList (s.toList.map Char.toLower)

/-- Whether one list of characters occurs in another without a gap. -/
def occursIn (needle : List Char) : List Char → Bool
  | [] => needle.isEmpty
  | c :: cs => needle.isPrefixOf (c :: cs) || occursIn needle cs

/-- Whether `needle` occurs in `s`. -/
def contains (s needle : String) : Bool := occursIn needle.toList s.toList

theorem isBlank_space : isBlank ' ' = true := by decide

end CodeJudge.Text
