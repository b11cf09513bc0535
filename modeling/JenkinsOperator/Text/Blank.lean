/-!
# Blank characters

The 25 characters that Unicode calls white space. They are skipped where a format allows blanks,
and a text of nothing else counts as empty.
-/

namespace JenkinsOperator.Text

/-- Whether a character is white space in the sense of Unicode. -/
def isBlank (c : Char) : Bool :=
  let n := c.toNat
  (decide (0x9 ≤ n) && decide (n ≤ 0xD)) || n == 0x20 || n == 0x85 || n == 0xA0 || n == 0x1680
    || (decide (0x2000 ≤ n) && decide (n ≤ 0x200A)) || n == 0x2028 || n == 0x2029
    || n == 0x202F || n == 0x205F || n == 0x3000

/-- The characters without the blanks in front. -/
def skipBlanks (cs : List Char) : List Char := cs.dropWhile isBlank

/-- Whether a text has nothing but blanks. -/
def allBlank (s : String) : Bool := s.toList.all isBlank

end JenkinsOperator.Text
