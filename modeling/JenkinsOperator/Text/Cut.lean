/-!
# Cutting and searching texts
-/

namespace JenkinsOperator.Text

/-- The parts before and after the first occurrence of a separator. -/
def cut? (sep : Char) : List Char → Option (List Char × List Char)
  | [] => none
  | c :: rest =>
    if c = sep then some ([], rest)
    else (cut? sep rest).map fun (before, after) => (c :: before, after)

/-- The parts between the occurrences of a separator; there is always one more than separators. -/
def splitOn (sep : Char) : List Char → List (List Char)
  | [] => [[]]
  | c :: rest =>
    if c = sep then [] :: splitOn sep rest
    else
      match splitOn sep rest with
      | [] => [[c]]
      | first :: others => (c :: first) :: others

/-- Whether a text has another text somewhere within it. -/
def contains (part : List Char) : List Char → Bool
  | [] => part.isEmpty
  | c :: rest => part.isPrefixOf (c :: rest) || contains part rest

end JenkinsOperator.Text
