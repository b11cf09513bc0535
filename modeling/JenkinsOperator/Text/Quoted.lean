import JenkinsOperator.Json.Printer
import JenkinsOperator.Text.Printable

/-!
# Quoted text

A text between quotation marks in which every character can be seen. The quotation mark, the
backslash and four control characters have short escapes. Other characters that do not print, and
marks that would combine with the character before them, are given by their number in hexadecimal.
-/

namespace JenkinsOperator.Text

/-- The hexadecimal digits of a number, in lower case. -/
def hexDigits (n : Nat) : List Char := Nat.toDigits 16 n

/-- One character of a quoted text. -/
def quoteChar (c : Char) : List Char :=
  if c = '"' then ['\\', '"']
  else if c = '\\' then ['\\', '\\']
  else if c = '\n' then ['\\', 'n']
  else if c = '\r' then ['\\', 'r']
  else if c = '\t' then ['\\', 't']
  else if c = '\x00' then ['\\', '0']
  else if isPlain c then [c]
  else ['\\', 'u', '\x7b'] ++ hexDigits c.toNat ++ ['\x7d']

/-- A text between quotation marks. -/
def quoted (s : String) : String := String.ofList ('"' :: (s.toList.flatMap quoteChar ++ ['"']))

end JenkinsOperator.Text
