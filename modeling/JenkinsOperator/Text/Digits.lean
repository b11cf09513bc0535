/-!
# Decimal digits

Numbers read from and written as decimal digits.
-/

namespace JenkinsOperator.Text

/-- The number that decimal digits denote. -/
def natOfDigits (digits : List Char) : Nat :=
  digits.foldl (fun n c => n * 10 + (c.toNat - '0'.toNat)) 0

/-- A number in at least the given count of digits, with zeros in front. -/
def padded (width n : Nat) : List Char :=
  let digits := Nat.toDigits 10 n
  List.replicate (width - digits.length) '0' ++ digits

/-- The digits without the zeros at their end. -/
def withoutTrailingZeros (digits : List Char) : List Char :=
  (digits.reverse.dropWhile (· == '0')).reverse

/-- The number of a text of digits alone; a plus may stand in front. -/
def unsigned? (cs : List Char) : Option Nat :=
  let digits := match cs with
    | '+' :: rest => rest
    | _ => cs
  if !digits.isEmpty && digits.all Char.isDigit then some (natOfDigits digits) else none

/-- The number of a text of digits alone; a plus or a minus may stand in front. -/
def signed? (cs : List Char) : Option Int :=
  match cs with
  | '-' :: rest =>
    if !rest.isEmpty && rest.all Char.isDigit then some (-(natOfDigits rest : Int)) else none
  | _ => (unsigned? cs).map fun n => (n : Int)

end JenkinsOperator.Text
