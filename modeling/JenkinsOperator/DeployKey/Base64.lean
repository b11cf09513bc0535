/-!
# Base64

The standard alphabet with padding, read strictly: three bytes are four characters, a last group of
one or two bytes is filled up with `=`, and the bits that a last group does not need are zero. So
every byte string has exactly one text.
-/

namespace JenkinsOperator.Base64

/-- The character of a number below 64. -/
def digit (n : Nat) : Char :=
  if n < 26 then Char.ofNat (65 + n)
  else if n < 52 then Char.ofNat (97 + (n - 26))
  else if n < 62 then Char.ofNat (48 + (n - 52))
  else if n = 62 then '+'
  else '/'

/-- The number of a character. -/
def value? (c : Char) : Option Nat :=
  let n := c.toNat
  if 65 ≤ n ∧ n ≤ 90 then some (n - 65)
  else if 97 ≤ n ∧ n ≤ 122 then some (n - 97 + 26)
  else if 48 ≤ n ∧ n ≤ 57 then some (n - 48 + 52)
  else if c = '+' then some 62
  else if c = '/' then some 63
  else none

/-- The text of bytes. -/
def encode : List UInt8 → List Char
  | [] => []
  | [a] => [digit (a.toNat / 4), digit (a.toNat % 4 * 16), '=', '=']
  | [a, b] =>
    [digit (a.toNat / 4), digit (a.toNat % 4 * 16 + b.toNat / 16), digit (b.toNat % 16 * 4), '=']
  | a :: b :: c :: rest =>
    digit (a.toNat / 4) :: digit (a.toNat % 4 * 16 + b.toNat / 16)
      :: digit (b.toNat % 16 * 4 + c.toNat / 64) :: digit (c.toNat % 64) :: encode rest

/-- The single byte of a last group with two `=`. -/
def decodeOne? (a b : Char) : Option (List UInt8) := do
  let a ← value? a
  let b ← value? b
  if b % 16 = 0 then return [UInt8.ofNat (a * 4 + b / 16)] else none

/-- The two bytes of a last group with one `=`. -/
def decodeTwo? (a b c : Char) : Option (List UInt8) := do
  let a ← value? a
  let b ← value? b
  let c ← value? c
  if c % 4 = 0 then
    return [UInt8.ofNat (a * 4 + b / 16), UInt8.ofNat (b % 16 * 16 + c / 4)]
  else none

/-- The three bytes of a full group. -/
def decodeThree? (a b c d : Char) : Option (List UInt8) := do
  let a ← value? a
  let b ← value? b
  let c ← value? c
  let d ← value? d
  return [UInt8.ofNat (a * 4 + b / 16), UInt8.ofNat (b % 16 * 16 + c / 4),
    UInt8.ofNat (c % 4 * 64 + d)]

/-- The bytes of a text. -/
def decode? : List Char → Option (List UInt8)
  | [] => some []
  | [a, b, '=', '='] => decodeOne? a b
  | [a, b, c, '='] => decodeTwo? a b c
  | a :: b :: c :: d :: rest =>
    match decodeThree? a b c d with
    | none => none
    | some bytes => (decode? rest).map (bytes ++ ·)
  | _ => none

end JenkinsOperator.Base64
