import JenkinsOperator.Json.Basic
import JenkinsOperator.Json.Shortest

/-!
# Compact JSON text

`Json.text` writes a value without blanks, and null for what is illegible. Strings escape the
quotation mark, the backslash and the control characters, by their short names where they have one;
all other characters stand for themselves. Fractions are written by the fewest digits that read
back, positionally while the point falls within sixteen digits and by an exponent with its sign
otherwise.
-/

namespace JenkinsOperator

/-- How a fraction is laid out. -/
structure FractionLayout where
  /-- The point may stand at most this many places after the first digit. -/
  widest : Int
  /-- The point may stand fewer than this many places before the first digit. -/
  smallest : Int
  /-- What stands in front of an exponent that is not negative. -/
  plus : String

/-- Positional from five zeros after the point up to sixteen digits before it; exponents always have
a sign. -/
def Number.layout : FractionLayout := ⟨16, 5, "+"⟩

/-- Digits without trailing zeros, with the exponent that makes up for them. -/
def Number.strip : Nat → Nat → Int → Nat × Int
  | 0, digits, exponent => (digits, exponent)
  | fuel + 1, digits, exponent =>
    if digits % 10 = 0 then Number.strip fuel (digits / 10) (exponent + 1) else (digits, exponent)

/-- A positive fraction `digits · 10 ^ exponent`, whose digits do not end in a zero. -/
def Number.positional (layout : FractionLayout) (digits : Nat) (exponent : Int) : String :=
  let shown := Nat.repr digits
  let size : Int := shown.length
  let point := size + exponent
  let zeros (n : Int) := String.ofList (List.replicate n.toNat '0')
  if 0 ≤ exponent ∧ point ≤ layout.widest then shown ++ zeros exponent ++ ".0"
  else if 0 < point ∧ point ≤ layout.widest then
    String.ofList (shown.toList.take point.toNat) ++ "."
      ++ String.ofList (shown.toList.drop point.toNat)
  else if -layout.smallest < point ∧ point ≤ 0 then "0." ++ zeros (-point) ++ shown
  else
    let power := "e" ++ (if 0 < point then layout.plus else "") ++ Int.repr (point - 1)
    match shown.toList with
    | first :: second :: rest => String.ofList (first :: '.' :: second :: rest) ++ power
    | _ => shown ++ power

/-- The text of a number. A number beyond binary64 keeps its digits. -/
def Number.text : Number → String
  | .integer n => Int.repr n
  | .fraction negative digits exponent =>
    let sign := if negative then "-" else ""
    let shown (digits : Nat) (exponent : Int) : String :=
      let (c, k) := Number.strip 20 digits exponent
      Number.positional Number.layout c k
    match Shortest.ofDecimal? digits exponent with
    | none => sign ++ shown digits exponent
    | some (m, q) =>
      if m = 0 then sign ++ "0.0"
      else
        let (c, k) := Shortest.shortest m q
        sign ++ shown c k

/-- The character of a hexadecimal digit, in lower case. -/
def hexDigit (n : Nat) : Char :=
  if n < 10 then Char.ofNat ('0'.toNat + n) else Char.ofNat ('a'.toNat + (n - 10))

namespace Json

/-- One character inside a string literal. -/
def escape (c : Char) : List Char :=
  if c = '"' then ['\\', '"']
  else if c = '\\' then ['\\', '\\']
  else if c = '\n' then ['\\', 'n']
  else if c = '\r' then ['\\', 'r']
  else if c = '\t' then ['\\', 't']
  else if c = '\x08' then ['\\', 'b']
  else if c = '\x0c' then ['\\', 'f']
  else if c.toNat < 0x20 then
    ['\\', 'u', '0', '0', hexDigit (c.toNat / 16), hexDigit (c.toNat % 16)]
  else [c]

/-- A string literal. -/
def quote (s : String) : List Char := '"' :: (s.toList.flatMap escape ++ ['"'])

mutual

/-- The characters of a value. -/
def chars : Json → List Char
  | .null => ['n', 'u', 'l', 'l']
  | .bool true => ['t', 'r', 'u', 'e']
  | .bool false => ['f', 'a', 'l', 's', 'e']
  | .number n => n.text.toList
  | .string s => quote s
  | .array items => '[' :: (charsItems items ++ [']'])
  | .object members => '\x7b' :: (charsMembers members ++ ['\x7d'])
  | .illegible => ['n', 'u', 'l', 'l']

/-- The items of an array with a comma between two. -/
def charsItems : List Json → List Char
  | [] => []
  | [item] => chars item
  | item :: rest => chars item ++ ',' :: charsItems rest

/-- The members of an object with a comma between two. -/
def charsMembers : List (String × Json) → List Char
  | [] => []
  | [(name, value)] => quote name ++ ':' :: chars value
  | (name, value) :: rest => quote name ++ ':' :: (chars value ++ ',' :: charsMembers rest)

end

/-- The compact text of a value. -/
def text (json : Json) : String := String.ofList json.chars

end Json

end JenkinsOperator
