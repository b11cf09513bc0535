import JenkinsOperator.Text.Blank
import JenkinsOperator.Time.Span

/-!
# Times as text

`Time.rfc3339` writes a moment as RFC 3339 does, in UTC with `Z`. The fraction has the fewest of 0,
3, 6 or 9 digits that are exact. A year outside 0 to 9999 carries its sign. `Time.rfc3339Seconds`
writes no fraction.

`Time.ofRfc3339?` is lenient about what it reads. Blanks may stand before each number, before a
separator inside the date or the clock, before the offset and at the end. Numbers may be short. Date
and clock are parted by `T`, `t` or a blank. Digits after the ninth of a fraction are dropped, and
the offset may be `Z`, `z`, `UTC` or signed hours and minutes below a day.
-/

namespace JenkinsOperator

namespace Time

/-- The digits of a year: four, or a sign and at least four. -/
def yearChars (year : Int) : List Char :=
  if 0 ≤ year ∧ year ≤ 9999 then Text.padded 4 year.toNat
  else (if year < 0 then '-' else '+') :: Text.padded 4 year.natAbs

/-- A fraction of a second in the fewest of 0, 3, 6 or 9 digits. -/
def fractionChars (nano : Nat) : List Char :=
  if nano = 0 then []
  else if nano % 1000000 = 0 then '.' :: Text.padded 3 (nano / 1000000)
  else if nano % 1000 = 0 then '.' :: Text.padded 6 (nano / 1000)
  else '.' :: Text.padded 9 nano

/-- The characters of the second that a moment falls in. -/
def secondChars (t : Time) : List Char :=
  yearChars t.date.year ++ '-' :: Text.padded 2 t.date.month ++ '-' :: Text.padded 2 t.date.day
    ++ 'T' :: Text.padded 2 t.hour ++ ':' :: Text.padded 2 t.minute ++ ':' :: Text.padded 2 t.second

/-- The characters of a moment. -/
def rfc3339Chars (t : Time) : List Char := t.secondChars ++ fractionChars t.nano ++ ['Z']

/-- The text of a moment. -/
def rfc3339 (t : Time) : String := String.ofList t.rfc3339Chars

/-- The text of a moment to the second; what is beyond it is dropped. -/
def rfc3339Seconds (t : Time) : String := String.ofList (t.secondChars ++ ['Z'])

/-- A number of one to `width` digits, and the rest. -/
def number? (width : Nat) (cs : List Char) : Option (Nat × List Char) :=
  let digits := (cs.take width).takeWhile Char.isDigit
  if digits.isEmpty then none else some (Text.natOfDigits digits, cs.drop digits.length)

/-- A number after blanks. -/
def spacedNumber? (width : Nat) (cs : List Char) : Option (Nat × List Char) :=
  number? width (Text.skipBlanks cs)

/-- A given character after blanks; the value is what follows it. -/
def spaced? (c : Char) (cs : List Char) : Option (List Char) :=
  match Text.skipBlanks cs with
  | [] => none
  | first :: rest => if first = c then some rest else none

/-- A year after blanks: a sign and any number of digits, or at most four digits. -/
def year? (cs : List Char) : Option (Int × List Char) :=
  match Text.skipBlanks cs with
  | '-' :: rest => (number? rest.length rest).map fun (n, r) => (-(n : Int), r)
  | '+' :: rest => (number? rest.length rest).map fun (n, r) => ((n : Int), r)
  | rest => (number? 4 rest).map fun (n, r) => ((n : Int), r)

/-- The nanoseconds of a fraction, if there is one; a point needs a digit after it. -/
def fraction? (cs : List Char) : Option (Nat × List Char) :=
  match cs with
  | '.' :: rest =>
    let digits := (rest.take 9).takeWhile Char.isDigit
    if digits.isEmpty then none
    else some (Text.natOfDigits (digits ++ List.replicate (9 - digits.length) '0'),
      rest.dropWhile Char.isDigit)
  | _ => some (0, cs)

/-- Exactly two digits. -/
def twoDigits? : List Char → Option (Nat × List Char)
  | a :: b :: rest =>
    if a.isDigit && b.isDigit then some (Text.natOfDigits [a, b], rest) else none
  | _ => none

/-- The offset of signed hours and minutes, in minutes ahead of UTC. -/
def signedOffset? (negative : Bool) (cs : List Char) : Option (Int × List Char) :=
  match twoDigits? cs with
  | none => none
  | some (hours, rest) =>
    match twoDigits? (rest.dropWhile fun c => c == ':' || Text.isBlank c) with
    | none => none
    | some (minutes, rest') =>
      if minutes < 60 ∧ hours < 24 then
        let total : Int := hours * 60 + minutes
        some (if negative then -total else total, rest')
      else none

/-- The offset from UTC, in minutes. -/
def offset? (cs : List Char) : Option (Int × List Char) :=
  match cs with
  | '+' :: rest => signedOffset? false rest
  | '-' :: rest => signedOffset? true rest
  | '\u2212' :: rest => signedOffset? true rest
  | c :: rest =>
    if c = 'Z' ∨ c = 'z' then some (0, rest)
    else
      match c :: rest with
      | u :: t :: c :: rest' =>
        if u.toUpper = 'U' ∧ t.toUpper = 'T' ∧ c.toUpper = 'C' then some (0, rest') else none
      | _ => none
  | [] => none

/-- The character between date and clock. -/
def parting? : List Char → Option (List Char)
  | c :: rest => if c = 'T' ∨ c = 't' ∨ c = ' ' then some rest else none
  | [] => none

/-- The moment that the characters denote. -/
def ofChars? (cs : List Char) : Option Time := do
  let (year, cs) ← year? cs
  let (month, cs) ← spacedNumber? 2 (← spaced? '-' cs)
  let (day, cs) ← spacedNumber? 2 (← spaced? '-' cs)
  let (hour, cs) ← spacedNumber? 2 (← parting? cs)
  let (minute, cs) ← spacedNumber? 2 (← spaced? ':' cs)
  let (second, cs) ← spacedNumber? 2 (← spaced? ':' cs)
  let (nano, cs) ← fraction? cs
  let (offset, cs) ← offset? (Text.skipBlanks cs)
  if cs.all Text.isBlank && decide (hour < 24 ∧ minute < 60) then
    ofLocal? (← Date.of? year month day) hour minute second nano offset
  else none

/-- The moment that a text denotes. -/
def ofRfc3339? (s : String) : Option Time := ofChars? s.toList

end Time

end JenkinsOperator
