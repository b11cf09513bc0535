import JenkinsOperator.Data.Bounds
import JenkinsOperator.Json.Basic
import JenkinsOperator.Json.Shortest
import JenkinsOperator.Text.Digits

/-!
# Reading JSON text

Reading goes in two steps. `Token.list?` cuts the text into brackets, separators and scalar values,
dropping blanks; `Json.ofTokens?` builds the value from the tokens with a stack of the arrays and
objects that are still open. Each scanner returns a rest that is shorter than its input, and the
builder consumes one token a step, so both end on every text.

Only the grammar of the whole text is checked. There is no limit on depth or on the size of numbers,
and half of a surrogate pair makes a string illegible without making the text wrong, so what a text
holds beside the members that are looked at has no effect.
-/

namespace JenkinsOperator

/-- A lexical element of JSON text. -/
inductive Token where
  | openArray
  | closeArray
  | openObject
  | closeObject
  | comma
  | colon
  /-- A string; none if it is illegible. -/
  | text (value : Option String)
  /-- Any other value without parts. -/
  | scalar (value : Json)

namespace Token

/-- The value of a hexadecimal digit. -/
def hexValue? (c : Char) : Option Nat :=
  if '0' ≤ c ∧ c ≤ '9' then some (c.toNat - '0'.toNat)
  else if 'a' ≤ c ∧ c ≤ 'f' then some (c.toNat - 'a'.toNat + 10)
  else if 'A' ≤ c ∧ c ≤ 'F' then some (c.toNat - 'A'.toNat + 10)
  else none

/-- The number of four hexadecimal digits. -/
def unit? (a b c d : Char) : Option Nat := do
  return (← hexValue? a) * 4096 + (← hexValue? b) * 256 + (← hexValue? c) * 16 + (← hexValue? d)

/-- The character of an escape by a single letter. -/
def shortEscape? (c : Char) : Option Char :=
  if c = '"' then some '"'
  else if c = '\\' then some '\\'
  else if c = '/' then some '/'
  else if c = 'b' then some '\x08'
  else if c = 'f' then some '\x0c'
  else if c = 'n' then some '\n'
  else if c = 'r' then some '\r'
  else if c = 't' then some '\t'
  else none

/-- A part of a string literal: a character, or half of a surrogate pair. -/
inductive Part where
  | char (c : Char)
  | half (unit : Nat)
  deriving DecidableEq

/-- The part that an escape by number stands for. -/
def Part.ofUnit (u : Nat) : Part :=
  if 0xD800 ≤ u ∧ u < 0xE000 then .half u else .char (Char.ofNat u)

/-- The character of two halves of a surrogate pair. -/
def pair? (first second : Nat) : Option Char :=
  if first < 0xDC00 ∧ 0xDC00 ≤ second then
    some (Char.ofNat (0x10000 + (first - 0xD800) * 0x400 + (second - 0xDC00)))
  else none

/-- The characters of the parts of a literal; there are none if half of a surrogate pair stands
alone. -/
def characters? : List Part → Option (List Char)
  | [] => some []
  | .char c :: rest => (characters? rest).map (c :: ·)
  | .half first :: .half second :: rest =>
    match pair? first second with
    | some c => (characters? rest).map (c :: ·)
    | none => none
  | .half _ :: _ => none

/-- A part in front of a literal that was read. -/
def prepend (part : Part) : Option (List Part × List Char) → Option (List Part × List Char)
  | some (parts, rest) => some (part :: parts, rest)
  | none => none

theorem prepend_eq_some {part : Part} {o : Option (List Part × List Char)} {parts : List Part}
    {rest : List Char} (h : prepend part o = some (parts, rest)) :
    ∃ parts', o = some (parts', rest) := by
  obtain _ | ⟨parts', r⟩ := o
  · cases h
  · cases h
    exact ⟨parts', rfl⟩

/-- The parts of a literal up to its closing quotation mark, and what follows it. -/
def literal? : List Char → Option (List Part × List Char)
  | [] => none
  | '"' :: rest => some ([], rest)
  | '\\' :: 'u' :: a :: b :: c :: d :: rest =>
    match unit? a b c d with
    | none => none
    | some u => prepend (.ofUnit u) (literal? rest)
  | '\\' :: c :: rest =>
    match shortEscape? c with
    | none => none
    | some e => prepend (.char e) (literal? rest)
  | c :: rest =>
    if c = '\\' ∨ c.toNat < 0x20 then none
    else prepend (.char c) (literal? rest)

theorem literal?_rest_lt {cs rest : List Char} {parts : List Part}
    (h : literal? cs = some (parts, rest)) : rest.length < cs.length := by
  fun_induction literal? cs generalizing parts rest <;>
    (try simp only [List.length_cons]) <;> grind [prepend_eq_some]

/-- The digits at the front of a text, and the rest. -/
def digits (cs : List Char) : List Char × List Char :=
  (cs.takeWhile Char.isDigit, cs.dropWhile Char.isDigit)

theorem digits_rest_le (cs : List Char) : (digits cs).2.length ≤ cs.length :=
  (List.dropWhile_sublist _).length_le

/-- The digits after a point, if there is one; a point must have some. -/
def fractionPart? (cs : List Char) : Option (List Char × List Char) :=
  match cs with
  | '.' :: rest =>
    let (ds, rest') := digits rest
    if ds.isEmpty then none else some (ds, rest')
  | _ => some ([], cs)

theorem fractionPart?_rest_le {cs ds rest : List Char} (h : fractionPart? cs = some (ds, rest)) :
    rest.length ≤ cs.length := by
  unfold fractionPart? at h
  split at h
  · rename_i tail
    have := digits_rest_le tail
    simp only at h
    split at h
    · cases h
    · cases h
      simp only [List.length_cons]
      omega
  · cases h
    exact Nat.le_refl _

/-- Whether a text begins with a minus, and the text after its sign. -/
def sign : List Char → Bool × List Char
  | '-' :: rest => (true, rest)
  | '+' :: rest => (false, rest)
  | rest => (false, rest)

theorem sign_rest_le (cs : List Char) : (sign cs).2.length ≤ cs.length := by
  unfold sign
  split <;> simp

/-- The exponent after its letter, if there is one; the letter must be followed by digits. -/
def exponentPart? (cs : List Char) : Option (Option Int × List Char) :=
  match cs with
  | [] => some (none, [])
  | c :: rest =>
    if c = 'e' ∨ c = 'E' then
      let (ds, rest') := digits (sign rest).2
      if ds.isEmpty then none
      else
        let n : Int := Text.natOfDigits ds
        some (some (if (sign rest).1 then -n else n), rest')
    else some (none, c :: rest)

theorem exponentPart?_rest_le {cs rest : List Char} {e : Option Int}
    (h : exponentPart? cs = some (e, rest)) : rest.length ≤ cs.length := by
  unfold exponentPart? at h
  split at h
  · cases h
    exact Nat.le_refl _
  · rename_i c tail
    have h₁ := digits_rest_le (sign tail).2
    have h₂ := sign_rest_le tail
    split at h
    · simp only at h
      split at h
      · cases h
      · cases h
        simp only [List.length_cons]
        omega
    · cases h
      exact Nat.le_refl _

/-- A number with digits taken in behind it, one after another while it fits in 64 bits, and the
digits that were left. -/
def absorb (n : Nat) : List Char → Nat × List Char
  | [] => (n, [])
  | c :: rest =>
    let next := n * 10 + Text.natOfDigits [c]
    if fitsWord next then absorb next rest else (n, c :: rest)

/-- The value of a number from its parts: an integer if it has neither fraction nor exponent and
fits in 64 bits, signed or unsigned. Minus zero is a fraction. A fraction keeps the digits that fit
in 64 bits, and the exponent makes up for those that were left before the point. -/
def numberOf (negative : Bool) (whole fraction : List Char) (exponent : Option Int) : Number :=
  let (n, left) := absorb 0 whole
  let (m, ignored) := absorb n fraction
  let integral := left.isEmpty && fraction.isEmpty && exponent.isNone
  if integral && !negative then .integer n
  else if integral && decide (0 < n) && fitsSignedWord (-n) then .integer (-n)
  else .fraction negative m (exponent.getD 0 + left.length + ignored.length - fraction.length)

/-- A number after its sign, and what follows it. -/
def unsigned? (negative : Bool) (cs : List Char) : Option (Number × List Char) :=
  let (whole, rest) := digits cs
  if whole.isEmpty || (whole.head? == some '0' && decide (1 < whole.length)) then none
  else
    match fractionPart? rest with
    | none => none
    | some (fraction, rest') =>
      match exponentPart? rest' with
      | none => none
      | some (exponent, rest'') =>
        some (numberOf negative whole fraction exponent, rest'')

theorem unsigned?_rest_lt {negative : Bool} {cs rest : List Char} {n : Number}
    (h : unsigned? negative cs = some (n, rest)) : rest.length < cs.length := by
  unfold unsigned? digits at h
  simp only at h
  split at h
  · cases h
  · rename_i hne
    split at h
    · cases h
    · rename_i fraction rest' hf
      split at h
      · cases h
      · rename_i e rest'' he
        cases h
        have h₁ := fractionPart?_rest_le hf
        have h₂ := exponentPart?_rest_le he
        have h₃ : (cs.takeWhile Char.isDigit).length + (cs.dropWhile Char.isDigit).length
            = cs.length := by
          rw [← List.length_append, List.takeWhile_append_dropWhile]
        have h₄ : (cs.takeWhile Char.isDigit).length ≠ 0 := by
          intro h0
          simp [List.length_eq_zero_iff.1 h0] at hne
        omega

/-- Whether a character may stand between two tokens. -/
def isBlank (c : Char) : Bool := c = ' ' || c = '\t' || c = '\n' || c = '\r'

/-- The first token of a text that does not begin with a blank, and what follows it. -/
def next? : List Char → Option (Token × List Char)
  | '[' :: rest => some (openArray, rest)
  | ']' :: rest => some (closeArray, rest)
  | '\x7b' :: rest => some (openObject, rest)
  | '\x7d' :: rest => some (closeObject, rest)
  | ',' :: rest => some (comma, rest)
  | ':' :: rest => some (colon, rest)
  | '"' :: rest =>
    (literal? rest).map fun (parts, r) => (text ((characters? parts).map String.ofList), r)
  | 'n' :: 'u' :: 'l' :: 'l' :: rest => some (scalar .null, rest)
  | 't' :: 'r' :: 'u' :: 'e' :: rest => some (scalar (.bool true), rest)
  | 'f' :: 'a' :: 'l' :: 's' :: 'e' :: rest => some (scalar (.bool false), rest)
  | '-' :: rest => (unsigned? true rest).map fun (n, r) => (scalar (.number n), r)
  | cs => (unsigned? false cs).map fun (n, r) => (scalar (.number n), r)

/-- Each token takes at least one character, so that reading comes to an end. -/
theorem next?_rest_lt {cs rest : List Char} {t : Token} (h : next? cs = some (t, rest)) :
    rest.length < cs.length := by
  unfold next? at h
  split at h
  case h_7 =>
    obtain ⟨⟨_, _⟩, hs, hr⟩ := Option.map_eq_some_iff.1 h
    cases hr
    exact Nat.lt_succ_of_lt (literal?_rest_lt hs)
  case h_11 =>
    obtain ⟨⟨_, _⟩, hs, hr⟩ := Option.map_eq_some_iff.1 h
    cases hr
    exact Nat.lt_succ_of_lt (unsigned?_rest_lt hs)
  case h_12 =>
    obtain ⟨⟨_, _⟩, hs, hr⟩ := Option.map_eq_some_iff.1 h
    cases hr
    exact unsigned?_rest_lt hs
  all_goals
    cases h
    simp only [List.length_cons]
    omega

/-- The tokens of a text, or nothing if it has a part that is no token. -/
def list? (cs : List Char) : Option (List Token) :=
  match cs with
  | [] => some []
  | c :: rest =>
    if isBlank c then list? rest
    else
      match _h : next? (c :: rest) with
      | none => none
      | some (t, rest') => (list? rest').map (t :: ·)
termination_by cs.length
decreasing_by
  · simp
  · exact next?_rest_lt _h

end Token

namespace Json

/-- The members of an object so far, from last to first; a name is none if it is illegible. -/
abbrev OpenMembers := List (Option String × Json)

/-- An array or object that is still open, with its items so far from last to first. An object
also keeps the name of the member whose value is being read. -/
inductive Frame where
  | array (items : List Json)
  | object (members : OpenMembers) (name : Option String)

/-- What may come next. -/
inductive Expecting where
  /-- A value. -/
  | value
  /-- The first item of an array, or its end. -/
  | itemOrEnd
  /-- The first name of an object, or its end. -/
  | nameOrEnd
  /-- A name. -/
  | name (members : OpenMembers)
  /-- The colon after a name. -/
  | colon (members : OpenMembers) (name : Option String)
  /-- A separator, or the end of what is open, after a complete value. -/
  | after (value : Json)

/-- The state after one token. -/
def step : Token → List Frame → Expecting → Option (List Frame × Expecting)
  | .text name, stack, .name ms => some (stack, .colon ms name)
  | .text name, stack, .nameOrEnd => some (stack, .colon [] name)
  | .text s, stack, .value => some (stack, .after (.ofText s))
  | .text s, stack, .itemOrEnd => some (.array [] :: stack, .after (.ofText s))
  | .scalar v, stack, .value => some (stack, .after v)
  | .scalar v, stack, .itemOrEnd => some (.array [] :: stack, .after v)
  | .openArray, stack, .value => some (stack, .itemOrEnd)
  | .openArray, stack, .itemOrEnd => some (.array [] :: stack, .itemOrEnd)
  | .openObject, stack, .value => some (stack, .nameOrEnd)
  | .openObject, stack, .itemOrEnd => some (.array [] :: stack, .nameOrEnd)
  | .closeArray, stack, .itemOrEnd => some (stack, .after (.array []))
  | .closeArray, .array items :: stack, .after v =>
    some (stack, .after (.array ((v :: items).reverse)))
  | .closeObject, stack, .nameOrEnd => some (stack, .after (.object []))
  | .closeObject, .object ms name :: stack, .after v =>
    some (stack, .after (.ofMembers ((name, v) :: ms).reverse))
  | .colon, stack, .colon ms name => some (.object ms name :: stack, .value)
  | .comma, .array items :: stack, .after v => some (.array (v :: items) :: stack, .value)
  | .comma, .object ms name :: stack, .after v => some (stack, .name ((name, v) :: ms))
  | _, _, _ => none

/-- The value of a list of tokens from a state on. -/
def build? : List Token → List Frame → Expecting → Option Json
  | [], [], .after v => some v
  | [], _, _ => none
  | t :: rest, stack, expecting =>
    match step t stack expecting with
    | none => none
    | some (stack', expecting') => build? rest stack' expecting'

/-- The value of a list of tokens, if they are exactly one value. -/
def ofTokens? (tokens : List Token) : Option Json := build? tokens [] .value

/-- The value that a text denotes. -/
def ofText? (text : String) : Option Json := (Token.list? text.toList).bind ofTokens?

end Json

end JenkinsOperator
