/-!
# The shortest decimal of a binary64 number

A decimal fraction is held in documents only to binary64 precision. `nearest?` rounds a fraction to
`m · 2 ^ q` with `m` below `2 ^ 53`, ties to even; `shortest` gives the fewest decimal digits that
still round to that number, and of those the digits nearest to it.

`ofDecimal?` is how a written number gets its binary64 value: the digits are rounded first, and the
product or quotient with the power of ten, itself rounded, is rounded again. Of long numbers the
last bit is not always that of the nearest value.

All of it is exact arithmetic on natural numbers.
-/

namespace JenkinsOperator.Shortest

/-- A quotient rounded to the nearest whole number, ties to even. -/
def roundDiv (num den : Nat) : Nat :=
  let q := num / den
  let twice := 2 * (num % den)
  if twice < den then q
  else if den < twice then q + 1
  else if q % 2 = 0 then q else q + 1

/-- `num / den · 2 ^ -q`, as a numerator and a denominator. -/
def scale (num den : Nat) (q : Int) : Nat × Nat :=
  if 0 ≤ q then (num, den <<< q.toNat) else (num <<< (-q).toNat, den)

/-- The exponent of the binary64 grid around a quotient: 53 significant bits, and never
below the grid of the subnormal numbers. -/
def gridExponent (num den : Nat) : Int :=
  let guess : Int := (Nat.log2 num : Int) - Nat.log2 den - 52
  let (n, d) := scale num den guess
  let q := if n / d < 1 <<< 52 then guess - 1 else if 1 <<< 53 ≤ n / d then guess + 1 else guess
  max q (-1074)

/-- The nearest binary64 number `m · 2 ^ q` to a quotient, or nothing if it is too large. -/
def nearest? (num den : Nat) : Option (Nat × Int) :=
  let q := gridExponent num den
  let (n, d) := scale num den q
  let m := roundDiv n d
  let (m, q) := if m = 1 <<< 53 then (1 <<< 52, q + 1) else (m, q)
  if 971 < q then none else some (m, q)

/-- `c · 10 ^ k`, as a numerator and a denominator. -/
def decimal (c : Nat) (k : Int) : Nat × Nat :=
  if 0 ≤ k then (c * Nat.pow 10 k.toNat, 1) else (c, Nat.pow 10 (-k).toNat)

/-- `m · 2 ^ q`, as a numerator and a denominator. -/
def binary (m : Nat) (q : Int) : Nat × Nat :=
  if 0 ≤ q then (m <<< q.toNat, 1) else (m, 1 <<< (-q).toNat)

/-- The rounded product of two numbers `m · 2 ^ q`. -/
def times? (a b : Nat × Int) : Option (Nat × Int) :=
  let (n, d) := binary (a.1 * b.1) (a.2 + b.2)
  nearest? n d

/-- The rounded quotient of two numbers `m · 2 ^ q`, the second of them positive. -/
def over? (a b : Nat × Int) : Option (Nat × Int) :=
  let (n, d) := binary a.1 (a.2 - b.2)
  nearest? n (d * b.1)

/-- The rounded power of ten. -/
def power? (k : Nat) : Option (Nat × Int) := nearest? (Nat.pow 10 k) 1

/-- The greatest power of ten in range. -/
def greatestPower : Nat := 308

/-- The binary64 value of `digits · 10 ^ exponent`, or nothing if it is too large. Negative
exponents beyond the greatest power are divided by in two steps, and beyond two such steps nothing
is left. -/
def ofDecimal? (digits : Nat) (exponent : Int) : Option (Nat × Int) := do
  let value ← nearest? digits 1
  if digits = 0 then return value
  else if 0 ≤ exponent then
    if greatestPower < exponent then none else times? value (← power? exponent.toNat)
  else if -greatestPower ≤ exponent then over? value (← power? (-exponent).toNat)
  else if -2 * greatestPower ≤ exponent then
    let value ← over? value (← power? greatestPower)
    over? value (← power? (-(exponent + greatestPower)).toNat)
  else return (0, 0)

/-- Whether `c · 10 ^ k` rounds to `m · 2 ^ q`. -/
def readsBack (m : Nat) (q : Int) (c : Nat) (k : Int) : Bool :=
  let (n, d) := decimal c k
  decide (0 < c) && decide (nearest? n d = some (m, q))

/-- The decimal exponent of the leading digit of a positive quotient, found from above. -/
def leading (num den : Nat) : Nat → Int → Int
  | 0, k => k
  | fuel + 1, k =>
    let (n, d) := decimal 1 k
    if n * den ≤ num * d then k else leading num den fuel (k - 1)

/-- The digits on the grid `10 ^ k` that read back as `m · 2 ^ q`: the nearer of the two neighbours
of the number, the even one in a tie. -/
def onGrid? (m : Nat) (q : Int) (k : Int) : Option Nat :=
  let (vn, vd) := binary m q
  let (gn, gd) := decimal 1 k
  let num := vn * gd
  let den := vd * gn
  let low := num / den
  let near := roundDiv num den
  let far := if near = low then low + 1 else low
  if readsBack m q near k then some near
  else if readsBack m q far k then some far
  else none

/-- The first grid, from coarse to fine, that has digits for `m · 2 ^ q`. -/
def search (m : Nat) (q : Int) : Nat → Int → Nat × Int
  | 0, k => (m, k)
  | fuel + 1, k =>
    match onGrid? m q k with
    | some c => (c, k)
    | none => search m q fuel (k - 1)

/-- The fewest digits `c · 10 ^ k` that read back as the positive number `m · 2 ^ q`. -/
def shortest (m : Nat) (q : Int) : Nat × Int :=
  let (vn, vd) := binary m q
  let bits : Int := (Nat.log2 vn : Int) - Nat.log2 vd + 1
  search m q 20 (leading vn vd 8 (bits * 30103 / 100000 + 1) + 1)

end JenkinsOperator.Shortest
