/-!
# Distinguished encoding

The part of DER that a key needs: sequences and whole numbers that are not negative. Reading is
strict. Lengths are below `2 ^ 28`, that of a whole document too, and take the fewest octets,
numbers take the fewest octets that keep their sign bit clear, and so each value has one encoding.
-/

namespace JenkinsOperator.Der

/-- The number that octets denote, the most significant first. -/
def natOfBytes (bytes : List UInt8) : Nat := bytes.foldl (fun n b => n * 256 + b.toNat) 0

/-- The fewest octets of a number, the most significant first; none for zero. -/
def bytesOfNat (n : Nat) : List UInt8 :=
  if n = 0 then [] else bytesOfNat (n / 256) ++ [UInt8.ofNat (n % 256)]
termination_by n

/-- The first octet of a length of this size. -/
def lengthMarker (n : Nat) : Nat := if n < 128 then n else 128 + (bytesOfNat n).length

/-- The octets of a length. -/
def encodeLength (n : Nat) : List UInt8 :=
  if n < 128 then [UInt8.ofNat n] else UInt8.ofNat (lengthMarker n) :: bytesOfNat n

/-- A length, and what follows it. -/
def length? : List UInt8 → Option (Nat × List UInt8)
  | [] => none
  | first :: rest =>
    if first < 128 then some (first.toNat, rest)
    else
      let count := first.toNat - 128
      let octets := rest.take count
      let n := natOfBytes octets
      if 1 ≤ count ∧ count ≤ 4 ∧ octets.length = count ∧ n < 0x10000000
          ∧ lengthMarker n = first.toNat then
        some (n, rest.drop count)
      else none

/-- The contents of an element with a tag, and what follows it. -/
def element? (tag : UInt8) : List UInt8 → Option (List UInt8 × List UInt8)
  | [] => none
  | first :: rest =>
    if first = tag then
      match length? rest with
      | none => none
      | some (n, rest') =>
        if n ≤ rest'.length then some (rest'.take n, rest'.drop n) else none
    else none

/-- The contents of a document that is one element with a tag. -/
def document? (tag : UInt8) (bytes : List UInt8) : Option (List UInt8) :=
  if bytes.length < 0x10000000 then
    match element? tag bytes with
    | some (contents, []) => some contents
    | _ => none
  else none

/-- An element with a tag. -/
def encodeElement (tag : UInt8) (contents : List UInt8) : List UInt8 :=
  tag :: (encodeLength contents.length ++ contents)

/-- The tag of a whole number. -/
def integerTag : UInt8 := 2

/-- The tag of a sequence. -/
def sequenceTag : UInt8 := 0x30

/-- The number of the contents of a whole-number element, if it is not negative and its octets are
the fewest. -/
def natOfContents? : List UInt8 → Option Nat
  | [] => none
  | [b] => if b < 128 then some b.toNat else none
  | first :: second :: rest =>
    if first = 0 then
      if second < 128 then none else some (natOfBytes (second :: rest))
    else if first < 128 then some (natOfBytes (first :: second :: rest))
    else none

/-- The contents of the element of a number. -/
def contentsOfNat (n : Nat) : List UInt8 :=
  match bytesOfNat n with
  | [] => [0]
  | first :: rest => if first < 128 then first :: rest else 0 :: first :: rest

/-- A whole number that is not negative, and what follows it. -/
def nat? (bytes : List UInt8) : Option (Nat × List UInt8) :=
  match element? integerTag bytes with
  | none => none
  | some (contents, rest) => (natOfContents? contents).map fun n => (n, rest)

/-- The element of a whole number. -/
def encodeNat (n : Nat) : List UInt8 := encodeElement integerTag (contentsOfNat n)

/-- Numbers one after another, and what follows them. -/
def nats? : Nat → List UInt8 → Option (List Nat × List UInt8)
  | 0, bytes => some ([], bytes)
  | count + 1, bytes =>
    match nat? bytes with
    | none => none
    | some (n, rest) => (nats? count rest).map fun (ns, rest') => (n :: ns, rest')

end JenkinsOperator.Der
