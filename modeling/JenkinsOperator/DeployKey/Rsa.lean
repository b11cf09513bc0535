import JenkinsOperator.DeployKey.Der

/-!
# RSA private keys

The structure of PKCS#1: a sequence of version, modulus, public exponent, private exponent, two
primes and three numbers derived from them. Version 1 goes with further primes, which are read and
never accepted.

The numbers of a key are consistent when the two primes make up the modulus and the exponents undo
each other modulo each prime less one. Nothing else is asked: the primes need not be prime, and the
derived numbers are not looked at.
-/

namespace JenkinsOperator.Rsa

/-- The numbers of a two-prime key. -/
structure PrivateKey where
  modulus : Nat
  publicExponent : Nat
  privateExponent : Nat
  prime1 : Nat
  prime2 : Nat
  exponent1 : Nat
  exponent2 : Nat
  coefficient : Nat
  deriving DecidableEq

/-- Whether the contents of a sequence are further primes, each a sequence of three numbers;
`fuel` bounds their count. -/
def furtherPrimes : Nat → List UInt8 → Bool
  | _, [] => true
  | 0, _ :: _ => false
  | fuel + 1, bytes =>
    match Der.element? Der.sequenceTag bytes with
    | none => false
    | some (contents, rest) =>
      match Der.nats? 3 contents with
      | some (_, []) => furtherPrimes fuel rest
      | _ => false

/-- Whether there are further primes at the end of a key: nothing, or one sequence of them. -/
def tail? : List UInt8 → Option Bool
  | [] => some false
  | bytes =>
    match Der.element? Der.sequenceTag bytes with
    | some (contents, []) => if furtherPrimes contents.length contents then some true else none
    | _ => none

/-- The numbers of an encoded key, and whether there are further primes. -/
def decode? (bytes : List UInt8) : Option (PrivateKey × Bool) :=
  match Der.document? Der.sequenceTag bytes with
  | some contents =>
    match Der.nats? 9 contents with
    | some ([version, n, e, d, p, q, dp, dq, qinv], rest) =>
      match tail? rest with
      | some further =>
        if version = (if further then 1 else 0) then some (⟨n, e, d, p, q, dp, dq, qinv⟩, further)
        else none
      | none => none
    | _ => none
  | none => none

/-- The encoding of a two-prime key. -/
def PrivateKey.encode (k : PrivateKey) : List UInt8 :=
  Der.encodeElement Der.sequenceTag <|
    [0, k.modulus, k.publicExponent, k.privateExponent, k.prime1, k.prime2, k.exponent1,
      k.exponent2, k.coefficient].flatMap Der.encodeNat

/-- Whether the numbers of a key fit together. -/
def PrivateKey.isConsistent (k : PrivateKey) : Bool :=
  decide (k.publicExponent < k.modulus) && decide (k.modulus % 2 = 1)
    && decide (k.publicExponent % 2 = 1) && decide (2 ≤ k.publicExponent)
    && decide (k.publicExponent < 0x200000000)
    && decide (1 < k.prime1) && decide (1 < k.prime2)
    && decide (k.prime1 * k.prime2 = k.modulus)
    && decide (k.privateExponent * k.publicExponent % (k.prime1 - 1) = 1)
    && decide (k.privateExponent * k.publicExponent % (k.prime2 - 1) = 1)

/-- Why bytes are no usable key. -/
inductive Error where
  /-- They are not the encoding of a key. -/
  | badEncoding
  /-- They are a key whose numbers do not fit together, or one with further primes. -/
  | badNumbers
  deriving DecidableEq

/-- The message of an unusable key. -/
def Error.message : Error → String
  | .badEncoding => "PKCS#8 ASN.1 error"
  | .badNumbers => "PKCS#8 cryptographic key data malformed"

/-- The usable key that bytes encode. -/
def privateKey (bytes : List UInt8) : Except Error PrivateKey :=
  match decode? bytes with
  | none => .error .badEncoding
  | some (key, further) =>
    if !further && key.isConsistent then .ok key else .error .badNumbers

end JenkinsOperator.Rsa
