import JenkinsOperator.DeployKey.Rsa
import JenkinsOperator.Proofs.DeployKey.Der
import Mathlib.Algebra.Ring.Parity
import Mathlib.Data.Nat.ChineseRemainder
import Mathlib.FieldTheory.Finite.Basic

/-!
# Keys that work

A key is read from its encoding and from nothing else (`decode?_eq_some_iff`), and is usable if and
only if its numbers fit together (`privateKey_eq_ok_iff`). What the check asks for is enough: if the
two primes are prime and differ, the exponents undo each other on every residue (`Fits.pow_pow`),
also on those that share a prime with the modulus.
-/

namespace JenkinsOperator.Rsa

/-! ## Encodings -/

variable {bytes : List UInt8} {k : PrivateKey}

/-- Further primes are a sequence, so there are none only where nothing is left. -/
theorem tail?_eq_some_false_iff : tail? bytes = some false ↔ bytes = [] := by
  cases bytes with
  | nil => exact ⟨fun _ => rfl, fun _ => rfl⟩
  | cons first rest =>
    refine iff_of_false ?_ (List.cons_ne_nil first rest)
    -- Where something is left, either there are further primes or the reading fails.
    rw [tail?]
    · split
      · split <;> simp
      · simp
    · simp

/-- The numbers of an encoded key, with the version in front. -/
def PrivateKey.numbers (k : PrivateKey) : List Nat :=
  [0, k.modulus, k.publicExponent, k.privateExponent, k.prime1, k.prime2, k.exponent1, k.exponent2,
    k.coefficient]

theorem PrivateKey.encode_eq (k : PrivateKey) :
    k.encode = Der.encodeElement Der.sequenceTag (k.numbers.flatMap Der.encodeNat) :=
  rfl

/-- The numbers of a short key are read one after another. -/
theorem PrivateKey.nats?_numbers (below : k.encode.length < 0x10000000) :
    Der.nats? 9 (k.numbers.flatMap Der.encodeNat) = some (k.numbers, []) := by
  refine Der.nats?_eq_some_iff.2 ⟨rfl, ?_, (List.append_nil _).symm⟩
  intro n member
  refine Nat.lt_of_le_of_lt (Nat.le_trans (Der.length_contentsOfNat_le member) ?_) below
  rw [encode_eq, Der.encodeElement, List.length_cons, List.length_append]
  omega

/-- A key of two primes is read if and only if the bytes are its only encoding. -/
theorem decode?_eq_some_iff :
    decode? bytes = some (k, false) ↔ bytes.length < 0x10000000 ∧ bytes = k.encode := by
  constructor
  · intro read
    rw [decode?] at read
    split at read
    case h_1 contents isDocument =>
      obtain ⟨below, rfl⟩ := Der.document?_eq_some_iff.1 isDocument
      refine ⟨below, ?_⟩
      split at read
      case h_1 version n e d p q dp dq qinv rest areNats =>
        obtain ⟨-, -, rfl⟩ := Der.nats?_eq_some_iff.1 areNats
        split at read
        case h_1 further isTail =>
          -- The version is zero, since there are no further primes.
          obtain ⟨isVersion, both⟩ := Option.ite_none_right_eq_some.1 read
          obtain ⟨rfl, rfl⟩ := Prod.mk.inj (Option.some.inj both)
          obtain rfl := tail?_eq_some_false_iff.1 isTail
          rw [isVersion, List.append_nil]
          rfl
        case h_2 => cases read
      case h_2 => cases read
    case h_2 => cases read
  · rintro ⟨below, rfl⟩
    rw [decode?, Der.document?_eq_some_iff.2 ⟨below, k.encode_eq⟩]
    dsimp only
    rw [PrivateKey.nats?_numbers below]
    rfl

/-- Short keys with one encoding are the same. -/
theorem PrivateKey.encode_inj {k' : PrivateKey} (below : k.encode.length < 0x10000000)
    (same : k.encode = k'.encode) : k = k' := by
  have read := decode?_eq_some_iff.2 ⟨below, rfl⟩
  rw [decode?_eq_some_iff.2 ⟨below, same⟩] at read
  exact ((Prod.mk.inj (Option.some.inj read)).1).symm

/-! ## Numbers that fit together -/

/-- The numbers of a key fit together. -/
structure PrivateKey.Fits (k : PrivateKey) : Prop where
  prime1 : 1 < k.prime1
  prime2 : 1 < k.prime2
  product : k.prime1 * k.prime2 = k.modulus
  oddModulus : Odd k.modulus
  oddExponent : Odd k.publicExponent
  exponent : 2 ≤ k.publicExponent ∧ k.publicExponent ≤ 2 ^ 33 - 1
  below : k.publicExponent < k.modulus
  inverse1 : k.privateExponent * k.publicExponent ≡ 1 [MOD k.prime1 - 1]
  inverse2 : k.privateExponent * k.publicExponent ≡ 1 [MOD k.prime2 - 1]

/-- A factor of an odd number is one, or at least three. -/
theorem two_lt_of_odd_mul {p q : Nat} (odd : Odd (p * q)) (some : 1 < p) : 2 < p := by
  obtain ⟨half, rfl⟩ := (Nat.odd_mul.1 odd).1
  omega

/-- One is the remainder of itself where the divisor is at least two. -/
theorem mod_eq_one_iff {t p : Nat} (large : 2 < p) : t % (p - 1) = 1 ↔ t ≡ 1 [MOD p - 1] := by
  rw [Nat.ModEq, Nat.mod_eq_of_lt (by omega : 1 < p - 1)]

/-- The check of a key decides whether its numbers fit together. -/
theorem PrivateKey.isConsistent_iff : k.isConsistent = true ↔ k.Fits := by
  simp only [isConsistent, Bool.and_eq_true, decide_eq_true_eq, and_assoc]
  constructor
  · rintro ⟨below, oddModulus, oddExponent, low, high, some1, some2, product, inverse1, inverse2⟩
    have odd : Odd (k.prime1 * k.prime2) := product ▸ Nat.odd_iff.2 oddModulus
    exact {
      prime1 := some1
      prime2 := some2
      product
      oddModulus := Nat.odd_iff.2 oddModulus
      oddExponent := Nat.odd_iff.2 oddExponent
      exponent := ⟨low, Nat.le_sub_one_of_lt high⟩
      below
      inverse1 := (mod_eq_one_iff (two_lt_of_odd_mul odd some1)).1 inverse1
      inverse2 := (mod_eq_one_iff (two_lt_of_odd_mul (Nat.mul_comm _ _ ▸ odd) some2)).1 inverse2 }
  · intro fits
    have odd : Odd (k.prime1 * k.prime2) := fits.product ▸ fits.oddModulus
    exact ⟨fits.below, Nat.odd_iff.1 fits.oddModulus, Nat.odd_iff.1 fits.oddExponent,
      fits.exponent.1, Nat.lt_of_le_sub_one (by decide) fits.exponent.2, fits.prime1, fits.prime2,
      fits.product,
      (mod_eq_one_iff (two_lt_of_odd_mul odd fits.prime1)).2 fits.inverse1,
      (mod_eq_one_iff (two_lt_of_odd_mul (Nat.mul_comm _ _ ▸ odd) fits.prime2)).2 fits.inverse2⟩

/-- A key is usable if and only if it is short, a key without further primes, and its numbers fit
together. -/
theorem privateKey_eq_ok_iff :
    privateKey bytes = .ok k ↔ bytes.length < 0x10000000 ∧ bytes = k.encode ∧ k.Fits := by
  rw [← and_assoc, ← decode?_eq_some_iff, ← PrivateKey.isConsistent_iff, privateKey]
  cases decode? bytes with
  | none => simp
  | some read =>
    obtain ⟨k', further⟩ := read
    cases further with
    | true => simp
    | false =>
      by_cases consistent : k'.isConsistent = true
      · simp only [consistent, Bool.not_false, Bool.true_and, if_true, Except.ok.injEq,
          Option.some.injEq, Prod.mk.injEq, and_true]
        constructor
        · rintro rfl
          exact ⟨rfl, consistent⟩
        · exact And.left
      · simp only [consistent, Bool.not_false, Bool.true_and, Bool.false_eq_true, if_false,
          reduceCtorEq, Option.some.injEq, Prod.mk.injEq, and_true, false_iff, not_and]
        rintro rfl
        exact consistent

/-- A short key whose numbers do not fit together is refused for them. -/
theorem privateKey_of_not_fits (below : k.encode.length < 0x10000000) (unfit : ¬ k.Fits) :
    privateKey k.encode = .error .badNumbers := by
  have inconsistent : ¬ (!false && k.isConsistent) = true := by
    rw [Bool.not_false, Bool.true_and, PrivateKey.isConsistent_iff]
    exact unfit
  simp only [privateKey, decode?_eq_some_iff.2 ⟨below, rfl⟩, if_neg inconsistent]

/-! ## Exponents that undo each other -/

/-- An exponent that is one modulo a prime less one keeps every number modulo that prime. -/
theorem pow_modEq_self {p t : Nat} (prime : p.Prime) (some : 1 ≤ t) (one : t ≡ 1 [MOD p - 1])
    (m : Nat) : m ^ t ≡ m [MOD p] := by
  obtain ⟨s, rest⟩ := (Nat.modEq_iff_dvd' some).1 one.symm
  obtain rfl : t = 1 + (p - 1) * s := by omega
  by_cases shared : p ∣ m
  · -- Both sides are zero.
    have zero : m ≡ 0 [MOD p] := Nat.modEq_zero_iff_dvd.2 shared
    have power : m ^ (1 + (p - 1) * s) ≡ 0 [MOD p] :=
      Nat.modEq_zero_iff_dvd.2 (Dvd.dvd.pow shared (by omega))
    exact power.trans zero.symm
  · have coprime : m.Coprime p := (prime.coprime_iff_not_dvd.2 shared).symm
    have fermat : m ^ (p - 1) ≡ 1 [MOD p] := by
      rw [← Nat.totient_prime prime]
      exact Nat.ModEq.pow_totient coprime
    calc m ^ (1 + (p - 1) * s) = m * (m ^ (p - 1)) ^ s := by rw [pow_add, pow_one, pow_mul]
      _ ≡ m * 1 ^ s [MOD p] := (fermat.pow s).mul_left m
      _ = m := by rw [one_pow, mul_one]

namespace PrivateKey.Fits

/-- The product of the exponents is not zero. -/
theorem one_le_mul (fits : k.Fits) : 1 ≤ k.privateExponent * k.publicExponent := by
  by_contra none
  have large := two_lt_of_odd_mul (fits.product ▸ fits.oddModulus) fits.prime1
  have zero : k.privateExponent * k.publicExponent = 0 := by omega
  have one := fits.inverse1
  rw [zero, ← mod_eq_one_iff large, Nat.zero_mod] at one
  exact absurd one (by decide)

/-- If the primes are prime and differ, the private exponent undoes the public one. -/
theorem pow_pow (fits : k.Fits) (prime1 : k.prime1.Prime) (prime2 : k.prime2.Prime)
    (differ : k.prime1 ≠ k.prime2) {m : Nat} (residue : m < k.modulus) :
    (m ^ k.publicExponent % k.modulus) ^ k.privateExponent % k.modulus = m := by
  have coprime : k.prime1.Coprime k.prime2 := (Nat.coprime_primes prime1 prime2).2 differ
  have undone : m ^ (k.privateExponent * k.publicExponent) ≡ m [MOD k.prime1 * k.prime2] :=
    (Nat.modEq_and_modEq_iff_modEq_mul coprime).1
      ⟨pow_modEq_self prime1 fits.one_le_mul fits.inverse1 m,
        pow_modEq_self prime2 fits.one_le_mul fits.inverse2 m⟩
  rw [fits.product] at undone
  have reduced : m ^ k.publicExponent % k.modulus ≡ m ^ k.publicExponent [MOD k.modulus] :=
    Nat.mod_modEq _ _
  have whole : (m ^ k.publicExponent % k.modulus) ^ k.privateExponent ≡ m [MOD k.modulus] :=
    calc (m ^ k.publicExponent % k.modulus) ^ k.privateExponent
        ≡ (m ^ k.publicExponent) ^ k.privateExponent [MOD k.modulus] := reduced.pow _
      _ = m ^ (k.privateExponent * k.publicExponent) := by rw [← pow_mul, Nat.mul_comm]
      _ ≡ m [MOD k.modulus] := undone
  exact Nat.mod_eq_of_modEq whole residue

end PrivateKey.Fits

end JenkinsOperator.Rsa
