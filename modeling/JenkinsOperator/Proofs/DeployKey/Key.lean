import JenkinsOperator.DeployKey
import JenkinsOperator.Proofs.DeployKey.Pem
import JenkinsOperator.Proofs.DeployKey.Rsa
import Mathlib.Tactic.NormNum.Prime

/-!
# Deploy keys that are accepted

The verdict on a deploy key is one of three: there is no block (`validate_eq_pem_iff`), the payload
of the block is no usable key (`validate_eq_rsa_iff`), or it is one (`validate_eq_ok_iff`). So a key
that is written as a block is accepted for its numbers only (`validate_written_exact`), and a key
that is accepted works (`validate_exact`).
-/

namespace JenkinsOperator.DeployKey

open Pem (HasBlock LineEnd)
open Rsa (PrivateKey)

variable {key payload : List UInt8} {k : PrivateKey}

/-- Bytes are the encoding of a usable key. -/
structure Usable (payload : List UInt8) (k : PrivateKey) : Prop where
  short : payload.length < 2 ^ 28
  encoded : payload = k.encode
  fits : k.Fits

/-- A payload is read as a key if and only if it is the encoding of that key and the key can be
used. -/
theorem privateKey_eq_ok_iff : Rsa.privateKey payload = .ok k ↔ Usable payload k := by
  rw [Rsa.privateKey_eq_ok_iff]
  constructor
  · rintro ⟨short, encoded, fits⟩
    exact ⟨short, encoded, fits⟩
  · intro usable
    exact ⟨usable.short, usable.encoded, usable.fits⟩

/-! ## Verdicts -/

/-- A text is valid if the payload of its block can be read as a key. -/
theorem validate_of_ok (block : HasBlock key payload) (read : Rsa.privateKey payload = .ok k) :
    validate key = .ok () := by
  simp only [validate, Pem.payload_eq_ok_iff.2 block, read]

/-- A text whose payload cannot be read as a key is refused for the reason that the reading gives. -/
theorem validate_of_error {e : Rsa.Error} (block : HasBlock key payload)
    (read : Rsa.privateKey payload = .error e) : validate key = .error (.rsa e) := by
  simp only [validate, Pem.payload_eq_ok_iff.2 block, read]

/-- A text has no two payloads. -/
theorem hasBlock_unique {payload' : List UInt8} (block : HasBlock key payload)
    (block' : HasBlock key payload') : payload = payload' :=
  Except.ok.inj ((Pem.payload_eq_ok_iff.2 block).symm.trans (Pem.payload_eq_ok_iff.2 block'))

/-- The framing is at fault if and only if the text has no block with a payload. -/
theorem validate_eq_pem_iff :
    (∃ e, validate key = .error (.pem e)) ↔ ¬ ∃ payload, HasBlock key payload := by
  constructor
  · rintro ⟨e, refused⟩ ⟨payload, block⟩
    cases read : Rsa.privateKey payload with
    | error e' =>
      rw [validate_of_error block read] at refused
      cases refused
    | ok k =>
      rw [validate_of_ok block read] at refused
      cases refused
  · intro none
    rw [validate]
    cases read : Pem.payload key with
    | error e => exact ⟨e, rfl⟩
    | ok payload => exact absurd ⟨payload, Pem.payload_eq_ok_iff.1 read⟩ none

/-- The key is at fault if and only if there is a payload, and no usable key has it as its
encoding. -/
theorem validate_eq_rsa_iff : (∃ e, validate key = .error (.rsa e)) ↔
    ∃ payload, HasBlock key payload ∧ ∀ k, ¬ Usable payload k := by
  constructor
  · rintro ⟨e, refused⟩
    have some : ∃ payload, HasBlock key payload := by
      by_contra none
      obtain ⟨e', refused'⟩ := validate_eq_pem_iff.2 none
      rw [refused] at refused'
      cases refused'
    obtain ⟨payload, block⟩ := some
    refine ⟨payload, block, fun k usable => ?_⟩
    rw [validate_of_ok block (privateKey_eq_ok_iff.2 usable)] at refused
    cases refused
  · rintro ⟨payload, block, unusable⟩
    cases read : Rsa.privateKey payload with
    | error e => exact ⟨e, validate_of_error block read⟩
    | ok k => exact absurd (privateKey_eq_ok_iff.1 read) (unusable k)

/-- A text is valid if and only if its block holds a usable key. -/
theorem validate_eq_ok_iff :
    validate key = .ok () ↔ ∃ payload k, HasBlock key payload ∧ Usable payload k := by
  constructor
  · intro accepted
    have some : ∃ payload, HasBlock key payload := by
      by_contra none
      obtain ⟨e, refused⟩ := validate_eq_pem_iff.2 none
      rw [accepted] at refused
      cases refused
    obtain ⟨payload, block⟩ := some
    by_contra none
    obtain ⟨e, refused⟩ := validate_eq_rsa_iff.2
      ⟨payload, block, fun k usable => none ⟨payload, k, block, usable⟩⟩
    rw [accepted] at refused
    cases refused
  · rintro ⟨payload, k, block, usable⟩
    exact validate_of_ok block (privateKey_eq_ok_iff.2 usable)

/-! ## Keys that are written -/

/-- The text of a key: a block in lines of a width, with a line end behind each. -/
def written (k : PrivateKey) (width : Nat) (lineEnd : List Char) : List UInt8 :=
  Text.bytes (String.ofList (Pem.render "RSA PRIVATE KEY".toList width lineEnd k.encode))

/-- A key that was written in lines is a block with its encoding as the payload. -/
theorem hasBlock_written (k : PrivateKey) (width : Nat) {lineEnd : List Char}
    (isEnd : LineEnd lineEnd) : HasBlock (written k width lineEnd) k.encode :=
  Pem.hasBlock_render (by decide) (List.all_iff_forall_prop.1 (by decide)) width isEnd k.encode

/-- A key below the bound is accepted if and only if its numbers fit together, and refused for its
numbers otherwise, whatever its size and however its text is laid out. -/
theorem validate_written_exact (k : PrivateKey) (short : k.encode.length < 2 ^ 28) (width : Nat)
    (lineEnd : List Char) (isEnd : LineEnd lineEnd) :
    (validate (written k width lineEnd) = .ok () ↔ k.Fits) ∧
      (¬ k.Fits → validate (written k width lineEnd) = .error (.rsa .badNumbers)) := by
  have block := hasBlock_written k width isEnd
  by_cases fits : k.Fits
  · refine ⟨iff_of_true ?_ fits, absurd fits⟩
    exact validate_eq_ok_iff.2 ⟨k.encode, k, block, short, rfl, fits⟩
  · have refused := validate_of_error block (Rsa.privateKey_of_not_fits short fits)
    refine ⟨iff_of_false ?_ fits, fun _ => refused⟩
    rw [refused]
    nofun

/-- A key of two small primes. -/
def textbook : PrivateKey := ⟨3233, 17, 2753, 61, 53, 53, 49, 38⟩

theorem textbook_fits : textbook.Fits := PrivateKey.isConsistent_iff.1 (by decide)

/-- It is accepted with one character on a line, too. -/
theorem validate_written_exact_textbook :
    textbook.encode.length < 2 ^ 28 ∧ LineEnd ['\r', '\n'] ∧
      validate (written textbook 1 ['\r', '\n']) = .ok () := by
  have short : textbook.encode.length < 2 ^ 28 := by decide +kernel
  exact ⟨short, .inr rfl,
    (validate_written_exact textbook short 1 ['\r', '\n'] (.inr rfl)).1.2 textbook_fits⟩

/-! ## Keys that work -/

/-- The first block of an accepted key has the encoding of a two-prime key for its payload, and if
the primes are prime and differ, the exponents undo each other on every residue. Bytes without a
complete block are refused for that, and a block with any other payload is refused for its payload.
-/
theorem validate_exact (key : List UInt8) :
    (validate key = .ok () → ∃ k : PrivateKey,
      (∀ payload, HasBlock key payload ↔ payload = k.encode) ∧ k.Fits ∧
      (k.prime1.Prime → k.prime2.Prime → k.prime1 ≠ k.prime2 → ∀ m < k.modulus,
        (m ^ k.publicExponent % k.modulus) ^ k.privateExponent % k.modulus = m)) ∧
    ((∃ e, validate key = .error (.pem e)) ↔ ¬ ∃ payload, HasBlock key payload) ∧
    ((∃ e, validate key = .error (.rsa e)) ↔
      ∃ payload, HasBlock key payload ∧ ∀ k, ¬ Usable payload k) := by
  refine ⟨?accepted, validate_eq_pem_iff, validate_eq_rsa_iff⟩
  case accepted =>
    intro accepted
    obtain ⟨payload, k, block, usable⟩ := validate_eq_ok_iff.1 accepted
    obtain rfl := usable.encoded
    refine ⟨k, fun payload => ⟨fun other => hasBlock_unique other block, ?_⟩, usable.fits, ?_⟩
    · rintro rfl
      exact block
    · intro prime1 prime2 differ m residue
      exact usable.fits.pow_pow prime1 prime2 differ residue

/-- A residue is read again after it was raised to both exponents, also one that shares a prime with
the modulus. -/
theorem validate_exact_textbook :
    validate (written textbook 64 ['\n']) = .ok () ∧ textbook.prime1.Prime ∧ textbook.prime2.Prime ∧
      textbook.prime1 ≠ textbook.prime2 ∧ 122 < textbook.modulus ∧
      (122 ^ textbook.publicExponent % textbook.modulus) ^ textbook.privateExponent
        % textbook.modulus = 122 := by
  have short : textbook.encode.length < 2 ^ 28 := by decide +kernel
  have block := hasBlock_written textbook 64 (.inl rfl)
  have accepted : validate (written textbook 64 ['\n']) = .ok () :=
    validate_eq_ok_iff.2 ⟨_, textbook, block, short, rfl, textbook_fits⟩
  have prime1 : textbook.prime1.Prime := by show Nat.Prime 61; norm_num
  have prime2 : textbook.prime2.Prime := by show Nat.Prime 53; norm_num
  obtain ⟨k, payloads, -, undone⟩ := (validate_exact (written textbook 64 ['\n'])).1 accepted
  obtain rfl := PrivateKey.encode_inj short ((payloads _).1 block)
  exact ⟨accepted, prime1, prime2, by decide, by decide,
    undone prime1 prime2 (by decide) 122 (by decide)⟩

end JenkinsOperator.DeployKey
