import Mathlib.Algebra.Group.Nat.Defs
import Mathlib.Data.List.Induction
import JenkinsOperator.Text.Digits

/-!
# Digits read back

A number written in digits denotes itself (`natOfDigits_padded`), and so it does with zeros behind
it, at the place that they move it to (`natOfDigits_append_zeros`). A number below a power of ten
takes exactly as many digits as it is padded to (`length_padded`).
-/

namespace JenkinsOperator.Text

theorem natOfDigits_eq (digits : List Char) : natOfDigits digits = Nat.ofDigitChars 10 digits 0 := by
  unfold natOfDigits Nat.ofDigitChars
  congr
  funext n c
  rw [Nat.mul_comm]

theorem natOfDigits_append (digits more : List Char) :
    natOfDigits (digits ++ more) = natOfDigits digits * 10 ^ more.length + natOfDigits more := by
  induction more using List.reverseRecOn with
  | nil => simp [natOfDigits]
  | append_singleton more c ih =>
    have last : ∀ ds : List Char,
        natOfDigits (ds ++ [c]) = natOfDigits ds * 10 + (c.toNat - '0'.toNat) := by
      intro ds
      simp [natOfDigits]
    rw [← List.append_assoc, last, last, ih, List.length_append, List.length_singleton,
      Nat.pow_succ, Nat.add_mul, Nat.mul_assoc, Nat.add_assoc]

theorem natOfDigits_zeros (count : Nat) : natOfDigits (List.replicate count '0') = 0 := by
  induction count with
  | zero => rfl
  | succ count ih =>
    rw [List.replicate_succ', natOfDigits_append, ih]
    simp [natOfDigits]

/-- A number is read back from its digits. -/
theorem natOfDigits_toDigits (n : Nat) : natOfDigits (Nat.toDigits 10 n) = n := by
  rw [natOfDigits_eq, Nat.ofDigitChars_toDigits (by decide) (by decide)]

/-- Zeros in front of a number do not change it. -/
theorem natOfDigits_padded (width n : Nat) : natOfDigits (padded width n) = n := by
  rw [padded, natOfDigits_append, natOfDigits_zeros, natOfDigits_toDigits]
  omega

/-- Zeros behind a number move it on by their count of places. -/
theorem natOfDigits_append_zeros (digits : List Char) (count : Nat) :
    natOfDigits (digits ++ List.replicate count '0') = natOfDigits digits * 10 ^ count := by
  rw [natOfDigits_append, natOfDigits_zeros, List.length_replicate, Nat.add_zero]

theorem isDigit_of_mem_padded {width n : Nat} {c : Char} (h : c ∈ padded width n) :
    c.isDigit = true := by
  rcases List.mem_append.1 h with zero | digit
  · rw [List.eq_of_mem_replicate zero]
    rfl
  · exact Nat.isDigit_of_mem_toDigits (by decide) (by decide) digit

theorem length_padded {width n : Nat} (pos : 0 < width) (fits : n < 10 ^ width) :
    (padded width n).length = width := by
  have short : (Nat.toDigits 10 n).length ≤ width :=
    (Nat.length_toDigits_le_iff (by decide) pos).2 fits
  rw [padded, List.length_append, List.length_replicate]
  omega

theorem padded_ne_nil (width n : Nat) : padded width n ≠ [] := by
  intro h
  exact Nat.toDigits_ne_nil (List.append_eq_nil_iff.1 h).2

end JenkinsOperator.Text
