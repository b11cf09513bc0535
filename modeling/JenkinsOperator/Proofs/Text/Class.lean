/-!
# Classes of characters, and words over them

The classes of ASCII are ranges of characters. A word is a text that is not empty and has only
letters, digits and some marks in it.
-/

namespace JenkinsOperator.Text

variable {c : Char}

theorem isUpper_iff : c.isUpper = true ↔ 'A' ≤ c ∧ c ≤ 'Z' := by
  show decide ('A' ≤ c ∧ c ≤ 'Z') = true ↔ _
  exact decide_eq_true_iff

theorem isLower_iff : c.isLower = true ↔ 'a' ≤ c ∧ c ≤ 'z' := by
  show (decide ('a' ≤ c) && decide (c ≤ 'z')) = true ↔ _
  rw [Bool.and_eq_true, decide_eq_true_iff, decide_eq_true_iff]

theorem isDigit_iff : c.isDigit = true ↔ '0' ≤ c ∧ c ≤ '9' := by
  show (decide ('0' ≤ c) && decide (c ≤ '9')) = true ↔ _
  rw [Bool.and_eq_true, decide_eq_true_iff, decide_eq_true_iff]

theorem isAlpha_iff : c.isAlpha = true ↔ c.isUpper = true ∨ c.isLower = true := by
  show (c.isUpper || c.isLower) = true ↔ _
  rw [Bool.or_eq_true]

theorem isAlphanum_iff :
    c.isAlphanum = true ↔ (c.isUpper = true ∨ c.isLower = true) ∨ c.isDigit = true := by
  show ((c.isUpper || c.isLower) || c.isDigit) = true ↔ _
  rw [Bool.or_eq_true, Bool.or_eq_true]

/-! ## Words -/

/-- A letter or a digit of ASCII, or one of some marks. -/
def IsWordChar (marks : List Char) (c : Char) : Prop :=
  ('A' ≤ c ∧ c ≤ 'Z') ∨ ('a' ≤ c ∧ c ≤ 'z') ∨ ('0' ≤ c ∧ c ≤ '9') ∨ c ∈ marks

/-- A text of letters, digits and some marks that is not empty. -/
def IsWord (marks : List Char) (s : String) : Prop := s ≠ "" ∧ ∀ c ∈ s.toList, IsWordChar marks c

theorem isWordChar_iff {marks : List Char} :
    IsWordChar marks c ↔ c.isAlphanum = true ∨ c ∈ marks := by
  rw [isAlphanum_iff, isUpper_iff, isLower_iff, isDigit_iff, or_assoc, or_assoc]
  rfl

instance (marks : List Char) (c : Char) : Decidable (IsWordChar marks c) :=
  decidable_of_iff _ isWordChar_iff.symm

/-- A word is recognised by its length and its characters. -/
theorem isWord_iff {marks : List Char} {isChar : Char → Bool} {s : String}
    (char : ∀ c, isChar c = true ↔ c.isAlphanum = true ∨ c ∈ marks) :
    (!s.isEmpty && s.toList.all isChar) = true ↔ IsWord marks s := by
  rw [Bool.and_eq_true, Bool.not_eq_true', ← Bool.not_eq_true, String.isEmpty_iff,
    List.all_eq_true]
  refine and_congr_right fun _ => forall₂_congr fun c _ => ?_
  rw [char, isWordChar_iff]

instance (marks : List Char) (s : String) : Decidable (IsWord marks s) :=
  decidable_of_iff _ (isWord_iff fun _ => decide_eq_true_iff.trans isWordChar_iff)

/-- What is neither letter nor digit is in a word only if it is one of the marks. -/
theorem IsWord.not_mem {marks : List Char} {s : String} (word : IsWord marks s)
    (other : ¬IsWordChar marks c) : c ∉ s.toList := fun member => other (word.2 c member)

end JenkinsOperator.Text
