import Mathlib.Data.String.Basic

/-!
# Texts by their bytes

Texts are compared character by character. A sorted listing of them is also in order of their bytes
in UTF-8: `Text.lt_iff_bytes_lt`. The code of a smaller character comes first
(`Text.code_append_lt`), whatever follows it: codes of different lengths differ in their first
byte, and codes of one length are numerals in base 64.
-/

namespace JenkinsOperator.Text

/-- The bytes of a text in UTF-8. -/
def bytes (s : String) : List UInt8 := s.toUTF8.data.toList

/-- The bytes of a text are those of its characters, one after the other. -/
theorem bytes_eq_flatMap (s : String) : bytes s = s.toList.flatMap String.utf8EncodeChar := by
  have coded : s.toByteArray = (s.toList.flatMap String.utf8EncodeChar).toByteArray :=
    String.utf8Encode_toList.symm
  exact (congrArg (fun array => array.data.toList) coded).trans List.toList_data_toByteArray

/-! ## Codes of characters -/

theorem ofNat_lt_ofNat {m n : Nat} (hm : m < 256) (hn : n < 256) :
    UInt8.ofNat m < UInt8.ofNat n ↔ m < n := by
  rw [UInt8.lt_iff_toNat_lt, UInt8.toNat_ofNat_of_lt' hm, UInt8.toNat_ofNat_of_lt' hn]

theorem ofNat_eq_ofNat {m n : Nat} (hm : m < 256) (hn : n < 256) :
    UInt8.ofNat m = UInt8.ofNat n ↔ m = n := by
  rw [← UInt8.toNat_inj, UInt8.toNat_ofNat_of_lt' hm, UInt8.toNat_ofNat_of_lt' hn]

/-- The byte of an ASCII character. -/
def asciiByte (c : Char) : UInt8 := UInt8.ofNat c.toNat

theorem utf8EncodeChar_of_ascii {c : Char} (ascii : c.toNat < 128) :
    String.utf8EncodeChar c = [asciiByte c] := by
  have small : c.val.toNat ≤ 0x7F := Nat.le_of_lt_succ ascii
  rw [String.utf8EncodeChar, if_pos small]
  rfl

/-- A text of ASCII characters has one byte for each. -/
theorem bytes_ofList_of_ascii {cs : List Char} (ascii : ∀ c ∈ cs, c.toNat < 128) :
    bytes (String.ofList cs) = cs.map asciiByte := by
  rw [bytes_eq_flatMap, String.toList_ofList, List.map_eq_flatMap]
  exact List.flatMap_congr fun c member => utf8EncodeChar_of_ascii (ascii c member)

theorem asciiByte_inj {c d : Char} (hc : c.toNat < 128) (hd : d.toNat < 128) :
    asciiByte c = asciiByte d ↔ c = d := by
  rw [asciiByte, asciiByte, ofNat_eq_ofNat (by omega) (by omega)]
  exact Char.toNat_inj

/-- Numbers are compared by what stands before their last digit in base 64, and then by that
digit. -/
theorem lt_iff_digits_lt (m n : Nat) :
    m < n ↔ m / 64 < n / 64 ∨ m / 64 = n / 64 ∧ m % 64 < n % 64 := by
  omega

/-- The code of a smaller character comes first, whatever follows. -/
theorem code_append_lt {c d : Char} (lt : c < d) (after after' : List UInt8) :
    String.utf8EncodeChar c ++ after < String.utf8EncodeChar d ++ after' := by
  have lt : c.val.toNat < d.val.toNat := lt
  have bound : d.val.toNat < 0x110000 := d.valid.elim (fun h => by omega) fun h => h.2
  unfold String.utf8EncodeChar
  dsimp only
  generalize c.val.toNat = m at lt
  generalize d.val.toNat = n at lt bound
  -- One case for each two lengths. Bytes are compared as numbers, one after another.
  split <;> [skip; split <;> [skip; split]] <;> (split <;> [skip; split <;> [skip; split]])
  all_goals
    simp (disch := omega) only [List.cons_append, List.nil_append, List.cons_lt_cons_iff,
      ofNat_lt_ofNat, ofNat_eq_ofNat]
  all_goals try omega
  -- Left are two codes of four bytes, hence of three digits behind a leading one.
  have leading : m / 262144 % 8 = m / 262144 ∧ n / 262144 % 8 = n / 262144 := by omega
  have last := lt_iff_digits_lt m n
  have middle := lt_iff_digits_lt (m / 64) (n / 64)
  have first := lt_iff_digits_lt (m / 64 / 64) (n / 64 / 64)
  simp only [Nat.div_div_eq_div_mul, Nat.reduceMul] at first middle last
  omega

theorem flatMap_code_lt {l l' : List Char} (lt : l < l') :
    l.flatMap String.utf8EncodeChar < l'.flatMap String.utf8EncodeChar := by
  induction l generalizing l' with
  | nil =>
    cases l' with
    | nil => exact (List.not_lt_nil _ lt).elim
    | cons d l' =>
      obtain ⟨b, code, coded⟩ :=
        List.exists_cons_of_ne_nil (String.utf8EncodeChar_ne_nil : String.utf8EncodeChar d ≠ [])
      rw [List.flatMap_cons, List.flatMap_nil, coded]
      exact List.nil_lt_cons _ _
  | cons c l ih =>
    cases l' with
    | nil => exact (List.not_lt_nil _ lt).elim
    | cons d l' =>
      rw [List.flatMap_cons, List.flatMap_cons]
      rcases List.cons_lt_cons_iff.1 lt with first | ⟨rfl, later⟩
      · exact code_append_lt first _ _
      · exact List.append_left_lt (ih later)

/-- Texts are compared by their bytes as by their characters. -/
theorem compare_eq_lt_iff (s t : String) : compare s t = .lt ↔ s < t := compareOfLessAndEq_eq_lt

/-- Texts are in order if and only if their bytes are. -/
theorem lt_iff_bytes_lt (s t : String) : s < t ↔ bytes s < bytes t := by
  rw [bytes_eq_flatMap, bytes_eq_flatMap]
  constructor
  · exact flatMap_code_lt
  · intro lt
    rcases lt_trichotomy s.toList t.toList with before | same | after
    · exact before
    · rw [same] at lt
      exact (List.lt_irrefl _ lt).elim
    · exact (List.lt_asymm lt (flatMap_code_lt after)).elim

end JenkinsOperator.Text
