import JenkinsOperator.Proofs.Text.Cut
import Mathlib.Computability.Language

/-!
# Words joined by separators

A text is `Joined` from words by separators if it is a word, or a word, a separator and a text that
is joined from words. As a language this is the word followed by any repetition of separator and
word (`Text.mem_mul_kstar_iff`). If the separator is a single character that is in no word, the
words are the parts of the text (`Text.joined_iff_splitOn`).
-/

namespace JenkinsOperator.Text

open scoped Computability

/-- Words joined by separators. -/
inductive Joined (word sep : List Char → Prop) : List Char → Prop where
  | last {w : List Char} : word w → Joined word sep w
  | more {w s rest : List Char} : word w → sep s → Joined word sep rest →
      Joined word sep (w ++ s ++ rest)

variable {word word' sep sep' : List Char → Prop} {cs : List Char}

theorem Joined.imp (joined : Joined word sep cs) (words : ∀ w, word w → word' w)
    (seps : ∀ s, sep s → sep' s) : Joined word' sep' cs := by
  induction joined with
  | last here => exact .last (words _ here)
  | more here between _ ih => exact .more (words _ here) (seps _ between) ih

/-- A property of characters that words and separators have is one of the whole text. -/
theorem Joined.forall_mem {p : Char → Prop} (joined : Joined word sep cs)
    (words : ∀ w, word w → ∀ c ∈ w, p c) (seps : ∀ s, sep s → ∀ c ∈ s, p c) : ∀ c ∈ cs, p c := by
  induction joined with
  | last here => exact words _ here
  | @more w s rest here between _ ih =>
    intro c member
    rcases List.mem_append.1 member with front | back
    · rcases List.mem_append.1 front with inWord | inSep
      · exact words w here c inWord
      · exact seps s between c inSep
    · exact ih c back

/-- A word followed by any repetition of separator and word is words joined by separators. -/
theorem mem_mul_kstar_iff {w s : Language Char} :
    cs ∈ w * (s * w)∗ ↔ Joined (· ∈ w) (· ∈ s) cs := by
  constructor
  · intro member
    obtain ⟨first, inWord, repeated, inStar, rfl⟩ := Language.mem_mul.1 member
    obtain ⟨blocks, rfl, inBlocks⟩ := Language.mem_kstar.1 inStar
    clear member inStar
    induction blocks generalizing first with
    | nil => simpa using Joined.last inWord
    | cons block blocks ih =>
      obtain ⟨between, inSep, next, inWord', rfl⟩ :=
        Language.mem_mul.1 (inBlocks block List.mem_cons_self)
      have rest := ih next inWord' fun b member => inBlocks b (List.mem_cons_of_mem _ member)
      simpa using Joined.more inWord inSep rest
  · intro joined
    induction joined with
    | @last first inWord =>
      exact Language.mem_mul.2 ⟨first, inWord, [], Language.nil_mem_kstar _, List.append_nil first⟩
    | @more first between rest inWord inSep _ ih =>
      obtain ⟨next, inWord', repeated, inStar, rfl⟩ := Language.mem_mul.1 ih
      obtain ⟨blocks, rfl, inBlocks⟩ := Language.mem_kstar.1 inStar
      refine Language.mem_mul.2 ⟨first, inWord, between ++ next ++ blocks.flatten, ?_, ?_⟩
      · refine Language.mem_kstar.2 ⟨(between ++ next) :: blocks, rfl, ?_⟩
        intro block member
        rcases List.mem_cons.1 member with rfl | member
        · exact Language.mem_mul.2 ⟨between, inSep, next, inWord', rfl⟩
        · exact inBlocks block member
      · simp

/-- Words joined by one character are the parts between its occurrences. -/
theorem joined_iff_splitOn {c : Char} (free : ∀ w, word w → c ∉ w) :
    Joined word (· = [c]) cs ↔ ∀ part ∈ splitOn c cs, word part := by
  constructor
  · intro joined
    induction joined with
    | @last w here =>
      rw [splitOn_eq_singleton.2 ⟨rfl, free w here⟩]
      simpa using here
    | @more w s rest here between _ ih =>
      rw [between, List.append_assoc, List.singleton_append, splitOn_append (free w here)]
      simpa using ⟨here, ih⟩
  · intro words
    rw [← @intercalate_splitOn c cs]
    have some := @splitOn_ne_nil c cs
    generalize splitOn c cs = parts at words some
    induction parts with
    | nil => exact absurd rfl some
    | cons first others ih =>
      have here := words first List.mem_cons_self
      cases others with
      | nil => simpa using Joined.last here
      | cons second others =>
        have rest := ih (fun part member => words part (List.mem_cons_of_mem _ member)) (by simp)
        have joined : Joined word (· = [c]) (first ++ [c] ++ [c].intercalate (second :: others)) :=
          .more here rfl rest
        simpa using joined

/-- Words joined by one character, put together from their list. -/
theorem joined_iff_intercalate {c : Char} (free : ∀ w, word w → c ∉ w) :
    Joined word (· = [c]) cs ↔
      ∃ parts, parts ≠ [] ∧ (∀ part ∈ parts, word part) ∧ [c].intercalate parts = cs := by
  rw [joined_iff_splitOn free]
  constructor
  · intro words
    exact ⟨splitOn c cs, splitOn_ne_nil cs, words, intercalate_splitOn cs⟩
  · rintro ⟨parts, some, words, rfl⟩
    rw [splitOn_intercalate some fun part member => free part (words part member)]
    exact words

end JenkinsOperator.Text
