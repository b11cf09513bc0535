import JenkinsOperator.Text.Cut
import Mathlib.Data.List.Basic

/-!
# Parts of a text

The parts between separators are those of the library (`Text.splitOn_eq`). A text without the
separator is its only part, and is not cut. What is searched for is found if and only if it is an
infix (`Text.contains_iff_infix`).
-/

namespace JenkinsOperator.Text

variable {sep : Char}

/-- The parts of a text are those of the library. -/
theorem splitOn_eq (cs : List Char) : splitOn sep cs = cs.splitOn sep := by
  induction cs with
  | nil => rw [splitOn, List.splitOn_nil]
  | cons c rest ih =>
    rw [splitOn, List.splitOn_cons_eq_if_modifyHead, ih]
    by_cases separates : c = sep
    · rw [if_pos separates, if_pos (beq_iff_eq.2 separates)]
    · rw [if_neg separates, if_neg (mt beq_iff_eq.1 separates)]
      cases parts : rest.splitOn sep with
      | nil => exact absurd parts (List.splitOn_ne_nil sep rest)
      | cons first others => rfl

theorem splitOn_append {part : List Char} (without : sep ∉ part) (rest : List Char) :
    splitOn sep (part ++ sep :: rest) = part :: splitOn sep rest := by
  rw [splitOn_eq, splitOn_eq, List.splitOn_append_cons_self_of_not_mem without]

/-- A text is its only part if the separator is not in it. -/
theorem splitOn_eq_singleton {cs part : List Char} :
    splitOn sep cs = [part] ↔ cs = part ∧ sep ∉ cs := by
  constructor
  · intro single
    by_cases separated : sep ∈ cs
    · obtain ⟨before, after, rfl, without⟩ := List.eq_append_cons_of_mem separated
      rw [splitOn_append without, List.cons.injEq, splitOn_eq] at single
      exact absurd single.2 (List.splitOn_ne_nil sep after)
    · rw [splitOn_eq, List.splitOn_eq_singleton separated, List.singleton_inj] at single
      exact ⟨single, separated⟩
  · rintro ⟨rfl, without⟩
    rw [splitOn_eq, List.splitOn_eq_singleton without]

/-- A text is cut if and only if the separator is in it. -/
theorem cut?_eq_none_iff {cs : List Char} : cut? sep cs = none ↔ sep ∉ cs := by
  induction cs with
  | nil => exact ⟨fun _ => List.not_mem_nil, fun _ => rfl⟩
  | cons c rest ih =>
    rw [cut?]
    by_cases here : c = sep
    · rw [if_pos here]
      exact ⟨nofun, fun without => absurd (here ▸ List.mem_cons_self) without⟩
    · rw [if_neg here, Option.map_eq_none_iff, ih, List.mem_cons]
      exact not_congr (or_iff_right (Ne.symm here)).symm

/-- A text is cut at the first separator. -/
theorem cut?_eq_some_iff {cs before after : List Char} :
    cut? sep cs = some (before, after) ↔ cs = before ++ sep :: after ∧ sep ∉ before := by
  induction cs generalizing before with
  | nil => simp [cut?]
  | cons c rest ih =>
    rw [cut?]
    by_cases here : c = sep
    · -- The cut is here, so nothing stands before it.
      subst here
      cases before with
      | nil => simp
      | cons b before =>
        simp only [if_pos, Option.some.injEq, Prod.mk.injEq, List.cons_append, List.cons.injEq,
          reduceCtorEq, false_and, false_iff, List.mem_cons, not_or]
        rintro ⟨⟨rfl, -⟩, without, -⟩
        exact without rfl
    · rw [if_neg here, Option.map_eq_some_iff]
      constructor
      · rintro ⟨⟨before', after'⟩, cut, same⟩
        cases same
        obtain ⟨rfl, without⟩ := ih.1 cut
        refine ⟨rfl, ?_⟩
        simp [without, Ne.symm here]
      · rintro ⟨whole, without⟩
        cases before with
        | nil => exact absurd (List.cons.inj whole).1 here
        | cons b before =>
          obtain ⟨rfl, rfl⟩ := List.cons.inj whole
          exact ⟨(before, after),
            ih.2 ⟨rfl, fun member => without (List.mem_cons_of_mem c member)⟩, rfl⟩

/-- The parts of a text put together with the separator between them are the text. -/
theorem intercalate_splitOn (cs : List Char) : [sep].intercalate (splitOn sep cs) = cs := by
  rw [splitOn_eq, List.intercalate_splitOn]

theorem splitOn_ne_nil (cs : List Char) : splitOn sep cs ≠ [] := by
  rw [splitOn_eq]
  exact List.splitOn_ne_nil sep cs

/-- Parts without the separator are the parts of what they make when they are put together. -/
theorem splitOn_intercalate {parts : List (List Char)} (some : parts ≠ [])
    (without : ∀ part ∈ parts, sep ∉ part) : splitOn sep ([sep].intercalate parts) = parts := by
  rw [splitOn_eq, List.splitOn_intercalate sep without some]

theorem intercalate_cons {first : List Char} {rest : List (List Char)}
    (nonempty : rest ≠ []) :
    [sep].intercalate (first :: rest) = first ++ sep :: [sep].intercalate rest := by
  obtain ⟨second, others, rfl⟩ := List.exists_cons_of_ne_nil nonempty
  rw [List.intercalate_cons_cons, List.append_assoc, List.singleton_append]

/-- Parts put together are all but the last with the separator behind them, and then the last. -/
theorem intercalate_concat (init : List (List Char)) (last : List Char) :
    [sep].intercalate (init ++ [last]) = init.flatMap (· ++ [sep]) ++ last := by
  induction init with
  | nil => simp
  | cons first init ih =>
    cases rest : init ++ [last] with
    | nil => simp at rest
    | cons second others =>
      rw [List.cons_append, rest, List.intercalate_cons_cons, ← rest, ih]
      simp

/-- Each character of parts put together is the separator or in one of the parts. -/
theorem exists_of_mem_intercalate {parts : List (List Char)} {c : Char}
    (member : c ∈ [sep].intercalate parts) : c = sep ∨ ∃ part ∈ parts, c ∈ part := by
  rcases List.eq_nil_or_concat parts with rfl | ⟨init, last, rfl⟩
  · simp at member
  · rw [List.concat_eq_append, intercalate_concat, List.mem_append, List.mem_flatMap] at member
    rcases member with ⟨part, inInit, inPart⟩ | inLast
    · rcases List.mem_append.1 inPart with inside | mark
      · exact .inr ⟨part, by simp [inInit], inside⟩
      · exact .inl (List.mem_singleton.1 mark)
    · exact .inr ⟨last, by simp, inLast⟩

/-- No part of a text has the separator in it. -/
theorem not_mem_of_mem_splitOn {cs part : List Char} (member : part ∈ splitOn sep cs) :
    sep ∉ part := by
  induction cs generalizing part with
  | nil =>
    rw [splitOn, List.mem_singleton] at member
    simp [member]
  | cons c rest ih =>
    rw [splitOn] at member
    split at member
    case isTrue here =>
      rcases List.mem_cons.1 member with rfl | member
      · exact List.not_mem_nil
      · exact ih member
    case isFalse other =>
      cases parts : splitOn sep rest with
      | nil => exact absurd parts (splitOn_ne_nil rest)
      | cons first others =>
        rw [parts] at member ih
        rcases List.mem_cons.1 member with rfl | member
        · simp [Ne.symm other, ih List.mem_cons_self]
        · exact ih (List.mem_cons_of_mem first member)

/-- A text has another text within it if and only if that is an infix. -/
theorem contains_iff_infix {part cs : List Char} : contains part cs = true ↔ part <:+: cs := by
  induction cs with
  | nil => simp [contains]
  | cons c rest ih => simp [contains, ih, List.infix_cons_iff]

end JenkinsOperator.Text
