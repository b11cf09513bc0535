import JenkinsOperator.DeployKey.Pem
import Mathlib.Data.List.Basic

/-!
# Markers found in one pass

What a search for a marker passes before it finds one (`Skipped`): attempts that fail one after
another, each some of the marker and a byte that does not go on with it. `until?` finds a marker
behind such bytes and nowhere else (`until?_eq_some_iff`). Bytes that have nothing of the marker in
them are skipped (`Skipped.of_not_mem`).
-/

namespace JenkinsOperator.Pem

/-- What a search walks over, up to the end of the first match; `pending` is what is still missing
of the marker. -/
inductive Walk (marker : List UInt8) : List UInt8 → List UInt8 → Prop where
  | done : Walk marker [] []
  | goOn {b : UInt8} {pending walked : List UInt8} : Walk marker pending walked →
      Walk marker (b :: pending) (b :: walked)
  | restart {expected b : UInt8} {pending walked : List UInt8} : b ≠ expected →
      Walk marker marker walked → Walk marker (expected :: pending) (b :: walked)

/-- Attempts at a marker that fail one after another. -/
inductive Skipped (marker : List UInt8) : List UInt8 → Prop where
  | nil : Skipped marker []
  | attempt {matched missing rest : List UInt8} {expected b : UInt8} :
      marker = matched ++ expected :: missing → b ≠ expected → Skipped marker rest →
      Skipped marker (matched ++ b :: rest)

/-- The first match of a marker, with what stands before and after it. -/
structure Found (marker input before rest : List UInt8) : Prop where
  whole : input = before ++ marker ++ rest
  skipped : Skipped marker before

variable {marker pending input before rest walked bytes : List UInt8} {n : Nat}

/-- A scan ends behind what it has walked over. -/
theorem scan_eq_some_iff : scan marker pending input = some (n, rest) ↔
    ∃ walked, input = walked ++ rest ∧ walked.length = n ∧ Walk marker pending walked := by
  -- The induction is on the input, whatever is still missing of the marker.
  induction input generalizing pending n with
  | nil =>
    cases pending with
    | nil =>
      rw [scan, Option.some_inj, Prod.mk.injEq]
      constructor
      · rintro ⟨rfl, rfl⟩
        exact ⟨[], rfl, rfl, .done⟩
      · rintro ⟨_, whole, rfl, walk⟩
        cases walk
        exact ⟨rfl, whole⟩
    | cons expected pending =>
      rw [scan]
      refine iff_of_false nofun ?_
      rintro ⟨_, whole, -, walk⟩
      cases walk with
      | goOn => cases whole
      | restart => cases whole
  | cons b input ih =>
    cases pending with
    | nil =>
      rw [scan, Option.some_inj, Prod.mk.injEq]
      constructor
      · rintro ⟨rfl, rfl⟩
        exact ⟨[], rfl, rfl, .done⟩
      · rintro ⟨_, whole, rfl, walk⟩
        cases walk
        exact ⟨rfl, whole⟩
    | cons expected pending =>
      rw [scan, Option.map_eq_some_iff]
      simp only [Prod.exists, Prod.mk.injEq]
      constructor
      · rintro ⟨n, _, found, rfl, rfl⟩
        obtain ⟨walked, rfl, rfl, walk⟩ := ih.1 found
        refine ⟨b :: walked, rfl, rfl, ?_⟩
        split at walk
        case isTrue same =>
          rw [same]
          exact .goOn walk
        case isFalse other => exact .restart other walk
      · rintro ⟨_, whole, rfl, walk⟩
        cases walk with
        | goOn walk =>
          obtain ⟨rfl, rfl⟩ := List.cons.inj whole
          refine ⟨_, _, ih.2 ⟨_, rfl, rfl, ?_⟩, rfl, rfl⟩
          rw [if_pos rfl]
          exact walk
        | restart other walk =>
          obtain ⟨rfl, rfl⟩ := List.cons.inj whole
          refine ⟨_, _, ih.2 ⟨_, rfl, rfl, ?_⟩, rfl, rfl⟩
          rw [if_neg other]
          exact walk

/-- A walk that starts with some of the marker matched ends with the whole marker. -/
theorem Walk.exists_skipped {matched : List UInt8} (walk : Walk marker pending walked)
    (whole : marker = matched ++ pending) :
    ∃ before, matched ++ walked = before ++ marker ∧ Skipped marker before := by
  induction walk generalizing matched with
  | done => exact ⟨[], whole.symm, .nil⟩
  | @goOn b pending walked _ ih =>
    -- One more byte of the marker is matched.
    have more : matched ++ b :: pending = matched ++ [b] ++ pending := by simp
    obtain ⟨before, same, skipped⟩ := ih (whole.trans more)
    refine ⟨before, ?_, skipped⟩
    rw [← same]
    simp
  | @restart expected b pending walked other _ ih =>
    -- What was matched and the wrong byte are a failed attempt.
    obtain ⟨before, same, skipped⟩ := ih (List.nil_append marker).symm
    refine ⟨matched ++ b :: before, ?_, .attempt whole other skipped⟩
    rw [List.nil_append] at same
    rw [same]
    simp

theorem Walk.refl (pending : List UInt8) : Walk marker pending pending := by
  induction pending with
  | nil => exact .done
  | cons b pending ih => exact .goOn ih

/-- What has been matched of a marker can be put back in front of a walk. -/
theorem Walk.append {matched : List UInt8} (walk : Walk marker pending walked) :
    Walk marker (matched ++ pending) (matched ++ walked) := by
  induction matched with
  | nil => exact walk
  | cons b matched ih => exact .goOn ih

/-- After skipped bytes, a search walks over the marker and is done. -/
theorem Skipped.walk (skipped : Skipped marker before) : Walk marker marker (before ++ marker) := by
  induction skipped with
  | nil => exact .refl marker
  | @attempt matched missing rest expected b whole other _ ih =>
    have again : Walk marker (expected :: missing) (b :: (rest ++ marker)) := .restart other ih
    have walk : Walk marker (matched ++ expected :: missing) (matched ++ b :: (rest ++ marker)) :=
      again.append
    rw [← whole] at walk
    simpa using walk

/-- The search gives what stands before the marker and after it, as it is found. -/
theorem until?_eq_some_iff :
    until? marker input = some (before, rest) ↔ Found marker input before rest := by
  rw [until?, Option.map_eq_some_iff]
  simp only [Prod.exists, Prod.mk.injEq, scan_eq_some_iff]
  constructor
  · rintro ⟨_, _, ⟨walked, rfl, rfl, walk⟩, passed, rfl⟩
    obtain ⟨before', same, skipped⟩ := walk.exists_skipped (List.nil_append marker).symm
    obtain rfl : walked = before' ++ marker := same
    rw [List.length_append, Nat.add_sub_cancel, List.append_assoc, List.take_left] at passed
    rw [← passed]
    exact ⟨rfl, skipped⟩
  · rintro ⟨rfl, skipped⟩
    refine ⟨_, _, ⟨before ++ marker, rfl, rfl, skipped.walk⟩, ?_, rfl⟩
    rw [List.length_append, Nat.add_sub_cancel, List.append_assoc, List.take_left]

/-- The search is in vain if and only if the marker is not found anywhere. -/
theorem until?_eq_none_iff :
    until? marker input = none ↔ ∀ before rest, ¬ Found marker input before rest := by
  simp only [← until?_eq_some_iff, Option.eq_none_iff_forall_ne_some, ne_eq, Prod.forall]

/-- Bytes without the first byte of a marker are skipped. -/
theorem Skipped.of_not_mem {first : UInt8} {more : List UInt8} (without : first ∉ bytes) :
    Skipped (first :: more) bytes := by
  induction bytes with
  | nil => exact .nil
  | cons b bytes ih =>
    have other : b ≠ first := fun same => without (same ▸ List.mem_cons_self)
    show Skipped (first :: more) ([] ++ b :: bytes)
    exact .attempt rfl other (ih fun member => without (List.mem_cons_of_mem b member))

/-- What is found is in the text. -/
theorem Found.infix (found : Found marker input before rest) : marker <:+: input :=
  ⟨before, rest, found.whole.symm⟩

end JenkinsOperator.Pem
