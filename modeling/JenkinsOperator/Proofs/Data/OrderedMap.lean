import Mathlib.Data.List.Induction
import Mathlib.Data.List.Sort
import JenkinsOperator.Data.OrderedMap

/-!
# Maps by their listings and by their look-ups

A map is the map of its own entries (`OrderedMap.ofList_entries`): a key beyond all others is put at
the end, so entries that come in order stay as they come. And a map is its look-ups
(`OrderedMap.ext_find?`): an entry is listed if and only if it is found, and a listing in order is
known from its members. `OrderedMap.find?_insert` says what insertion does to a look-up.
-/

namespace JenkinsOperator.OrderedMap

variable {κ ν μ : Type} [Ord κ] [Std.TransOrd κ]

/-- A key beyond all others is put at the end. -/
theorem insertIn_eq_append {k : κ} {v : ν} {l : List (κ × ν)}
    (beyond : ∀ e ∈ l, compare e.1 k = .lt) : insertIn k v l = l ++ [(k, v)] := by
  induction l with
  | nil => rfl
  | cons head rest ih =>
    have after : compare k head.1 = .gt :=
      Std.OrientedCmp.gt_of_lt (beyond head List.mem_cons_self)
    have later := ih fun e member => beyond e (List.mem_cons_of_mem head member)
    unfold insertIn
    simp only [after, later, List.cons_append]

theorem entries_ofList_append (entries : List (κ × ν)) (k : κ) (v : ν) :
    (ofList (entries ++ [(k, v)])).entries = insertIn k v (ofList entries).entries := by
  rw [ofList, List.foldl_append]
  rfl

/-- Entries in order of their keys are the listing of their map. -/
theorem entries_ofList {entries : List (κ × ν)}
    (ordered : entries.Pairwise fun a b => compare a.1 b.1 = .lt) :
    (ofList entries).entries = entries := by
  induction entries using List.reverseRecOn with
  | nil => rfl
  | append_singleton entries e ih =>
    obtain ⟨before, -, beyond⟩ := List.pairwise_append.1 ordered
    rw [entries_ofList_append, ih before]
    exact insertIn_eq_append fun other member => beyond other member e (List.mem_singleton.2 rfl)

/-- A map is the map of its entries. -/
theorem ofList_entries (m : OrderedMap κ ν) : ofList m.entries = m := ext (entries_ofList m.ordered)

/-! ## Orders of keys -/

theorem compare_self_ne_lt (k : κ) : compare k k ≠ .lt := by
  have self : compare k k = .eq := Std.ReflCmp.compare_self
  rw [self]
  nofun

instance : Std.Irrefl fun a b : κ => compare a b = .lt := ⟨compare_self_ne_lt⟩

instance : Std.Antisymm fun a b : κ => compare a b = .lt :=
  ⟨fun _ _ lt gt => (Std.OrientedCmp.not_lt_of_lt lt gt).elim⟩

omit [Std.TransOrd κ] in
theorem keys_ordered (m : OrderedMap κ ν) : m.keys.Pairwise fun a b => compare a b = .lt :=
  List.pairwise_map.2 m.ordered

/-- Keys are listed in one way. -/
theorem keys_eq_of_mem_iff {m : OrderedMap κ ν} {n : OrderedMap κ μ}
    (same : ∀ k, k ∈ m.keys ↔ k ∈ n.keys) : m.keys = n.keys :=
  m.keys_ordered.eq_of_mem_iff n.keys_ordered same

/-! ## Look-ups -/

/-- After an insertion its key leads to the new value, and every other key to what it led to
before. -/
theorem findIn_insertIn (k k' : κ) (v : ν) (l : List (κ × ν)) :
    findIn k' (insertIn k v l) = if compare k' k = .eq then some v else findIn k' l := by
  induction l with
  | nil => rfl
  | cons head rest ih =>
    obtain ⟨key, value⟩ := head
    unfold insertIn
    split
    case h_1 lt => rfl
    case h_2 eq =>
      -- The old entry is gone, and only a key that compares equal could have found it.
      have same : compare k' key = compare k' k := (Std.TransCmp.congr_right eq).symm
      simp only [findIn, same]
      split <;> rfl
    case h_3 gt =>
      simp only [findIn, ih]
      split
      case isTrue found =>
        rw [if_neg]
        intro eq
        rw [← Std.TransCmp.congr_left eq, found] at gt
        cases gt
      case isFalse => rfl

/-- What is found after an insertion. -/
theorem find?_insert (m : OrderedMap κ ν) (k k' : κ) (v : ν) :
    (m.insert k v).find? k' = if compare k' k = .eq then some v else m.find? k' :=
  findIn_insertIn k k' v m.entries

@[simp] theorem find?_insert_self (m : OrderedMap κ ν) (k : κ) (v : ν) :
    (m.insert k v).find? k = some v := by
  rw [find?_insert, if_pos Std.ReflCmp.compare_self]

section LawfulEq

variable [Std.LawfulEqOrd κ] {m n : OrderedMap κ ν} {k k' : κ} {v : ν}

theorem find?_insert_of_ne (m : OrderedMap κ ν) (v : ν) (ne : k' ≠ k) :
    (m.insert k v).find? k' = m.find? k' := by
  rw [find?_insert, if_neg fun eq => ne (Std.LawfulEqOrd.compare_eq_iff_eq.1 eq)]

omit [Std.TransOrd κ] in
theorem mem_of_findIn {l : List (κ × ν)} (found : findIn k l = some v) : (k, v) ∈ l := by
  induction l with
  | nil => cases found
  | cons head rest ih =>
    unfold findIn at found
    split at found
    case isTrue eq =>
      cases found
      rw [Std.LawfulEqOrd.compare_eq_iff_eq.1 eq]
      exact List.mem_cons_self
    case isFalse => exact List.mem_cons_of_mem head (ih found)

theorem findIn_of_mem {l : List (κ × ν)} (ordered : l.Pairwise fun a b => compare a.1 b.1 = .lt)
    (member : (k, v) ∈ l) : findIn k l = some v := by
  induction l with
  | nil => cases member
  | cons head rest ih =>
    obtain ⟨first, later⟩ := List.pairwise_cons.1 ordered
    unfold findIn
    rcases List.mem_cons.1 member with rfl | member
    · exact if_pos Std.ReflCmp.compare_self
    · -- A later key is greater, so the look-up goes past the head.
      rw [if_neg, ih later member]
      rw [Std.OrientedCmp.gt_of_lt (first _ member)]
      nofun

/-- An entry is listed if and only if it is found. -/
theorem mem_entries_iff : (k, v) ∈ m.entries ↔ m.find? k = some v :=
  ⟨findIn_of_mem m.ordered, mem_of_findIn⟩

/-- The keys of a map are those that lead to a value. -/
theorem mem_keys_iff : k ∈ m.keys ↔ ∃ v, m.find? k = some v := by
  rw [keys, List.mem_map]
  constructor
  · rintro ⟨⟨key, value⟩, member, rfl⟩
    exact ⟨value, mem_entries_iff.1 member⟩
  · rintro ⟨value, found⟩
    exact ⟨(k, value), mem_entries_iff.2 found, rfl⟩

/-- A listing goes through the keys, each with what is found of it. -/
theorem entries_eq_map_keys (m : OrderedMap κ ν) (fallback : ν) :
    m.entries = m.keys.map fun k => (k, (m.find? k).getD fallback) := by
  rw [keys, List.map_map]
  refine (List.map_id m.entries).symm.trans (List.map_congr_left ?_)
  rintro ⟨k, v⟩ member
  exact Prod.ext rfl (congrArg (Option.getD · fallback) (mem_entries_iff.1 member).symm)

/-- A map is known from its look-ups. -/
theorem ext_find? (same : ∀ k, m.find? k = n.find? k) : m = n := by
  have irrefl : Std.Irrefl fun a b : κ × ν => compare a.1 b.1 = .lt :=
    ⟨fun e => compare_self_ne_lt e.1⟩
  have antisymm : Std.Antisymm fun a b : κ × ν => compare a.1 b.1 = .lt :=
    ⟨fun _ _ lt gt => (Std.OrientedCmp.not_lt_of_lt lt gt).elim⟩
  refine ext (m.ordered.eq_of_mem_iff n.ordered ?_)
  rintro ⟨k, v⟩
  rw [mem_entries_iff, mem_entries_iff, same]

/-- Putting what is there already changes nothing. -/
theorem insert_eq_self (found : m.find? k = some v) : m.insert k v = m := by
  apply ext_find?
  intro k'
  rw [find?_insert]
  split
  case isTrue eq => rw [Std.LawfulEqOrd.compare_eq_iff_eq.1 eq, found]
  case isFalse => rfl

theorem mem_keys_insert : k' ∈ (m.insert k v).keys ↔ k' = k ∨ k' ∈ m.keys := by
  rw [mem_keys_iff, mem_keys_iff, find?_insert]
  split
  case isTrue eq =>
    exact ⟨fun _ => .inl (Std.LawfulEqOrd.compare_eq_iff_eq.1 eq), fun _ => ⟨v, rfl⟩⟩
  case isFalse differ =>
    refine ⟨.inr, fun either => either.resolve_left ?_⟩
    rintro rfl
    exact differ Std.ReflCmp.compare_self

theorem mem_keys_ofList {l : List (κ × ν)} : k ∈ (ofList l).keys ↔ k ∈ l.map Prod.fst := by
  induction l using List.reverseRecOn with
  | nil => rfl
  | append_singleton l e ih =>
    rw [ofList, List.foldl_append, List.map_append, List.mem_append, ← ih]
    exact mem_keys_insert.trans (or_comm.trans (or_congr_right List.mem_singleton.symm))

end LawfulEq

omit [Std.TransOrd κ] in
theorem findIn_map (f : ν → μ) (k : κ) (l : List (κ × ν)) :
    findIn k (l.map fun e => (e.1, f e.2)) = (findIn k l).map f := by
  induction l with
  | nil => rfl
  | cons head rest ih =>
    simp only [List.map_cons, findIn]
    split
    case isTrue => rfl
    case isFalse => exact ih

omit [Std.TransOrd κ] in
theorem find?_mapValues (f : ν → μ) (m : OrderedMap κ ν) (k : κ) :
    (m.mapValues f).find? k = (m.find? k).map f := findIn_map f k m.entries

end JenkinsOperator.OrderedMap
