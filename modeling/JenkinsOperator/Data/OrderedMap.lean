/-!
# Finite maps in key order

A map is the list of its entries with strictly increasing keys. Two maps with the same look-ups
have the same listing, so equality of documents and of graphs is equality of values, and the order
in which entries were given never shows.

Insertion walks the list once and replaces the value of a key that is already there.
-/

namespace JenkinsOperator

/-- A finite map, listed by strictly increasing key. -/
structure OrderedMap (κ : Type) [Ord κ] (ν : Type) where
  /-- The entries in ascending order of their keys. -/
  entries : List (κ × ν)
  /-- Each key stands before every later one. -/
  ordered : entries.Pairwise fun a b => compare a.1 b.1 = .lt

namespace OrderedMap

variable {κ ν μ : Type} [Ord κ]

theorem ext {m n : OrderedMap κ ν} (h : m.entries = n.entries) : m = n := by
  cases m; cases n; cases h; rfl

instance [DecidableEq κ] [DecidableEq ν] : DecidableEq (OrderedMap κ ν) := fun m n =>
  if h : m.entries = n.entries then isTrue (ext h)
  else isFalse fun e => h (congrArg entries e)

/-- The map without entries. -/
def empty : OrderedMap κ ν := ⟨[], .nil⟩

instance : Inhabited (OrderedMap κ ν) := ⟨empty⟩

/-- Whether the map has no entry. -/
def isEmpty (m : OrderedMap κ ν) : Bool := m.entries.isEmpty

/-- The keys in ascending order. -/
def keys (m : OrderedMap κ ν) : List κ := m.entries.map Prod.fst

/-- The value of the first entry whose key compares equal. -/
def findIn (k : κ) : List (κ × ν) → Option ν
  | [] => none
  | (k', v) :: rest => if compare k k' = .eq then some v else findIn k rest

/-- The value of a key, if it has one. -/
def find? (m : OrderedMap κ ν) (k : κ) : Option ν := findIn k m.entries

/-- Puts an entry at its place in a listing, in place of an entry with the same key. -/
def insertIn (k : κ) (v : ν) : List (κ × ν) → List (κ × ν)
  | [] => [(k, v)]
  | (k', v') :: rest =>
    match compare k k' with
    | .lt => (k, v) :: (k', v') :: rest
    | .eq => (k, v) :: rest
    | .gt => (k', v') :: insertIn k v rest

/-- An insertion adds its entry and no other. -/
theorem mem_insertIn {k : κ} {v : ν} {e : κ × ν} {l : List (κ × ν)}
    (h : e ∈ insertIn k v l) : e = (k, v) ∨ e ∈ l := by
  induction l with
  | nil => simpa [insertIn] using h
  | cons head rest ih =>
    obtain ⟨k', v'⟩ := head
    unfold insertIn at h
    split at h
    · simpa using h
    · simp only [List.mem_cons] at h ⊢
      exact h.imp id Or.inr
    · simp only [List.mem_cons] at h ⊢
      rcases h with h | h
      · exact Or.inr (Or.inl h)
      · exact (ih h).imp id Or.inr

/-- An insertion keeps the keys in ascending order. -/
theorem insertIn_ordered [Std.TransOrd κ] (k : κ) (v : ν) {l : List (κ × ν)}
    (h : l.Pairwise fun a b => compare a.1 b.1 = .lt) :
    (insertIn k v l).Pairwise fun a b => compare a.1 b.1 = .lt := by
  induction l with
  | nil => exact List.pairwise_singleton _ _
  | cons head rest ih =>
    obtain ⟨k', v'⟩ := head
    rw [List.pairwise_cons] at h
    unfold insertIn
    split
    · rename_i hlt
      rw [List.pairwise_cons, List.pairwise_cons]
      refine ⟨fun e he => ?_, h⟩
      rcases List.mem_cons.1 he with rfl | he
      · exact hlt
      · exact Std.TransCmp.lt_trans hlt (h.1 e he)
    · rename_i heq
      rw [List.pairwise_cons]
      exact ⟨fun e he => Std.TransCmp.lt_of_eq_of_lt heq (h.1 e he), h.2⟩
    · rename_i hgt
      rw [List.pairwise_cons]
      refine ⟨fun e he => ?_, ih h.2⟩
      rcases mem_insertIn he with rfl | he
      · exact Std.OrientedCmp.lt_of_gt hgt
      · exact h.1 e he

/-- The map with one entry put or replaced. -/
def insert [Std.TransOrd κ] (m : OrderedMap κ ν) (k : κ) (v : ν) : OrderedMap κ ν :=
  ⟨insertIn k v m.entries, insertIn_ordered k v m.ordered⟩

/-- The map without one key. -/
def erase (m : OrderedMap κ ν) (k : κ) : OrderedMap κ ν :=
  ⟨m.entries.filter fun e => compare k e.1 != .eq, m.ordered.filter _⟩

/-- The map of a list of entries; of two entries with one key the later counts. -/
def ofList [Std.TransOrd κ] (entries : List (κ × ν)) : OrderedMap κ ν :=
  entries.foldl (fun m e => m.insert e.1 e.2) empty

/-- The map with every value replaced by its image. -/
def mapValues (f : ν → μ) (m : OrderedMap κ ν) : OrderedMap κ μ :=
  ⟨m.entries.map fun e => (e.1, f e.2), by
    rw [List.pairwise_map]
    exact m.ordered⟩

/-- All entries of both maps; where both have a key, the value of the second counts. -/
def merge [Std.TransOrd κ] (m n : OrderedMap κ ν) : OrderedMap κ ν :=
  n.entries.foldl (fun acc e => acc.insert e.1 e.2) m

end OrderedMap

end JenkinsOperator
