import Mathlib.Data.List.Induction
import Mathlib.Data.String.Basic
import JenkinsOperator.Json.Legible

/-!
# Settled values

Settling puts the members of every object in order and keeps the last of each name. Done once, it is
done for good (`Json.settle_settle`), and it takes nothing in that could not be read
(`Json.isReadable_settle`). So a value of any form that was read is read back as it is
(`Json.anyAt?_of_anyAt?`).
-/

namespace JenkinsOperator.Json

/-- Whether members stand in order, each name once, with settled values. -/
def AreSettled (members : List (String × Json)) : Prop :=
  (members.Pairwise fun a b => a.1 < b.1) ∧ ∀ m ∈ members, m.2.settle = m.2

/-! ## One member -/

theorem mem_putMember {name : String} {value : Json} {members : List (String × Json)}
    {m : String × Json} (h : m ∈ putMember name value members) : m = (name, value) ∨ m ∈ members := by
  induction members with
  | nil => exact .inl (List.mem_singleton.1 h)
  | cons head rest ih =>
    unfold putMember at h
    split at h
    · exact List.mem_cons.1 h
    · split at h
      · exact (List.mem_cons.1 h).imp id (List.mem_cons_of_mem head)
      · rcases List.mem_cons.1 h with rfl | h
        · exact .inr List.mem_cons_self
        · exact (ih h).imp id (List.mem_cons_of_mem head)

/-- Putting a member among ordered ones keeps their order. -/
theorem putMember_pairwise (name : String) (value : Json) {members : List (String × Json)}
    (ordered : members.Pairwise fun a b => a.1 < b.1) :
    (putMember name value members).Pairwise fun a b => a.1 < b.1 := by
  induction members with
  | nil => exact List.pairwise_singleton _ _
  | cons head rest ih =>
    obtain ⟨first, later⟩ := List.pairwise_cons.1 ordered
    unfold putMember
    split
    case isTrue less =>
      refine List.pairwise_cons.2 ⟨fun m member => ?_, ordered⟩
      rcases List.mem_cons.1 member with rfl | member
      · exact less
      · exact String.lt_trans less (first m member)
    case isFalse notLess =>
      split
      case isTrue same => exact List.pairwise_cons.2 ⟨fun m member => same ▸ first m member, later⟩
      case isFalse differs =>
        -- The name is neither smaller nor the same, so it is greater.
        have greater : head.1 < name := ((lt_trichotomy name head.1).resolve_left notLess).resolve_left differs
        refine List.pairwise_cons.2 ⟨fun m member => ?_, ih later⟩
        rcases mem_putMember member with rfl | member
        · exact greater
        · exact first m member

/-- Putting a settled value among settled members leaves all of them settled. -/
theorem areSettled_putMember (name : String) {value : Json} {members : List (String × Json)}
    (settled : AreSettled members) (value_settled : value.settle = value) :
    AreSettled (putMember name value members) := by
  refine ⟨putMember_pairwise name value settled.1, fun m member => ?_⟩
  rcases mem_putMember member with rfl | member
  · exact value_settled
  · exact settled.2 m member

/-- A name beyond all others is put at the end. -/
theorem putMember_eq_append {name : String} {value : Json} {members : List (String × Json)}
    (beyond : ∀ m ∈ members, m.1 < name) : putMember name value members = members ++ [(name, value)] := by
  induction members with
  | nil => rfl
  | cons head rest ih =>
    have after : head.1 < name := beyond head List.mem_cons_self
    unfold putMember
    rw [if_neg (String.lt_asymm after), if_neg (ne_of_gt after),
      ih fun m member => beyond m (List.mem_cons_of_mem head member), List.cons_append]

/-! ## Whole values -/

theorem settleMembers_append (members more done : List (String × Json)) :
    settleMembers (members ++ more) done = settleMembers more (settleMembers members done) := by
  induction members generalizing done with
  | nil => rfl
  | cons m members ih => exact ih _

/-- Settled members stay as they are. -/
theorem settleMembers_of_areSettled {members : List (String × Json)} (settled : AreSettled members) :
    settleMembers members [] = members := by
  induction members using List.reverseRecOn with
  | nil => rfl
  | append_singleton members m ih =>
    obtain ⟨before, -, beyond⟩ := List.pairwise_append.1 settled.1
    have kept := ih ⟨before, fun other member => settled.2 other (List.mem_append_left _ member)⟩
    have last : m.2.settle = m.2 := settled.2 m (List.mem_append_right _ List.mem_cons_self)
    rw [settleMembers_append, kept]
    show putMember m.1 m.2.settle members = _
    rw [last, putMember_eq_append fun other member => beyond other member m (List.mem_singleton.2 rfl)]

mutual

/-- Settling a document again changes nothing. -/
theorem settle_settle : ∀ json : Json, json.settle.settle = json.settle
  | .array items => by
    show Json.array (settleItems (settleItems items)) = .array (settleItems items)
    rw [settleItems_settleItems items]
  | .object members => by
    have settled := areSettled_settleMembers members ⟨.nil, nofun⟩
    show Json.object (settleMembers (settleMembers members []) []) = .object (settleMembers members [])
    rw [settleMembers_of_areSettled settled]
  | .null => rfl
  | .bool _ => rfl
  | .number _ => rfl
  | .string _ => rfl
  | .illegible => rfl

theorem settleItems_settleItems : ∀ items : List Json,
    settleItems (settleItems items) = settleItems items
  | [] => rfl
  | item :: rest => by
    show item.settle.settle :: settleItems (settleItems rest) = item.settle :: settleItems rest
    rw [settle_settle item, settleItems_settleItems rest]

theorem areSettled_settleMembers : ∀ (members : List (String × Json)) {done : List (String × Json)},
    AreSettled done → AreSettled (settleMembers members done)
  | [], _, settled => settled
  | (name, value) :: rest, _, settled =>
    areSettled_settleMembers rest (areSettled_putMember name settled (settle_settle value))

end

/-! ## What can be read -/

theorem areMembersReadable_iff (depth : Nat) (members : List (String × Json)) :
    areMembersReadable depth members = true ↔ ∀ m ∈ members, m.2.isReadable depth = true := by
  induction members with
  | nil => simp [areMembersReadable]
  | cons m members ih => simp [areMembersReadable, ih]

mutual

/-- Settling a document does not make it too deep to be read. -/
theorem isReadable_settle : ∀ (depth : Nat) (json : Json),
    json.isReadable depth = true → json.settle.isReadable depth = true
  | 0, .array _, h => h
  | depth + 1, .array items, h => areReadable_settleItems depth items h
  | 0, .object _, h => h
  | depth + 1, .object members, h => by
    refine (areMembersReadable_iff depth _).2 ?_
    exact readable_settleMembers depth members ((areMembersReadable_iff depth members).1 h) nofun
  | _, .null, h => h
  | _, .bool _, h => h
  | _, .number _, h => h
  | _, .string _, h => h
  | _, .illegible, h => h

theorem areReadable_settleItems : ∀ (depth : Nat) (items : List Json),
    areReadable depth items = true → areReadable depth (settleItems items) = true
  | _, [], _ => rfl
  | depth, item :: rest, h => by
    obtain ⟨first, others⟩ := Bool.and_eq_true_iff.1 h
    exact Bool.and_eq_true_iff.2
      ⟨isReadable_settle depth item first, areReadable_settleItems depth rest others⟩

theorem readable_settleMembers : ∀ (depth : Nat) (members : List (String × Json))
    {done : List (String × Json)}, (∀ m ∈ members, m.2.isReadable depth = true) →
    (∀ m ∈ done, m.2.isReadable depth = true) →
    ∀ m ∈ settleMembers members done, m.2.isReadable depth = true
  | _, [], _, _, readable => readable
  | depth, (name, value) :: rest, _, members, readable => by
    refine readable_settleMembers depth rest
      (fun m member => members m (List.mem_cons_of_mem _ member)) fun m member => ?_
    rcases mem_putMember member with rfl | member
    · exact isReadable_settle depth value (members _ List.mem_cons_self)
    · exact readable m member

end

/-- A value that was read is read back as it is. -/
theorem anyAt?_of_anyAt? {depth : Nat} {json value : Json} (h : anyAt? depth json = some value) :
    anyAt? depth value = some value := by
  unfold anyAt? at h
  split at h
  case isTrue readable =>
    cases h
    unfold anyAt?
    rw [if_pos (isReadable_settle _ json readable), settle_settle]
  case isFalse => cases h

theorem ne_null_of_anyAt? {depth : Nat} {json value : Json} (h : anyAt? depth json = some value)
    (some : json ≠ .null) : value ≠ .null := by
  unfold anyAt? at h
  split at h
  case isTrue =>
    cases h
    cases json with
    | null => exact absurd rfl some
    | _ => exact Json.noConfusion
  case isFalse => cases h

end JenkinsOperator.Json
