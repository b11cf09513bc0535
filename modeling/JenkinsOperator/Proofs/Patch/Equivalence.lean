import JenkinsOperator.Proofs.Cluster.Schedule
import JenkinsOperator.Proofs.Pass.Steps
import JenkinsOperator.Proofs.Patch.Server

/-!
# A patch of the status replaces it

A merge patch leaves alone what it does not mention, and a status is written without the fields that
are unset. So the status that a server stores lies over the one it had, and is the one that was written
only if no field was cleared.

A pass clears none. What it writes is the status of the copy that was returned last with one step made
(`Fits`), each step sets a field (`Advance.covers`), and only a halt without a generation would unset
one. A write is accepted if it has the version that is stored. Versions are not given twice, so the
copy is then what is stored, and the status covers the one it is merged into (`Handles.writeStatus`).

Nor is a status dropped, as it would be at the path of the object. The path of a write is that of the
copy, so an accepted write of a status is one at the endpoint of the status.

`Circumstances.Replies.agrees` has one call, and `Circumstances.Follows` is what every call of a pass
preserves: with a store that replaces the status, the pass comes to the same point.
-/

namespace JenkinsOperator

variable {σ : Type} {past : Past} {j : Jenkins}

/-! ## What a pass writes -/

/-- Whether a write of the object can be told from one of another state, and a halt of it is recorded
at a generation. -/
structure Jenkins.IsPatchable (j : Jenkins) : Prop where
  version : j.metadata.resourceVersion.isSome
  generation : j.metadata.generation.isSome ∨ j.statusOrUnset.haltedGeneration = none

/-- A status that a pass writes has all the fields of the one that it has read: each step sets one and
keeps the others. -/
theorem Advance.covers {status : JenkinsStatus} (advance : Advance past j status)
    (patchable : j.IsPatchable) : status.Covers j.statusOrUnset := by
  cases advance with
  | start now unset _ => exact ⟨nofun, id, id, id⟩
  | complete phase now unset _ =>
    cases phase with
    | base => exact ⟨id, nofun, id, id⟩
    | user => exact ⟨id, id, nofun, id⟩
  | halt handle message running _ _ _ =>
    refine ⟨id, id, id, fun ungenerated => ?_⟩
    -- Without a generation nothing is recorded, and then nothing may have been recorded before.
    rcases patchable.generation with set | unrecorded
    · exact nomatch set.symm.trans (congrArg Option.isSome ungenerated)
    · exact unrecorded

/-- What a pass writes of an object that it has read can be written as it is. -/
theorem Advance.isRepresentable {status : JenkinsStatus} (advance : Advance past j status)
    (fits : j.IsRepresentable) : status.IsRepresentable := by
  have old : j.statusOrUnset.IsRepresentable := by
    cases set : j.status with
    | none =>
      rw [Jenkins.statusOrUnset, set]
      intro n recorded
      cases recorded
    | some s =>
      rw [Jenkins.statusOrUnset_of_eq_some set]
      exact fits.status s set
  cases advance with
  | start now _ _ => exact old
  | complete phase now _ _ =>
    cases phase with
    | base => exact old
    | user => exact old
  | halt handle message _ _ _ _ => exact fits.metadata.generation

/-! ## What a server makes of it -/

theorem versionOf_of_ofJson? {json : Json} (reads : Jenkins.ofJson? json = some j) :
    versionOf json = j.metadata.resourceVersion := by
  rw [versionOf, reads]
  rfl

section Handling

variable {metadata : Jenkins → Metadata} {document : Members} {request : Request}
  {response : Response} {stored : Option Members}

/-- A reading gives the object that the document is. -/
theorem Handles.fetch {identity : Identity} {reading : Response → Except Failure (Option Jenkins)}
    (handles : Handles metadata document request response stored)
    (sends : Client.fetch identity = .send request reading)
    (reads : Jenkins.ofJson? (.object document) = some j) :
    reading response = .ok (some j) ∧ stored = none := by
  obtain ⟨-, empty, rfl⟩ := Client.fetch_send sends
  cases handles with
  | read endpoint _ get tells => exact ⟨congrArg (during _) (tells.documentIfFound_eq reads), rfl⟩
  | landed endpoint written after _ comes _ _ _ =>
    rw [Request.written?, empty] at comes
    cases comes
  | stale endpoint written _ comes _ _ =>
    rw [Request.written?, empty] at comes
    cases comes

/-- A write of a document with a version is accepted if that is the version of the one there, and
replaces the part that its endpoint is for. -/
theorem Handles.write {operation : String} {object new : Jenkins} {method : Method} {below : String}
    {content : String × Json} {written : Json} {reading : Response → Except Failure WriteOutcome}
    (handles : Handles metadata document request response stored)
    (sends : Client.write operation object method below content = .send request reading)
    (writes : method ≠ .get) (reads : Jenkins.ofJson? (.object document) = some j)
    (comes : request.written? document = some written) (becomes : Jenkins.ofJson? written = some new)
    (version : new.metadata.resourceVersion.isSome) :
    ∃ endpoint, request.endpoint? j = some endpoint ∧
      if new.metadata.resourceVersion = j.metadata.resourceVersion then
        ∃ after, stored = some after
          ∧ Jenkins.ofJson? (.object after)
              = some { endpoint.replace j new with metadata := metadata j }
          ∧ reading response = .ok (.updated { endpoint.replace j new with metadata := metadata j })
      else stored = none ∧ reading response = .ok .conflict := by
  obtain ⟨rfl, -, rfl⟩ := Client.write_send sends
  -- What is written has a version, so it is current only by that one.
  have current : IsCurrent document written
      ↔ new.metadata.resourceVersion = j.metadata.resourceVersion := by
    rw [IsCurrent, versionOf_of_ofJson? becomes, versionOf_of_ofJson? reads]
    obtain ⟨v, same⟩ := Option.isSome_iff_exists.1 version
    rw [same]
    constructor
    · exact fun h => (h v rfl).symm
    · rintro h _ ⟨⟩
      exact h.symm
  cases handles with
  | read endpoint _ get _ => exact absurd get writes
  | landed endpoint written' after goes comes' isCurrent stores tells =>
    cases comes.symm.trans comes'
    refine ⟨endpoint, (request.endpointAt?_eq reads).symm.trans goes, ?_⟩
    rw [if_pos (current.1 isCurrent)]
    have kept := stores j new reads becomes
    refine ⟨after, rfl, kept, ?_⟩
    simp only [tells.document_eq kept]
    rfl
  | stale endpoint written' goes comes' notCurrent refused =>
    cases comes.symm.trans comes'
    refine ⟨endpoint, (request.endpointAt?_eq reads).symm.trans goes, ?_⟩
    rw [if_neg fun same => notCurrent (current.2 same)]
    exact ⟨rfl, refused.outcome operation⟩

end Handling

/-! ## One call -/

/-- What is known of a copy while an object is stored. -/
structure Jenkins.IsCopyOf (copy stored : Jenkins) : Prop where
  patchable : copy.IsPatchable
  representable : copy.IsRepresentable
  unique : copy.metadata.resourceVersion = stored.metadata.resourceVersion → copy = stored

/-- Whether a status that was written is the one that is stored, and was written where it is served. -/
structure Jenkins.Landed (object stored : Jenkins) : Prop where
  status : stored.status = object.status
  target : ∃ request reading path, Client.writeStatus object = .send request reading
    ∧ object.path? = some path ∧ request.target = ⟨path ++ "/status", ""⟩

section Calls

variable {w : Circumstances σ} {s : σ} {document : Members} {request : Request} {response : Response}
  {stored : Option Members}

/-- A server answers a write of a specification like a store. -/
theorem Handles.writeSpec {object copy : Jenkins} {spec : JenkinsSpec}
    {reading : Response → Except Failure WriteOutcome}
    (handles : Handles (w.metadata s) document request response stored)
    (sends : Client.writeSpec object = .send request reading)
    (reads : Jenkins.ofJson? (.object document) = some j) (holds : copy.IsCopyOf j)
    (writes : object = { copy with spec }) :
    reading response = (w.replace s j (.writeSpec object)).1
      ∧ Jenkins.ofJson? (.object (stored.getD document))
          = some (w.replace s j (.writeSpec object)).2 := by
  have fits : object.IsRepresentable := by
    rw [writes]
    exact ⟨holds.representable.metadata, holds.representable.status⟩
  have version : object.metadata.resourceVersion = copy.metadata.resourceVersion := by rw [writes]
  have comes : request.written? document = some object.toJson := by
    rw [Request.written?, (Client.write_send sends).2.1, Option.map_some,
      if_neg (show documentType ≠ mergePatchType by decide)]
  obtain ⟨endpoint, goes, handled⟩ := handles.write sends Method.noConfusion reads comes
    (Jenkins.ofJson?_toJson fits) (version ▸ holds.patchable.version)
  rw [Circumstances.replace]
  by_cases same : object.metadata.resourceVersion = j.metadata.resourceVersion
  · rw [if_pos (show object.toSecond.metadata.resourceVersion = _ from same)] at handled
    obtain ⟨after, rfl, kept, answered⟩ := handled
    -- The path of the copy is that of the object, so it is the object that is replaced.
    obtain rfl := holds.unique (version.symm.trans same)
    obtain rfl : endpoint = .object := by
      subst writes
      exact (Client.target_of_endpoint? .object sends goes).1
    rw [w.write_of_eq s same]
    exact ⟨answered, kept⟩
  · rw [if_neg (show ¬object.toSecond.metadata.resourceVersion = _ from same)] at handled
    obtain ⟨rfl, answered⟩ := handled
    rw [w.write_of_ne s same]
    exact ⟨answered, reads⟩

/-- A server that merges a status answers its write like a store that replaces it. -/
theorem Handles.writeStatus {object copy : Jenkins} {status : JenkinsStatus}
    {reading : Response → Except Failure WriteOutcome}
    (handles : Handles (w.metadata s) document request response stored)
    (sends : Client.writeStatus object = .send request reading)
    (reads : Jenkins.ofJson? (.object document) = some j) (holds : copy.IsCopyOf j)
    (advance : Advance past copy status) (writes : object = { copy with status := some status }) :
    reading response = (w.replace s j (.writeStatus object)).1
      ∧ Jenkins.ofJson? (.object (stored.getD document))
          = some (w.replace s j (.writeStatus object)).2
      ∧ ∀ after ∈ stored, object.Landed (w.replace s j (.writeStatus object)).2 := by
  have version : object.metadata.resourceVersion = copy.metadata.resourceVersion := by rw [writes]
  have set : object.status = some status := by rw [writes]
  have comes : request.written? document
      = some (Json.merge (.object document) (Client.statusPatch object)) := by
    rw [Request.written?, (Client.write_send sends).2.1, Option.map_some, if_pos rfl]
  obtain ⟨under, which, becomes⟩ :=
    Jenkins.ofJson?_merge reads set (advance.isRepresentable holds.representable)
  obtain ⟨endpoint, goes, handled⟩ := handles.write sends Method.noConfusion reads comes becomes
    (version ▸ holds.patchable.version)
  rw [Circumstances.replace]
  by_cases same : object.metadata.resourceVersion = j.metadata.resourceVersion
  · rw [if_pos same] at handled
    obtain ⟨after, rfl, kept, answered⟩ := handled
    -- The path of the copy is that of the object, so it is the status that is replaced.
    obtain rfl := holds.unique (version.symm.trans same)
    obtain ⟨rfl, path, here, target⟩ : endpoint = .status
        ∧ ∃ path, object.path? = some path ∧ request.target = ⟨path ++ "/status", ""⟩ := by
      subst writes
      exact Client.target_of_endpoint? .status sends goes
    rw [w.write_of_eq s same, set]
    -- The status comes to lie over that of the copy, which it covers.
    have covers : status.Covers under := by
      rcases which with here | rfl
      · rw [← Jenkins.statusOrUnset_of_eq_some here]
        exact advance.covers holds.patchable
      · exact status.covers_unset
    rw [covers.laidOver] at kept answered
    exact ⟨answered, kept, fun _ _ => ⟨set.symm, request, reading, path, sends, here, target⟩⟩
  · rw [if_neg same] at handled
    obtain ⟨rfl, answered⟩ := handled
    rw [w.write_of_ne s same]
    exact ⟨answered, reads, nofun⟩

/-- A server answers each request of a pass like a store that replaces what is written, and stores a
document of the same object. -/
theorem Handles.replace {c : Call} {reading : Response → c.Answer}
    (handles : Handles (w.metadata s) document request response stored)
    (way : c.way = .request request reading) (reads : Jenkins.ofJson? (.object document) = some j)
    (fits : Fits past c) (copies : ∀ copy, held? past = some copy → copy.IsCopyOf j) :
    reading response = (w.replace s j c).1
      ∧ Jenkins.ofJson? (.object (stored.getD document)) = some (w.replace s j c).2
      ∧ ∀ object, c = .writeStatus object → ∀ after ∈ stored,
          object.Landed (w.replace s j c).2 := by
  cases c with
  | fetch identity =>
    obtain ⟨answered, rfl⟩ := handles.fetch (Exchange.way_eq_request way) reads
    exact ⟨answered, reads, fun _ same => Call.noConfusion same⟩
  | writeSpec object =>
    obtain ⟨copy, held, -, -, writes⟩ := fits
    obtain ⟨answered, kept⟩ :=
      handles.writeSpec (Exchange.way_eq_request way) reads (copies copy held) writes
    exact ⟨answered, kept, fun _ same => Call.noConfusion same⟩
  | writeStatus object =>
    obtain ⟨copy, status, held, advance, writes⟩ := fits
    obtain ⟨answered, kept, landed⟩ :=
      handles.writeStatus (Exchange.way_eq_request way) reads (copies copy held) advance writes
    refine ⟨answered, kept, ?_⟩
    rintro object' ⟨⟩
    exact landed
  | _ => cases way

/-- The reply to a call of a pass is that of a store that replaces what is written. -/
theorem Circumstances.Replies.agrees {c : Call} {answer : c.Answer}
    (replies : w.Replies s document c answer stored)
    (reads : Jenkins.ofJson? (.object document) = some j) (fits : Fits past c)
    (copies : ∀ copy, held? past = some copy → copy.IsCopyOf j) :
    answer = (w.settle s j c).1
      ∧ Jenkins.ofJson? (.object (stored.getD document)) = some (w.settle s j c).2
      ∧ ∀ object, c = .writeStatus object → ∀ after ∈ stored,
          object.Landed (w.settle s j c).2 := by
  -- A store that replaces what is written finds the same endpoint as the server.
  have goes {request : Request} {found : Option Endpoint}
      (there : request.endpointAt? document = found) : request.endpoint? j = found :=
    (request.endpointAt?_eq reads).symm.trans there
  cases replies with
  | elsewhere way =>
    rw [Circumstances.settle_of_elsewhere way]
    exact ⟨rfl, reads, fun _ _ _ none => nomatch none⟩
  | blocked answer way =>
    rw [Circumstances.settle_of_blocked way]
    exact ⟨rfl, reads, fun _ _ _ none => nomatch none⟩
  | astray way there =>
    rw [Circumstances.settle_of_astray way (goes there)]
    exact ⟨rfl, reads, fun _ _ _ none => nomatch none⟩
  | unserved endpoint answer silent way there fate =>
    rw [Circumstances.settle_of_request way (goes there), fate]
    exact ⟨rfl, reads, fun _ _ _ none => nomatch none⟩
  | heard response way fate handles =>
    obtain ⟨endpoint, there⟩ := handles.exists_endpoint
    rw [Circumstances.settle_of_request way (goes there), fate]
    exact handles.replace way reads fits copies
  | unheard response answer silent way fate handles =>
    obtain ⟨endpoint, there⟩ := handles.exists_endpoint
    rw [Circumstances.settle_of_request way (goes there), fate]
    obtain ⟨-, kept, landed⟩ := handles.replace way reads fits copies
    exact ⟨rfl, kept, landed⟩

end Calls

/-! ## What a pass is told -/

/-- Only a request that is served returns an object. -/
theorem Call.returned?_of_way {c : Call} {answer : c.Answer}
    (way : c.way = .elsewhere ∨ c.way = .blocked answer) : c.returned? answer = none := by
  cases c with
  | fetch identity =>
    obtain ⟨failure, rfl⟩ := Exchange.eq_error_of_way way
    rfl
  | writeSpec object =>
    obtain ⟨failure, rfl⟩ := Exchange.eq_error_of_way way
    rfl
  | writeStatus object =>
    obtain ⟨failure, rfl⟩ := Exchange.eq_error_of_way way
    rfl
  | _ => rfl

/-- Whether an answer is one of a store that keeps an object from then on: what it returns is that
object, and a write that it accepts is one of the object before. -/
structure Call.IsTold (before : Jenkins) (c : Call) (answer : c.Answer) (after : Jenkins) : Prop where
  returned : ∀ j, c.returned? answer = some j → j = after
  accepted : ∀ j, c.stored? answer = some j → Accepted (fun _ _ => True) before j c

/-- An answer that returns no object tells nothing that could be wrong. -/
theorem Call.isTold_of_silent {c : Call} {answer : c.Answer} (silent : c.returned? answer = none)
    (before after : Jenkins) : c.IsTold before answer after := by
  constructor
  · exact fun j returned => nomatch silent.symm.trans returned
  · exact fun j stored => nomatch silent.symm.trans (Call.returned?_of_stored? stored)

theorem Call.isTold_of_stored {c : Call} {answer : c.Answer} {before after : Jenkins}
    (stored : c.stored? answer = some after) (accepted : Accepted (fun _ _ => True) before after c) :
    c.IsTold before answer after := by
  constructor
  · exact fun j returned =>
      Option.some.inj (returned.symm.trans (Call.returned?_of_stored? stored))
  · exact fun j stored' => Option.some.inj (stored.symm.trans stored') ▸ accepted

namespace Circumstances

variable (w : Circumstances σ) (s : σ) (stored : Jenkins)

theorem isTold_replace (c : Call) :
    c.IsTold stored (w.replace s stored c).1 (w.replace s stored c).2 := by
  cases c with
  | fetch identity =>
    constructor
    · exact fun j returned => (Option.some.inj returned).symm
    · exact fun j stored => nomatch stored
  | writeSpec object =>
    rw [replace]
    by_cases same : object.metadata.resourceVersion = stored.metadata.resourceVersion
    · rw [w.write_of_eq s same]
      exact Call.isTold_of_stored rfl (.spec object same rfl rfl trivial)
    · rw [w.write_of_ne s same]
      exact Call.isTold_of_silent rfl _ _
  | writeStatus object =>
    rw [replace]
    by_cases same : object.metadata.resourceVersion = stored.metadata.resourceVersion
    · rw [w.write_of_eq s same]
      exact Call.isTold_of_stored rfl (.status object same rfl rfl trivial)
    · rw [w.write_of_ne s same]
      exact Call.isTold_of_silent rfl _ _
  | _ => exact Call.isTold_of_silent rfl _ _

/-- Whatever becomes of a call, what is told of it is true of what is stored then. -/
theorem isTold_settle (c : Call) :
    c.IsTold stored (w.settle s stored c).1 (w.settle s stored c).2 := by
  unfold settle
  split
  case h_1 way => exact Call.isTold_of_silent (Call.returned?_of_way (.inl way)) _ _
  case h_2 answer way => exact Call.isTold_of_silent (Call.returned?_of_way (.inr way)) _ _
  case h_3 =>
    split
    case h_1 => exact Call.isTold_of_silent (w.silent_astray s c) _ _
    case h_2 =>
      split
      case h_1 => exact w.isTold_replace s stored c
      case h_2 answer silent _ => exact Call.isTold_of_silent silent _ _
      case h_3 answer silent _ => exact Call.isTold_of_silent silent _ _

end Circumstances

/-! ## Whole passes -/

/-- What holds along a past holds of every exchange in it. -/
theorem Along.of_suffix {holds : Past → Call.Exchange → Prop} {past early : Past} {e : Call.Exchange}
    (along : Along holds past) (suffix : e :: early <:+ past) : holds early e := by
  obtain ⟨later, rfl⟩ := suffix
  induction later with
  | nil => exact along.2
  | cons last later ih => exact ih along.1

theorem Program.run_of_result? {ε α : Type} {p : Program ε α} {result : Except ε α}
    (ended : p.result? = some result) (answer : (c : Call) → σ → c.Answer × σ) (s : σ) :
    p.run answer s = (result, s) := by
  cases p with
  | done value =>
    cases ended
    rfl
  | exit reason =>
    cases ended
    rfl
  | call c resume => cases ended

/-- Whether each object that was stored is one whose status can be replaced by a patch. -/
def Shelf.IsPatchable (shelf : Shelf) : Prop :=
  ∀ document ∈ shelf.history, ∀ j, Jenkins.ofJson? (.object document) = some j → j.IsPatchable

namespace Circumstances

variable {w : Circumstances σ} {identity : Identity} {first : Jenkins} {start s : σ}
  {document : Members} {rest : Program Failure Outcome} {shelf : Shelf}

/-- What holds at every point of a pass with a server of documents. -/
structure Follows (w : Circumstances σ) (identity : Identity) (first : Jenkins) (start : σ)
    (past : Past) (rest : Program Failure Outcome) (shelf : Shelf) (s : σ) : Prop where
  /-- With a store that replaces what is written, the pass comes to the same point. -/
  same : ∃ stored, Jenkins.ofJson? (.object shelf.document) = some stored
    ∧ (reconcilePass identity).run w.replacing (first, start) = rest.run w.replacing (stored, s)
  keeps : rest.Keeps (protocol (fun _ _ => True) Failure) (fun _ => Settled) past
  fits : Along (fun early e => Fits early e.call) past
  /-- All copies that were returned were once stored. -/
  copies : ∀ e ∈ past, ∀ copy, e.call.returned? e.answer = some copy →
    ∃ document ∈ shelf.history, Jenkins.ofJson? (.object document) = some copy
  versions : shelf.versions.Nodup
  /-- Every accepted status is the one that was written. -/
  landings : ∀ write ∈ shelf.landings, ∃ stored,
    Jenkins.ofJson? (.object write.2) = some stored ∧ write.1.Landed stored

/-- A copy of an object whose versions are not given twice is the stored object if it has its
version. -/
theorem isCopyOf_of_history {copy stored : Jenkins} (distinct : shelf.versions.Nodup)
    (patchable : shelf.IsPatchable)
    (reads : Jenkins.ofJson? (.object shelf.document) = some stored)
    (once : ∃ document ∈ shelf.history, Jenkins.ofJson? (.object document) = some copy) :
    copy.IsCopyOf stored := by
  obtain ⟨document, mem, readCopy⟩ := once
  refine ⟨patchable document mem copy readCopy, Jenkins.isRepresentable_of_ofJson? readCopy, ?_⟩
  intro version
  have versions : versionOf (.object document) = versionOf (.object shelf.document) := by
    rw [versionOf_of_ofJson? readCopy, versionOf_of_ofJson? reads, version]
  obtain rfl := List.inj_on_of_nodup_map distinct mem List.mem_cons_self versions
  exact Option.some.inj (readCopy.symm.trans reads)

/-- Each exchange with a server of documents leaves a pass at the point to which a store that
replaces what is written would have led it. -/
theorem Unfolds.follows (unfolds : w.Unfolds (reconcilePass identity) document start past rest shelf s)
    (reads : Jenkins.ofJson? (.object document) = some first) (patchable : shelf.IsPatchable) :
    w.Follows identity first start past rest shelf s := by
  induction unfolds with
  | start =>
    refine ⟨⟨first, reads, rfl⟩, reconcilePass_keeps _ identity, trivial, ?_,
      List.nodup_singleton _, ?_⟩
    · exact fun e none => nomatch none
    · exact fun write none => nomatch none
  | @answered past c resume shelf s edited answer stored _ edits renews replies renews' ih =>
    have grown : shelf.history ⊆ (shelf.keep edited).history := shelf.history_subset_keep edited
    have grown' : (shelf.keep edited).history ⊆
        (((shelf.keep edited).keep stored).record c stored).history := by
      rw [Shelf.history_record]
      exact Shelf.history_subset_keep _ stored
    obtain ⟨⟨before, readBefore, same⟩, keeps, fits, copies, versions, landings⟩ :=
      ih fun d mem => patchable d (grown' (grown mem))
    -- The object is what others have made of it when the call is answered.
    have readEdited : Jenkins.ofJson? (.object (shelf.keep edited).document)
        = some (w.edit s before) := by
      rw [Shelf.document_keep]
      exact edits before readBefore
    -- No version is given twice, so a copy of the version that is stored is what is stored.
    have distinct := renews.nodup versions
    have holds : ∀ copy, held? past = some copy → copy.IsCopyOf (w.edit s before) := by
      intro copy held
      obtain ⟨e, told, returned⟩ := exists_returned held
      obtain ⟨d, mem, readCopy⟩ := copies e told copy returned
      exact isCopyOf_of_history distinct (fun d mem => patchable d (grown' mem)) readEdited
        ⟨d, grown mem, readCopy⟩
    obtain ⟨rfl, kept, landed⟩ := replies.agrees readEdited keeps.1.fits holds
    have told := w.isTold_settle s (w.edit s before) c
    have credible : Credible (fun _ _ => True) past ⟨c, (w.settle s (w.edit s before) c).1⟩ := by
      intro after accepted
      have accepted := told.accepted after accepted
      obtain ⟨copy, held, version⟩ := accepted.exists_held keeps.1.fits
      exact ⟨_, held.trans (congrArg some ((holds copy held).unique version)), accepted⟩
    have readAfter : Jenkins.ofJson? (.object
        (((shelf.keep edited).keep stored).record c stored).document)
          = some (w.settle s (w.edit s before) c).2 := by
      rw [Shelf.document_record, Shelf.document_keep]
      exact kept
    refine ⟨⟨_, readAfter, same⟩, keeps.2 _ credible, ⟨fits, keeps.1.fits⟩, ?_, ?_, ?_⟩
    · refine List.forall_mem_cons.2 ⟨fun copy returned => ?_, fun e member copy returned => ?_⟩
      · exact ⟨_, List.mem_cons_self, told.returned copy returned ▸ readAfter⟩
      · obtain ⟨d, mem, readCopy⟩ := copies e member copy returned
        exact ⟨d, grown' (grown mem), readCopy⟩
    · rw [Shelf.versions, Shelf.history_record]
      exact renews'.nodup distinct
    · intro write mem
      rcases Shelf.mem_landings_record mem with ⟨writes, lands⟩ | earlier
      · refine ⟨_, ?_, landed write.1 writes write.2 lands⟩
        rw [lands] at kept
        exact kept
      · rw [Shelf.landings_keep, Shelf.landings_keep] at earlier
        exact landings write earlier

/-- A pass with a server that merges what it is sent. Every request of it that writes a status carries
the version of the copy that was returned last, and a status that is an object, and its target is the
status below the path of that copy. Every status that was accepted was sent there, and is stored as it
was written. And the pass ends as it does with a store that replaces the status, with the same object
stored and with the same told to everybody. -/
theorem Unfolds.patch_replaces
    (unfolds : w.Unfolds (reconcilePass identity) document start past rest shelf s)
    (reads : Jenkins.ofJson? (.object document) = some first) (patchable : shelf.IsPatchable) :
    (∀ early object answer, ⟨.writeStatus object, answer⟩ :: early <:+ past →
      ∃ copy status version members, held? early = some copy
        ∧ object = { copy with status := some status }
        ∧ copy.metadata.resourceVersion = some version ∧ status.toJson = .object members
        ∧ ∀ request reading, Client.writeStatus object = .send request reading →
          request.method = .patch
          ∧ (∃ path, copy.path? = some path
            ∧ Target.ofText? (path ++ "/status" ++ "?") = some request.target
            ∧ ('?' ∉ path.toList → '#' ∉ path.toList → request.target = ⟨path ++ "/status", ""⟩))
          ∧ request.content = some (mergePatchType, .object [
            ("metadata", .object [("resourceVersion", .string version)]),
            ("status", .object members)]))
    ∧ (∀ write ∈ shelf.landings,
        (∃ request reading path, Client.writeStatus write.1 = .send request reading
          ∧ write.1.path? = some path ∧ request.target = ⟨path ++ "/status", ""⟩)
        ∧ ∃ stored, Jenkins.ofJson? (.object write.2) = some stored
          ∧ stored.status = write.1.status)
    ∧ ∀ result, rest.result? = some result →
        ∃ stored, Jenkins.ofJson? (.object shelf.document) = some stored
          ∧ (reconcilePass identity).run w.replacing (first, start) = (result, stored, s) := by
  obtain ⟨⟨stored, kept, same⟩, -, fits, copies, -, landings⟩ := unfolds.follows reads patchable
  refine ⟨fun early object answer suffix => ?_, fun write mem => ?_,
    fun result ended => ⟨stored, kept, ?_⟩⟩
  · obtain ⟨copy, status, held, -, rfl⟩ := fits.of_suffix suffix
    obtain ⟨e, member, returned⟩ := exists_returned held
    obtain ⟨d, mem, readCopy⟩ :=
      copies e (suffix.subset (List.mem_cons_of_mem _ member)) copy returned
    obtain ⟨version, given⟩ :=
      Option.isSome_iff_exists.1 (patchable d mem copy readCopy).version
    refine ⟨copy, status, version, _, held, rfl, given, rfl, fun request reading sends => ?_⟩
    obtain ⟨method, content, -⟩ := Client.write_send sends
    obtain ⟨path, here, goes⟩ := Client.write_target sends
    refine ⟨method, ⟨path, here, goes, fun noQuery noEnd => ?_⟩, content.trans ?_⟩
    · exact Target.eq_of_ofText?_query (Endpoint.status.pathOf_below ⟨noQuery, noEnd⟩) goes
    · rw [Client.statusPatch_of_eq_some rfl]
      show some (mergePatchType, Json.object [("metadata", .object [("resourceVersion",
        Json.optionalString copy.metadata.resourceVersion)]), ("status", status.toJson)]) = _
      rw [given]
      rfl
  · obtain ⟨stored, kept, landed⟩ := landings write mem
    exact ⟨landed.target, stored, kept, landed.status⟩
  · rw [same]
    exact Program.run_of_result? ended _ _

end Circumstances

/-! ## A document with more in it -/

instance (j : Jenkins) : Decidable j.IsPatchable :=
  decidable_of_iff (j.metadata.resourceVersion.isSome
      ∧ (j.metadata.generation.isSome ∨ j.statusOrUnset.haltedGeneration = none))
    ⟨fun h => ⟨h.1, h.2⟩, fun h => ⟨h.version, h.generation⟩⟩

instance (shelf : Shelf) : Decidable shelf.IsPatchable :=
  inferInstanceAs (Decidable (∀ document ∈ shelf.history,
    ∀ j ∈ Jenkins.ofJson? (.object document), j.IsPatchable))

/-- The metadata of an object at a version. -/
def Members.version (version : String) : Json :=
  .object [("name", .string "ci"), ("namespace", .string "default"), ("generation", .int 3),
    ("resourceVersion", .string version)]

/-- The document of an object whose seed jobs failed, with a note that no pass knows. -/
def Members.annotated : Members :=
  [("metadata", Members.version "7"), ("spec", JenkinsSpec.plain.withDefaults.toJson),
    ("status", .object [("note", .string "kept"), ("seedJobsHaltedGeneration", .int 3),
      ("provisionStartTime", .string "2026-07-01T13:00:00+01:00")])]

/-- Nobody else changes the object, every request is heard, and all notifications are kept. -/
def Circumstances.calm : Circumstances (List Notification) where
  edit _ stored := stored
  fate _ _ := .heard
  metadata _ stored := { stored.metadata with resourceVersion := some "8" }
  elsewhere _ c := Behaviour.standard.reply .noon .created c
  astray _ c :=
    match c with
    | .fetch _ => .ok none
    | .writeSpec object => .error (.api s!"update jenkins {object.identity.text}" .unreadable)
    | .writeStatus object =>
      .error (.api s!"update jenkins status {object.identity.text}" .unreadable)
    | c => Behaviour.standard.reply .noon .created c
  silent_astray _ c := by cases c <;> rfl
  next published e :=
    match e.call with
    | .publish _ notification => notification :: published
    | _ => published

namespace Circumstances

/-- The base phase of an object whose seed jobs failed is completed, by one write at the endpoint of
its status. The note is still in the document, though a store of objects has none. -/
theorem Unfolds.patch_replaces_annotated :
    ∃ first past rest shelf,
      calm.Unfolds (reconcilePass ⟨"default", "ci"⟩) Members.annotated [] past rest shelf
        [.completed .base]
      ∧ Jenkins.ofJson? (.object Members.annotated) = some first
      ∧ shelf.IsPatchable
      ∧ ((Json.object shelf.document).member? "status").bind (fun status => status.member? "note")
          = some (.string "kept")
      ∧ shelf.landings.length = 1
      ∧ (∀ write ∈ shelf.landings, ∃ request reading,
          Client.writeStatus write.1 = .send request reading ∧ request.target
            = ⟨"/apis/jenkins.io/v1alpha1/namespaces/default/jenkins/ci/status", ""⟩)
      ∧ ∃ stored, Jenkins.ofJson? (.object shelf.document) = some stored
        ∧ (reconcilePass ⟨"default", "ci"⟩).run calm.replacing (first, [])
            = (.ok .done, stored, [.completed .base]) := by
  have isCalm : calm.IsCalm := ⟨fun _ _ => rfl, fun _ _ => rfl⟩
  have plays : ∃ played ∈ calm.attend? [("metadata", Members.version "8")]
        (reconcilePass ⟨"default", "ci"⟩) [] ⟨Members.annotated, [], []⟩ [],
      played.2.1 = .ok .done ∧ played.2.2.1.IsPatchable
      ∧ ((Json.object played.2.2.1.document).member? "status").bind
          (fun status => status.member? "note") = some (.string "kept")
      ∧ played.2.2.1.landings.length = 1
      ∧ (∀ write ∈ played.2.2.1.landings,
          write.1.path? = some "/apis/jenkins.io/v1alpha1/namespaces/default/jenkins/ci")
      ∧ played.2.2.2 = [.completed .base] := by
    decide +kernel
  obtain ⟨⟨past, result, shelf, published⟩, attended, rfl, patchable, note, landings, here, rfl⟩ :=
    plays
  have legible : (Jenkins.ofJson? (.object Members.annotated)).isSome := by decide +kernel
  obtain ⟨first, reads⟩ := Option.isSome_iff_exists.1 legible
  obtain ⟨rest, unfolds, ended⟩ := Unfolds.attend isCalm .start attended
  obtain ⟨-, landed, ends⟩ := Unfolds.patch_replaces unfolds reads patchable
  refine ⟨first, past, rest, shelf, unfolds, reads, patchable, note, landings, fun write mem => ?_,
    ends _ ended⟩
  obtain ⟨⟨request, reading, path, sends, at_, target⟩, -⟩ := landed write mem
  cases (here write mem).symm.trans at_
  exact ⟨request, reading, sends, target⟩

end Circumstances

end JenkinsOperator
