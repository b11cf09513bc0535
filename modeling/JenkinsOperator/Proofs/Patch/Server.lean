import JenkinsOperator.Proofs.Api.Target
import JenkinsOperator.Proofs.Pass.Past
import JenkinsOperator.Proofs.Patch.Merge

/-!
# A server of documents and a store of objects

The same pass over two ways of keeping the object that it is about.

A server keeps a document, and serves it at two endpoints: at the path of the object, and at the path
of its status below that. It is reached by the requests of the client whose target is one of the two
(`Request.endpointAt?`), tells what it keeps, and applies what it is sent: a merge patch to its
document, and any other write in place of it. Of what a write comes to, it takes only the part that
the endpoint is for, whatever the method: the status at the endpoint of the status, and the
specification at that of the object. It refuses a write of another version than the one it keeps, and
gives each document that it stores a version that none has had before. `Circumstances.Unfolds` are
the runs of a program with such a server.

A store keeps an object and replaces its specification or its status (`Circumstances.replacing`).

`Circumstances` are what both have in common. They say what others do to the object between two calls,
which calls are heard and whose answers get lost, what metadata a write is given, and what everybody
else answers, also to a request that goes to another object; and they may change with each exchange,
so that whatever was told to anybody is found in them at the end.
-/

namespace JenkinsOperator

/-! ## Exchanges of calls -/

/-- How a call is answered. -/
inductive Way (β : Type) where
  /-- Not by the server. -/
  | elsewhere
  /-- At once, as there is no request for it. -/
  | blocked (answer : β)
  /-- By the reading of the response to a request. -/
  | request (request : Request) (reading : Response → β)

/-- The way of a call that is an exchange. -/
def Exchange.way {α : Type} : Exchange α → Way (Except Failure α)
  | .impossible failure => .blocked (.error failure)
  | .send request reading => .request request reading

theorem Exchange.way_eq_request {α : Type} {exchange : Exchange α} {request : Request}
    {reading : Response → Except Failure α} (h : exchange.way = .request request reading) :
    exchange = .send request reading := by
  cases exchange with
  | impossible failure => cases h
  | send request' reading' =>
    cases h
    rfl

/-- Without a request, an exchange ends in a failure. -/
theorem Exchange.eq_error_of_way {α : Type} {exchange : Exchange α} {answer : Except Failure α}
    (way : exchange.way = .elsewhere ∨ exchange.way = .blocked answer) :
    ∃ failure, answer = .error failure := by
  rcases exchange with failure | ⟨request, reading⟩
  · rcases way with way | way
    · cases way
    · cases way
      exact ⟨failure, rfl⟩
  · rcases way with way | way
    · cases way
    · cases way

/-- The way of a call: those about the object go to the server. -/
def Call.way : (c : Call) → Way c.Answer
  | .fetch identity => (Client.fetch identity).way
  | .writeSpec object => (Client.writeSpec object).way
  | .writeStatus object => (Client.writeStatus object).way
  | _ => .elsewhere

/-- A reading of an object is a request for its document. -/
theorem Client.fetch_send {identity : Identity} {request : Request}
    {reading : Response → Except Failure (Option Jenkins)}
    (h : Client.fetch identity = .send request reading) :
    request.method = .get ∧ request.content = none
      ∧ reading = fun response => during s!"get jenkins {identity.text}"
          (response.documentIfFound Jenkins.ofJson?) := by
  rw [Client.fetch, Client.read_eq] at h
  split at h
  · cases h
    exact ⟨rfl, rfl, rfl⟩
  · cases h

/-- A write of an object is a request with its content, answered by the document that is stored. -/
theorem Client.write_send {operation : String} {object : Jenkins} {method : Method} {below : String}
    {content : String × Json} {request : Request} {reading : Response → Except Failure WriteOutcome}
    (h : Client.write operation object method below content = .send request reading) :
    request.method = method ∧ request.content = some content
      ∧ reading = fun response =>
          WriteOutcome.ofWrite operation (response.document Jenkins.ofJson?) := by
  unfold Client.write Client.named Exchange.toTarget at h
  split at h
  · cases h
  · split at h
    · cases h
    · split at h
      · cases h
        exact ⟨rfl, rfl, rfl⟩
      · cases h

/-! ## Endpoints -/

/-- What is served of an object at a path of its own. -/
inductive Endpoint where
  /-- The object. Its status can be read there, but not written. -/
  | object
  /-- The status of the object. -/
  | status
  deriving DecidableEq

namespace Endpoint

/-- The path of an endpoint, below that of the object. -/
def below : Endpoint → String
  | .object => ""
  | .status => "/status"

/-- What a write at an endpoint makes of an object: it replaces the part that the endpoint is for. -/
def replace : Endpoint → Jenkins → Jenkins → Jenkins
  | .object, old, new => { old with spec := new.spec }
  | .status, old, new => { old with status := new.status }

end Endpoint

/-- The path at which an object is served. Without a namespace there is none. -/
def Jenkins.path? (j : Jenkins) : Option String :=
  j.metadata.namespaceName.map fun namespaceName =>
    "/apis/jenkins.io/v1alpha1/namespaces/" ++ namespaceName ++ "/jenkins/" ++ j.name

/-- The endpoint of an object that a request goes to. There is none if it goes to another object. -/
def Request.endpoint? (request : Request) (j : Jenkins) : Option Endpoint :=
  j.path?.bind fun path =>
    [Endpoint.object, .status].find? fun endpoint => request.target.path = path ++ endpoint.below

/-- The endpoint that a request goes to, of the object that a document tells of. -/
def Request.endpointAt? (request : Request) (document : Members) : Option Endpoint :=
  (Jenkins.ofJson? (.object document)).bind request.endpoint?

theorem Request.endpointAt?_eq {document : Members} {j : Jenkins}
    (reads : Jenkins.ofJson? (.object document) = some j) (request : Request) :
    request.endpointAt? document = request.endpoint? j := by
  rw [endpointAt?, reads, Option.bind_some]

/-- A request that goes to an endpoint of an object goes to the path of it. -/
theorem Request.path_of_endpoint? {request : Request} {j : Jenkins} {endpoint : Endpoint}
    (goes : request.endpoint? j = some endpoint) :
    ∃ path, j.path? = some path ∧ request.target.path = path ++ endpoint.below := by
  obtain ⟨path, here, found⟩ := Option.bind_eq_some_iff.1 goes
  have ends := List.find?_some found
  exact ⟨path, here, of_decide_eq_true ends⟩

/-- The client names an object by the path at which a server has it. -/
theorem Client.jenkinsPath_append (namespaceName name : String) :
    jenkinsPath namespaceName ++ "/" ++ name
      = "/apis/jenkins.io/v1alpha1/namespaces/" ++ namespaceName ++ "/jenkins/" ++ name := by
  have before : "/apis/" ++ jenkinsApiVersion ++ "/namespaces/"
      = "/apis/jenkins.io/v1alpha1/namespaces/" := by decide
  have after : "/jenkins/" = "/jenkins" ++ "/" := by decide
  rw [jenkinsPath, before, after]
  simp only [String.append_assoc]

/-- Where a write of an object goes: to the path of the object and what is below that. -/
theorem Client.write_target {operation : String} {object : Jenkins} {method : Method} {below : String}
    {content : String × Json} {request : Request} {reading : Response → Except Failure WriteOutcome}
    (h : Client.write operation object method below content = .send request reading) :
    ∃ path, object.path? = some path
      ∧ Target.ofText? (path ++ below ++ "?") = some request.target := by
  unfold Client.write Client.named Exchange.toTarget at h
  split at h
  · cases h
  case h_2 namespaceName here =>
    split at h
    · cases h
    · split at h
      case h_1 target reads =>
        cases h
        rw [jenkinsPath_append] at reads
        exact ⟨_, congrArg (Option.map _) here, reads⟩
      · cases h

/-- A path that ends nowhere ends nowhere at an endpoint below it. -/
theorem Endpoint.pathOf_below (endpoint : Endpoint) {path : String}
    (clear : '?' ∉ path.toList ∧ '#' ∉ path.toList) :
    Target.pathOf (path ++ endpoint.below).toList = (path ++ endpoint.below).toList := by
  rw [Target.pathOf_eq_self_iff, String.toList_append, List.mem_append, List.mem_append, not_or,
    not_or]
  cases endpoint with
  | object => exact ⟨⟨clear.1, by decide⟩, clear.2, by decide⟩
  | status => exact ⟨⟨clear.1, by decide⟩, clear.2, by decide⟩

/-- A write of an object that goes to one of its endpoints goes to the one that it is meant for, and
its target is the path of that. -/
theorem Client.target_of_endpoint? (meant : Endpoint) {goes : Endpoint} {operation : String}
    {object : Jenkins} {method : Method} {content : String × Json} {request : Request}
    {reading : Response → Except Failure WriteOutcome}
    (sends : Client.write operation object method meant.below content = .send request reading)
    (reaches : request.endpoint? object = some goes) :
    goes = meant ∧ ∃ path, object.path? = some path ∧ request.target = ⟨path ++ meant.below, ""⟩ := by
  obtain ⟨path, here, reads⟩ := Client.write_target sends
  obtain ⟨path', here', ends⟩ := Request.path_of_endpoint? reaches
  obtain rfl : path = path' := Option.some.inj (here.symm.trans here')
  -- What arrives at the object has neither sign of an end in it, so nothing of it was taken away.
  have clear : '?' ∉ path.toList ∧ '#' ∉ path.toList := by
    have arrives : Target.pathOf (path ++ meant.below ++ "?").toList
        = (path ++ goes.below).toList := by
      rw [← ends, Target.eq_of_ofText? reads, String.toList_ofList]
    obtain ⟨noQuery, noEnd⟩ := Target.pathOf_clear (path ++ meant.below ++ "?").toList
    rw [arrives, String.toList_append, List.mem_append, not_or] at noQuery noEnd
    exact ⟨noQuery.1, noEnd.1⟩
  have target := Target.eq_of_ofText?_query (meant.pathOf_below clear) reads
  refine ⟨?_, path, here, target⟩
  -- What is below the path tells the endpoints apart.
  have below : goes.below = meant.below := by
    rw [target] at ends
    exact String.append_right_inj path |>.1 ends.symm
  cases goes <;> cases meant <;> first | rfl | exact absurd below (by decide)

/-! ## Circumstances -/

/-- What becomes of a request. An answer that the server did not give returns no object. -/
inductive Fate (c : Call) where
  /-- It is served and answered. -/
  | heard
  /-- It is served, and the answer gets lost. -/
  | unheard (answer : c.Answer) (silent : c.returned? answer = none)
  /-- It is not served. -/
  | unserved (answer : c.Answer) (silent : c.returned? answer = none)

/-- All that a pass meets, except for how its object is kept. -/
structure Circumstances (σ : Type) where
  /-- What others make of the object before a call is answered. -/
  edit : σ → Jenkins → Jenkins
  /-- What becomes of a request. -/
  fate : σ → (c : Call) → Fate c
  /-- The metadata of the object after a write. -/
  metadata : σ → Jenkins → Metadata
  /-- The answers to calls that do not go to the server. -/
  elsewhere : σ → (c : Call) → c.Answer
  /-- The answers to requests that go to another object. None of them returns an object. -/
  astray : σ → (c : Call) → c.Answer
  silent_astray : ∀ s (c : Call), c.returned? (astray s c) = none
  /-- What comes after an exchange. -/
  next : σ → Call.Exchange → σ

variable {σ : Type}

/-! ## A store of objects -/

namespace Circumstances

variable (w : Circumstances σ) (s : σ)

/-- A write of a changed object at the version that is stored. -/
def write (stored object : Jenkins) (change : Jenkins → Jenkins) :
    Except Failure WriteOutcome × Jenkins :=
  if object.metadata.resourceVersion = stored.metadata.resourceVersion then
    let after := { change stored with metadata := w.metadata s stored }
    (.ok (.updated after), after)
  else (.ok .conflict, stored)

/-- A write at the version that is stored is accepted, and stores the change with new metadata. -/
theorem write_of_eq {stored object : Jenkins}
    (same : object.metadata.resourceVersion = stored.metadata.resourceVersion)
    (change : Jenkins → Jenkins) :
    w.write s stored object change
      = (.ok (.updated { change stored with metadata := w.metadata s stored }),
        { change stored with metadata := w.metadata s stored }) := if_pos same

/-- A write at another version is a conflict, and stores nothing. -/
theorem write_of_ne {stored object : Jenkins}
    (differs : object.metadata.resourceVersion ≠ stored.metadata.resourceVersion)
    (change : Jenkins → Jenkins) : w.write s stored object change = (.ok .conflict, stored) :=
  if_neg differs

/-- What a store does that replaces what is written. -/
def replace (stored : Jenkins) : (c : Call) → c.Answer × Jenkins
  | .fetch _ => (.ok (some stored), stored)
  | .writeSpec object => w.write s stored object fun j => { j with spec := object.spec }
  | .writeStatus object => w.write s stored object fun j => { j with status := object.status }
  | c => (w.elsewhere s c, stored)

/-- The answer to a call, and the object that is stored then. -/
def settle (stored : Jenkins) (c : Call) : c.Answer × Jenkins :=
  match c.way with
  | .elsewhere => (w.elsewhere s c, stored)
  | .blocked answer => (answer, stored)
  | .request request _ =>
    match request.endpoint? stored with
    | none => (w.astray s c, stored)
    | some _ =>
      match w.fate s c with
      | .heard => w.replace s stored c
      | .unheard answer _ => (answer, (w.replace s stored c).2)
      | .unserved answer _ => (answer, stored)

section Settling

variable {w : Circumstances σ} {s : σ} {stored : Jenkins} {c : Call} {request : Request}
  {reading : Response → c.Answer}

/-- Nothing is stored with a call that does not go to the server. -/
theorem settle_of_elsewhere (way : c.way = .elsewhere) :
    w.settle s stored c = (w.elsewhere s c, stored) := by
  rw [settle, way]

/-- Nothing is stored with a call that there is no request for. -/
theorem settle_of_blocked {answer : c.Answer} (way : c.way = .blocked answer) :
    w.settle s stored c = (answer, stored) := by
  rw [settle, way]

/-- Nothing is stored with a request that goes to another object. -/
theorem settle_of_astray (way : c.way = .request request reading)
    (goes : request.endpoint? stored = none) :
    w.settle s stored c = (w.astray s c, stored) := by
  rw [settle, way]
  dsimp only
  rw [goes]

/-- What becomes of a request that goes to the object. -/
theorem settle_of_request {endpoint : Endpoint} (way : c.way = .request request reading)
    (goes : request.endpoint? stored = some endpoint) :
    w.settle s stored c
      = match w.fate s c with
        | .heard => w.replace s stored c
        | .unheard answer _ => (answer, (w.replace s stored c).2)
        | .unserved answer _ => (answer, stored) := by
  rw [settle, way]
  dsimp only
  rw [goes]

end Settling

/-- The answers of a store that replaces what is written. -/
def replacing (c : Call) (state : Jenkins × σ) : c.Answer × (Jenkins × σ) :=
  let settled := w.settle state.2 (w.edit state.2 state.1) c
  (settled.1, settled.2, w.next state.2 ⟨c, settled.1⟩)

end Circumstances

/-! ## A server of documents -/

/-- The version of a document. -/
def versionOf (json : Json) : Option String :=
  (Jenkins.ofJson? json).bind fun j => j.metadata.resourceVersion

/-- Whether a response gives a document. -/
structure Response.Tells (response : Response) (document : Members) : Prop where
  accepts : response.isRefusal = false
  reads : Json.ofText? response.body = some (.object document)

/-- Whether a response refuses a write as stale. -/
structure Response.IsStale (response : Response) : Prop where
  refuses : response.isRefusal = true
  code : response.refusal.code = conflictCode

namespace Response

variable {response : Response} {document : Members} {j : Jenkins}

/-- What a response tells is read as the object that the document is. -/
theorem Tells.document_eq (tells : response.Tells document)
    (reads : Jenkins.ofJson? (.object document) = some j) :
    response.document Jenkins.ofJson? = .ok j := by
  rw [Response.document, tells.accepts, tells.reads, Option.bind_some, reads]
  rfl

theorem Tells.documentIfFound_eq (tells : response.Tells document)
    (reads : Jenkins.ofJson? (.object document) = some j) :
    response.documentIfFound Jenkins.ofJson? = .ok (some j) := by
  rw [Response.documentIfFound, tells.document_eq reads]

/-- A stale write is reported as a conflict. -/
theorem IsStale.outcome (stale : response.IsStale) (operation : String) :
    WriteOutcome.ofWrite operation (response.document Jenkins.ofJson?) = .ok .conflict := by
  have conflict : ApiFault.isConflict (.refused response.refusal) = true :=
    beq_iff_eq.2 stale.code
  rw [Response.document, stale.refuses, if_pos rfl, WriteOutcome.ofWrite, if_pos conflict]

end Response

/-- The document that a request comes to, given the one that is there. -/
def Request.written? (request : Request) (document : Members) : Option Json :=
  request.content.map fun content =>
    if content.1 = mergePatchType then Json.merge (.object document) content.2 else content.2

/-- Whether a document has the version of the one that is there, or none. -/
def IsCurrent (document : Members) (written : Json) : Prop :=
  ∀ version ∈ versionOf written, versionOf (.object document) = some version

/-- What a server may do with a request that goes to an endpoint of the document that it keeps: its
response, and the document that it stores in place of that, if any. -/
inductive Handles (metadata : Jenkins → Metadata) (document : Members) (request : Request)
    (response : Response) : Option Members → Prop where
  | read (endpoint : Endpoint) : request.endpointAt? document = some endpoint →
      request.method = .get → response.Tells document →
      Handles metadata document request response none
  /-- The endpoint alone decides which part of the document is replaced. -/
  | landed (endpoint : Endpoint) (written : Json) (after : Members) :
      request.endpointAt? document = some endpoint → request.written? document = some written →
      IsCurrent document written →
      (∀ old new, Jenkins.ofJson? (.object document) = some old → Jenkins.ofJson? written = some new →
        Jenkins.ofJson? (.object after)
          = some { endpoint.replace old new with metadata := metadata old }) →
      response.Tells after → Handles metadata document request response (some after)
  | stale (endpoint : Endpoint) (written : Json) : request.endpointAt? document = some endpoint →
      request.written? document = some written → ¬IsCurrent document written → response.IsStale →
      Handles metadata document request response none

/-- A request is handled at an endpoint. -/
theorem Handles.exists_endpoint {metadata : Jenkins → Metadata} {document : Members}
    {request : Request} {response : Response} {stored : Option Members}
    (handles : Handles metadata document request response stored) :
    ∃ endpoint, request.endpointAt? document = some endpoint := by
  cases handles with
  | read endpoint goes _ _ => exact ⟨endpoint, goes⟩
  | landed endpoint written after goes _ _ _ _ => exact ⟨endpoint, goes⟩
  | stale endpoint written goes _ _ _ => exact ⟨endpoint, goes⟩

/-- The documents that a server has kept. -/
structure Shelf where
  document : Members
  /-- The documents before, the last one first. -/
  earlier : List Members
  /-- The accepted writes of a status, each with the document that was stored then. -/
  landings : List (Jenkins × Members)

namespace Shelf

/-- All documents, the last one first. -/
def history (shelf : Shelf) : List Members := shelf.document :: shelf.earlier

/-- The versions of all documents. -/
def versions (shelf : Shelf) : List (Option String) :=
  shelf.history.map fun document => versionOf (.object document)

/-- The shelf with another document, if there is one. -/
def keep (shelf : Shelf) : Option Members → Shelf
  | some document => { shelf with document, earlier := shelf.history }
  | none => shelf

/-- The shelf with the record of an accepted write. -/
def record (shelf : Shelf) : Call → Option Members → Shelf
  | .writeStatus object, some document =>
    { shelf with landings := (object, document) :: shelf.landings }
  | _, _ => shelf

/-- Whether a document, if there is one, has a version that none has had before. -/
def Renews (shelf : Shelf) (document : Option Members) : Prop :=
  ∀ d ∈ document, versionOf (.object d) ∉ shelf.versions

theorem document_keep (shelf : Shelf) (document : Option Members) :
    (shelf.keep document).document = document.getD shelf.document := by
  cases document with
  | none => rfl
  | some d => rfl

theorem history_subset_keep (shelf : Shelf) (document : Option Members) :
    shelf.history ⊆ (shelf.keep document).history := by
  cases document with
  | none => exact List.Subset.refl _
  | some d => exact List.subset_cons_self d shelf.history

/-- As long as each document has a new version, no version is given twice. -/
theorem Renews.nodup {shelf : Shelf} {document : Option Members} (renews : shelf.Renews document)
    (distinct : shelf.versions.Nodup) : (shelf.keep document).versions.Nodup := by
  cases document with
  | none => exact distinct
  | some d => exact List.nodup_cons.2 ⟨renews d rfl, distinct⟩

theorem document_record (shelf : Shelf) (c : Call) (stored : Option Members) :
    (shelf.record c stored).document = shelf.document := by
  unfold record
  split
  · rfl
  · rfl

theorem history_record (shelf : Shelf) (c : Call) (stored : Option Members) :
    (shelf.record c stored).history = shelf.history := by
  unfold record
  split
  · rfl
  · rfl

/-- A record of an accepted write is the last one or an earlier one. -/
theorem mem_landings_record {shelf : Shelf} {c : Call} {stored : Option Members}
    {write : Jenkins × Members} (mem : write ∈ (shelf.record c stored).landings) :
    (c = .writeStatus write.1 ∧ stored = some write.2) ∨ write ∈ shelf.landings := by
  unfold record at mem
  split at mem
  · rcases List.mem_cons.1 mem with rfl | earlier
    · exact .inl ⟨rfl, rfl⟩
    · exact .inr earlier
  · exact .inr mem

theorem landings_keep (shelf : Shelf) (document : Option Members) :
    (shelf.keep document).landings = shelf.landings := by
  cases document with
  | none => rfl
  | some d => rfl

end Shelf

namespace Circumstances

/-- What others make of the document before a call is answered: another one, or nothing. -/
def Edits (w : Circumstances σ) (s : σ) (document : Members) (edited : Option Members) : Prop :=
  ∀ j, Jenkins.ofJson? (.object document) = some j →
    Jenkins.ofJson? (.object (edited.getD document)) = some (w.edit s j)

/-- How a call may be answered, and which document the server stores with it. -/
inductive Replies (w : Circumstances σ) (s : σ) (document : Members) (c : Call) :
    c.Answer → Option Members → Prop where
  | elsewhere : c.way = .elsewhere → Replies w s document c (w.elsewhere s c) none
  | blocked (answer : c.Answer) : c.way = .blocked answer → Replies w s document c answer none
  | astray {request : Request} {reading : Response → c.Answer} : c.way = .request request reading →
      request.endpointAt? document = none → Replies w s document c (w.astray s c) none
  | unserved {request : Request} {reading : Response → c.Answer} (endpoint : Endpoint)
      (answer : c.Answer) (silent : c.returned? answer = none) : c.way = .request request reading →
      request.endpointAt? document = some endpoint → w.fate s c = .unserved answer silent →
      Replies w s document c answer none
  | heard {request : Request} {reading : Response → c.Answer} (response : Response)
      {stored : Option Members} : c.way = .request request reading → w.fate s c = .heard →
      Handles (w.metadata s) document request response stored →
      Replies w s document c (reading response) stored
  | unheard {request : Request} {reading : Response → c.Answer} (response : Response)
      {stored : Option Members} (answer : c.Answer) (silent : c.returned? answer = none) :
      c.way = .request request reading → w.fate s c = .unheard answer silent →
      Handles (w.metadata s) document request response stored → Replies w s document c answer stored

/-- By these exchanges, a program that started with a document comes to what is left of it. -/
inductive Unfolds {ε α : Type} (w : Circumstances σ) (p : Program ε α) (document : Members)
    (start : σ) : Past → Program ε α → Shelf → σ → Prop where
  | start : Unfolds w p document start [] p ⟨document, [], []⟩ start
  | answered {past : Past} {c : Call} {resume : c.Answer → Program ε α} {shelf : Shelf} {s : σ}
      (edited : Option Members) (answer : c.Answer) (stored : Option Members) :
      Unfolds w p document start past (.call c resume) shelf s →
      w.Edits s shelf.document edited → shelf.Renews edited →
      w.Replies s (shelf.keep edited).document c answer stored →
      (shelf.keep edited).Renews stored →
      Unfolds w p document start (⟨c, answer⟩ :: past) (resume answer)
        (((shelf.keep edited).keep stored).record c stored) (w.next s ⟨c, answer⟩)

end Circumstances

/-! ## A willing server -/

/-- Whether a document is read back from its text. The text is taken as its characters, as which it is
both printed and read. -/
def Members.IsLegible (document : Members) : Prop :=
  (Token.list? (Json.object document).chars).bind Json.ofTokens? = some (.object document)

instance (document : Members) : Decidable document.IsLegible := inferInstanceAs (Decidable (_ = _))

/-- A document that can be read back from its text is told by a response with that text. -/
theorem Members.IsLegible.tells {document : Members} (legible : document.IsLegible) :
    (⟨200, (Json.object document).text⟩ : Response).Tells document := by
  refine ⟨rfl, ?_⟩
  rw [Json.ofText?, Json.text, String.toList_ofList]
  exact legible

/-- The answer to a request by which an object is returned. -/
def Call.answered? (j : Jenkins) : (c : Call) → Option c.Answer
  | .fetch _ => some (.ok (some j))
  | .writeSpec _ => some (.ok (.updated j))
  | .writeStatus _ => some (.ok (.updated j))
  | _ => none

theorem Call.answered?_eq {c : Call} {request : Request} {reading : Response → c.Answer}
    {response : Response} {document : Members} {j : Jenkins}
    (way : c.way = .request request reading) (tells : response.Tells document)
    (reads : Jenkins.ofJson? (.object document) = some j) :
    c.answered? j = some (reading response) := by
  cases c with
  | fetch identity =>
    obtain ⟨-, -, rfl⟩ := Client.fetch_send (Exchange.way_eq_request way)
    exact congrArg (fun told => some (during _ told)) (tells.documentIfFound_eq reads).symm
  | writeSpec object =>
    obtain ⟨-, -, rfl⟩ := Client.write_send (Exchange.way_eq_request way)
    exact congrArg (fun told => some (WriteOutcome.ofWrite _ told)) (tells.document_eq reads).symm
  | writeStatus object =>
    obtain ⟨-, -, rfl⟩ := Client.write_send (Exchange.way_eq_request way)
    exact congrArg (fun told => some (WriteOutcome.ofWrite _ told)) (tells.document_eq reads).symm
  | _ => cases way

instance (document : Members) (written : Json) : Decidable (IsCurrent document written) :=
  inferInstanceAs (Decidable (∀ version ∈ versionOf written, _))

instance (shelf : Shelf) (document : Option Members) : Decidable (shelf.Renews document) :=
  inferInstanceAs (Decidable (∀ d ∈ document, _))

namespace Circumstances

/-- Whether nobody else changes the object, and every request is heard. -/
structure IsCalm (w : Circumstances σ) : Prop where
  alone : ∀ s j, w.edit s j = j
  heard : ∀ s c, w.fate s c = .heard

variable {ε α : Type} (w : Circumstances σ) (stamp : Members)

/-- The answer of a server that accepts every write, with members that each document is stored with.
There is none if that is not what a server does. -/
def serve? (s : σ) (document : Members) (c : Call) : Option (c.Answer × Option Members) :=
  match c.way with
  | .elsewhere => some (w.elsewhere s c, none)
  | .blocked answer => some (answer, none)
  | .request request _ =>
    match request.endpointAt? document with
    | none => some (w.astray s c, none)
    | some endpoint =>
      match request.written? document with
      | none =>
        if request.method = .get ∧ document.IsLegible then
          ((Jenkins.ofJson? (.object document)).bind c.answered?).map fun answer => (answer, none)
        else none
      | some written =>
        let after := Json.mergeMembers written.membersOf stamp
        if IsCurrent document written ∧ after.IsLegible
            ∧ ∀ old ∈ Jenkins.ofJson? (.object document), ∀ new ∈ Jenkins.ofJson? written,
              Jenkins.ofJson? (.object after)
                = some { endpoint.replace old new with metadata := w.metadata s old } then
          ((Jenkins.ofJson? (.object after)).bind c.answered?).map fun answer => (answer, some after)
        else none

variable {w stamp}

/-- In calm circumstances, the answers of the willing server are those of a server. -/
theorem IsCalm.replies (calm : w.IsCalm) {s : σ} {document : Members} {c : Call} {answer : c.Answer}
    {stored : Option Members} (served : w.serve? stamp s document c = some (answer, stored)) :
    w.Replies s document c answer stored := by
  unfold serve? at served
  split at served
  case h_1 way =>
    cases served
    exact .elsewhere way
  case h_2 answer way =>
    cases served
    exact .blocked answer way
  case h_3 request reading way =>
    -- What is returned is what the response tells, so that the answer is its reading.
    have heard {told : Members} {kept : Option Members} (legible : told.IsLegible)
        (handles : Handles (w.metadata s) document request ⟨200, (Json.object told).text⟩ kept)
        (answered : ((Jenkins.ofJson? (.object told)).bind c.answered?).map (fun a => (a, kept))
          = some (answer, stored)) : w.Replies s document c answer stored := by
      obtain ⟨a, returned, same⟩ := Option.map_eq_some_iff.1 answered
      obtain ⟨j, reads, returned⟩ := Option.bind_eq_some_iff.1 returned
      cases same
      cases (Call.answered?_eq way legible.tells reads).symm.trans returned
      exact .heard _ way (calm.heard s c) handles
    split at served
    case h_1 goes =>
      cases served
      exact .astray way goes
    case h_2 endpoint goes =>
      split at served
      case h_1 =>
        split at served
        case isTrue reading =>
          exact heard reading.2 (.read endpoint goes reading.1 reading.2.tells) served
        case isFalse => cases served
      case h_2 written comes =>
        dsimp only at served
        split at served
        case isTrue accepted =>
          obtain ⟨current, legible, keeps⟩ := accepted
          exact heard legible (.landed endpoint written _ goes comes current
            (fun old new reads becomes => keeps old reads new becomes) legible.tells) served
        case isFalse => cases served

variable (w stamp)

/-- A program to its end, with that server. -/
def attend? : Program ε α → Past → Shelf → σ → Option (Past × Except ε α × Shelf × σ)
  | .done value, past, shelf, s => some (past, .ok value, shelf, s)
  | .exit reason, past, shelf, s => some (past, .error reason, shelf, s)
  | .call c resume, past, shelf, s =>
    match w.serve? stamp s shelf.document c with
    | some (answer, stored) =>
      if shelf.Renews stored then
        attend? (resume answer) (⟨c, answer⟩ :: past) ((shelf.keep stored).record c stored)
          (w.next s ⟨c, answer⟩)
      else none
    | none => none

variable {w stamp}

/-- A program that the willing server attends to its end unfolds with a server. -/
theorem Unfolds.attend (calm : w.IsCalm) {p rest : Program ε α} {document : Members} {start s s' : σ}
    {past past' : Past} {shelf shelf' : Shelf} {result : Except ε α}
    (unfolds : w.Unfolds p document start past rest shelf s)
    (attended : w.attend? stamp rest past shelf s = some (past', result, shelf', s')) :
    ∃ rest', w.Unfolds p document start past' rest' shelf' s' ∧ rest'.result? = some result := by
  induction rest generalizing past shelf s with
  | done value =>
    cases attended
    exact ⟨_, unfolds, rfl⟩
  | exit reason =>
    cases attended
    exact ⟨_, unfolds, rfl⟩
  | call c resume ih =>
    unfold attend? at attended
    split at attended
    case h_1 answer stored served =>
      split at attended
      case isTrue renews =>
        have unedited : w.Edits s shelf.document none := fun j reads => (calm.alone s j).symm ▸ reads
        exact ih answer
          (unfolds.answered none answer stored unedited nofun (calm.replies served) renews) attended
      case isFalse => cases attended
    case h_2 => cases attended

end Circumstances

end JenkinsOperator
