import JenkinsOperator.Data.Bounds
import JenkinsOperator.Failure
import JenkinsOperator.Text.Digits

/-!
# A store with optimistic concurrency

Jenkins objects by the texts of their identities: where a slash in a namespace or a name makes two
texts equal, the two are one object. Every accepted write gives the object its next version, and a
write is accepted only at the version that is stored. A write replaces either the specification or
the status and leaves the other as it is stored; one that changes the specification also counts the
generation up, if the object has one.

Versions and generations are counted in words of 64 bits, and after the last one they start over.
-/

namespace JenkinsOperator

/-- The number of a version; a version that is no number of 64 bits counts as zero. -/
def versionNumber (version : String) : Nat :=
  match Text.unsigned? version.toList with
  | some n => if fitsWord n then n else 0
  | none => 0

/-- The version after another. -/
def nextVersion (version : Option String) : String :=
  Nat.repr ((versionNumber (version.getD "") + 1) % UInt64.size)

/-- The generation after another. -/
def nextGeneration (generation : Int) : Int := (generation + 1).bmod UInt64.size

namespace Jenkins

/-- The object at its next version. -/
def bump (j : Jenkins) : Jenkins :=
  { j with metadata :=
    { j.metadata with resourceVersion := some (nextVersion j.metadata.resourceVersion) } }

/-- The object with another specification, at its next version. -/
def withSpec (j : Jenkins) (spec : JenkinsSpec) : Jenkins :=
  let generation :=
    if j.spec = spec then j.metadata.generation else j.metadata.generation.map nextGeneration
  bump { j with spec, metadata := { j.metadata with generation } }

/-- The object with another status, at its next version. -/
def withStatus (j : Jenkins) (status : Option JenkinsStatus) : Jenkins :=
  bump { j with status }

end Jenkins

/-- The objects of a cluster. -/
structure Store where
  /-- Each object under the text of its identity. -/
  objects : OrderedMap String Jenkins

namespace Store

/-- The store without objects. -/
def empty : Store := ⟨.empty⟩

/-- The object of an identity. -/
def find? (s : Store) (identity : Identity) : Option Jenkins := s.objects.find? identity.text

/-- The store with an object in place of any of the same identity; an object without a version gets
the first one. -/
def put (s : Store) (j : Jenkins) : Store :=
  let version := j.metadata.resourceVersion.getD "1"
  ⟨s.objects.insert j.identity.text { j with metadata :=
    { j.metadata with resourceVersion := some version } }⟩

/-- The store without an object. -/
def delete (s : Store) (identity : Identity) : Store := ⟨s.objects.erase identity.text⟩

/-- The store with an object changed, if it is there. -/
def modify (s : Store) (identity : Identity) (f : Jenkins → Jenkins) : Store :=
  match s.find? identity with
  | some j => ⟨s.objects.insert identity.text (f j)⟩
  | none => s

/-- The store with every object at its next version. -/
def touchAll (s : Store) : Store := ⟨s.objects.mapValues Jenkins.bump⟩

/-- The failure of a write to an object that is not there. -/
def gone (identity : Identity) : Failure :=
  .api s!"write {identity.text}" (.refused ⟨"Failure", 404, "NotFound", "gone"⟩)

/-- A write of a changed object at the version that the writer holds. -/
def write (s : Store) (held : Jenkins) (change : Jenkins → Jenkins) :
    Except Failure WriteOutcome × Store :=
  match s.find? held.identity with
  | none => (.error (gone held.identity), s)
  | some stored =>
    if stored.metadata.resourceVersion = held.metadata.resourceVersion then
      let changed := change stored
      (.ok (.updated changed), ⟨s.objects.insert held.identity.text changed⟩)
    else (.ok .conflict, s)

/-- Replaces the specification of an object at the version that the writer holds. -/
def writeSpec (s : Store) (held : Jenkins) : Except Failure WriteOutcome × Store :=
  s.write held fun stored => stored.withSpec held.spec

/-- Replaces the status of an object at the version that the writer holds. -/
def writeStatus (s : Store) (held : Jenkins) : Except Failure WriteOutcome × Store :=
  s.write held fun stored => stored.withStatus held.status

/-- The objects in order of the texts of their identities. -/
def listing (s : Store) : List Jenkins := s.objects.entries.map Prod.snd

end Store

end JenkinsOperator
