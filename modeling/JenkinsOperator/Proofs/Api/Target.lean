import JenkinsOperator.Api.Client
import JenkinsOperator.Proofs.Text.Cut
import Mathlib.Data.List.TakeWhile

/-!
# What a name becomes in a target

A name stands in a target as it is. `Target.ofText?_append` says what becomes of it: the path takes it
up to the first question mark, the query takes what comes then, and nothing of it is sent from the
number sign on. A name that can be sent is therefore one segment of the path, and all of the target
after the kind, only if it has none of `/`, `?` and `#`.

`Client.readSecret_target` is that law for Secrets, whatever the name and whatever the namespace that
the cluster can have. It says of every request for a Secret where it goes, and of which names it goes
to the Secret of that name. `Client.readSecret_elsewhere` is a name with which it goes to another
namespace.
-/

namespace JenkinsOperator

namespace Target

/-- What a path takes of a name. -/
def pathOf (name : List Char) : List Char := (name.takeWhile (· != '#')).takeWhile (· != '?')

/-- What a query takes of a name. -/
def queryOf (name : List Char) : List Char :=
  ((name.takeWhile (· != '#')).dropWhile (· != '?')).drop 1

/-- Whether all of a name stays together in a path. -/
def isSegment (name : List Char) : Bool := name.all fun c => c != '/' && c != '?' && c != '#'

/-- A name after a path that can be sent adds its own part to the path and its own to the query, if
these can be sent too. -/
theorem ofText?_append {path : String} (clear : path.toList.all isPathChar) (name : String) :
    ofText? (path ++ name)
      = if (path ++ name).utf8ByteSize ≤ longest ∧ (pathOf name.toList).all isPathChar
          ∧ (queryOf name.toList).all isQueryChar then
          some ⟨path ++ String.ofList (pathOf name.toList), String.ofList (queryOf name.toList)⟩
        else none := by
  have noEnd : ∀ c ∈ path.toList, (c != '#') = true := by
    intro c mem
    have fits := List.all_eq_true.1 clear c mem
    simp only [isPathChar, isTargetChar, Bool.and_eq_true] at fits
    exact fits.1.1.1.1.2
  have noQuery : ∀ c ∈ path.toList, (c != '?') = true := by
    intro c mem
    have fits := List.all_eq_true.1 clear c mem
    simp only [isPathChar, Bool.and_eq_true] at fits
    exact fits.1.2
  unfold ofText?
  simp only [String.toList_append, List.takeWhile_append_of_pos noEnd,
    List.takeWhile_append_of_pos noQuery, List.dropWhile_append_of_pos noQuery, List.all_append,
    clear, Bool.true_and, String.ofList_append, String.ofList_toList]
  rfl

/-- All characters of a text differ from a sign if the text is without it. -/
theorem forall_bne_iff {text : List Char} {sign : Char} :
    (∀ c ∈ text, (c != sign) = true) ↔ sign ∉ text := by
  simp only [bne_iff_ne]
  exact List.forall_mem_ne'

/-- The path of a target has neither sign in it. -/
theorem pathOf_clear (text : List Char) : '?' ∉ pathOf text ∧ '#' ∉ pathOf text := by
  constructor
  · exact forall_bne_iff.1 fun c mem => List.mem_takeWhile_imp (p := (· != '?')) mem
  · exact forall_bne_iff.1 fun c mem =>
      List.mem_takeWhile_imp (p := (· != '#')) ((List.takeWhile_sublist _).subset mem)

/-- A path takes all of a name if neither the query nor the end begins in it. -/
theorem pathOf_eq_self_iff {name : List Char} : pathOf name = name ↔ '?' ∉ name ∧ '#' ∉ name := by
  constructor
  · intro all
    rw [← all]
    exact pathOf_clear name
  · rintro ⟨noQuery, noEnd⟩
    rw [pathOf, List.takeWhile_eq_self_iff.2 (forall_bne_iff.2 noEnd),
      List.takeWhile_eq_self_iff.2 (forall_bne_iff.2 noQuery)]

/-- The query takes nothing of a name that the path takes all of. -/
theorem queryOf_eq_nil {name : List Char} (all : pathOf name = name) : queryOf name = [] := by
  obtain ⟨noQuery, noEnd⟩ := pathOf_eq_self_iff.1 all
  have whole : name.takeWhile (· != '#') = name :=
    List.takeWhile_eq_self_iff.2 (forall_bne_iff.2 noEnd)
  have none : name.dropWhile (· != '?') = [] :=
    List.dropWhile_eq_nil_iff.2 (forall_bne_iff.2 noQuery)
  rw [queryOf, whole, none, List.drop_nil]

/-- A target is the path and the query of the text that it was read from. -/
theorem eq_of_ofText? {text : String} {target : Target} (reads : ofText? text = some target) :
    target = ⟨String.ofList (pathOf text.toList), String.ofList (queryOf text.toList)⟩ := by
  unfold ofText? at reads
  dsimp only at reads
  split at reads
  · exact (Option.some.inj reads).symm
  · cases reads

/-- A text that the path takes all of is the path of its target, also with an empty query. -/
theorem eq_of_ofText?_query {text : String} {target : Target}
    (clear : pathOf text.toList = text.toList) (reads : ofText? (text ++ "?") = some target) :
    target = ⟨text, ""⟩ := by
  obtain ⟨noQuery, noEnd⟩ := pathOf_eq_self_iff.1 clear
  have signs : (text ++ "?").toList = text.toList ++ ['?'] := String.toList_append
  have whole : (text.toList ++ ['?']).takeWhile (· != '#') = text.toList ++ ['?'] := by
    refine List.takeWhile_eq_self_iff.2 (forall_bne_iff.2 ?_)
    rw [List.mem_append, not_or]
    exact ⟨noEnd, by decide⟩
  rw [eq_of_ofText? reads, signs, pathOf, queryOf, whole,
    List.takeWhile_append_of_pos (forall_bne_iff.2 noQuery),
    List.dropWhile_append_of_pos (forall_bne_iff.2 noQuery)]
  exact congrArg (Target.mk · "") ((congrArg String.ofList (List.append_nil _)).trans
    (String.ofList_toList))

/-- A name stays together if the path takes all of it and it has no separator. -/
theorem isSegment_iff {name : List Char} :
    isSegment name = true ↔ pathOf name = name ∧ '/' ∉ name := by
  rw [pathOf_eq_self_iff, isSegment, List.all_eq_true]
  simp only [Bool.and_eq_true, bne_iff_ne]
  constructor
  · intro h
    exact ⟨⟨fun mem => (h _ mem).1.2 rfl, fun mem => (h _ mem).2 rfl⟩, fun mem => (h _ mem).1.1 rfl⟩
  · rintro ⟨⟨noQuery, noEnd⟩, noSlash⟩ c mem
    refine ⟨⟨?_, ?_⟩, ?_⟩
    · exact fun same => noSlash (same ▸ mem)
    · exact fun same => noQuery (same ▸ mem)
    · exact fun same => noEnd (same ▸ mem)

/-- The segments before the name of a Secret. -/
def segmentsOf (namespaceName : String) : List String :=
  ["", "api", "v1", "namespaces", namespaceName, "secrets"]

/-- Whether a target is the Secret of a namespace and a name: its path has these two and the kind, each
of them as one segment, and it has no query. -/
def IsSecret (t : Target) (i : Identity) : Prop :=
  Text.splitOn '/' t.path.toList = (segmentsOf i.namespaceName ++ [i.name]).map String.toList
    ∧ t.query = ""

instance (t : Target) (i : Identity) : Decidable (t.IsSecret i) := inferInstanceAs (Decidable (_ ∧ _))

end Target

/-- A lower-case letter, a digit, a dash or a dot. -/
def isResourceChar (c : Char) : Bool := c.isLower || c.isDigit || c == '-' || c == '.'

/-- Whether a text is a name that the cluster gives: of at most 253 lower-case letters, digits, dashes
and dots, the first and the last of them a letter or a digit. -/
def isResourceName (s : String) : Bool :=
  decide (s.length ≤ 253) && s.toList.all isResourceChar
    && s.toList.head?.any (fun c => c.isLower || c.isDigit)
    && s.toList.getLast?.any (fun c => c.isLower || c.isDigit)

/-- The characters of such a name can stand in a path, and end no segment. -/
theorem isPathChar_of_isResourceChar {c : Char} (h : isResourceChar c = true) :
    Target.isPathChar c = true ∧ c ≠ '/' := by
  -- By its code point a character is visible, and by being one of these it is none of the others.
  have number : 97 ≤ c.toNat ∧ c.toNat ≤ 122 ∨ 48 ≤ c.toNat ∧ c.toNat ≤ 57 ∨ c.toNat = 45
      ∨ c.toNat = 46 := by
    have kinds := h
    simp only [isResourceChar, Bool.or_eq_true, beq_iff_eq, or_assoc] at kinds
    obtain lower | digit | rfl | rfl := kinds
    · obtain ⟨low, high⟩ := Bool.and_eq_true_iff.1 lower
      exact .inl ⟨of_decide_eq_true low, of_decide_eq_true high⟩
    · obtain ⟨low, high⟩ := Bool.and_eq_true_iff.1 digit
      exact .inr (.inl ⟨of_decide_eq_true low, of_decide_eq_true high⟩)
    · decide
    · decide
  have above : 0x20 < c.toNat := by omega
  have grave : c.toNat ≠ 0x60 := by omega
  have other {d : Char} (hd : isResourceChar d = false) : c ≠ d := by
    rintro rfl
    exact Bool.noConfusion (h.symm.trans hd)
  refine ⟨?_, other (by decide)⟩
  simp only [Target.isPathChar, Target.isTargetChar, Bool.and_eq_true, decide_eq_true_eq, bne_iff_ne]
  exact ⟨⟨⟨⟨⟨⟨above, other (by decide)⟩, other (by decide)⟩, other (by decide)⟩, other (by decide)⟩,
    other (by decide)⟩, grave⟩

theorem isResourceChar_of_isResourceName {s : String} (valid : isResourceName s = true) {c : Char}
    (mem : c ∈ s.toList) : isResourceChar c = true := by
  simp only [isResourceName, Bool.and_eq_true, List.all_eq_true] at valid
  exact valid.1.1.2 c mem

namespace Client

/-- The target of a named object below a path, unless the name is empty or cannot be sent. -/
def targetOf? (path name : String) : Option Target :=
  if name.isEmpty then none else Target.ofText? (path ++ "/" ++ name)

/-- An object is asked for by its name, unless that leads to no target. -/
theorem read_eq {α : Type} (operation path name : String) (decode? : Json → Option α) :
    read operation path name decode?
      = match targetOf? path name with
        | some target =>
          .send ⟨.get, target, none⟩ fun response => during operation (response.documentIfFound decode?)
        | none => .impossible (.api operation .unsendable) := by
  unfold read named targetOf?
  by_cases empty : name.isEmpty = true
  · rw [if_pos empty, if_pos empty]
  · rw [if_neg empty, if_neg empty]
    rfl

theorem toList_secretsPath (namespaceName : String) :
    (secretsPath namespaceName ++ "/").toList
      = "/api/v1/namespaces/".toList ++ namespaceName.toList ++ "/secrets".toList ++ "/".toList := by
  unfold secretsPath
  -- The texts are put aside, or they are unfolded in search of an appending.
  generalize "/api/v1/namespaces/" = before, "/secrets" = after, "/" = last
  simp only [String.toList_append]

/-- The parts of the path of a Secret are those of the path of all Secrets, and then those of the
name. -/
theorem splitOn_secretsPath {namespaceName : String} (valid : isResourceName namespaceName = true)
    (name : List Char) :
    Text.splitOn '/' ((secretsPath namespaceName ++ "/").toList ++ name)
      = (Target.segmentsOf namespaceName).map String.toList ++ Text.splitOn '/' name := by
  have segment : '/' ∉ namespaceName.toList := fun mem =>
    (isPathChar_of_isResourceChar (isResourceChar_of_isResourceName valid mem)).2 rfl
  have before : "/api/v1/namespaces/".toList = "".toList ++ '/' :: ("api".toList
      ++ '/' :: ("v1".toList ++ '/' :: ("namespaces".toList ++ ['/']))) := by decide
  have after : "/secrets".toList ++ "/".toList = '/' :: ("secrets".toList ++ ['/']) := by decide
  have shape : (secretsPath namespaceName ++ "/").toList ++ name = "".toList ++ '/' :: ("api".toList
      ++ '/' :: ("v1".toList ++ '/' :: ("namespaces".toList ++ '/' :: (namespaceName.toList
      ++ '/' :: ("secrets".toList ++ '/' :: name))))) := by
    rw [toList_secretsPath, List.append_assoc _ "/secrets".toList, after, before]
    simp only [List.append_assoc, List.cons_append, List.nil_append]
  rw [shape, Text.splitOn_append (by decide), Text.splitOn_append (by decide),
    Text.splitOn_append (by decide), Text.splitOn_append (by decide), Text.splitOn_append segment,
    Text.splitOn_append (by decide)]
  rfl

/-- The path of all Secrets of a namespace can stand in a target. -/
theorem isPathChar_secretsPath {namespaceName : String} (valid : isResourceName namespaceName = true) :
    (secretsPath namespaceName ++ "/").toList.all Target.isPathChar = true := by
  have middle : namespaceName.toList.all Target.isPathChar = true :=
    List.all_eq_true.2 fun c mem =>
      (isPathChar_of_isResourceChar (isResourceChar_of_isResourceName valid mem)).1
  have before : "/api/v1/namespaces/".toList.all Target.isPathChar = true := by decide
  have after : "/secrets".toList.all Target.isPathChar = true := by decide
  have last : "/".toList.all Target.isPathChar = true := by decide
  simp only [toList_secretsPath, List.all_append, before, middle, after, last, Bool.and_self]

/-- Where a request for a Secret goes, if it can be sent. -/
theorem target_secretsPath {i : Identity} (valid : isResourceName i.namespaceName = true)
    {target : Target} (sendable : targetOf? (secretsPath i.namespaceName) i.name = some target) :
    target = ⟨secretsPath i.namespaceName ++ "/" ++ String.ofList (Target.pathOf i.name.toList),
      String.ofList (Target.queryOf i.name.toList)⟩ := by
  unfold targetOf? at sendable
  split at sendable
  · exact nomatch sendable
  · rw [Target.ofText?_append (isPathChar_secretsPath valid)] at sendable
    split at sendable
    · exact (Option.some.inj sendable).symm
    · exact nomatch sendable

/-- A request for a Secret is made for its name or not at all, is a reading, and goes where the name
leads from the Secrets of the namespace. That is the Secret of that name if and only if the name has
none of the three signs that end a segment, a path and a target. -/
theorem readSecret_target {i : Identity} (valid : isResourceName i.namespaceName = true) :
    match readSecret i with
    | .impossible failure => failure = .api s!"get secret {i.text}" .unsendable
    | .send request _ =>
      request.method = .get ∧ request.content = none
        ∧ request.target.path
            = secretsPath i.namespaceName ++ "/" ++ String.ofList (Target.pathOf i.name.toList)
        ∧ request.target.query = String.ofList (Target.queryOf i.name.toList)
        ∧ (request.target.IsSecret i ↔ Target.isSegment i.name.toList = true) := by
  rw [readSecret, read_eq]
  cases sendable : targetOf? (secretsPath i.namespaceName) i.name with
  | none => rfl
  | some target =>
    obtain rfl := target_secretsPath valid sendable
    refine ⟨rfl, rfl, rfl, rfl, ?_⟩
    -- The parts before the name cancel, and what the path took of the name is a single part.
    have parts := splitOn_secretsPath valid (Target.pathOf i.name.toList)
    rw [Target.IsSecret, String.toList_append, String.toList_ofList, parts, Target.segmentsOf,
      List.map_append, List.append_cancel_left_eq, List.map_singleton, Text.splitOn_eq_singleton,
      Target.isSegment_iff]
    constructor
    · rintro ⟨⟨whole, single⟩, -⟩
      exact ⟨whole, whole ▸ single⟩
    · rintro ⟨whole, single⟩
      rw [whole, Target.queryOf_eq_nil whole]
      exact ⟨⟨rfl, single⟩, rfl⟩

theorem readSecret_target_named :
    isResourceName "default" = true ∧ ∃ request reading,
      readSecret ⟨"default", "deploy-key"⟩ = .send request reading
        ∧ request.target.IsSecret ⟨"default", "deploy-key"⟩ := by
  have valid : isResourceName "default" = true := by decide
  have goes := readSecret_target (i := ⟨"default", "deploy-key"⟩) valid
  exact ⟨valid, _, _, rfl, goes.2.2.2.2.2 (by decide)⟩

/-- A name with which the request goes to the Secret of another namespace. -/
theorem readSecret_elsewhere :
    isResourceName "default" = true ∧ ∃ request reading,
      readSecret ⟨"default", "../../other/secrets/key"⟩ = .send request reading
        ∧ request.target.path = "/api/v1/namespaces/default/secrets/../../other/secrets/key"
        ∧ ¬request.target.IsSecret ⟨"default", "../../other/secrets/key"⟩ := by
  refine ⟨by decide, _, _, rfl, by decide +kernel, by decide +kernel⟩

end Client

end JenkinsOperator
