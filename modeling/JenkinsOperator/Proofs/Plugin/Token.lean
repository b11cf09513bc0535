import JenkinsOperator.Plugin.Basic
import JenkinsOperator.Proofs.Text.Class
import JenkinsOperator.Proofs.Text.Cut

/-!
# Which tokens are plugins

`Reads` says what becomes of a token, with one rule for each outcome. A token with a colon is taken
apart at its first one (`CutAtColon`); the part before it decides first. Reading a token follows the
rules and nothing else (`ofToken_eq_iff`).

A name has no colon in it, so of all colons of a printed plugin the one that was printed comes
first. `Plugin.ofToken_exact` puts together what that makes of reading and printing: each undoes the
other, and an error names a part of the token as it stands there.
-/

namespace JenkinsOperator.Plugin

open Text (IsWord)

/-- A plugin name: a word that may hold hyphens and underscores. -/
def IsName (s : String) : Prop := IsWord ['-', '_'] s

/-- A plugin version: a word that may also hold dots. -/
def IsVersion (s : String) : Prop := IsWord ['.', '-', '_'] s

instance : DecidablePred IsName := fun s => inferInstanceAs (Decidable (IsWord _ s))

instance : DecidablePred IsVersion := fun s => inferInstanceAs (Decidable (IsWord _ s))

/-- A token has these two parts before and after its first colon. -/
structure CutAtColon (token before after : String) : Prop where
  whole : token = before ++ ":" ++ after
  first : ':' ∉ before.toList

/-- What becomes of a token. -/
inductive Reads (token : String) : Except TokenError Plugin → Prop where
  | plugin {name version : String} : CutAtColon token name version → IsName name →
      IsVersion version → Reads token (.ok ⟨name, version⟩)
  | noColon : ':' ∉ token.toList → Reads token (.error (.noColon token))
  | badName {name version : String} : CutAtColon token name version → ¬IsName name →
      Reads token (.error (.badName name token))
  | badVersion {name version : String} : CutAtColon token name version → IsName name →
      ¬IsVersion version → Reads token (.error (.badVersion version token))

variable {token name version s : String} {p : Plugin}

/-! ## The parts of a token -/

theorem validName_iff : validName s = true ↔ IsName s := by
  refine Text.isWord_iff fun c => ?_
  simp [isNameChar, or_assoc]

theorem validVersion_iff : validVersion s = true ↔ IsVersion s := by
  refine Text.isWord_iff fun c => ?_
  simp only [isVersionChar, isNameChar, Bool.or_eq_true, beq_iff_eq, List.mem_cons,
    List.not_mem_nil, or_false]
  -- The dot comes last in one of the lists and first among the marks in the other.
  tauto

theorem IsName.colon_not_mem (named : IsName name) : ':' ∉ name.toList :=
  IsWord.not_mem named (by decide)

theorem IsName.cutAtColon (named : IsName name) (version : String) :
    CutAtColon (name ++ ":" ++ version) name version := ⟨rfl, named.colon_not_mem⟩

/-- A token with a colon is cut at its first one. -/
theorem exists_cutAtColon (colon : ':' ∈ token.toList) :
    ∃ name version, CutAtColon token name version := by
  obtain ⟨before, after, whole, first⟩ := List.eq_append_cons_of_mem colon
  refine ⟨.ofList before, .ofList after, ?_, by simpa using first⟩
  apply String.toList_injective
  simpa using whole

/-! ## Reading -/

/-- A token without a colon is refused as a whole. -/
theorem ofToken_of_no_colon (without : ':' ∉ token.toList) :
    ofToken token = .error (.noColon token) := by
  rw [ofToken, Text.cut?_eq_none_iff.2 without]

/-- A token with a colon goes by its parts, the name before the version. -/
theorem CutAtColon.ofToken_eq (apart : CutAtColon token name version) :
    ofToken token =
      if IsName name then
        if IsVersion version then .ok ⟨name, version⟩ else .error (.badVersion version token)
      else .error (.badName name token) := by
  have cut : Text.cut? ':' token.toList = some (name.toList, version.toList) := by
    refine Text.cut?_eq_some_iff.2 ⟨?_, apart.first⟩
    rw [apart.whole]
    simp
  rw [ofToken, cut]
  simp only [String.ofList_toList, Bool.not_eq_true', ← Bool.not_eq_true, validName_iff,
    validVersion_iff, ite_not]

/-- The relation gives no token more than the one outcome that reading it has. -/
theorem Reads.ofToken_eq {result : Except TokenError Plugin} (reads : Reads token result) :
    ofToken token = result := by
  cases reads with
  | plugin apart named versioned => rw [apart.ofToken_eq, if_pos named, if_pos versioned]
  | noColon without => exact ofToken_of_no_colon without
  | badName apart unnamed => rw [apart.ofToken_eq, if_neg unnamed]
  | badVersion apart named unversioned =>
    rw [apart.ofToken_eq, if_pos named, if_neg unversioned]

/-- There is a rule for every token. -/
theorem reads_ofToken (token : String) : Reads token (ofToken token) := by
  by_cases colon : ':' ∈ token.toList
  · obtain ⟨name, version, apart⟩ := exists_cutAtColon colon
    rw [apart.ofToken_eq]
    split
    case isTrue named =>
      split
      case isTrue versioned => exact .plugin apart named versioned
      case isFalse unversioned => exact .badVersion apart named unversioned
    case isFalse unnamed => exact .badName apart unnamed
  · rw [ofToken_of_no_colon colon]
    exact .noColon colon

/-- Reading a token follows the rules and nothing else. -/
theorem ofToken_eq_iff {result : Except TokenError Plugin} :
    ofToken token = result ↔ Reads token result := by
  refine ⟨?_, Reads.ofToken_eq⟩
  rintro rfl
  exact reads_ofToken token

/-! ## Each outcome -/

/-- A token is a plugin if and only if it is put together of a name, a colon and a version. -/
theorem ofToken_eq_ok_iff :
    ofToken token = .ok p ↔
      token = p.name ++ ":" ++ p.version ∧ IsName p.name ∧ IsVersion p.version := by
  rw [ofToken_eq_iff]
  constructor
  · rintro (⟨apart, named, versioned⟩)
    exact ⟨apart.whole, named, versioned⟩
  · rintro ⟨rfl, named, versioned⟩
    exact .plugin (named.cutAtColon _) named versioned

/-- A token is refused for want of a colon if and only if it has none. -/
theorem ofToken_eq_noColon_iff {whole : String} :
    ofToken token = .error (.noColon whole) ↔ whole = token ∧ ':' ∉ token.toList := by
  rw [ofToken_eq_iff]
  constructor
  · rintro (_ | without)
    exact ⟨rfl, without⟩
  · rintro ⟨rfl, without⟩
    exact .noColon without

/-- A token is refused for its name if and only if what stands before the first colon is none. -/
theorem ofToken_eq_badName_iff {whole : String} :
    ofToken token = .error (.badName name whole) ↔
      whole = token ∧ (∃ version, CutAtColon token name version) ∧ ¬IsName name := by
  rw [ofToken_eq_iff]
  constructor
  · rintro (_ | _ | ⟨apart, unnamed⟩)
    exact ⟨rfl, ⟨_, apart⟩, unnamed⟩
  · rintro ⟨rfl, ⟨version, apart⟩, unnamed⟩
    exact .badName apart unnamed

/-- A token is refused for its version if and only if its name is one, and what stands after the
first colon is none. -/
theorem ofToken_eq_badVersion_iff {whole : String} :
    ofToken token = .error (.badVersion version whole) ↔
      whole = token ∧ ∃ name, CutAtColon token name version ∧ IsName name ∧ ¬IsVersion version := by
  rw [ofToken_eq_iff]
  constructor
  · rintro (_ | _ | _ | ⟨apart, named, unversioned⟩)
    exact ⟨rfl, _, apart, named, unversioned⟩
  · rintro ⟨rfl, name, apart, named, unversioned⟩
    exact .badVersion apart named unversioned

/-- A token is a plugin if and only if it is a name and a version with a colon between them. The
plugin then has that name and that version, and prints as the token, so no other token is that
plugin; and every plugin with such a name and version is read back from what it prints. Any other
token is refused as a whole if it has no colon, for what stands before its first colon if that is no
name, and else for all that follows the first colon. -/
theorem ofToken_exact :
    (∀ token p, ofToken token = .ok p ↔
      token = p.name ++ ":" ++ p.version ∧ IsName p.name ∧ IsVersion p.version) ∧
    (∀ token p, ofToken token = .ok p → p.token = token) ∧
    (∀ token token' p, ofToken token = .ok p → ofToken token' = .ok p → token = token') ∧
    (∀ p, ofToken p.token = .ok p ↔ IsName p.name ∧ IsVersion p.version) ∧
    (∀ token whole, ofToken token = .error (.noColon whole) ↔
      whole = token ∧ ':' ∉ token.toList) ∧
    (∀ token name whole, ofToken token = .error (.badName name whole) ↔
      whole = token ∧ (∃ version, CutAtColon token name version) ∧ ¬IsName name) ∧
    (∀ token version whole, ofToken token = .error (.badVersion version whole) ↔
      whole = token ∧
        ∃ name, CutAtColon token name version ∧ IsName name ∧ ¬IsVersion version) := by
  have printed {token p} (reads : ofToken token = .ok p) : p.token = token :=
    (ofToken_eq_ok_iff.1 reads).1.symm
  refine ⟨fun _ _ => ofToken_eq_ok_iff, fun _ _ => printed, ?injective, ?readBack,
    fun _ _ => ofToken_eq_noColon_iff, fun _ _ _ => ofToken_eq_badName_iff,
    fun _ _ _ => ofToken_eq_badVersion_iff⟩
  case injective =>
    intro token token' p reads reads'
    rw [← printed reads, printed reads']
  case readBack =>
    intro p
    rw [ofToken_eq_ok_iff]
    exact and_iff_right rfl

/-- A plugin with a qualified version is what its only token says. -/
theorem ofToken_exact_qualified :
    ofToken "git-client:2.7.3-rc_1" = .ok ⟨"git-client", "2.7.3-rc_1"⟩ ∧
      (⟨"git-client", "2.7.3-rc_1"⟩ : Plugin).token = "git-client:2.7.3-rc_1" ∧
      (∀ token, ofToken token = .ok ⟨"git-client", "2.7.3-rc_1"⟩ →
        token = "git-client:2.7.3-rc_1") ∧
      ofToken "git:1.0:2" = .error (.badVersion "1.0:2" "git:1.0:2") := by
  obtain ⟨reads, prints, injective, -, -, -, refuses⟩ := ofToken_exact
  have qualified : ofToken "git-client:2.7.3-rc_1" = .ok ⟨"git-client", "2.7.3-rc_1"⟩ :=
    (reads _ _).2 ⟨by decide, by decide, by decide⟩
  refine ⟨qualified, prints _ _ qualified, fun token same => injective _ _ _ same qualified, ?_⟩
  exact (refuses _ _ _).2 ⟨rfl, "git", ⟨by decide, by decide⟩, by decide, by decide⟩

end JenkinsOperator.Plugin
