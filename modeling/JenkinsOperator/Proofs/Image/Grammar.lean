import JenkinsOperator.Image
import JenkinsOperator.Proofs.Text.Class
import JenkinsOperator.Proofs.Text.Joined

/-!
# The grammar of image references

What the parts of a reference are, said of their texts: tags, name components, hosts, digests. Runs
of letters and digits that are joined by something are `Text.Joined`. Each recogniser accepts
exactly the texts of its part (`isTag_iff`, `isNameComponent_iff`, `isHost_iff`, `isDigest_iff`),
and so `Split.isValid_iff` says of a reference that was taken apart when it is one.

A recogniser that reads one character after another keeps a state. Which rests of a text it accepts
from a state is said by a predicate on rests (`NameState.Awaits`, `AwaitsAlgorithm`).
-/

namespace JenkinsOperator.Image

open Text (isUpper_iff isLower_iff isDigit_iff isAlpha_iff isAlphanum_iff)

/-! ## Parts of a reference -/

/-- A tag: 1 to 128 letters, digits, underscores, dots and hyphens, neither a dot nor a hyphen in
front. -/
structure TagText (cs : List Char) : Prop where
  nonempty : 1 ≤ cs.length
  short : cs.length ≤ 128
  chars : ∀ c ∈ cs, c.isAlphanum = true ∨ c = '_' ∨ c = '.' ∨ c = '-'
  first : ∀ c, cs.head? = some c → c ≠ '.' ∧ c ≠ '-'

/-- A run of small letters and digits. -/
def Run (cs : List Char) : Prop := cs ≠ [] ∧ ∀ c ∈ cs, isLowerAlphanum c = true

/-- What may stand between two runs: a dot, one or two underscores, or hyphens. -/
def RunSeparator (cs : List Char) : Prop :=
  cs = ['.'] ∨ cs = ['_'] ∨ cs = ['_', '_'] ∨ cs ≠ [] ∧ ∀ c ∈ cs, c = '-'

/-- A component of a name. -/
def Component : List Char → Prop := Text.Joined Run RunSeparator

/-- A label of a domain: letters and digits at both ends, and hyphens between. -/
structure Label (cs : List Char) : Prop where
  nonempty : cs ≠ []
  chars : ∀ c ∈ cs, c.isAlphanum = true ∨ c = '-'
  first : ∀ c, cs.head? = some c → c.isAlphanum = true
  last : ∀ c, cs.getLast? = some c → c.isAlphanum = true

/-- A domain: labels joined by dots. -/
def Domain : List Char → Prop := Text.Joined Label (· = ['.'])

/-- A host: a domain, and perhaps a colon and the digits of a port. -/
def Host (cs : List Char) : Prop :=
  Domain cs ∨ ∃ domain port, cs = domain ++ ':' :: port ∧ Domain domain ∧ port ≠ [] ∧
    ∀ c ∈ port, c.isDigit = true

/-- A word of a digest algorithm: a letter, then letters and digits. -/
def AlgorithmWord (cs : List Char) : Prop :=
  ∃ c rest, cs = c :: rest ∧ c.isAlpha = true ∧ ∀ c ∈ rest, c.isAlphanum = true

/-- What stands between two words of a digest algorithm. -/
def AlgorithmSeparator (cs : List Char) : Prop :=
  ∃ c, cs = [c] ∧ (c = '-' ∨ c = '_' ∨ c = '+' ∨ c = '.')

/-- A digest algorithm. -/
def Algorithm : List Char → Prop := Text.Joined AlgorithmWord AlgorithmSeparator

/-- A digest: an algorithm, a colon and at least 32 hexadecimal digits. -/
def Digest (cs : List Char) : Prop :=
  ∃ algorithm hex, cs = algorithm ++ ':' :: hex ∧ Algorithm algorithm ∧ 32 ≤ hex.length ∧
    ∀ c ∈ hex, isHexDigit c = true

/-- The components of a name. Only the first of several may be a host instead. -/
inductive Name : List (List Char) → Prop where
  | only {component : List Char} : Component component → Name [component]
  | several {first : List Char} {rest : List (List Char)} : Component first ∨ Host first →
      rest ≠ [] → (∀ component ∈ rest, Component component) → Name (first :: rest)

/-- A reference that was taken apart into a name, a tag and a digest. -/
structure Split.IsReference (s : Split) : Prop where
  name : Name s.components
  tag : ∀ tag, s.tag = some tag → TagText tag
  digest : ∀ digest, s.digest = some digest → Digest digest

/-! ## Classes of characters -/

variable {c : Char} {cs : List Char}

theorem isTagChar_iff :
    isTagChar c = true ↔ c.isAlphanum = true ∨ c = '_' ∨ c = '.' ∨ c = '-' := by
  simp [isTagChar, isWordChar, or_assoc]

theorem isAlphanum_of_isLowerAlphanum (small : isLowerAlphanum c = true) : c.isAlphanum = true := by
  rw [isLowerAlphanum, Bool.or_eq_true] at small
  exact isAlphanum_iff.2 (small.imp_left .inr)

theorem isAlphanum_of_isAlpha (letter : c.isAlpha = true) : c.isAlphanum = true :=
  isAlphanum_iff.2 (.inl (isAlpha_iff.1 letter))

theorem isAlphanum_of_isHexDigit (hex : isHexDigit c = true) : c.isAlphanum = true := by
  simp only [isHexDigit, Bool.or_eq_true, Bool.and_eq_true, decide_eq_true_eq] at hex
  rw [isAlphanum_iff, isUpper_iff, isLower_iff]
  rcases hex with (digit | ⟨low, high⟩) | ⟨low, high⟩
  · exact .inr digit
  · exact .inl (.inr ⟨low, Char.le_trans high (by decide : 'f' ≤ 'z')⟩)
  · exact .inl (.inl ⟨low, Char.le_trans high (by decide : 'F' ≤ 'Z')⟩)

theorem isWordChar_of_isAlphanum (alphanumeric : c.isAlphanum = true) : isWordChar c = true := by
  rw [isWordChar, alphanumeric, Bool.true_or]

theorem isWordChar_of_isLowerAlphanum (small : isLowerAlphanum c = true) : isWordChar c = true :=
  isWordChar_of_isAlphanum (isAlphanum_of_isLowerAlphanum small)

/-- Word characters are visible characters of ASCII. -/
theorem visible_of_isWordChar (word : isWordChar c = true) :
    0x20 < c.toNat ∧ c.toNat < 0x7F := by
  -- Every class of word characters is a range of code points between the two bounds.
  have between {low high : Nat} (range : low ≤ c.toNat ∧ c.toNat ≤ high) (above : 0x20 < low)
      (below : high < 0x7F) : 0x20 < c.toNat ∧ c.toNat < 0x7F :=
    ⟨Nat.lt_of_lt_of_le above range.1, Nat.lt_of_le_of_lt range.2 below⟩
  change ((decide (65 ≤ c.val ∧ c.val ≤ 90) || (decide (97 ≤ c.val) && decide (c.val ≤ 122)))
    || (decide (48 ≤ c.val) && decide (c.val ≤ 57)) || c == '_') = true at word
  simp only [Bool.or_eq_true, Bool.and_eq_true, decide_eq_true_eq, beq_iff_eq] at word
  rcases word with (((upper | lower) | digit) | rfl)
  · exact between upper (by decide) (by decide)
  · exact between lower (by decide) (by decide)
  · exact between digit (by decide) (by decide)
  · decide

/-- A letter or digit is not one of the other characters of a reference. -/
theorem ne_of_isAlphanum {d : Char} (alphanumeric : c.isAlphanum = true)
    (other : d.isAlphanum = false) : c ≠ d := by
  rintro rfl
  rw [alphanumeric] at other
  cases other

/-! ## Tags -/

/-- The recognizer of tags accepts the tags of the grammar. -/
theorem isTag_iff : isTag cs = true ↔ TagText cs := by
  cases cs with
  | nil =>
    constructor
    · intro accepted
      cases accepted
    · intro tag
      exact absurd tag.nonempty (by decide)
  | cons c rest =>
    simp only [isTag, Bool.and_eq_true, decide_eq_true_eq, List.all_eq_true]
    constructor
    · rintro ⟨⟨word, short⟩, chars⟩
      have first : isTagChar c = true := by simp [isTagChar, word]
      refine ⟨Nat.le_add_left 1 _, Nat.succ_le_succ short, ?_, ?_⟩
      · intro d member
        rcases List.mem_cons.1 member with rfl | member
        · exact isTagChar_iff.1 first
        · exact isTagChar_iff.1 (chars d member)
      · intro d head
        cases head
        constructor
        · rintro rfl
          exact absurd word (by decide)
        · rintro rfl
          exact absurd word (by decide)
    · intro tag
      refine ⟨⟨?_, Nat.le_of_succ_le_succ tag.short⟩, ?_⟩
      · -- The first character is one of a tag, and neither a dot nor a hyphen.
        obtain ⟨noDot, noHyphen⟩ := tag.first c rfl
        rcases tag.chars c List.mem_cons_self with alphanumeric | rfl | dot | hyphen
        · simp [isWordChar, alphanumeric]
        · decide
        · exact absurd dot noDot
        · exact absurd hyphen noHyphen
      · intro d member
        exact isTagChar_iff.2 (tag.chars d (List.mem_cons_of_mem c member))

/-! ## Name components -/

/-- How one more character of a component changes the state. -/
inductive NameState.Step : NameState → Char → NameState → Prop where
  | small {state : NameState} {c : Char} : isLowerAlphanum c = true → Step state c .run
  | dot : Step .run '.' .dot
  | underscore : Step .run '_' .underscore
  | underscores : Step .underscore '_' .underscores
  | hyphen : Step .run '-' .hyphens
  | hyphens : Step .hyphens '-' .hyphens

/-- The automaton goes on exactly by the steps of the relation. -/
theorem NameState.next?_eq_some_iff {state state' : NameState} :
    state.next? c = some state' ↔ state.Step c state' := by
  constructor
  · intro next
    simp only [next?] at next
    split at next
    case isTrue small =>
      cases next
      exact .small small
    case isFalse =>
      cases state with
      | run =>
        -- Each of the three separators leads to a state of its own.
        change (if c = '.' then some dot else if c = '_' then some underscore
          else if c = '-' then some hyphens else none) = some state' at next
        split at next
        case isTrue here =>
          cases next
          rw [here]
          exact .dot
        case isFalse =>
          split at next
          case isTrue here =>
            cases next
            rw [here]
            exact .underscore
          case isFalse =>
            split at next
            case isTrue here =>
              cases next
              rw [here]
              exact .hyphen
            case isFalse => cases next
      | underscore =>
        change (if c = '_' then some underscores else none) = some state' at next
        split at next
        case isTrue here =>
          cases next
          rw [here]
          exact .underscores
        case isFalse => cases next
      | hyphens =>
        change (if c = '-' then some hyphens else none) = some state' at next
        split at next
        case isTrue here =>
          cases next
          rw [here]
          exact .hyphens
        case isFalse => cases next
      | start => cases next
      | dot => cases next
      | underscores => cases next
  · intro step
    cases step with
    | small small => simp only [next?, if_pos small]
    | _ => rfl

/-- A character is accepted if there is a step, and then the rest is accepted from the next
state. -/
theorem endsName_cons {state : NameState} :
    endsName state (c :: cs) = true ↔
      ∃ state', state.Step c state' ∧ endsName state' cs = true := by
  rw [endsName]
  constructor
  · intro accepted
    split at accepted
    case h_1 state' next => exact ⟨state', NameState.next?_eq_some_iff.1 next, accepted⟩
    case h_2 => cases accepted
  · rintro ⟨state', step, accepted⟩
    rw [NameState.next?_eq_some_iff.2 step]
    exact accepted

/-- The rests of a component that may follow a state. -/
def NameState.Awaits : NameState → List Char → Prop
  | .run, rest => ∀ run, Run run → Component (run ++ rest)
  | .underscore, rest => Component rest ∨ ∃ after, rest = '_' :: after ∧ Component after
  | .hyphens, rest => ∃ n after, rest = List.replicate n '-' ++ after ∧ Component after
  | _, rest => Component rest

theorem Run.singleton (small : isLowerAlphanum c = true) : Run [c] :=
  ⟨List.cons_ne_nil c [], by simpa using small⟩

theorem Run.append_singleton {run : List Char} (isRun : Run run)
    (small : isLowerAlphanum c = true) :
    Run (run ++ [c]) := by
  refine ⟨by simp, ?_⟩
  intro d member
  rcases List.mem_append.1 member with front | back
  · exact isRun.2 d front
  · rw [List.mem_singleton.1 back]
    exact small

/-- Each state but the one inside a run may be followed by a whole component. -/
theorem NameState.awaits_of_component {state : NameState} (notRun : state ≠ .run)
    (component : Component cs) : state.Awaits cs := by
  cases state with
  | run => exact absurd rfl notRun
  | underscore => exact .inl component
  | hyphens => exact ⟨0, cs, rfl, component⟩
  | start => exact component
  | dot => exact component
  | underscores => exact component

/-- A step takes back what the next state awaits to what this one does. -/
theorem NameState.Step.awaits {state state' : NameState} (step : state.Step c state')
    (later : state'.Awaits cs) : state.Awaits (c :: cs) := by
  cases step with
  | small small =>
    by_cases inRun : state = .run
    · subst inRun
      intro run isRun
      rw [← List.singleton_append, ← List.append_assoc]
      exact later (run ++ [c]) (isRun.append_singleton small)
    · exact awaits_of_component inRun (later [c] (Run.singleton small))
  | dot =>
    intro run isRun
    have joined : Component (run ++ ['.'] ++ cs) := .more isRun (.inl rfl) later
    rwa [List.append_assoc] at joined
  | underscore =>
    intro run isRun
    rcases later with component | ⟨after, rfl, component⟩
    · have joined : Component (run ++ ['_'] ++ cs) := .more isRun (.inr (.inl rfl)) component
      rwa [List.append_assoc] at joined
    · have joined : Component (run ++ ['_', '_'] ++ after) :=
        .more isRun (.inr (.inr (.inl rfl))) component
      rwa [List.append_assoc] at joined
  | underscores => exact .inr ⟨cs, rfl, later⟩
  | hyphen =>
    obtain ⟨n, after, rfl, component⟩ := later
    intro run isRun
    have separator : RunSeparator (List.replicate (n + 1) '-') :=
      .inr (.inr (.inr ⟨by simp, fun d member => List.eq_of_mem_replicate member⟩))
    have joined : Component (run ++ List.replicate (n + 1) '-' ++ after) :=
      .more isRun separator component
    rwa [List.append_assoc] at joined
  | hyphens =>
    obtain ⟨n, after, rfl, component⟩ := later
    exact ⟨n + 1, after, rfl, component⟩

/-- What is accepted from a state is what the state awaits. -/
theorem awaits_of_endsName {state : NameState} (accepted : endsName state cs = true) :
    state.Awaits cs := by
  induction cs generalizing state with
  | nil =>
    -- Only a run may end a component.
    cases state with
    | run =>
      intro run isRun
      rw [List.append_nil]
      exact .last isRun
    | _ => cases accepted
  | cons c rest ih =>
    obtain ⟨state', step, later⟩ := endsName_cons.1 accepted
    exact step.awaits (ih later)

/-- A run leads from every state into the state inside a run. -/
theorem endsName_run_append {state : NameState} {run : List Char} (isRun : Run run)
    (accepted : endsName .run cs = true) : endsName state (run ++ cs) = true := by
  obtain ⟨nonempty, small⟩ := isRun
  induction run generalizing state with
  | nil => exact absurd rfl nonempty
  | cons c run ih =>
    refine endsName_cons.2 ⟨.run, .small (small c List.mem_cons_self), ?_⟩
    cases run with
    | nil => exact accepted
    | cons d run => exact ih (by simp) fun e member => small e (List.mem_cons_of_mem c member)

/-- Hyphens lead from the state after some to itself. -/
theorem endsName_hyphens_append {hyphens : List Char} (all : ∀ c ∈ hyphens, c = '-')
    (accepted : endsName .hyphens cs = true) : endsName .hyphens (hyphens ++ cs) = true := by
  induction hyphens with
  | nil => exact accepted
  | cons c hyphens ih =>
    obtain rfl := all c List.mem_cons_self
    exact endsName_cons.2 ⟨_, .hyphens, ih fun d member => all d (List.mem_cons_of_mem _ member)⟩

/-- Components are accepted from every state. -/
theorem endsName_of_component {state : NameState} (component : Component cs) :
    endsName state cs = true := by
  induction component generalizing state with
  | @last run isRun =>
    rw [← List.append_nil run]
    exact endsName_run_append isRun rfl
  | @more run between rest isRun separator _ ih =>
    rw [List.append_assoc]
    apply endsName_run_append isRun
    rcases separator with rfl | rfl | rfl | ⟨nonempty, hyphens⟩
    · exact endsName_cons.2 ⟨_, .dot, ih⟩
    · exact endsName_cons.2 ⟨_, .underscore, ih⟩
    · exact endsName_cons.2 ⟨_, .underscore, endsName_cons.2 ⟨_, .underscores, ih⟩⟩
    · cases between with
      | nil => exact absurd rfl nonempty
      | cons c between =>
        obtain rfl := hyphens c List.mem_cons_self
        refine endsName_cons.2 ⟨_, .hyphen, ?_⟩
        exact endsName_hyphens_append (fun d member => hyphens d (List.mem_cons_of_mem _ member)) ih

theorem isNameComponent_iff : isNameComponent cs = true ↔ Component cs :=
  ⟨awaits_of_endsName, endsName_of_component⟩

/-- A component is made of letters, digits, underscores, dots and hyphens. -/
theorem Component.chars (component : Component cs) :
    ∀ c ∈ cs, c.isAlphanum = true ∨ c = '_' ∨ c = '.' ∨ c = '-' := by
  refine Text.Joined.forall_mem component
    (p := fun c => c.isAlphanum = true ∨ c = '_' ∨ c = '.' ∨ c = '-') ?_ ?_
  · intro w run c member
    exact .inl (isAlphanum_of_isLowerAlphanum (run.2 c member))
  · intro s separator c member
    rcases separator with rfl | rfl | rfl | ⟨-, hyphens⟩
    · exact .inr (.inr (.inl (List.mem_singleton.1 member)))
    · exact .inr (.inl (List.mem_singleton.1 member))
    · exact .inr (.inl (by simpa using member))
    · exact .inr (.inr (.inr (hyphens c member)))

/-! ## Hosts -/

theorem isLabel_iff : isLabel cs = true ↔ Label cs := by
  have ends {char? : Option Char} (there : char? ≠ none) :
      char?.any Char.isAlphanum = true ↔ ∀ c, char? = some c → c.isAlphanum = true := by
    obtain ⟨c, rfl⟩ := Option.ne_none_iff_exists'.1 there
    simp
  cases cs with
  | nil =>
    constructor
    · intro accepted
      cases accepted
    · intro label
      exact absurd rfl label.nonempty
  | cons c rest =>
    simp only [isLabel, Bool.and_eq_true, List.all_eq_true, Bool.or_eq_true, beq_iff_eq]
    have first : (c :: rest).head? ≠ none := by simp
    have last : (c :: rest).getLast? ≠ none := by simp
    rw [ends first, ends last]
    constructor
    · rintro ⟨⟨chars, first⟩, last⟩
      exact ⟨List.cons_ne_nil c rest, chars, first, last⟩
    · intro label
      exact ⟨⟨label.chars, label.first⟩, label.last⟩

theorem Label.not_mem {d : Char} (label : Label cs) (other : d.isAlphanum = false)
    (noHyphen : d ≠ '-') : d ∉ cs := by
  intro member
  rcases label.chars d member with alphanumeric | hyphen
  · exact ne_of_isAlphanum alphanumeric other rfl
  · exact noHyphen hyphen

theorem isDomain_iff : isDomain cs = true ↔ Domain cs := by
  rw [isDomain, Domain, Text.joined_iff_splitOn fun w label => label.not_mem rfl (by decide),
    List.all_eq_true]
  exact forall₂_congr fun part _ => isLabel_iff

/-- A domain is made of letters, digits, hyphens and dots. -/
theorem Domain.chars (domain : Domain cs) : ∀ c ∈ cs, c.isAlphanum = true ∨ c = '-' ∨ c = '.' := by
  refine Text.Joined.forall_mem domain (p := fun c => c.isAlphanum = true ∨ c = '-' ∨ c = '.') ?_ ?_
  · intro w label c member
    exact (label.chars c member).imp_right .inl
  · rintro s rfl c member
    exact .inr (.inr (List.mem_singleton.1 member))

/-- No colon is in a domain, so the first one after it begins the port. -/
theorem Domain.colon_not_mem (domain : Domain cs) : ':' ∉ cs := by
  intro member
  have char := domain.chars ':' member
  revert char
  decide

/-- A host is made of letters, digits, hyphens, dots and a colon. -/
theorem Host.chars (host : Host cs) :
    ∀ c ∈ cs, c.isAlphanum = true ∨ c = '-' ∨ c = '.' ∨ c = ':' := by
  rcases host with domain | ⟨domain, port, rfl, isDomain, -, digits⟩
  · intro c member
    exact (domain.chars c member).imp_right (Or.imp_right .inl)
  · intro c member
    rcases List.mem_append.1 member with front | back
    · exact (isDomain.chars c front).imp_right (Or.imp_right .inl)
    · rcases List.mem_cons.1 back with colon | inPort
      · exact .inr (.inr (.inr colon))
      · refine .inl ?_
        show (c.isAlpha || c.isDigit) = true
        rw [digits c inPort, Bool.or_true]

theorem isHost_iff : isHost cs = true ↔ Host cs := by
  rw [isHost]
  cases cut : Text.cut? ':' cs with
  | none =>
    have without := Text.cut?_eq_none_iff.1 cut
    simp only [isDomain_iff]
    constructor
    · exact .inl
    · rintro (domain | ⟨domain, port, rfl, -⟩)
      · exact domain
      · simp at without
  | some parts =>
    obtain ⟨domain, port⟩ := parts
    obtain ⟨rfl, without⟩ := Text.cut?_eq_some_iff.1 cut
    simp only [Bool.and_eq_true, isDomain_iff, Bool.not_eq_true', List.isEmpty_eq_false_iff,
      List.all_eq_true]
    constructor
    · rintro ⟨⟨isDomain, some⟩, digits⟩
      exact .inr ⟨domain, port, rfl, isDomain, some, digits⟩
    · rintro (whole | ⟨domain', port', same, isDomain, some, digits⟩)
      · -- A domain has no colon in it.
        exact absurd (by simp) whole.colon_not_mem
      · have cut' := Text.cut?_eq_some_iff.2 ⟨same, isDomain.colon_not_mem⟩
        cases cut.symm.trans cut'
        exact ⟨⟨isDomain, some⟩, digits⟩

/-! ## Digests -/

/-- The rests of a digest algorithm that may follow; `fresh` says that a word begins there. -/
def AwaitsAlgorithm : Bool → List Char → Prop
  | true, rest => Algorithm rest
  | false, rest => ∀ word, AlgorithmWord word → Algorithm (word ++ rest)

theorem AlgorithmWord.append_singleton {word : List Char} (isWord : AlgorithmWord word)
    (alphanumeric : c.isAlphanum = true) : AlgorithmWord (word ++ [c]) := by
  obtain ⟨first, rest, rfl, letter, chars⟩ := isWord
  refine ⟨first, rest ++ [c], rfl, letter, ?_⟩
  intro d member
  rcases List.mem_append.1 member with front | back
  · exact chars d front
  · rw [List.mem_singleton.1 back]
    exact alphanumeric

theorem awaits_of_endsAlgorithm {fresh : Bool} (accepted : endsAlgorithm fresh cs = true) :
    AwaitsAlgorithm fresh cs := by
  induction cs generalizing fresh with
  | nil =>
    cases fresh with
    | true => cases accepted
    | false =>
      intro word isWord
      rw [List.append_nil]
      exact .last isWord
  | cons c rest ih =>
    cases fresh with
    | true =>
      simp only [endsAlgorithm, Bool.and_eq_true] at accepted
      exact ih accepted.2 [c] ⟨c, [], rfl, accepted.1, nofun⟩
    | false =>
      intro word isWord
      rw [endsAlgorithm] at accepted
      split at accepted
      case isTrue alphanumeric =>
        -- The word goes on.
        rw [← List.singleton_append, ← List.append_assoc]
        exact ih accepted (word ++ [c]) (isWord.append_singleton alphanumeric)
      case isFalse =>
        simp only [Bool.and_eq_true, Bool.or_eq_true, beq_iff_eq, or_assoc] at accepted
        have joined : Algorithm (word ++ [c] ++ rest) :=
          .more isWord ⟨c, rfl, accepted.1⟩ (ih accepted.2)
        rwa [List.append_assoc] at joined

/-- A word leads from where a word begins to where it goes on. -/
theorem endsAlgorithm_word_append {word : List Char} (isWord : AlgorithmWord word)
    (accepted : endsAlgorithm false cs = true) : endsAlgorithm true (word ++ cs) = true := by
  obtain ⟨first, rest, rfl, letter, chars⟩ := isWord
  rw [List.cons_append, endsAlgorithm, letter, Bool.true_and]
  induction rest with
  | nil => exact accepted
  | cons c rest ih =>
    rw [List.cons_append, endsAlgorithm, if_pos (chars c List.mem_cons_self)]
    exact ih fun d member => chars d (List.mem_cons_of_mem c member)

theorem endsAlgorithm_of_algorithm (algorithm : Algorithm cs) : endsAlgorithm true cs = true := by
  induction algorithm with
  | @last word isWord =>
    rw [← List.append_nil word]
    exact endsAlgorithm_word_append isWord rfl
  | @more word between rest isWord separator _ ih =>
    rw [List.append_assoc]
    apply endsAlgorithm_word_append isWord
    obtain ⟨c, rfl, separates⟩ := separator
    rcases separates with rfl | rfl | rfl | rfl <;> exact ih

theorem endsAlgorithm_iff : endsAlgorithm true cs = true ↔ Algorithm cs :=
  ⟨awaits_of_endsAlgorithm, endsAlgorithm_of_algorithm⟩

/-- A digest algorithm is made of letters, digits, hyphens, underscores, pluses and dots. -/
theorem Algorithm.chars (algorithm : Algorithm cs) :
    ∀ c ∈ cs, c.isAlphanum = true ∨ c = '-' ∨ c = '_' ∨ c = '+' ∨ c = '.' := by
  refine Text.Joined.forall_mem algorithm
    (p := fun c => c.isAlphanum = true ∨ c = '-' ∨ c = '_' ∨ c = '+' ∨ c = '.') ?_ ?_
  · rintro w ⟨first, rest, rfl, letter, chars⟩ c member
    rcases List.mem_cons.1 member with rfl | member
    · exact .inl (isAlphanum_of_isAlpha letter)
    · exact .inl (chars c member)
  · rintro s ⟨c, rfl, separates⟩ d member
    rw [List.mem_singleton.1 member]
    exact .inr separates

/-- No colon is in an algorithm, so the first one ends it. -/
theorem Algorithm.colon_not_mem (algorithm : Algorithm cs) : ':' ∉ cs := by
  intro member
  have char := algorithm.chars ':' member
  revert char
  decide

/-- A digest is made of letters, digits, hyphens, underscores, pluses, dots and a colon. -/
theorem Digest.chars (digest : Digest cs) : ∀ c ∈ cs,
    c.isAlphanum = true ∨ c = '-' ∨ c = '_' ∨ c = '+' ∨ c = '.' ∨ c = ':' := by
  obtain ⟨algorithm, hex, rfl, isAlgorithm, -, digits⟩ := digest
  intro c member
  rcases List.mem_append.1 member with front | back
  · have char := isAlgorithm.chars c front
    simp only [← or_assoc] at char ⊢
    exact .inl char
  · rcases List.mem_cons.1 back with colon | inHex
    · simp [colon]
    · exact .inl (isAlphanum_of_isHexDigit (digits c inHex))

theorem isDigest_iff : isDigest cs = true ↔ Digest cs := by
  rw [isDigest]
  cases cut : Text.cut? ':' cs with
  | none =>
    have without := Text.cut?_eq_none_iff.1 cut
    constructor
    · intro accepted
      cases accepted
    · rintro ⟨algorithm, hex, rfl, -⟩
      simp at without
  | some parts =>
    obtain ⟨algorithm, hex⟩ := parts
    obtain ⟨rfl, without⟩ := Text.cut?_eq_some_iff.1 cut
    simp only [Bool.and_eq_true, endsAlgorithm_iff, decide_eq_true_eq, List.all_eq_true]
    constructor
    · rintro ⟨⟨isAlgorithm, long⟩, digits⟩
      exact ⟨algorithm, hex, rfl, isAlgorithm, long, digits⟩
    · rintro ⟨algorithm', hex', same, isAlgorithm, long, digits⟩
      -- Both are cut at the first colon.
      have cut' := Text.cut?_eq_some_iff.2 ⟨same, isAlgorithm.colon_not_mem⟩
      cases cut.symm.trans cut'
      exact ⟨⟨isAlgorithm, long⟩, digits⟩

/-! ## References -/

theorem isName_iff {components : List (List Char)} :
    isName components = true ↔ Name components := by
  cases components with
  | nil =>
    constructor
    · intro accepted
      cases accepted
    · intro name
      cases name
  | cons first rest =>
    cases rest with
    | nil =>
      rw [isName, isNameComponent_iff]
      constructor
      · exact .only
      · intro name
        cases name with
        | only component => exact component
        | several _ nonempty _ => exact absurd rfl nonempty
    | cons second rest =>
      simp only [isName, Bool.and_eq_true, Bool.or_eq_true, isNameComponent_iff, isHost_iff,
        List.all_eq_true]
      constructor
      · rintro ⟨front, others⟩
        exact .several front (List.cons_ne_nil second rest) others
      · intro name
        cases name with
        | several front _ others => exact ⟨front, others⟩

/-- The components of a name are made of letters, digits, underscores, dots, hyphens and a colon. -/
theorem Name.chars {components : List (List Char)} (name : Name components) :
    ∀ component ∈ components, ∀ c ∈ component,
      c.isAlphanum = true ∨ c = '_' ∨ c = '.' ∨ c = '-' ∨ c = ':' := by
  have ofComponent {component : List Char} (isComponent : Component component) : ∀ c ∈ component,
      c.isAlphanum = true ∨ c = '_' ∨ c = '.' ∨ c = '-' ∨ c = ':' := by
    intro c member
    rcases isComponent.chars c member with alphanumeric | rfl | rfl | rfl <;> simp [*]
  cases name with
  | only isComponent =>
    intro component member
    rw [List.mem_singleton.1 member]
    exact ofComponent isComponent
  | several first _ others =>
    intro component member
    rcases List.mem_cons.1 member with rfl | member
    · rcases first with isComponent | host
      · exact ofComponent isComponent
      · intro c inHost
        rcases host.chars c inHost with alphanumeric | rfl | rfl | rfl <;> simp [*]
    · exact ofComponent (others component member)

/-- A reference that was taken apart is valid if and only if its parts are those of a reference. -/
theorem Split.isValid_iff {s : Split} : s.isValid = true ↔ s.IsReference := by
  simp only [isValid, Bool.and_eq_true, isName_iff, Option.all_eq_true, isTag_iff, isDigest_iff]
  constructor
  · rintro ⟨⟨name, tag⟩, digest⟩
    exact ⟨name, tag, digest⟩
  · intro reference
    exact ⟨⟨reference.name, reference.tag⟩, reference.digest⟩

end JenkinsOperator.Image
