import JenkinsOperator.Proofs.Image.Split

/-!
# Image references as regular languages

The grammar of image references as regular expressions give it: classes of characters are written as
ranges and single characters, and everything else is built from them by concatenation, choice and
repetition. The languages are ambiguous on their face: hyphens between two runs may be none, a host
and a component share their letters, and so do ports and tags. The texts in them are those of the
parts of a reference nevertheless (`mem_tagPattern_iff`, `mem_componentPattern_iff`,
`mem_hostPattern_iff`, `mem_digestPattern_iff`, `mem_namePattern_iff`, `mem_referencePattern_iff`).
-/

namespace JenkinsOperator.Image

open scoped Computability
open Text (isUpper_iff isLower_iff isDigit_iff isAlpha_iff isAlphanum_iff)

/-! ## Building blocks -/

/-- A character is of a class that is written as ranges and single characters. -/
def OfClass (ranges : List (Char × Char)) (singles : List Char) (c : Char) : Prop :=
  (∃ range ∈ ranges, range.1 ≤ c ∧ c ≤ range.2) ∨ c ∈ singles

/-- One character of a class. -/
def oneOf (ranges : List (Char × Char)) (singles : List Char) : Language Char :=
  {cs : List Char | ∃ c, cs = [c] ∧ OfClass ranges singles c}

/-- A single character. -/
def exactly (c : Char) : Language Char := oneOf [] [c]

/-- Present or missing. -/
def optional (l : Language Char) : Language Char := 1 + l

/-- Repeated, at least once. -/
def oneOrMore (l : Language Char) : Language Char := l * l∗

/-- Repeated, at most so often. -/
def atMost (n : ℕ) (l : Language Char) : Language Char := optional l ^ n

/-- Repeated, at least so often. -/
def atLeast (n : ℕ) (l : Language Char) : Language Char := l ^ n * l∗

variable {ranges : List (Char × Char)} {singles : List Char} {cs : List Char} {c : Char}
  {l : Language Char} {n : ℕ}

/-- A class of characters holds the words of one character of it. -/
theorem mem_oneOf_iff : cs ∈ oneOf ranges singles ↔ ∃ c, cs = [c] ∧ OfClass ranges singles c :=
  Iff.rfl

theorem mem_exactly_iff : cs ∈ exactly c ↔ cs = [c] := by
  simp [exactly, mem_oneOf_iff, OfClass]

/-- An optional word is missing or there. -/
theorem mem_optional_iff : cs ∈ optional l ↔ cs = [] ∨ cs ∈ l := by
  rw [optional, Language.mem_add, Language.mem_one]

/-- Any number of characters of a class make up the words with no other ones. -/
theorem mem_kstar_oneOf_iff :
    cs ∈ (oneOf ranges singles)∗ ↔ ∀ c ∈ cs, OfClass ranges singles c := by
  constructor
  · intro member c inside
    obtain ⟨blocks, rfl, ofClass⟩ := Language.mem_kstar.1 member
    obtain ⟨block, listed, there⟩ := List.mem_flatten.1 inside
    obtain ⟨d, rfl, isOf⟩ := mem_oneOf_iff.1 (ofClass block listed)
    rwa [List.mem_singleton.1 there]
  · intro ofClass
    refine Language.mem_kstar.2 ⟨cs.map ([·]), by simp [← List.flatMap_def], ?_⟩
    intro block listed
    obtain ⟨c, member, rfl⟩ := List.mem_map.1 listed
    exact mem_oneOf_iff.2 ⟨c, rfl, ofClass c member⟩

/-- A word that begins with a class is taken apart after its first character. -/
theorem mem_oneOf_mul_iff :
    cs ∈ oneOf ranges singles * l ↔
      ∃ c rest, cs = c :: rest ∧ OfClass ranges singles c ∧ rest ∈ l := by
  rw [Language.mem_mul]
  constructor
  · rintro ⟨_, ⟨c, rfl, isOf⟩, rest, member, rfl⟩
    exact ⟨c, rest, rfl, isOf, member⟩
  · rintro ⟨c, rest, rfl, isOf, member⟩
    exact ⟨[c], ⟨c, rfl, isOf⟩, rest, member, rfl⟩

theorem mem_exactly_mul_iff : cs ∈ exactly c * l ↔ ∃ rest ∈ l, cs = c :: rest := by
  simp [exactly, mem_oneOf_mul_iff, OfClass, and_comm]

theorem mem_oneOrMore_oneOf_iff :
    cs ∈ oneOrMore (oneOf ranges singles) ↔ cs ≠ [] ∧ ∀ c ∈ cs, OfClass ranges singles c := by
  rw [oneOrMore, mem_oneOf_mul_iff]
  constructor
  · rintro ⟨c, rest, rfl, isOf, others⟩
    exact ⟨List.cons_ne_nil c rest, List.forall_mem_cons.2 ⟨isOf, mem_kstar_oneOf_iff.1 others⟩⟩
  · rintro ⟨nonempty, ofClass⟩
    obtain ⟨c, rest, rfl⟩ := List.exists_cons_of_ne_nil nonempty
    obtain ⟨isOf, others⟩ := List.forall_mem_cons.1 ofClass
    exact ⟨c, rest, rfl, isOf, mem_kstar_oneOf_iff.2 others⟩

theorem mem_pow_oneOf_iff :
    cs ∈ oneOf ranges singles ^ n ↔ cs.length = n ∧ ∀ c ∈ cs, OfClass ranges singles c := by
  induction n generalizing cs with
  | zero =>
    rw [pow_zero, Language.mem_one, List.length_eq_zero_iff]
    constructor
    · rintro rfl
      exact ⟨rfl, nofun⟩
    · exact And.left
  | succ n ih =>
    rw [pow_succ', mem_oneOf_mul_iff]
    constructor
    · rintro ⟨c, rest, rfl, isOf, member⟩
      obtain ⟨length, others⟩ := ih.1 member
      exact ⟨congrArg (· + 1) length, List.forall_mem_cons.2 ⟨isOf, others⟩⟩
    · rintro ⟨length, ofClass⟩
      cases cs with
      | nil => cases length
      | cons c rest =>
        obtain ⟨isOf, others⟩ := List.forall_mem_cons.1 ofClass
        exact ⟨c, rest, rfl, isOf, ih.2 ⟨Nat.succ.inj length, others⟩⟩

/-- At most so many characters of a class make up the words of them that are no longer. -/
theorem mem_atMost_oneOf_iff :
    cs ∈ atMost n (oneOf ranges singles) ↔ cs.length ≤ n ∧ ∀ c ∈ cs, OfClass ranges singles c := by
  induction n generalizing cs with
  | zero =>
    rw [atMost, pow_zero, Language.mem_one, Nat.le_zero, List.length_eq_zero_iff]
    constructor
    · rintro rfl
      exact ⟨rfl, nofun⟩
    · exact And.left
  | succ n ih =>
    rw [atMost, pow_succ', ← atMost, optional, add_mul, one_mul, Language.mem_add,
      mem_oneOf_mul_iff]
    constructor
    · rintro (member | ⟨c, rest, rfl, isOf, member⟩)
      · obtain ⟨short, ofClass⟩ := ih.1 member
        exact ⟨Nat.le_succ_of_le short, ofClass⟩
      · obtain ⟨short, others⟩ := ih.1 member
        exact ⟨Nat.succ_le_succ short, List.forall_mem_cons.2 ⟨isOf, others⟩⟩
    · rintro ⟨short, ofClass⟩
      cases cs with
      | nil => exact .inl (ih.2 ⟨Nat.zero_le n, nofun⟩)
      | cons c rest =>
        obtain ⟨isOf, others⟩ := List.forall_mem_cons.1 ofClass
        exact .inr ⟨c, rest, rfl, isOf, ih.2 ⟨Nat.le_of_succ_le_succ short, others⟩⟩

/-- At least so many characters of a class make up the words of them that are no shorter. -/
theorem mem_atLeast_oneOf_iff :
    cs ∈ atLeast n (oneOf ranges singles) ↔ n ≤ cs.length ∧ ∀ c ∈ cs, OfClass ranges singles c := by
  rw [atLeast, Language.mem_mul]
  constructor
  · rintro ⟨front, inPower, back, inStar, rfl⟩
    obtain ⟨rfl, before⟩ := mem_pow_oneOf_iff.1 inPower
    exact ⟨by simp, List.forall_mem_append.2 ⟨before, mem_kstar_oneOf_iff.1 inStar⟩⟩
  · rintro ⟨long, ofClass⟩
    refine ⟨cs.take n, mem_pow_oneOf_iff.2 ⟨List.length_take_of_le long, ?_⟩, cs.drop n,
      mem_kstar_oneOf_iff.2 ?_, List.take_append_drop n cs⟩
    · exact fun c member => ofClass c (List.mem_of_mem_take member)
    · exact fun c member => ofClass c (List.mem_of_mem_drop member)

/-! ## Classes of characters -/

/-- Letters. -/
abbrev letterRanges : List (Char × Char) := [('A', 'Z'), ('a', 'z')]

/-- Letters and digits. -/
abbrev alphanumRanges : List (Char × Char) := [('A', 'Z'), ('a', 'z'), ('0', '9')]

theorem ofClass_letters_iff : OfClass letterRanges [] c ↔ c.isAlpha = true := by
  rw [isAlpha_iff, isUpper_iff, isLower_iff]
  simp [OfClass]

/-- The ranges of letters and digits, with some marks, are the alphanumeric characters and these
marks. -/
theorem ofClass_alphanum_iff :
    OfClass alphanumRanges singles c ↔ c.isAlphanum = true ∨ c ∈ singles := by
  rw [isAlphanum_iff, isUpper_iff, isLower_iff, isDigit_iff]
  simp [OfClass, or_assoc]

theorem ofClass_digits_iff : OfClass [('0', '9')] [] c ↔ c.isDigit = true := by
  rw [isDigit_iff]
  simp [OfClass]

theorem ofClass_small_iff : OfClass [('a', 'z'), ('0', '9')] [] c ↔ isLowerAlphanum c = true := by
  rw [isLowerAlphanum, Bool.or_eq_true, isLower_iff, isDigit_iff]
  simp [OfClass]

theorem ofClass_hex_iff :
    OfClass [('0', '9'), ('A', 'F'), ('a', 'f')] [] c ↔ isHexDigit c = true := by
  simp only [isHexDigit, Bool.or_eq_true, Bool.and_eq_true, decide_eq_true_eq, isDigit_iff]
  simp [OfClass]
  tauto

/-! ## Tags -/

/-- The expression `[A-Za-z0-9_][A-Za-z0-9_.-]{0,127}`. -/
def tagPattern : Language Char :=
  oneOf alphanumRanges ['_'] * atMost 127 (oneOf alphanumRanges ['_', '.', '-'])

theorem mem_tagPattern_iff : cs ∈ tagPattern ↔ TagText cs := by
  rw [← isTag_iff, tagPattern, mem_oneOf_mul_iff]
  have word (c : Char) : isWordChar c = true ↔ OfClass alphanumRanges ['_'] c := by
    simp [isWordChar, ofClass_alphanum_iff]
  have inTag (c : Char) : isTagChar c = true ↔ OfClass alphanumRanges ['_', '.', '-'] c := by
    simp [isTagChar_iff, ofClass_alphanum_iff]
  cases cs with
  | nil => simp [isTag]
  | cons c rest =>
    simp only [isTag, Bool.and_eq_true, decide_eq_true_eq, List.all_eq_true, word, inTag,
      mem_atMost_oneOf_iff, and_assoc]
    constructor
    · rintro ⟨_, _, same, isOf, others⟩
      cases same
      exact ⟨isOf, others⟩
    · rintro ⟨isOf, others⟩
      exact ⟨c, rest, rfl, isOf, others⟩

/-! ## Components -/

/-- The expression `[a-z0-9]+`. -/
def runPattern : Language Char := oneOrMore (oneOf [('a', 'z'), ('0', '9')] [])

/-- The expression `[._]|__|[-]*`. -/
def runSeparatorPattern : Language Char :=
  oneOf [] ['.', '_'] + exactly '_' * exactly '_' + (exactly '-')∗

/-- The expression `[a-z0-9]+(([._]|__|[-]*)[a-z0-9]+)*`. -/
def componentPattern : Language Char := runPattern * (runSeparatorPattern * runPattern)∗

theorem mem_runPattern_iff : cs ∈ runPattern ↔ Run cs := by
  simp only [runPattern, mem_oneOrMore_oneOf_iff, ofClass_small_iff, Run]

/-- The separators of two runs, or nothing. -/
theorem mem_runSeparatorPattern_iff : cs ∈ runSeparatorPattern ↔ cs = [] ∨ RunSeparator cs := by
  rw [runSeparatorPattern, Language.mem_add, Language.mem_add, mem_exactly_mul_iff, exactly,
    exactly, mem_kstar_oneOf_iff, mem_oneOf_iff]
  simp only [RunSeparator, OfClass, List.not_mem_nil, false_and, exists_false, false_or,
    List.mem_cons, or_false, mem_oneOf_iff]
  constructor
  · rintro ((⟨c, rfl, rfl | rfl⟩ | ⟨_, ⟨c, rfl, rfl⟩, rfl⟩) | hyphens)
    · simp
    · simp
    · simp
    · by_cases none : cs = []
      · exact .inl none
      · exact .inr (.inr (.inr (.inr ⟨none, hyphens⟩)))
  · rintro (rfl | rfl | rfl | rfl | ⟨-, hyphens⟩)
    · exact .inr nofun
    · exact .inl (.inl ⟨'.', rfl, .inl rfl⟩)
    · exact .inl (.inl ⟨'_', rfl, .inr rfl⟩)
    · exact .inl (.inr ⟨['_'], ⟨'_', rfl, rfl⟩, rfl⟩)
    · exact .inr hyphens

/-- Two runs with nothing between them are one. -/
theorem Run.append_component {run : List Char} (isRun : Run run) (component : Component cs) :
    Component (run ++ cs) := by
  have longer {next : List Char} (isNext : Run next) : Run (run ++ next) :=
    ⟨by simp [isRun.1], List.forall_mem_append.2 ⟨isRun.2, isNext.2⟩⟩
  cases component with
  | last isNext => exact .last (longer isNext)
  | more isNext separator rest =>
    rw [← List.append_assoc, ← List.append_assoc]
    exact .more (longer isNext) separator rest

theorem mem_componentPattern_iff : cs ∈ componentPattern ↔ Component cs := by
  rw [componentPattern, Text.mem_mul_kstar_iff]
  constructor
  · intro joined
    induction joined with
    | last isRun => exact .last (mem_runPattern_iff.1 isRun)
    | more isRun between _ ih =>
      -- Where nothing stands between two runs, they are one longer run.
      rcases mem_runSeparatorPattern_iff.1 between with rfl | separator
      · rw [List.append_nil]
        exact (mem_runPattern_iff.1 isRun).append_component ih
      · exact .more (mem_runPattern_iff.1 isRun) separator ih
  · intro component
    exact component.imp (fun _ => mem_runPattern_iff.2)
      fun _ separator => mem_runSeparatorPattern_iff.2 (.inr separator)

/-! ## Hosts -/

/-- The expression `[a-zA-Z0-9]|[a-zA-Z0-9][a-zA-Z0-9-]*[a-zA-Z0-9]`. -/
def labelPattern : Language Char :=
  oneOf alphanumRanges [] +
    oneOf alphanumRanges [] * ((oneOf alphanumRanges ['-'])∗ * oneOf alphanumRanges [])

/-- The expression of labels joined by dots, with `(:[0-9]+)?` behind. -/
def hostPattern : Language Char :=
  labelPattern * (exactly '.' * labelPattern)∗ *
    optional (exactly ':' * oneOrMore (oneOf [('0', '9')] []))

theorem mem_labelPattern_iff : cs ∈ labelPattern ↔ Label cs := by
  rw [labelPattern, Language.mem_add, mem_oneOf_mul_iff, mem_oneOf_iff]
  simp only [Language.mem_mul, mem_kstar_oneOf_iff, mem_oneOf_iff, ofClass_alphanum_iff,
    List.not_mem_nil, or_false, List.mem_singleton]
  constructor
  · rintro (⟨c, rfl, alphanumeric⟩ | ⟨c, _, rfl, first, middle, inside, _, ⟨d, rfl, last⟩, rfl⟩)
    · exact ⟨List.cons_ne_nil c [], by simp [alphanumeric], by simp [alphanumeric],
        by simp [alphanumeric]⟩
    · refine ⟨List.cons_ne_nil _ _, ?_, by simp [first], ?_⟩
      · intro e member
        rcases List.mem_cons.1 member with rfl | member
        · exact .inl first
        · rcases List.mem_append.1 member with inMiddle | atEnd
          · exact inside e inMiddle
          · rw [List.mem_singleton.1 atEnd]
            exact .inl last
      · rw [← List.cons_append, List.getLast?_concat]
        simp [last]
  · intro label
    obtain ⟨c, rest, rfl⟩ := List.exists_cons_of_ne_nil label.nonempty
    have first := label.first c rfl
    -- A label has one character, or a first and a last one with the others between them.
    rcases List.eq_nil_or_concat rest with rfl | ⟨middle, d, rfl⟩
    · exact .inl ⟨c, rfl, first⟩
    · rw [List.concat_eq_append] at label ⊢
      have last := label.last d (by rw [← List.cons_append, List.getLast?_concat])
      exact .inr ⟨c, _, rfl, first, middle, fun e member => label.chars e (by simp [member]), [d],
        ⟨d, rfl, last⟩, rfl⟩

theorem mem_hostPattern_iff : cs ∈ hostPattern ↔ Host cs := by
  have labels {ds : List Char} : ds ∈ labelPattern * (exactly '.' * labelPattern)∗ ↔ Domain ds := by
    rw [Text.mem_mul_kstar_iff]
    constructor
    · exact fun joined => joined.imp (fun _ => mem_labelPattern_iff.1) fun _ => mem_exactly_iff.1
    · exact fun domain => domain.imp (fun _ => mem_labelPattern_iff.2) fun _ => mem_exactly_iff.2
  rw [hostPattern, Language.mem_mul]
  simp only [labels, mem_optional_iff, mem_exactly_mul_iff, mem_oneOrMore_oneOf_iff,
    ofClass_digits_iff]
  constructor
  · rintro ⟨domain, isDomain, _, rfl | ⟨port, ⟨some, digits⟩, rfl⟩, rfl⟩
    · rw [List.append_nil]
      exact .inl isDomain
    · exact .inr ⟨domain, port, rfl, isDomain, some, digits⟩
  · rintro (isDomain | ⟨domain, port, rfl, isDomain, some, digits⟩)
    · exact ⟨cs, isDomain, [], .inl rfl, List.append_nil cs⟩
    · exact ⟨domain, isDomain, ':' :: port, .inr ⟨port, ⟨some, digits⟩, rfl⟩, rfl⟩

/-! ## Digests -/

/-- The expression `[A-Za-z][A-Za-z0-9]*`. -/
def algorithmWordPattern : Language Char := oneOf letterRanges [] * (oneOf alphanumRanges [])∗

/-- The expression of words joined by `[-_+.]`, with `[:][[:xdigit:]]{32,}` behind. -/
def digestPattern : Language Char :=
  algorithmWordPattern * (oneOf [] ['-', '_', '+', '.'] * algorithmWordPattern)∗ *
    (exactly ':' * atLeast 32 (oneOf [('0', '9'), ('A', 'F'), ('a', 'f')] []))

theorem mem_algorithmWordPattern_iff : cs ∈ algorithmWordPattern ↔ AlgorithmWord cs := by
  simp only [algorithmWordPattern, mem_oneOf_mul_iff, mem_kstar_oneOf_iff, ofClass_letters_iff,
    ofClass_alphanum_iff, List.not_mem_nil, or_false, AlgorithmWord]

theorem mem_digestPattern_iff : cs ∈ digestPattern ↔ Digest cs := by
  have separators {s : List Char} : s ∈ oneOf [] ['-', '_', '+', '.'] ↔ AlgorithmSeparator s := by
    simp [mem_oneOf_iff, OfClass, AlgorithmSeparator]
  have words {ds : List Char} : ds ∈ algorithmWordPattern *
      (oneOf [] ['-', '_', '+', '.'] * algorithmWordPattern)∗ ↔ Algorithm ds := by
    rw [Text.mem_mul_kstar_iff]
    constructor
    · exact fun joined => joined.imp (fun _ => mem_algorithmWordPattern_iff.1) fun _ => separators.1
    · exact fun algorithm =>
        algorithm.imp (fun _ => mem_algorithmWordPattern_iff.2) fun _ => separators.2
  rw [digestPattern, Language.mem_mul]
  simp only [words, mem_exactly_mul_iff, mem_atLeast_oneOf_iff, ofClass_hex_iff]
  constructor
  · rintro ⟨algorithm, isAlgorithm, _, ⟨hex, ⟨long, digits⟩, rfl⟩, rfl⟩
    exact ⟨algorithm, hex, rfl, isAlgorithm, long, digits⟩
  · rintro ⟨algorithm, hex, rfl, isAlgorithm, long, digits⟩
    exact ⟨algorithm, isAlgorithm, ':' :: hex, ⟨hex, ⟨long, digits⟩, rfl⟩, rfl⟩

/-! ## References -/

/-- The expression `(host/)?component(/component)*`. -/
def namePattern : Language Char :=
  optional (hostPattern * exactly '/') * (componentPattern * (exactly '/' * componentPattern)∗)

/-- The expression `name(:tag)?(@digest)?`. -/
def referencePattern : Language Char :=
  namePattern * optional (exactly ':' * tagPattern) * optional (exactly '@' * digestPattern)

/-- Components with separators between them are put together of at least one. -/
theorem mem_components_iff : cs ∈ componentPattern * (exactly '/' * componentPattern)∗ ↔
    ∃ components, components ≠ [] ∧ (∀ component ∈ components, Component component) ∧
      ['/'].intercalate components = cs := by
  have free (w : List Char) (component : Component w) : '/' ∉ w := by
    intro member
    have char := component.chars '/' member
    revert char
    decide
  rw [Text.mem_mul_kstar_iff, ← Text.joined_iff_intercalate free]
  constructor
  · exact fun joined => joined.imp (fun _ => mem_componentPattern_iff.1) fun _ => mem_exactly_iff.1
  · exact fun joined => joined.imp (fun _ => mem_componentPattern_iff.2) fun _ => mem_exactly_iff.2

/-- The pattern of a name is that of the grammar, with the components put together. -/
theorem mem_namePattern_iff :
    cs ∈ namePattern ↔ ∃ components, Name components ∧ ['/'].intercalate components = cs := by
  rw [namePattern, Language.mem_mul]
  simp only [mem_optional_iff, mem_components_iff]
  constructor
  · rintro ⟨_, rfl | hostAndSlash, _, ⟨components, nonempty, each, rfl⟩, rfl⟩
    · -- Without a host in front, all are components.
      refine ⟨components, ?_, rfl⟩
      obtain ⟨first, rest, rfl⟩ := List.exists_cons_of_ne_nil nonempty
      obtain ⟨front, others⟩ := List.forall_mem_cons.1 each
      by_cases more : rest = []
      · subst more
        exact .only front
      · exact .several (.inl front) more others
    · -- With a host in front, there is at least one component behind it.
      obtain ⟨host, isHost, _, slash, rfl⟩ := Language.mem_mul.1 hostAndSlash
      rw [mem_exactly_iff.1 slash]
      refine ⟨host :: components, .several (.inr (mem_hostPattern_iff.1 isHost)) nonempty each, ?_⟩
      rw [Text.intercalate_cons nonempty, List.append_assoc, List.singleton_append]
  · rintro ⟨components, name, rfl⟩
    cases name with
    | @only component isComponent =>
      exact ⟨[], .inl rfl, _, ⟨[component], List.cons_ne_nil _ _,
        List.forall_mem_singleton.2 isComponent, rfl⟩, rfl⟩
    | @several first rest front nonempty others =>
      rcases front with component | host
      · exact ⟨[], .inl rfl, _, ⟨first :: rest, List.cons_ne_nil _ _,
          List.forall_mem_cons.2 ⟨component, others⟩, rfl⟩, rfl⟩
      · refine ⟨first ++ ['/'], .inr ?_, _, ⟨rest, nonempty, others, rfl⟩, ?_⟩
        · exact Language.append_mem_mul (mem_hostPattern_iff.2 host) (mem_exactly_iff.2 rfl)
        · rw [Text.intercalate_cons nonempty, List.append_assoc, List.singleton_append]

/-- A part behind its mark, or nothing. -/
theorem mem_optional_marked_iff {mark : Char} {part : List Char → Prop}
    (parts : ∀ {ds}, ds ∈ l ↔ part ds) :
    cs ∈ optional (exactly mark * l) ↔
      ∃ part?, (∀ ds, part? = some ds → part ds) ∧ marked mark part? = cs := by
  rw [mem_optional_iff, mem_exactly_mul_iff]
  constructor
  · rintro (rfl | ⟨ds, member, rfl⟩)
    · exact ⟨none, nofun, rfl⟩
    · refine ⟨some ds, ?_, rfl⟩
      rintro _ ⟨⟩
      exact parts.1 member
  · rintro ⟨none | ds, isPart, rfl⟩
    · exact .inl rfl
    · exact .inr ⟨ds, parts.2 (isPart ds rfl), rfl⟩

/-- The texts of references are those that are put together from the parts of one. -/
theorem mem_referencePattern_iff :
    cs ∈ referencePattern ↔ ∃ s : Split, s.IsReference ∧ s.text = cs := by
  rw [referencePattern, Language.mem_mul]
  simp only [Language.mem_mul, mem_namePattern_iff, mem_optional_marked_iff mem_tagPattern_iff,
    mem_optional_marked_iff mem_digestPattern_iff]
  constructor
  · rintro ⟨_, ⟨_, ⟨components, name, rfl⟩, _, ⟨tag, isTag, rfl⟩, rfl⟩, _, ⟨digest, isDigest, rfl⟩,
      rfl⟩
    exact ⟨⟨components, tag, digest⟩, ⟨name, isTag, isDigest⟩, rfl⟩
  · rintro ⟨s, reference, rfl⟩
    exact ⟨_, ⟨_, ⟨s.components, reference.name, rfl⟩, _, ⟨s.tag, reference.tag, rfl⟩, rfl⟩, _,
      ⟨s.digest, reference.digest, rfl⟩, rfl⟩

end JenkinsOperator.Image
