import JenkinsOperator.Proofs.Image.Grammar

/-!
# References taken apart

A reference is put together from its parts by `Split.text`, and taken apart by a rule
(`Split.CutAt`): cut at the only `@`, then at a colon with no slash after it, then at the slashes.
`split` follows the rule (`Split.CutAt.split_eq`) and loses nothing (`text_split`). The parts of a
reference follow the rule (`Split.IsReference.cutAt`): digests have no `@`, tags have neither
slashes nor colons, and a host has a slash after it. So a reference can be taken apart in one way
only.
-/

namespace JenkinsOperator.Image

/-- A part that may be missing, with the mark in front of it. -/
def marked (mark : Char) : Option (List Char) → List Char
  | none => []
  | some part => mark :: part

/-- The text of a reference: `name[:tag][@digest]`. -/
def Split.text (s : Split) : List Char :=
  ['/'].intercalate s.components ++ marked ':' s.tag ++ marked '@' s.digest

/-- The rule by which a text is taken apart: what is left of the digest is `named`, and what is left
of the tag is `name`. -/
structure Split.CutAt (s : Split) (cs named name : List Char) : Prop where
  /-- The digest follows an `@`, -/
  whole : cs = named ++ marked '@' s.digest
  /-- and that is the only one. -/
  onlyAt : '@' ∉ named ∧ ∀ digest, s.digest = some digest → '@' ∉ digest
  /-- The tag follows a colon, -/
  left : named = name ++ marked ':' s.tag
  /-- with neither a slash nor a colon after it, -/
  tag : ∀ tag, s.tag = some tag → '/' ∉ tag ∧ ':' ∉ tag
  /-- and there is a slash after each colon that is left. -/
  port : ∀ before after, name = before ++ ':' :: after → '/' ∈ after
  /-- The components stand between the slashes. -/
  components : s.components = Text.splitOn '/' name

/-! ## Last components -/

variable {cs named name : List Char} {s : Split}

theorem mapLast_concat (f : List Char → List Char) (init : List (List Char)) (last : List Char) :
    mapLast f (init ++ [last]) = init ++ [f last] := by
  induction init with
  | nil => rfl
  | cons first init ih =>
    cases rest : init ++ [last] with
    | nil => simp at rest
    | cons second others =>
      rw [rest] at ih
      rw [List.cons_append, rest, mapLast, ih]
      · rfl
      · simp

theorem exists_splitOn_eq_concat (cs : List Char) :
    ∃ init last, Text.splitOn '/' cs = init ++ [last] := by
  rcases List.eq_nil_or_concat (Text.splitOn '/' cs) with none | ⟨init, last, parts⟩
  · exact absurd none (Text.splitOn_ne_nil cs)
  · exact ⟨init, last, parts.trans List.concat_eq_append⟩

/-- What has no slash in it goes to the last component. -/
theorem splitOn_append_of_not_mem {init : List (List Char)} {last more : List Char}
    (parts : Text.splitOn '/' cs = init ++ [last]) (without : '/' ∉ more) :
    Text.splitOn '/' (cs ++ more) = init ++ [last ++ more] := by
  have free : ∀ part ∈ init ++ [last], '/' ∉ part := by
    intro part member
    rw [← parts] at member
    exact Text.not_mem_of_mem_splitOn member
  have whole : cs ++ more = ['/'].intercalate (init ++ [last ++ more]) := by
    rw [← @Text.intercalate_splitOn '/' cs, parts, Text.intercalate_concat, Text.intercalate_concat,
      List.append_assoc]
  rw [whole, Text.splitOn_intercalate (by simp)]
  intro part member
  rcases List.mem_append.1 member with front | back
  · exact free part (List.mem_append_left _ front)
  · rw [List.mem_singleton.1 back]
    simp [free last (by simp), without]

/-- If there is a slash after each colon, there is no colon in the last component. -/
theorem colon_not_mem_last {init : List (List Char)} {last : List Char}
    (parts : Text.splitOn '/' name = init ++ [last])
    (port : ∀ before after, name = before ++ ':' :: after → '/' ∈ after) : ':' ∉ last := by
  intro member
  obtain ⟨front, back, rfl⟩ := List.append_of_mem member
  have free : '/' ∉ front ++ ':' :: back :=
    Text.not_mem_of_mem_splitOn (by rw [parts]; exact List.mem_concat_self)
  have whole : name = (init.flatMap (· ++ ['/']) ++ front) ++ ':' :: back := by
    rw [← @Text.intercalate_splitOn '/' name, parts, Text.intercalate_concat, List.append_assoc]
  have slash := port _ _ whole
  exact free (List.mem_append_right front (List.mem_cons_of_mem ':' slash))

/-! ## Taking apart -/

/-- The digest and what is left of it. -/
theorem split_of_named {digest : Option (List Char)} {init : List (List Char)} {last : List Char}
    (whole : cs = named ++ marked '@' digest) (onlyAt : '@' ∉ named)
    (parts : Text.splitOn '/' named = init ++ [last]) :
    split cs =
      ⟨init ++ [beforeColon last], (Text.cut? ':' last).map Prod.snd, digest⟩ := by
  have rest : (⟨mapLast beforeColon (Text.splitOn '/' named),
      ((Text.splitOn '/' named).getLast?.bind (Text.cut? ':')).map Prod.snd, digest⟩ : Split) =
      ⟨init ++ [beforeColon last], (Text.cut? ':' last).map Prod.snd, digest⟩ := by
    rw [parts, mapLast_concat, List.getLast?_concat]
    rfl
  rw [split]
  cases digest with
  | none =>
    obtain rfl : cs = named := whole.trans (List.append_nil named)
    rw [Text.cut?_eq_none_iff.2 onlyAt]
    exact rest
  | some digest =>
    rw [Text.cut?_eq_some_iff.2 ⟨whole, onlyAt⟩]
    exact rest

/-- A text is taken apart by the rule. -/
theorem Split.CutAt.split_eq (cut : s.CutAt cs named name) : split cs = s := by
  obtain ⟨init, last, parts⟩ := exists_splitOn_eq_concat name
  have noColon := colon_not_mem_last parts cut.port
  obtain ⟨components, tag, digest⟩ := s
  obtain rfl : components = init ++ [last] := cut.components.trans parts
  cases tag with
  | none =>
    obtain rfl : named = name := cut.left.trans (List.append_nil name)
    rw [split_of_named cut.whole cut.onlyAt.1 parts, beforeColon, Text.cut?_eq_none_iff.2 noColon]
    rfl
  | some tag =>
    -- The tag goes to the last component, and is cut off it again.
    have free : '/' ∉ ':' :: tag := by simp [(cut.tag tag rfl).1]
    have parts' : Text.splitOn '/' named = init ++ [last ++ ':' :: tag] := by
      rw [cut.left]
      exact splitOn_append_of_not_mem parts free
    rw [split_of_named cut.whole cut.onlyAt.1 parts', beforeColon,
      Text.cut?_eq_some_iff.2 ⟨rfl, noColon⟩]
    rfl

/-- Nothing is lost by taking a text apart. -/
theorem text_split (cs : List Char) : (split cs).text = cs := by
  obtain ⟨named, digest, whole, onlyAt⟩ :
      ∃ named digest, cs = named ++ marked '@' digest ∧ '@' ∉ named := by
    cases cut : Text.cut? '@' cs with
    | none => exact ⟨cs, none, (List.append_nil cs).symm, Text.cut?_eq_none_iff.1 cut⟩
    | some parts =>
      obtain ⟨whole, onlyAt⟩ := Text.cut?_eq_some_iff.1 cut
      exact ⟨parts.1, some parts.2, whole, onlyAt⟩
  obtain ⟨init, last, parts⟩ := exists_splitOn_eq_concat named
  rw [split_of_named whole onlyAt parts, Split.text, Text.intercalate_concat, whole,
    ← @Text.intercalate_splitOn '/' named, parts, Text.intercalate_concat]
  rw [beforeColon]
  cases cut : Text.cut? ':' last with
  | none => simp [marked]
  | some pair =>
    obtain ⟨same, -⟩ := Text.cut?_eq_some_iff.1 cut
    simp [marked, same]

/-! ## The parts of a reference follow the rule -/

namespace Name

variable {components : List (List Char)}

theorem ne_nil (name : Name components) : components ≠ [] := by
  cases name with
  | only _ => exact List.cons_ne_nil _ _
  | several _ _ _ => exact List.cons_ne_nil _ _

/-- No component has a slash in it, or an `@`. -/
theorem not_mem (name : Name components) {mark : Char} (other : mark = '/' ∨ mark = '@') :
    ∀ component ∈ components, mark ∉ component := by
  intro component member inside
  have char := name.chars component member mark inside
  rcases other with rfl | rfl
  · revert char
    decide
  · revert char
    decide

/-- A slash follows each colon in a name. -/
theorem port (name : Name components) (before after : List Char)
    (colon : ['/'].intercalate components = before ++ ':' :: after) : '/' ∈ after := by
  have noColon {component : List Char} (isComponent : Component component) : ':' ∉ component := by
    intro member
    have char := isComponent.chars ':' member
    revert char
    decide
  cases name with
  | @only component isComponent =>
    rw [List.intercalate_singleton] at colon
    exact absurd (by simp [colon]) (noColon isComponent)
  | @several first rest _ nonempty others =>
    rw [Text.intercalate_cons nonempty] at colon
    rcases List.append_eq_append_iff.1 colon with ⟨more, -, same⟩ | ⟨more, -, same⟩
    · -- The colon would be behind the first component.
      have behind : ':' ∈ '/' :: ['/'].intercalate rest := by simp [same]
      rcases List.mem_cons.1 behind with slash | inRest
      · exact absurd slash (by decide)
      · rcases Text.exists_of_mem_intercalate inRest with slash | ⟨component, member, inside⟩
        · exact absurd slash (by decide)
        · exact absurd inside (noColon (others component member))
    · -- The colon is in the first component, and the slash behind that follows.
      have behind : '/' ∈ ':' :: after := by simp [same]
      exact (List.mem_cons.1 behind).resolve_left (by decide)

end Name

/-- A tag has none of the signs at which a reference is cut. -/
theorem TagText.not_mem (tag : TagText cs) {mark : Char}
    (other : mark = '/' ∨ mark = ':' ∨ mark = '@') : mark ∉ cs := by
  intro member
  have char := tag.chars mark member
  rcases other with rfl | rfl | rfl
  · revert char
    decide
  · revert char
    decide
  · revert char
    decide

/-- A digest has no second sign that begins one. -/
theorem Digest.not_mem (digest : Digest cs) : '@' ∉ cs := by
  intro member
  have char := digest.chars '@' member
  revert char
  decide

/-- The parts of a reference follow the rule. -/
theorem Split.IsReference.cutAt (reference : s.IsReference) :
    s.CutAt s.text (['/'].intercalate s.components ++ marked ':' s.tag)
      (['/'].intercalate s.components) where
  whole := rfl
  onlyAt := by
    refine ⟨?_, fun digest there => (reference.digest digest there).not_mem⟩
    intro member
    rcases List.mem_append.1 member with inName | inTag
    · rcases Text.exists_of_mem_intercalate inName with slash | ⟨component, listed, inside⟩
      · exact absurd slash (by decide)
      · exact reference.name.not_mem (.inr rfl) component listed inside
    · cases there : s.tag with
      | none => simp [there, marked] at inTag
      | some tag =>
        rw [there, marked] at inTag
        rcases List.mem_cons.1 inTag with colon | inside
        · exact absurd colon (by decide)
        · exact (reference.tag tag there).not_mem (.inr (.inr rfl)) inside
  left := rfl
  tag := by
    intro tag there
    exact ⟨(reference.tag tag there).not_mem (.inl rfl),
      (reference.tag tag there).not_mem (.inr (.inl rfl))⟩
  port := reference.name.port
  components :=
    (Text.splitOn_intercalate reference.name.ne_nil (reference.name.not_mem (.inl rfl))).symm

/-- A reference is taken apart into its parts. -/
theorem Split.IsReference.split_text (reference : s.IsReference) : split s.text = s :=
  reference.cutAt.split_eq

/-- A text is a reference if and only if it is that of some parts of one. -/
theorem isReference_split_iff :
    (split cs).IsReference ↔ ∃ s : Split, s.IsReference ∧ s.text = cs := by
  constructor
  · intro reference
    exact ⟨split cs, reference, text_split cs⟩
  · rintro ⟨s, reference, rfl⟩
    rw [reference.split_text]
    exact reference

/-- The characters that are neither letters nor digits and may be in a reference. -/
def marks : List Char := ['_', '.', '-', '/', ':', '@', '+']

/-- A reference has none but ASCII characters. -/
theorem Split.IsReference.chars (reference : s.IsReference) :
    ∀ c ∈ s.text, c.isAlphanum = true ∨ c ∈ marks := by
  rw [marks]
  intro c member
  rcases List.mem_append.1 member with named | inDigest
  · rcases List.mem_append.1 named with inName | inTag
    · rcases Text.exists_of_mem_intercalate inName with rfl | ⟨component, listed, inside⟩
      · simp
      · have char := reference.name.chars component listed c inside
        simp only [List.mem_cons, List.not_mem_nil, or_false]
        tauto
    · cases there : s.tag with
      | none => simp [there, marked] at inTag
      | some tag =>
        rw [there, marked] at inTag
        rcases List.mem_cons.1 inTag with rfl | inside
        · simp
        · have char := (reference.tag tag there).chars c inside
          simp only [List.mem_cons, List.not_mem_nil, or_false]
          tauto
  · cases there : s.digest with
    | none => simp [there, marked] at inDigest
    | some digest =>
      rw [there, marked] at inDigest
      rcases List.mem_cons.1 inDigest with rfl | inside
      · simp
      · have char := (reference.digest digest there).chars c inside
        simp only [List.mem_cons, List.not_mem_nil, or_false]
        tauto

end JenkinsOperator.Image
