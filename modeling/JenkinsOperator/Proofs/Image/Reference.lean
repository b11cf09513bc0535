import JenkinsOperator.Proofs.Image.Pattern

/-!
# Images are tags and references

What is accepted as an image (`isValid_exact`): the texts of the grammar, of which there are two
kinds, and of the second kind each text has its parts in one way only.
-/

namespace JenkinsOperator.Image

variable {cs : List Char} {c : Char}

/-- Letters, digits and marks are characters of ASCII. -/
theorem toNat_lt_of_isAlphanum_or_mark (char : c.isAlphanum = true ∨ c ∈ marks) :
    c.toNat < 128 := by
  rcases char with alphanumeric | mark
  · have below := (visible_of_isWordChar (isWordChar_of_isAlphanum alphanumeric)).2
    exact Nat.lt_trans below (by decide)
  · simp only [marks, List.mem_cons, List.not_mem_nil, or_false] at mark
    rcases mark with rfl | rfl | rfl | rfl | rfl | rfl | rfl <;> decide

theorem TagText.alphanum_or_mark (tag : TagText cs) :
    ∀ c ∈ cs, c.isAlphanum = true ∨ c ∈ marks := by
  intro c member
  rcases tag.chars c member with alphanumeric | rfl | rfl | rfl
  · exact .inl alphanumeric
  · exact .inr (by decide)
  · exact .inr (by decide)
  · exact .inr (by decide)

/-- Images are tags, and references that were taken apart by the rule. -/
theorem isValid_iff {image : String} : isValid image = true ↔
    TagText image.toList ∨ (split image.toList).IsReference := by
  rw [isValid, Bool.or_eq_true, isTag_iff, Split.isValid_iff]

/-- The accepted images are the texts of the two expressions. They are tags, or are taken apart by
the rule into the parts of a reference. No other parts of a reference have that text, and these
follow the rule, by which a port has a slash after it and is no tag. All characters are letters,
digits and a few marks of ASCII. -/
theorem isValid_exact (image : String) :
    (isValid image = true ↔
      image ≠ "" ∧ (image.toList ∈ tagPattern ∨ image.toList ∈ referencePattern)) ∧
    (isValid image = true ↔ TagText image.toList ∨
      ∃ s named name, Split.CutAt s image.toList named name ∧ s.IsReference) ∧
    (∀ s : Split, s.IsReference → s.text = image.toList →
      s = split image.toList ∧ ∃ named name, s.CutAt image.toList named name) ∧
    (isValid image = true →
      ∀ c ∈ image.toList, c.toNat < 128 ∧ (c.isAlphanum = true ∨ c ∈ marks)) := by
  refine ⟨?patterns, ?parts, ?unique, ?chars⟩
  case patterns =>
    rw [isValid_iff, mem_tagPattern_iff, mem_referencePattern_iff, ← isReference_split_iff,
      ← isValid_iff]
    refine ⟨fun valid => ⟨?_, valid⟩, And.right⟩
    -- The empty text is in neither language.
    rintro rfl
    exact absurd valid (by decide)
  case parts =>
    rw [isValid_iff]
    refine or_congr_right ⟨?_, ?_⟩
    · intro reference
      have cut := reference.cutAt
      rw [text_split] at cut
      exact ⟨_, _, _, cut, reference⟩
    · rintro ⟨s, named, name, cut, reference⟩
      rw [cut.split_eq]
      exact reference
  case unique =>
    intro s reference text
    rw [← text]
    exact ⟨reference.split_text.symm, _, _, reference.cutAt⟩
  case chars =>
    intro valid c member
    have char : c.isAlphanum = true ∨ c ∈ marks := by
      rcases isValid_iff.1 valid with tag | reference
      · exact tag.alphanum_or_mark c member
      · -- Nothing is lost by taking the text apart, so its characters are those of the parts.
        rw [← text_split image.toList] at member
        exact reference.chars c member
    exact ⟨toNat_lt_of_isAlphanum_or_mark char, char⟩

/-- An image on a registry with a port. -/
def ported : Split :=
  ⟨["registry.example.com:5000".toList, "ci".toList, "jenkins".toList], some "2.150".toList, none⟩

/-- The port stays with its host, and the tag is what follows the last colon. -/
theorem isValid_exact_ported :
    ported.IsReference ∧ ported.text = "registry.example.com:5000/ci/jenkins:2.150".toList ∧
      ported = split "registry.example.com:5000/ci/jenkins:2.150".toList ∧
      ∃ named name,
        ported.CutAt "registry.example.com:5000/ci/jenkins:2.150".toList named name := by
  have reference : ported.IsReference := Split.isValid_iff.1 (by decide)
  have text : ported.text = "registry.example.com:5000/ci/jenkins:2.150".toList := by decide
  exact ⟨reference, text, (isValid_exact _).2.2.1 ported reference text⟩

end JenkinsOperator.Image
