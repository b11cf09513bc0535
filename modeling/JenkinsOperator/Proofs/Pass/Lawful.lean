import JenkinsOperator.Proofs.Pass.Protocol

/-!
# What the past of a lawful pass shows

The protocol says what one call needs. By induction on the exchanges it follows what holds of all
calls of a pass. An exchange leaves the copy held as it is, or replaces it by what the store made of
it (`Update`), and specifications are written before any other call is made; so whatever a pass is
about, it is about one specification of one generation (`Lawful.sees`).
-/

namespace JenkinsOperator

variable {server : Jenkins → Jenkins → Prop} {past : Past} {e : Call.Exchange} {j j' : Jenkins}

/-- What an accepted write of a pass makes of an object. -/
inductive Update (server : Jenkins → Jenkins → Prop) (past : Past) (j j' : Jenkins) :
    Call → Prop where
  | defaults (object : Jenkins) : (∀ e ∈ past, e.call.isFetch) → j.spec.isIncomplete →
      j'.spec = j.spec.withDefaults → j'.status = j.status → server j j' →
      Update server past j j' (.writeSpec object)
  | status (s : JenkinsStatus) : Advance past j s → j'.spec = j.spec → j'.status = some s →
      server j j' → Update server past j j' (.writeStatus { j with status := some s })

/-- What an update makes of specification and status, whichever write it is. -/
theorem Update.defaults_or_advance {c : Call} (update : Update server past j j' c) :
    (j.spec.isIncomplete = true ∧ j'.spec = j.spec.withDefaults ∧
        j'.statusOrUnset = j.statusOrUnset) ∨
      (j'.spec = j.spec ∧ Advance past j j'.statusOrUnset) := by
  cases update with
  | defaults object _ incomplete spec status _ =>
    left
    exact ⟨incomplete, spec, Jenkins.statusOrUnset_congr status⟩
  | status s advance spec status _ =>
    right
    rw [Jenkins.statusOrUnset_of_eq_some status]
    exact ⟨spec, advance⟩

/-- An update is one that the server allows. -/
theorem Update.kept {c : Call} (update : Update server past j j' c) : server j j' := by
  cases update with
  | defaults object _ _ _ _ kept => exact kept
  | status s _ _ _ kept => exact kept

/-- An accepted write that fits is an update of the copy held. -/
theorem Accepted.update {c : Call} (accepted : Accepted server j j' c) (fits : Fits past c)
    (held : held? past = some j) : Update server past j j' c := by
  cases accepted with
  | spec object version spec status kept =>
    obtain ⟨before, held', fetched, incomplete, rfl⟩ := fits
    cases held.symm.trans held'
    exact .defaults _ fetched incomplete spec status kept
  | status object version spec status kept =>
    obtain ⟨before, s, held', advance, rfl⟩ := fits
    cases held.symm.trans held'
    exact .status s advance spec status kept

/-- A pass reads the object first of all. -/
theorem Permitted.past_eq_nil {c : Call} (h : Permitted past c) (reads : c.isFetch) :
    past = [] := by
  cases c with
  | fetch identity => exact h.fits
  | _ => cases reads

/-- After a lawful exchange, the copy held is the one held before or an update of it. -/
theorem Lawful.held?_cons (lawful : Lawful server (e :: past)) (held : held? past = some j) :
    held? (e :: past) = some j ∨
      ∃ stored, held? (e :: past) = some stored ∧ Update server past j stored e.call := by
  obtain ⟨-, permitted, credible⟩ := lawful
  rcases e with ⟨c, answer⟩
  cases stored : c.stored? answer with
  | none =>
    left
    cases reads : c.isFetch with
    | true =>
      -- A read is the first call of a pass, and then no copy was held.
      have start := permitted.past_eq_nil reads
      subst start
      cases held
    | false =>
      show (c.returned? answer).or (held? past) = some j
      rw [Call.returned?_of_not_isFetch reads, stored]
      exact held
  | some after =>
    right
    obtain ⟨before, held', accepted⟩ := credible after stored
    cases held.symm.trans held'
    exact ⟨after, held?_of_stored? stored, accepted.update permitted.fits held⟩

/-- The writes of a lawful pass that were accepted were writes of the copy held. -/
theorem Lawful.credible (lawful : Lawful server past) : Along (Credible server) past := by
  induction past with
  | nil => trivial
  | cons e past ih => exact ⟨ih lawful.1, lawful.2.2⟩

/-- Every call of a lawful pass fits exchanges that came before it. -/
theorem Lawful.exists_fits (lawful : Lawful server past) (member : e ∈ past) :
    ∃ early, early ⊆ past ∧ Fits early e.call := by
  induction past with
  | nil => cases member
  | cons last past ih =>
    rcases List.mem_cons.1 member with rfl | member
    · exact ⟨past, List.subset_cons_self _ past, lawful.2.1.fits⟩
    · obtain ⟨early, grown, fits⟩ := ih lawful.1 member
      exact ⟨early, List.subset_cons_of_subset last grown, fits⟩

/-! ## One specification -/

/-- A write that leaves the specification as it is leaves the generation as it is. -/
def SteadyGeneration (before after : Jenkins) : Prop :=
  after.spec = before.spec → after.metadata.generation = before.metadata.generation

instance : DecidableRel SteadyGeneration := fun _ _ => inferInstanceAs (Decidable (_ → _))

/-- Whether whatever a call shows of an object is of a specification and a generation. A read of a
Secret shows that a seed job names it. -/
def Call.Sees (spec : JenkinsSpec) (generation : Option Int) : Call → Prop
  | .readSecret identity => ∃ job ∈ spec.seedJobs, ∃ selector, job.privateKey = some selector ∧
      identity.name = selector.name
  | c => ∀ object, c.subject? = some object →
      object.spec = spec ∧ object.metadata.generation = generation

theorem Call.sees_of_isFetch {spec : JenkinsSpec} {generation : Option Int} {c : Call}
    (h : c.isFetch) : c.Sees spec generation := by
  cases c with
  | fetch identity => exact fun _ subject => nomatch subject
  | _ => cases h

/-- A call that fits sees what the copy held says. -/
theorem Fits.sees {spec : JenkinsSpec} {generation : Option Int} {c : Call} (fits : Fits past c)
    (agree : ∀ j, held? past = some j → j.spec = spec ∧ j.metadata.generation = generation) :
    c.Sees spec generation := by
  have copy : ∀ object, held? past = some object → c.subject? = some object →
      ∀ object', c.subject? = some object' →
        object'.spec = spec ∧ object'.metadata.generation = generation := by
    intro object held subject object' subject'
    cases subject.symm.trans subject'
    exact agree object held
  cases c with
  | fetch identity => exact fun _ subject => nomatch subject
  | writeSpec object => exact fun _ subject => nomatch subject
  | writeStatus object =>
    obtain ⟨j, s, held, -, rfl⟩ := fits
    rintro _ ⟨⟩
    exact agree j held
  | readConfigMap identity => exact fun _ subject => nomatch subject
  | readSecret identity =>
    obtain ⟨j, job, selector, held, listed, named, same⟩ := fits
    exact ⟨job, (agree j held).1 ▸ listed, selector, named, same⟩
  | acceptsSpec object => exact copy object fits.1 rfl
  | provision object => exact copy object fits.1 rfl
  | ensureSeedJobs handle object => exact copy object fits.1 rfl
  | configureScripts handle => exact fun _ subject => nomatch subject
  | runScripts handle scripts object => exact copy object fits.1 rfl
  | publish object n => exact copy object fits.1 rfl
  | clock => exact fun _ subject => nomatch subject

/-- Whatever the copy held agrees with is what all calls of a pass have seen. -/
theorem Lawful.sees {spec : JenkinsSpec} {generation : Option Int}
    (steady : ∀ before after, server before after → SteadyGeneration before after)
    (lawful : Lawful server past)
    (agree : ∀ j, held? past = some j → j.spec = spec ∧ j.metadata.generation = generation) :
    ∀ e ∈ past, e.call.Sees spec generation := by
  induction past with
  | nil => exact fun _ member => nomatch member
  | cons last past ih =>
    -- The copy agreed before the last exchange, too, unless that stored defaults; and before
    -- defaults are stored nothing is seen.
    have before : (∃ object, last.call = .writeSpec object) ∧ (∀ e ∈ past, e.call.isFetch) ∨
        ∀ j, held? past = some j → j.spec = spec ∧ j.metadata.generation = generation := by
      cases held : held? past with
      | none => exact .inr fun _ held' => nomatch held'
      | some j =>
        obtain same | ⟨stored, now, update⟩ := lawful.held?_cons held
        · refine .inr fun j' held' => ?_
          cases held'
          exact agree j same
        · generalize last.call = c at update
          cases update with
          | defaults object fetched _ _ _ _ => exact .inl ⟨⟨object, rfl⟩, fetched⟩
          | status s _ same _ kept =>
            refine .inr fun j' held' => ?_
            cases held'
            obtain ⟨spec, generation⟩ := agree stored now
            exact ⟨same ▸ spec, steady j stored kept same ▸ generation⟩
    intro e member
    obtain ⟨⟨object, write⟩, fetched⟩ | agree' := before
    · rcases List.mem_cons.1 member with rfl | member
      · rw [write]
        exact fun _ subject => nomatch subject
      · exact Call.sees_of_isFetch (fetched e member)
    · rcases List.mem_cons.1 member with rfl | member
      · exact lawful.2.1.fits.sees agree'
      · exact ih lawful.1 agree' e member

end JenkinsOperator
