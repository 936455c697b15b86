import DataRescue.Datahub.SeedMerge

/-!
# Runs of the seeding

A run of `seed_context` that succeeds leaves every test it makes true, so a second run writes nothing; and it
keeps what its contracts do not manage, but for the `documentInfo` of the context document, of which it
replaces four nested objects as a whole (`seedContext_contract`).
-/

namespace DataRescue.SemanticSeed

open Python

variable {spec : SemanticContextSpec} {graph : Graph} {stamp : Json} {step other : Ensure}
  {steps : List Ensure} {seeding after : Seeding}

/-! ### One step -/

theorem emit_aspects (catalog : Catalog) (urn otherUrn : String) (name otherName : AspectName)
    (value : Fields) : (catalog.emit urn name value).aspects otherUrn otherName =
      if otherUrn = urn ∧ otherName = name then some value else catalog.aspects otherUrn otherName := rfl

theorem ensure_ok (h : ensure stamp step seeding = (.ok (), after)) :
    after = seeding ∧ step.update stamp (seeding.catalog.current step.urn step.name) = .ok none ∨
      ∃ value, after = seeding.emit step.urn step.name value ∧
        step.update stamp (seeding.catalog.current step.urn step.name) = .ok (some value) := by
  unfold ensure at h
  split at h
  next => cases h
  next hnone =>
    obtain rfl : seeding = after := congrArg Prod.snd h
    exact .inl ⟨rfl, hnone⟩
  next value hsome =>
    obtain rfl : seeding.emit step.urn step.name value = after := congrArg Prod.snd h
    exact .inr ⟨value, rfl, hsome⟩

theorem ensureAll_cons (h : ensureAll stamp (step :: steps) seeding = (.ok (), after)) :
    ∃ middle, ensure stamp step seeding = (.ok (), middle) ∧
      ensureAll stamp steps middle = (.ok (), after) := by
  rw [ensureAll] at h
  split at h
  next => cases h
  next middle hstep => exact ⟨middle, hstep, h⟩

/-! ### Settled tests -/

/-- The test of the step holds. -/
def Settled (step : Ensure) (catalog : Catalog) : Prop :=
  ∀ stamp, step.update stamp (catalog.current step.urn step.name) = .ok none

/-- The steps write different aspects, or have one update. -/
def Compatible (step other : Ensure) : Prop :=
  other.urn = step.urn → other.name = step.name → other.update = step.update

theorem settled_ensure (hsettles : Settles step.update)
    (h : ensure stamp step seeding = (.ok (), after)) : Settled step after.catalog := by
  intro later
  rcases ensure_ok h with ⟨rfl, hnone⟩ | ⟨value, rfl, hsome⟩
  · exact hsettles.stampFree stamp later _ hnone
  · have hcurrent : (seeding.emit step.urn step.name value).catalog.current step.urn step.name = value := by
      simp [Seeding.emit, Catalog.current, emit_aspects]
    rw [hcurrent]
    exact hsettles.establishes stamp later _ value hsome

theorem settled_stable (hsettled : Settled step seeding.catalog) (hcompatible : Compatible step other)
    (h : ensure stamp other seeding = (.ok (), after)) : Settled step after.catalog := by
  rcases ensure_ok h with ⟨rfl, -⟩ | ⟨value, rfl, hsome⟩
  · exact hsettled
  · by_cases hsame : step.urn = other.urn ∧ step.name = other.name
    · have hupdate := hcompatible hsame.1.symm hsame.2.symm
      rw [hupdate, ← hsame.1, ← hsame.2, hsettled stamp] at hsome
      cases hsome
    · intro later
      have hcurrent : (seeding.emit other.urn other.name value).catalog.current step.urn step.name =
          seeding.catalog.current step.urn step.name := by
        simp only [Seeding.emit, Catalog.current, emit_aspects, if_neg hsame]
      rw [hcurrent]
      exact hsettled later

theorem settled_ensureAll_stable (hsettled : Settled step seeding.catalog)
    (hcompatible : ∀ other ∈ steps, Compatible step other)
    (h : ensureAll stamp steps seeding = (.ok (), after)) : Settled step after.catalog := by
  induction steps generalizing seeding with
  | nil =>
    obtain rfl : seeding = after := congrArg Prod.snd h
    exact hsettled
  | cons other steps ih =>
    obtain ⟨middle, hstep, hrest⟩ := ensureAll_cons h
    exact ih (settled_stable hsettled (hcompatible other List.mem_cons_self) hstep)
      (fun more hmore => hcompatible more (List.mem_cons_of_mem _ hmore)) hrest

theorem settled_ensureAll (hsettles : ∀ step ∈ steps, Settles step.update)
    (hcompatible : ∀ step ∈ steps, ∀ other ∈ steps, Compatible step other)
    (h : ensureAll stamp steps seeding = (.ok (), after)) :
    ∀ step ∈ steps, Settled step after.catalog := by
  induction steps generalizing seeding with
  | nil => exact fun _ hmem => nomatch hmem
  | cons first steps ih =>
    obtain ⟨middle, hstep, hrest⟩ := ensureAll_cons h
    intro step hmem
    rcases List.mem_cons.1 hmem with rfl | hmem
    · exact settled_ensureAll_stable (settled_ensure (hsettles _ List.mem_cons_self) hstep)
        (fun other hother => hcompatible _ List.mem_cons_self other (List.mem_cons_of_mem _ hother)) hrest
    · exact ih (fun other hother => hsettles other (List.mem_cons_of_mem _ hother))
        (fun first hfirst second hsecond => hcompatible first (List.mem_cons_of_mem _ hfirst) second
          (List.mem_cons_of_mem _ hsecond)) hrest step hmem

theorem ensureAll_settled (h : ∀ step ∈ steps, Settled step seeding.catalog) :
    ensureAll stamp steps seeding = (.ok (), seeding) := by
  induction steps with
  | nil => rfl
  | cons step steps ih =>
    have hfirst : ensure stamp step seeding = (.ok (), seeding) := by
      rw [ensure, h step List.mem_cons_self stamp]
    rw [ensureAll, hfirst]
    exact ih fun other hother => h other (List.mem_cons_of_mem _ hother)

/-! ### What is kept -/

/-- Every aspect keeps what its contract does not manage. -/
def Keeps (spec : SemanticContextSpec) (catalog later : Catalog) : Prop :=
  ∀ urn name old, catalog.aspects urn name = some old →
    ∃ new, later.aspects urn name = some new ∧ Preserved (contractOf spec name) old new

theorem Keeps.refl (catalog : Catalog) : Keeps spec catalog catalog :=
  fun _ _ old h => ⟨old, h, .refl _ old⟩

theorem Keeps.trans {first second third : Catalog} (h : Keeps spec first second)
    (h' : Keeps spec second third) : Keeps spec first third := by
  intro urn name old hold
  obtain ⟨mid, hmid, hkept⟩ := h urn name old hold
  obtain ⟨new, hnew, hkept'⟩ := h' urn name mid hmid
  exact ⟨new, hnew, hkept.trans hkept'⟩

theorem keeps_ensure
    (hkeeps : ∀ old value, seeding.catalog.aspects step.urn step.name = some old →
      step.update stamp old = .ok (some value) → Preserved (contractOf spec step.name) old value)
    (h : ensure stamp step seeding = (.ok (), after)) : Keeps spec seeding.catalog after.catalog := by
  rcases ensure_ok h with ⟨rfl, -⟩ | ⟨value, rfl, hsome⟩
  · exact .refl _
  · intro urn name old hold
    by_cases hsame : urn = step.urn ∧ name = step.name
    · obtain ⟨rfl, rfl⟩ := hsame
      refine ⟨value, ?_, ?_⟩
      · simp [Seeding.emit, emit_aspects]
      · rw [Catalog.current, hold] at hsome
        exact hkeeps old value hold hsome
    · refine ⟨old, ?_, .refl _ old⟩
      simp only [Seeding.emit, emit_aspects, if_neg hsame, hold]

theorem keeps_ensureAll (hpreserves : ∀ step ∈ steps, Preserves (contractOf spec step.name) step.update)
    (h : ensureAll stamp steps seeding = (.ok (), after)) : Keeps spec seeding.catalog after.catalog := by
  induction steps generalizing seeding with
  | nil =>
    obtain rfl : seeding = after := congrArg Prod.snd h
    exact .refl _
  | cons step steps ih =>
    obtain ⟨middle, hstep, hrest⟩ := ensureAll_cons h
    refine (keeps_ensure (fun old value _ hvalue => ?_) hstep).trans
      (ih (fun other hother => hpreserves other (List.mem_cons_of_mem _ hother)) hrest)
    exact hpreserves step List.mem_cons_self stamp old value hvalue

theorem aspects_ensureAll {urn : String} {name : AspectName}
    (huntouched : ∀ step ∈ steps, urn = step.urn → name ≠ step.name)
    (h : ensureAll stamp steps seeding = (.ok (), after)) :
    after.catalog.aspects urn name = seeding.catalog.aspects urn name := by
  induction steps generalizing seeding with
  | nil =>
    obtain rfl : seeding = after := congrArg Prod.snd h
    rfl
  | cons step steps ih =>
    obtain ⟨middle, hstep, hrest⟩ := ensureAll_cons h
    rw [ih (fun other hother => huntouched other (List.mem_cons_of_mem _ hother)) hrest]
    rcases ensure_ok hstep with ⟨rfl, -⟩ | ⟨value, rfl, -⟩
    · rfl
    · have hother : ¬(urn = step.urn ∧ name = step.name) := fun hsame =>
        huntouched step List.mem_cons_self hsame.1 hsame.2
      simp only [Seeding.emit, emit_aspects, if_neg hother]

theorem entities_ensureAll {urn : String} (hurn : seeding.catalog.entities urn = true)
    (h : ensureAll stamp steps seeding = (.ok (), after)) : after.catalog.entities urn = true := by
  induction steps generalizing seeding with
  | nil =>
    obtain rfl : seeding = after := congrArg Prod.snd h
    exact hurn
  | cons step steps ih =>
    obtain ⟨middle, hstep, hrest⟩ := ensureAll_cons h
    refine ih ?_ hrest
    rcases ensure_ok hstep with ⟨rfl, -⟩ | ⟨value, rfl, -⟩
    · exact hurn
    · simp [Seeding.emit, Catalog.emit, hurn]

theorem emitted_ensureAll (stamp : Json) (steps : List Ensure) (seeding : Seeding) :
    ∀ emission ∈ (ensureAll stamp steps seeding).2.emitted,
      emission ∈ seeding.emitted ∨ ∃ step ∈ steps, emission.2.1 = step.name := by
  induction steps generalizing seeding with
  | nil => exact fun emission h => .inl h
  | cons step steps ih =>
    have hone : ∀ emission ∈ (ensure stamp step seeding).2.emitted,
        emission ∈ seeding.emitted ∨ emission.2.1 = step.name := by
      intro emission h
      unfold ensure at h
      split at h
      · exact .inl h
      · exact .inl h
      · rcases List.mem_append.1 h with h | h
        · exact .inl h
        · exact .inr (by rw [List.mem_singleton.1 h])
    intro emission h
    rw [ensureAll] at h
    have hfirst : emission ∈ (ensure stamp step seeding).2.emitted →
        emission ∈ seeding.emitted ∨ ∃ other ∈ step :: steps, emission.2.1 = other.name := by
      intro hmem
      rcases hone emission hmem with hmem | hname
      · exact .inl hmem
      · exact .inr ⟨step, List.mem_cons_self, hname⟩
    split at h
    next hstep =>
      rw [hstep] at hfirst
      exact hfirst h
    next middle hstep =>
      rw [hstep] at hfirst
      rcases ih middle emission h with hmem | ⟨other, hother, hname⟩
      · exact hfirst hmem
      · exact .inr ⟨other, List.mem_cons_of_mem _ hother, hname⟩

/-! ### The steps of the seeding -/

theorem ownerEntry_distinct (spec : SemanticContextSpec) : distinctFields (ownerEntry spec) = true := by
  simp [ownerEntry, distinctFields, distinct]

theorem termEntry_distinct (spec : SemanticContextSpec) : distinctFields (termEntry spec) = true := by
  simp [termEntry, distinctFields, distinct]

theorem termInfo_distinct (spec : SemanticContextSpec) : distinctFields (termInfo spec) = true := by
  simp [termInfo, distinctFields, distinct]

theorem ownerInfo_distinct : distinctFields ownerInfo = true := by
  simp [ownerInfo, distinctFields, distinct]

theorem ensureOwner_settles (spec : SemanticContextSpec) (urn : String) :
    Settles (ensureOwner spec urn).update :=
  ensureListAspect_settles (ownerEntry_distinct spec) (by simp [ownerEntry, getField_cons]) (by simp)

theorem ensureTermAttachment_settles (spec : SemanticContextSpec) (urn : String) :
    Settles (ensureTermAttachment spec urn).update :=
  ensureListAspect_settles (termEntry_distinct spec) (by simp [termEntry, getField_cons]) (by simp)

theorem ensureOwner_preserves (spec : SemanticContextSpec) (urn : String) :
    Preserves (contractOf spec .ownership) (ensureOwner spec urn).update :=
  ensureListAspect_preserves (ownerEntry_distinct spec) (by simp [ownerEntry, getField_cons]) (by simp)

theorem ensureTermAttachment_preserves (spec : SemanticContextSpec) (urn : String) :
    Preserves (contractOf spec .glossaryTerms) (ensureTermAttachment spec urn).update :=
  ensureListAspect_preserves (termEntry_distinct spec) (by simp [termEntry, getField_cons]) (by simp)

theorem sourceSteps_settle (spec : SemanticContextSpec) :
    ∀ step ∈ sourceSteps spec, Settles step.update := by
  simp only [sourceSteps, List.forall_mem_cons]
  exact ⟨ensureObjectAspect_settles (termInfo_distinct spec),
    ensureObjectAspect_settles ownerInfo_distinct, ensureDescription_settles spec,
    ensureOwner_settles spec _, ensureTermAttachment_settles spec _, ensureDocument_settles spec, by simp⟩

theorem documentSteps_settle (spec : SemanticContextSpec) :
    ∀ step ∈ documentSteps spec, Settles step.update := by
  simp only [documentSteps, List.forall_mem_cons]
  exact ⟨contextInfo_settles spec, ensureSubtype_settles _ _, ensureDocumentSettings_settles _,
    ensureOwner_settles spec _, ensureTermAttachment_settles spec _, by simp⟩

theorem sourceSteps_preserve (spec : SemanticContextSpec) :
    ∀ step ∈ sourceSteps spec, Preserves (contractOf spec step.name) step.update := by
  simp only [sourceSteps, List.forall_mem_cons]
  exact ⟨ensureObjectAspect_preserves (termInfo_distinct spec),
    ensureObjectAspect_preserves ownerInfo_distinct, ensureDescription_preserves spec,
    ensureOwner_preserves spec _, ensureTermAttachment_preserves spec _,
    ensureDocument_preserves spec, by simp⟩

theorem sourceSteps_compatible (spec : SemanticContextSpec) : ∀ step ∈ sourceSteps spec,
    ∀ other ∈ sourceSteps spec ++ folderSteps spec ++ documentSteps spec, Compatible step other := by
  intro step hstep other hother
  simp only [sourceSteps, folderSteps, documentSteps, List.cons_append, List.nil_append,
    List.mem_cons, List.not_mem_nil, or_false] at hstep hother
  rcases hstep with rfl | rfl | rfl | rfl | rfl | rfl <;>
    rcases hother with rfl | rfl | rfl | rfl | rfl | rfl | rfl | rfl | rfl | rfl | rfl | rfl | rfl | rfl
  all_goals
    intro _ hname
    first | rfl | cases hname

theorem documentSteps_compatible (spec : SemanticContextSpec) : ∀ step ∈ documentSteps spec,
    ∀ other ∈ documentSteps spec, Compatible step other := by
  intro step hstep other hother
  simp only [documentSteps, List.mem_cons, List.not_mem_nil, or_false] at hstep hother
  rcases hstep with rfl | rfl | rfl | rfl | rfl <;> rcases hother with rfl | rfl | rfl | rfl | rfl
  all_goals
    intro _ hname
    first | rfl | cases hname

theorem steps_not_lineage (spec : SemanticContextSpec) :
    ∀ step ∈ sourceSteps spec ++ folderSteps spec ++ documentSteps spec, step.name ≠ .upstreamLineage := by
  intro step hstep
  simp only [sourceSteps, folderSteps, documentSteps, List.cons_append, List.nil_append,
    List.mem_cons, List.not_mem_nil, or_false] at hstep
  rcases hstep with rfl | rfl | rfl | rfl | rfl | rfl | rfl | rfl | rfl | rfl | rfl | rfl | rfl | rfl
  all_goals exact fun hname => by cases hname

/-! ### A run -/

/-- A run that succeeds, part by part. -/
structure Succeeded (spec : SemanticContextSpec) (graph : Graph) (stamp : Json) (catalog : Catalog)
    (first second after : Seeding) : Prop where
  connection : graph.connection = .ok ()
  source : ensureAll stamp (sourceSteps spec) { catalog } = (.ok (), first)
  shared : ensureSharedDocumentParent spec stamp first = (.ok (), second)
  document : ensureAll stamp (documentSteps spec) second = (.ok (), after)
  verified : verifyContext spec graph after.catalog = .ok ()

theorem precheck_ok {catalog : Catalog} : precheck spec graph catalog = .ok () ↔
    graph.connection = .ok () ∧ missingDatasets spec catalog = [] ∧
      checkDbtLineage spec catalog = .ok [] := by
  constructor
  · intro h
    unfold precheck at h
    obtain ⟨⟨⟩, hconnection, h⟩ := bind_eq_ok.1 h
    by_cases hmissing : missingDatasets spec catalog = []
    · rw [if_neg (not_not.2 hmissing)] at h
      obtain ⟨errors, hlineage, h⟩ := bind_eq_ok.1 h
      by_cases herrors : errors = []
      · exact ⟨hconnection, hmissing, herrors ▸ hlineage⟩
      · rw [if_pos herrors] at h
        cases h
    · rw [if_pos hmissing] at h
      cases h
  · rintro ⟨hconnection, hmissing, hlineage⟩
    simp only [precheck, hconnection, hmissing, hlineage, bind, Except.bind, ne_eq, not_true_eq_false,
      if_false]
    rfl

theorem verifyContext_ok {catalog : Catalog} (h : verifyContext spec graph catalog = .ok ()) :
    missingDatasets spec catalog = [] ∧ checkDbtLineage spec catalog = .ok [] := by
  unfold verifyContext at h
  obtain ⟨ownerEntries, -, h⟩ := bind_eq_ok.1 h
  obtain ⟨termEntries, -, h⟩ := bind_eq_ok.1 h
  obtain ⟨elements, -, h⟩ := bind_eq_ok.1 h
  obtain ⟨related, -, h⟩ := bind_eq_ok.1 h
  obtain ⟨lineage, hlineage, h⟩ := bind_eq_ok.1 h
  dsimp only at h
  split at h
  next hnil =>
    simp only [List.append_eq_nil_iff, List.map_eq_nil_iff] at hnil
    rw [hlineage, hnil.2]
    exact ⟨hnil.1.1.1.1.1.1.1.1, rfl⟩
  next => cases h

theorem seedContext_ok {nowMs : Int} {catalog : Catalog} {changed : List String}
    (h : seedContext spec graph nowMs catalog = (.ok changed, after)) :
    ∃ first second, Succeeded spec graph (stampOf spec nowMs) catalog first second after := by
  unfold seedContext at h
  split at h
  next => cases h
  next hprecheck =>
    split at h
    next => cases h
    next final hcontext =>
      split at h
      next => cases h
      next hverified =>
        obtain rfl : final = after := congrArg Prod.snd h
        unfold ensureContext at hcontext
        split at hcontext
        next => cases hcontext
        next first hsource =>
          split at hcontext
          next => cases hcontext
          next second hshared =>
            exact ⟨first, second, (precheck_ok.1 hprecheck).1, hsource, hshared, hcontext, hverified⟩

variable {catalog : Catalog} {first second : Seeding}

theorem shared_cases (h : ensureSharedDocumentParent spec stamp first = (.ok (), second)) :
    first.catalog.entities spec.sharedDocumentUrn = true ∧ second = first ∨
      first.catalog.entities spec.sharedDocumentUrn = false ∧
        ensureAll stamp (folderSteps spec) first = (.ok (), second) := by
  unfold ensureSharedDocumentParent at h
  split at h
  next hentity => exact .inl ⟨hentity, (congrArg Prod.snd h).symm⟩
  next hentity => exact .inr ⟨by simpa using hentity, h⟩

theorem Succeeded.settled (h : Succeeded spec graph stamp catalog first second after) :
    ∀ step ∈ sourceSteps spec ++ documentSteps spec, Settled step after.catalog := by
  have hcompatible := sourceSteps_compatible spec
  intro step hstep
  rcases List.mem_append.1 hstep with hstep | hstep
  · have hfirst : Settled step first.catalog :=
      settled_ensureAll (sourceSteps_settle spec) (fun step hstep other hother =>
        hcompatible step hstep other (by simp [hother])) h.source step hstep
    have hsecond : Settled step second.catalog := by
      rcases shared_cases h.shared with ⟨-, rfl⟩ | ⟨-, hfolder⟩
      · exact hfirst
      · exact settled_ensureAll_stable hfirst (fun other hother =>
          hcompatible step hstep other (by simp [hother])) hfolder
    exact settled_ensureAll_stable hsecond (fun other hother =>
      hcompatible step hstep other (by simp [hother])) h.document
  · exact settled_ensureAll (documentSteps_settle spec) (documentSteps_compatible spec) h.document step
      hstep

theorem Succeeded.shared_exists (h : Succeeded spec graph stamp catalog first second after) :
    after.catalog.entities spec.sharedDocumentUrn = true := by
  refine entities_ensureAll ?_ h.document
  rcases shared_cases h.shared with ⟨hentity, rfl⟩ | ⟨-, hfolder⟩
  · exact hentity
  · obtain ⟨middle, hstep, hrest⟩ := ensureAll_cons hfolder
    refine entities_ensureAll ?_ hrest
    rcases ensure_ok hstep with ⟨-, hnone⟩ | ⟨value, rfl, -⟩
    · cases hnone
    · simp [Seeding.emit, Catalog.emit, createSharedDocument]

theorem Succeeded.idempotent (h : Succeeded spec graph stamp catalog first second after) (later : Int) :
    seedContext spec graph later after.catalog = (.ok [], { catalog := after.catalog }) := by
  have hsettled := h.settled
  have hprecheck : precheck spec graph after.catalog = .ok () :=
    precheck_ok.2 ⟨h.connection, verifyContext_ok h.verified⟩
  have hcontext : ensureContext spec (stampOf spec later) { catalog := after.catalog } =
      (.ok (), { catalog := after.catalog }) := by
    have hsource : ensureAll (stampOf spec later) (sourceSteps spec) { catalog := after.catalog } =
        (.ok (), { catalog := after.catalog }) :=
      ensureAll_settled fun step hstep => hsettled step (List.mem_append_left _ hstep)
    have hdocument : ensureAll (stampOf spec later) (documentSteps spec) { catalog := after.catalog } =
        (.ok (), { catalog := after.catalog }) :=
      ensureAll_settled fun step hstep => hsettled step (List.mem_append_right _ hstep)
    simp only [ensureContext, hsource, ensureSharedDocumentParent, h.shared_exists, if_true, hdocument]
  simp only [seedContext, hprecheck, hcontext, h.verified]

/-! ### What a run keeps -/

theorem folderSteps_keep (hentity : seeding.catalog.entities spec.sharedDocumentUrn = false)
    (h : ensureAll stamp (folderSteps spec) seeding = (.ok (), after)) :
    Keeps spec seeding.catalog after.catalog := by
  obtain ⟨middle, hcreate, hrest⟩ := ensureAll_cons h
  have hcreated : Keeps spec seeding.catalog middle.catalog := by
    refine keeps_ensure (fun old value hold _ => ?_) hcreate
    have hexists := seeding.catalog.exists_of_aspect _ _ (hold ▸ Option.some_ne_none old)
    rw [show (createSharedDocument spec).urn = spec.sharedDocumentUrn from rfl, hentity] at hexists
    cases hexists
  have hfolder : isManagedType (.str "Folder") = true := by simp [isManagedType]
  refine hcreated.trans (keeps_ensureAll ?_ hrest)
  rintro step (_ | ⟨_, _ | ⟨_, hstep⟩⟩)
  · exact ensureSubtype_preserves spec hfolder
  · exact ensureDocumentSettings_preserves spec _
  · cases hstep

theorem shared_keeps (h : ensureSharedDocumentParent spec stamp first = (.ok (), second)) :
    Keeps spec first.catalog second.catalog := by
  rcases shared_cases h with ⟨-, rfl⟩ | ⟨hentity, hfolder⟩
  · exact .refl _
  · exact folderSteps_keep hentity hfolder

theorem laterSteps_preserve (spec : SemanticContextSpec) :
    ∀ step ∈ (documentSteps spec).tail, Preserves (contractOf spec step.name) step.update := by
  have hcontext : isManagedType (.str "Context") = true := by simp [isManagedType]
  simp only [documentSteps, List.tail_cons, List.forall_mem_cons]
  exact ⟨ensureSubtype_preserves spec hcontext, ensureDocumentSettings_preserves spec _,
    ensureOwner_preserves spec _, ensureTermAttachment_preserves spec _, by simp⟩

theorem createSharedDocument_tame {current value : Fields}
    (h : (createSharedDocument spec).update stamp current = .ok (some value)) : Tame spec value := by
  obtain rfl := Option.some.inj (Except.ok.inj h)
  intro key inner fields hmanaged hold name hname
  have hmem := getField_mem hmanaged
  simp only [contextDocumentInfo, List.mem_cons, List.not_mem_nil, or_false, Prod.mk.injEq,
    reduceCtorEq, and_false, false_or, Json.obj.injEq] at hmem
  rcases hmem with ⟨rfl, rfl⟩ | ⟨rfl, rfl⟩ | ⟨rfl, rfl⟩ | ⟨rfl, rfl⟩
  all_goals
    simp only [getField_cons, String.reduceEq, if_false, if_true, Option.some.injEq, Json.obj.injEq] at hold
  · subst hold
    exact hname
  · subst hold
    exact hname
  · subst hold
    rw [getField_cons] at hname ⊢
    split at hname
    next hkey => simp [hkey]
    next => exact absurd rfl hname
  · cases hold

/-- The `documentInfo` of the context document. -/
def contextInfo (spec : SemanticContextSpec) (catalog : Catalog) : Option Fields :=
  catalog.aspects spec.contextDocumentUrn .documentInfo

theorem sourceSteps_contextInfo (h : ensureAll stamp (sourceSteps spec) seeding = (.ok (), first)) :
    contextInfo spec first.catalog = contextInfo spec seeding.catalog := by
  refine aspects_ensureAll (fun step hstep _ => ?_) h
  simp only [sourceSteps, List.mem_cons, List.not_mem_nil, or_false] at hstep
  rcases hstep with rfl | rfl | rfl | rfl | rfl | rfl
  all_goals exact fun hname => by cases hname

theorem folderSteps_contextInfo (hentity : seeding.catalog.entities spec.sharedDocumentUrn = false)
    (h : ensureAll stamp (folderSteps spec) seeding = (.ok (), after)) :
    contextInfo spec after.catalog = contextInfo spec seeding.catalog ∨
      contextInfo spec seeding.catalog = none ∧
        ∃ value, contextInfo spec after.catalog = some value ∧ Tame spec value := by
  obtain ⟨middle, hcreate, hrest⟩ := ensureAll_cons h
  have hstay : contextInfo spec after.catalog = contextInfo spec middle.catalog := by
    refine aspects_ensureAll (fun step hstep _ => ?_) hrest
    simp only [List.mem_cons, List.not_mem_nil, or_false] at hstep
    rcases hstep with rfl | rfl
    all_goals exact fun hname => by cases hname
  rw [hstay]
  rcases ensure_ok hcreate with ⟨rfl, -⟩ | ⟨value, rfl, hvalue⟩
  · exact .inl rfl
  · by_cases hsame : spec.contextDocumentUrn = spec.sharedDocumentUrn
    · refine .inr ⟨?_, value, ?_, createSharedDocument_tame hvalue⟩
      · by_contra hsome
        have hexists := seeding.catalog.exists_of_aspect _ _ hsome
        rw [hsame, hentity] at hexists
        cases hexists
      · simp [contextInfo, Seeding.emit, emit_aspects, createSharedDocument, hsame]
    · refine .inl ?_
      simp only [contextInfo, Seeding.emit, createSharedDocument, emit_aspects, hsame, false_and, if_false]

/-- The update of the context document's `documentInfo` is not needed, or it replaces nested objects without
keys of their own. -/
def Intact (spec : SemanticContextSpec) (catalog : Catalog) : Prop :=
  let current := catalog.current spec.contextDocumentUrn .documentInfo
  (contains current (contextDocumentInfo spec) = true ∧
    ∃ items, listField current "relatedAssets" = .ok items ∧ linked spec items = .ok true) ∨
  Tame spec current

theorem tame_nil (spec : SemanticContextSpec) : Tame spec [] :=
  fun _ _ _ _ hold => nomatch hold

theorem contextInfo_none {current : Fields} :
    (ensureContextDocumentInfo spec).update stamp current = .ok none ↔
      contains current (contextDocumentInfo spec) = true ∧
        ∃ items, listField current "relatedAssets" = .ok items ∧ linked spec items = .ok true := by
  constructor
  · intro h
    obtain ⟨items, link, hitems, hlink, ⟨htest, -⟩ | ⟨-, hsome⟩⟩ := contextInfo_update h
    · obtain ⟨hcontains, rfl⟩ := Bool.and_eq_true_iff.1 htest
      exact ⟨hcontains, items, hitems, hlink⟩
    · cases hsome
  · rintro ⟨hcontains, items, hitems, hlink⟩
    simp only [ensureContextDocumentInfo, hitems, hlink, hcontains, bind, Except.bind]
    rfl

theorem Succeeded.contextInfo_second (h : Succeeded spec graph stamp catalog first second after) :
    contextInfo spec second.catalog = contextInfo spec catalog ∨
      contextInfo spec catalog = none ∧
        ∃ value, contextInfo spec second.catalog = some value ∧ Tame spec value := by
  have hfirst := sourceSteps_contextInfo h.source
  rcases shared_cases h.shared with ⟨-, rfl⟩ | ⟨hentity, hfolder⟩
  · exact .inl hfirst
  · have hsecond := folderSteps_contextInfo hentity hfolder
    rw [hfirst] at hsecond
    exact hsecond

theorem Succeeded.keeps (h : Succeeded spec graph stamp catalog first second after)
    (hintact : Intact spec catalog) : Keeps spec catalog after.catalog := by
  obtain ⟨middle, hinfo, hrest⟩ := ensureAll_cons h.document
  have hsource : Keeps spec catalog first.catalog :=
    keeps_ensureAll (sourceSteps_preserve spec) h.source
  have hdocument : Keeps spec second.catalog middle.catalog := by
    refine keeps_ensure (fun old value hold hvalue => ?_) hinfo
    change contextInfo spec second.catalog = some old at hold
    have hcurrent : contextInfo spec catalog = some old ∨ Tame spec old := by
      rcases h.contextInfo_second with hsame | ⟨-, created, hcreated, htame⟩
      · exact .inl (hsame ▸ hold)
      · obtain rfl := Option.some.inj (hcreated.symm.trans hold)
        exact .inr htame
    have htame : Tame spec old := by
      rcases hcurrent with hcurrent | htame
      · have hold : catalog.current spec.contextDocumentUrn .documentInfo = old := by
          change (contextInfo spec catalog).getD [] = old
          rw [hcurrent]
          rfl
        rcases hintact with htest | htame
        · rw [hold] at htest
          have hnone : (ensureContextDocumentInfo spec).update stamp old = .ok none :=
            contextInfo_none.2 htest
          rw [hnone] at hvalue
          cases hvalue
        · exact hold ▸ htame
      · exact htame
    exact contextInfo_preserves htame hvalue
  exact ((hsource.trans (shared_keeps h.shared)).trans hdocument).trans
    (keeps_ensureAll (laterSteps_preserve spec) hrest)

theorem Succeeded.intact (h : Succeeded spec graph stamp catalog first second after)
    (hkeeps : Keeps spec catalog after.catalog) : Intact spec catalog := by
  have hgetD : catalog.current spec.contextDocumentUrn .documentInfo =
      (contextInfo spec catalog).getD [] := rfl
  rw [Intact, hgetD]
  cases hold : contextInfo spec catalog with
  | none => exact .inr (tame_nil spec)
  | some old =>
    rw [Option.getD_some]
    have hsecond : contextInfo spec second.catalog = some old := by
      rcases h.contextInfo_second with hsame | ⟨hnone, -⟩
      · exact hsame.trans hold
      · rw [hnone] at hold
        cases hold
    obtain ⟨middle, hinfo, hrest⟩ := ensureAll_cons h.document
    have hcurrent : second.catalog.current spec.contextDocumentUrn .documentInfo = old := by
      change (contextInfo spec second.catalog).getD [] = old
      rw [hsecond]
      rfl
    rcases ensure_ok hinfo with ⟨-, hnone⟩ | ⟨value, rfl, hvalue⟩
    · change (ensureContextDocumentInfo spec).update stamp
        (second.catalog.current spec.contextDocumentUrn .documentInfo) = _ at hnone
      rw [hcurrent] at hnone
      exact .inl (contextInfo_none.1 hnone)
    · change (ensureContextDocumentInfo spec).update stamp
        (second.catalog.current spec.contextDocumentUrn .documentInfo) = _ at hvalue
      rw [hcurrent] at hvalue
      have hafter : contextInfo spec after.catalog = some value := by
        have hstay : contextInfo spec after.catalog = contextInfo spec
            (second.emit (ensureContextDocumentInfo spec).urn (ensureContextDocumentInfo spec).name
              value).catalog := by
          refine aspects_ensureAll (fun step hstep _ => ?_) hrest
          simp only [List.mem_cons, List.not_mem_nil, or_false] at hstep
          rcases hstep with rfl | rfl | rfl | rfl
          all_goals exact fun hname => by cases hname
        rw [hstay]
        simp [contextInfo, Seeding.emit, emit_aspects, ensureContextDocumentInfo]
      obtain ⟨new, hnew, hpreserved⟩ := hkeeps _ _ old hold
      obtain rfl := Option.some.inj (hafter.symm.trans hnew)
      exact .inr (contextInfo_loses hvalue hpreserved)

/-! ### The seeding -/

theorem ensureContext_not_lineage (spec : SemanticContextSpec) (stamp : Json) (catalog : Catalog) :
    ∀ emission ∈ (ensureContext spec stamp { catalog }).2.emitted, emission.2.1 ≠ .upstreamLineage := by
  have hsteps := steps_not_lineage spec
  have hrun : ∀ steps : List Ensure, (∀ step ∈ steps, step.name ≠ .upstreamLineage) →
      ∀ seeding : Seeding, (∀ emission ∈ seeding.emitted, emission.2.1 ≠ .upstreamLineage) →
        ∀ emission ∈ (ensureAll stamp steps seeding).2.emitted, emission.2.1 ≠ .upstreamLineage := by
    intro steps hnames seeding hseeding emission hemission
    rcases emitted_ensureAll stamp steps seeding emission hemission with hold | ⟨step, hstep, hname⟩
    · exact hseeding emission hold
    · exact hname ▸ hnames step hstep
  have hsource := hrun (sourceSteps spec) (fun step hstep => hsteps step (by simp [hstep]))
    { catalog } fun _ hmem => nomatch hmem
  rw [ensureContext]
  split
  next hfirst =>
    rw [hfirst] at hsource
    exact hsource
  next first hfirst =>
    rw [hfirst] at hsource
    have hshared : ∀ emission ∈ (ensureSharedDocumentParent spec stamp first).2.emitted,
        emission.2.1 ≠ .upstreamLineage := by
      rw [ensureSharedDocumentParent]
      split
      · exact hsource
      · exact hrun (folderSteps spec) (fun step hstep => hsteps step (by simp [hstep])) first hsource
    split
    next hsecond =>
      rw [hsecond] at hshared
      exact hshared
    next second hsecond =>
      rw [hsecond] at hshared
      exact hrun (documentSteps spec) (fun step hstep => hsteps step (by simp [hstep])) second hshared

/-- A failed precheck writes nothing, no run writes lineage, and after a run that succeeds a second one
writes nothing; what no contract manages is kept if and only if the `documentInfo` of the context document
is intact. -/
theorem seedContext_contract (spec : SemanticContextSpec) (graph : Graph) (nowMs : Int)
    (catalog : Catalog) :
    (∀ error, precheck spec graph catalog = .error error →
      (seedContext spec graph nowMs catalog).2.emitted = []) ∧
    (∀ emission ∈ (seedContext spec graph nowMs catalog).2.emitted,
      emission.2.1 ≠ .upstreamLineage) ∧
    ∀ changed after, seedContext spec graph nowMs catalog = (.ok changed, after) →
      ((∀ later, seedContext spec graph later after.catalog = (.ok [], { catalog := after.catalog })) ∧
        Keeps spec catalog after.catalog ↔ Intact spec catalog) := by
  refine ⟨fun error herror => ?_, ?_, fun changed after h => ?_⟩
  · rw [seedContext, herror]
  · have hemitted := ensureContext_not_lineage spec (stampOf spec nowMs) catalog
    rw [seedContext]
    split
    · exact fun _ hmem => nomatch hmem
    · split
      next hcontext =>
        rw [hcontext] at hemitted
        exact hemitted
      next hcontext =>
        rw [hcontext] at hemitted
        split <;> exact hemitted
  · obtain ⟨first, second, hsucceeded⟩ := seedContext_ok h
    exact ⟨fun hkept => hsucceeded.intact hkept.2,
      fun hintact => ⟨hsucceeded.idempotent, hsucceeded.keeps hintact⟩⟩

/-- A small contract. -/
def smallSpec : SemanticContextSpec where
  sourceUrn := "urn:source"
  dbtSourceUrn := "urn:dbt"
  stagingUrn := "urn:staging"
  stagingTargetUrn := "urn:target"
  martUrn := "urn:mart"
  termUrn := "urn:term"
  ownerUrn := "urn:owner"
  termDefinition := "net"
  assetDescription := "payments"
  documentUrl := "guide"
  documentDescription := "evidence"
  sharedDocumentUrn := "urn:shared"
  contextDocumentUrn := "urn:context"
  contextDocumentTitle := "contract"
  contextDocumentContent := "text"

theorem absent_aspect (h : (none : Option Fields) ≠ none) : false = true := absurd rfl h

/-- A catalog without aspects. -/
def bareCatalog : Catalog := ⟨fun _ _ => none, fun _ => false, fun _ _ => absent_aspect⟩

/-- The ingested datasets with their lineage, and a context document that knows where it came from. -/
def ingested : Catalog :=
  let lineage := (lineageChecks smallSpec).foldl (fun catalog check =>
    catalog.emit check.1 .upstreamLineage [("upstreams", .arr [.obj check.2.1])]) bareCatalog
  (lineage.emit "urn:source" .ownership []).emit "urn:context" .documentInfo
    [("source", .obj [("sourceType", .str "NATIVE"), ("externalUrl", .str "wiki")])]

/-- A search that finds the context document. -/
def answering : Graph where
  connection := .ok ()
  relatedDocuments _ _ := .ok [[("urn", .str "urn:context"), ("info", .obj [("title", .str "contract")])]]

theorem seedContext_contract_counterexample :
    ∃ changed after, seedContext smallSpec answering 0 ingested = (.ok changed, after) ∧
      ¬Keeps smallSpec ingested after.catalog := by
  have hok : ((seedContext smallSpec answering 0 ingested).1.toOption).isSome = true := by
    decide +kernel
  rcases hrun : seedContext smallSpec answering 0 ingested with ⟨outcome, after⟩
  rw [hrun] at hok
  cases outcome with
  | error error => cases hok
  | ok changed =>
    refine ⟨changed, after, rfl, fun hkeeps => ?_⟩
    obtain ⟨first, second, hsucceeded⟩ := seedContext_ok hrun
    have hold : ingested.current smallSpec.contextDocumentUrn .documentInfo =
        [("source", .obj [("sourceType", .str "NATIVE"), ("externalUrl", .str "wiki")])] := rfl
    have hintact := hsucceeded.intact hkeeps
    rw [Intact, hold] at hintact
    rcases hintact with ⟨hcontains, -⟩ | htame
    · simp [contextDocumentInfo, contains, containsValue, equals, getField_cons] at hcontains
    · -- the address of the source is not a key of the contract
      have hsource := htame "source" [("sourceType", .str "NATIVE")]
        [("sourceType", .str "NATIVE"), ("externalUrl", .str "wiki")] rfl rfl "externalUrl"
      simp [getField_cons] at hsource

end DataRescue.SemanticSeed
