import DataRescue.Workflow.Correctness
import DataRescue.Workflow.Execution

/-!
# The repair gate

What a case log holds before its pull request is opened. `Backed` is the invariant of the snapshots on
the way: every assessment is the policy engine's, for a proposal of the case, and the selected one is
a smallest of those that were accepted. The gate follows for every visible log of every run
(`repair_gate`).
-/

namespace DataRescue

open Python Concurrency

/-! ### The smallest assessment -/

/-- Its variances can be compared. -/
def Ranked (assessment : CandidateAssessment) : Prop :=
  ∃ total rows, assessment.reconciliation.totalVariancePct.abs.place = some total ∧
    assessment.reconciliation.rowCountVariancePct.abs.place = some rows

theorem selectionLt_iff {first second : CandidateAssessment} {total rows total' rows' : _}
    (htotal : first.reconciliation.totalVariancePct.abs.place = some total)
    (hrows : first.reconciliation.rowCountVariancePct.abs.place = some rows)
    (htotal' : second.reconciliation.totalVariancePct.abs.place = some total')
    (hrows' : second.reconciliation.rowCountVariancePct.abs.place = some rows') :
    selectionLt first second = true ↔ total < total' ∨ total = total' ∧
      (rows < rows' ∨ rows = rows' ∧ first.sourceField < second.sourceField) := by
  simp only [selectionLt, PyFloat.eq, PyFloat.lt, htotal, hrows, htotal', hrows']
  by_cases hsame : total = total'
  · by_cases hsameRows : rows = rows'
    · simp [hsame, hsameRows]
    · simp [hsame, hsameRows]
  · simp [hsame]

theorem selectionLt_irrefl {assessment : CandidateAssessment} (h : Ranked assessment) :
    selectionLt assessment assessment = false := by
  obtain ⟨total, rows, htotal, hrows⟩ := h
  rw [Bool.eq_false_iff]
  intro hlt
  rw [selectionLt_iff htotal hrows htotal hrows] at hlt
  simp at hlt

theorem selectionLt_trans {first second third : CandidateAssessment} (hfirst : Ranked first)
    (hsecond : Ranked second) (hthird : Ranked third) (h : selectionLt first second = true)
    (h' : selectionLt second third = true) : selectionLt first third = true := by
  obtain ⟨t₁, r₁, ht₁, hr₁⟩ := hfirst
  obtain ⟨t₂, r₂, ht₂, hr₂⟩ := hsecond
  obtain ⟨t₃, r₃, ht₃, hr₃⟩ := hthird
  rw [selectionLt_iff ht₁ hr₁ ht₂ hr₂] at h
  rw [selectionLt_iff ht₂ hr₂ ht₃ hr₃] at h'
  rw [selectionLt_iff ht₁ hr₁ ht₃ hr₃]
  rcases h with h | ⟨rfl, h⟩
  · rcases h' with h' | ⟨rfl, -⟩
    · exact .inl (h.trans h')
    · exact .inl h
  · rcases h' with h' | ⟨rfl, h'⟩
    · exact .inl h'
    · refine .inr ⟨rfl, ?_⟩
      rcases h with h | ⟨rfl, h⟩
      · rcases h' with h' | ⟨rfl, -⟩
        · exact .inl (h.trans h')
        · exact .inl h
      · rcases h' with h' | ⟨rfl, h'⟩
        · exact .inl h'
        · exact .inr ⟨rfl, String.lt_trans h h'⟩

theorem selectMin_least {items : List CandidateAssessment} {best : CandidateAssessment}
    (hranked : ∀ item ∈ items, Ranked item) (h : selectMin items = some best) :
    ∀ item ∈ items, selectionLt item best = false := by
  have hfold : ∀ (rest seen : List CandidateAssessment) (best : CandidateAssessment),
      (∀ item ∈ seen ++ rest, Ranked item) → Ranked best →
      (∀ item ∈ seen, selectionLt item best = false) →
      ∀ item ∈ seen ++ rest, selectionLt item
        (rest.foldl (fun best item => if selectionLt item best then item else best) best) = false := by
    intro rest
    induction rest with
    | nil => simp
    | cons item rest ih =>
      intro seen best hall hbest hseen other hother
      have hitem : Ranked item := hall item (by simp)
      rw [List.foldl_cons]
      refine ih (seen ++ [item]) _ (by simpa using hall) ?_ (fun earlier hearlier => ?_) other
        (by simpa using hother)
      · split_ifs <;> assumption
      · have hranked : Ranked earlier := by
          rcases List.mem_append.1 hearlier with h | h
          · exact hall earlier (List.mem_append_left _ h)
          · exact List.mem_singleton.1 h ▸ hitem
        split_ifs with hlt
        · rcases List.mem_append.1 hearlier with h | h
          · by_contra hsmaller
            rw [Bool.not_eq_false] at hsmaller
            have hcontra := hseen earlier h
            rw [selectionLt_trans hranked hitem hbest hsmaller hlt] at hcontra
            cases hcontra
          · rw [List.mem_singleton.1 h]
            exact selectionLt_irrefl hitem
        · rcases List.mem_append.1 hearlier with h | h
          · exact hseen earlier h
          · rw [List.mem_singleton.1 h]
            simpa using hlt
  cases items with
  | nil => cases h
  | cons first rest =>
    obtain rfl := Option.some.inj h
    have hfirst : Ranked first := hranked first List.mem_cons_self
    exact hfold rest [first] first (by simpa using hranked) hfirst
      (by simpa using selectionLt_irrefl hfirst)

/-! ### Where the assessments come from -/

section

variable (service : Service) (history : List Effect) (snapshot : CaseSnapshot)

/-- The policy engine's assessment of an execution of a proposal of the case. -/
def Assessment (assessment : CandidateAssessment) : Prop :=
  ∃ context proposal execution, snapshot.context = some context ∧
    proposal ∈ snapshot.candidateProposals ∧
    assessment = (service.assess proposal context execution).1

/-- The selected assessment and its patch. -/
structure Selection (selected : CandidateAssessment) (patch : PatchArtifact) : Prop where
  listed : selected ∈ snapshot.candidates
  assessed : ∃ assessment, Assessment service snapshot assessment ∧
    assessment.outcome = .eligible ∧ selected = { assessment with outcome := .selected }
  least : ∀ other ∈ snapshot.candidates, other.outcome.repairable = true →
    selectionLt other selected = false
  patched : ∃ actor proposal existingSql, proposal ∈ snapshot.candidateProposals ∧
    proposal.id = selected.id ∧
    Answered history actor
      (.readText service.settings.githubRepoRoot service.settings.githubPatchPath) (.ok existingSql) ∧
    service.patchOf proposal existingSql = .ok patch

/-- What backs the assessments of a case. -/
structure Backed : Prop where
  nodup : (snapshot.candidates.map CandidateAssessment.id).Nodup
  origin : ∀ assessment ∈ snapshot.candidates, Assessment service snapshot assessment ∨
    snapshot.selectedCandidate = some assessment
  unselected : snapshot.patch = none → snapshot.selectedCandidate = none
  selection : ∀ selected patch, snapshot.selectedCandidate = some selected →
    snapshot.patch = some patch → Selection service history snapshot selected patch

end

section

variable {service : Service} {environment : Environment} {history history' : List Effect}
  {caseId : String} {snapshot snapshot' : CaseSnapshot} {body : EventBody} {state : CaseState}
  {actor : Actor Call} {event : SchemaChangeEvent}

theorem Assessment.id {assessment : CandidateAssessment}
    (h : Assessment service snapshot assessment) :
    ∃ proposal ∈ snapshot.candidateProposals, proposal.id = assessment.id := by
  obtain ⟨context, proposal, execution, -, hproposal, rfl⟩ := h
  exact ⟨proposal, hproposal, rfl⟩

theorem Assessment.outcome {assessment : CandidateAssessment}
    (h : Assessment service snapshot assessment) (hrepairable : assessment.outcome.repairable = true) :
    assessment.outcome = .eligible := by
  obtain ⟨context, proposal, execution, -, -, rfl⟩ := h
  simp only [Service.assess, PolicyEngine.outcome] at hrepairable ⊢
  split_ifs at hrepairable ⊢
  · rfl
  · cases hrepairable

theorem accepted_of_eligible {proposal : CandidateProposal} {context : ContextBundle}
    {execution : CandidateExecution}
    (h : (service.assess proposal context execution).1.outcome = .eligible) :
    (PolicyEngine.evaluate service.policy execution.semanticVerdict execution.reconciliation
      execution.build context.lineageCurrent).accepted = true := by
  simp only [Service.assess, PolicyEngine.outcome] at h
  split_ifs at h with haccepted
  exact haccepted

theorem Assessment.ranked {assessment : CandidateAssessment}
    (h : Assessment service snapshot assessment) (heligible : assessment.outcome = .eligible) :
    Ranked assessment := by
  obtain ⟨context, proposal, execution, -, -, rfl⟩ := h
  obtain ⟨htotal, hrows⟩ := PolicyEngine.evaluate_ranked (accepted_of_eligible heligible)
  obtain ⟨total, htotal⟩ := Option.isSome_iff_exists.1 htotal
  obtain ⟨rows, hrows⟩ := Option.isSome_iff_exists.1 hrows
  exact ⟨total, rows, htotal, hrows⟩

/-- The snapshots agree on what the repair stages have made. -/
structure SameWork (first second : CaseSnapshot) : Prop where
  context : first.context = second.context
  candidateProposals : first.candidateProposals = second.candidateProposals
  candidates : first.candidates = second.candidates
  selectedCandidate : first.selectedCandidate = second.selectedCandidate
  patch : first.patch = second.patch

theorem SameWork.assessment {assessment : CandidateAssessment} (hsame : SameWork snapshot' snapshot)
    (h : Assessment service snapshot assessment) : Assessment service snapshot' assessment := by
  rw [Assessment, hsame.context, hsame.candidateProposals]
  exact h

theorem Backed.same (h : Backed service history snapshot) (hsame : SameWork snapshot' snapshot) :
    Backed service history snapshot' where
  nodup := hsame.candidates ▸ h.nodup
  origin assessment hmem := by
    rw [hsame.candidates] at hmem
    rw [hsame.selectedCandidate]
    exact (h.origin assessment hmem).imp_left hsame.assessment
  unselected := by
    rw [hsame.patch, hsame.selectedCandidate]
    exact h.unselected
  selection selected patch hselected hpatch := by
    rw [hsame.selectedCandidate] at hselected
    rw [hsame.patch] at hpatch
    have hselection := h.selection selected patch hselected hpatch
    obtain ⟨assessment, hassessment, houtcome, heq⟩ := hselection.assessed
    exact ⟨hsame.candidates ▸ hselection.listed, ⟨assessment, hsame.assessment hassessment, houtcome,
      heq⟩, hsame.candidates ▸ hselection.least, hsame.candidateProposals ▸ hselection.patched⟩

theorem Backed.no_candidates (h : Backed service history snapshot)
    (hproposals : snapshot.candidateProposals = []) (hpatch : snapshot.patch = none) :
    snapshot.candidates = [] := by
  refine List.eq_nil_iff_forall_not_mem.2 fun assessment hmem => ?_
  rcases h.origin assessment hmem with hassessment | hselected
  · obtain ⟨proposal, hproposal, -⟩ := hassessment.id
    rw [hproposals] at hproposal
    cases hproposal
  · rw [h.unselected hpatch] at hselected
    cases hselected

/-! ### One event -/

theorem sameWork_apply {recorded : CaseEvent} (hbody : recorded.body = body)
    (h : match body with
      | .contextGathered _ | .candidatesReady .. | .candidateAssessed _ | .patchReady .. => False
      | _ => True) : SameWork (snapshot.apply recorded) snapshot := by
  cases body <;> first
    | exact h.elim
    | (constructor <;> simp [CaseSnapshot.apply, hbody, CaseSnapshot.applyBody])

theorem assessmentById_of_mem {assessments : List CandidateAssessment}
    (hnodup : (assessments.map CandidateAssessment.id).Nodup) {assessment : CandidateAssessment}
    (h : assessment ∈ assessments) : assessmentById assessments assessment.id = some assessment := by
  obtain ⟨found, hfound⟩ : ∃ found, assessmentById assessments assessment.id = some found :=
    Option.isSome_iff_exists.1 (assessmentById_isSome.2 ⟨assessment, h, rfl⟩)
  obtain ⟨hmem, hid⟩ := List.mem_filter.1 (List.mem_of_getLast? hfound)
  have hsame : found = assessment :=
    List.inj_on_of_nodup_map hnodup hmem h (of_decide_eq_true hid)
  rw [hfound, hsame]

theorem Backed.patch {best : CandidateAssessment} {patch : PatchArtifact}
    {proposal : CandidateProposal} {existingSql : String} {recorded : CaseEvent}
    (h : Backed service history snapshot) (hunpatched : snapshot.patch = none)
    (hbest : selectMin snapshot.eligible = some best)
    (hproposal : snapshot.candidateProposals.find? (·.id = best.id) = some proposal)
    (hanswer : Answered history actor
      (.readText service.settings.githubRepoRoot service.settings.githubPatchPath) (.ok existingSql))
    (hpatch : service.patchOf proposal existingSql = .ok patch)
    (hbody : recorded.body = .patchReady { best with outcome := .selected } patch) :
    Backed service history (snapshot.apply recorded) := by
  have horigin : ∀ assessment ∈ snapshot.candidates, Assessment service snapshot assessment := by
    intro assessment hmem
    refine (h.origin assessment hmem).resolve_right fun hselected => ?_
    rw [h.unselected hunpatched] at hselected
    cases hselected
  have heligible : ∀ assessment ∈ snapshot.eligible, assessment ∈ snapshot.candidates ∧
      assessment.outcome = .eligible := by
    intro assessment hmem
    obtain ⟨hfound, hrepairable⟩ := List.mem_filter.1 hmem
    obtain ⟨other, -, hfound⟩ := List.mem_filterMap.1 hfound
    have hlisted := (List.mem_filter.1 (List.mem_of_getLast? hfound)).1
    exact ⟨hlisted, (horigin assessment hlisted).outcome hrepairable⟩
  have hranked : ∀ assessment ∈ snapshot.eligible, Ranked assessment := fun assessment hmem =>
    (horigin assessment (heligible assessment hmem).1).ranked (heligible assessment hmem).2
  have hbestMem := selectMin_mem hbest
  obtain ⟨hlisted, houtcome⟩ := heligible best hbestMem
  have hleast := selectMin_least hranked hbest
  obtain ⟨hproposalMem, hproposalId⟩ :=
    And.intro (List.mem_of_find?_eq_some hproposal) (List.find?_some hproposal)
  have happly : snapshot.apply recorded =
      { snapshot with
        state := recorded.state.getD snapshot.state
        updatedAt := recorded.createdAt
        events := snapshot.events ++ [recorded]
        selectedCandidate := some { best with outcome := .selected }
        candidates := replaceAssessment snapshot.candidates { best with outcome := .selected }
        patch := some patch } := by
    simp [CaseSnapshot.apply, hbody, CaseSnapshot.applyBody]
  rw [happly]
  -- the selected assessment replaces the one it was made from
  have hreplaced : ∀ assessment ∈ replaceAssessment snapshot.candidates
      { best with outcome := .selected }, assessment = { best with outcome := .selected } ∨
        assessment ∈ snapshot.candidates := by
    intro assessment hmem
    obtain ⟨item, hitem, rfl⟩ := List.mem_map.1 hmem
    split_ifs
    · exact .inl rfl
    · exact .inr hitem
  refine ⟨?_, fun assessment hmem => ?_, fun hnone => (Option.some_ne_none _ hnone).elim,
    fun selected found hselected hfound => ?_⟩
  · dsimp only
    rw [replaceAssessment_id]
    exact h.nodup
  · rcases hreplaced assessment hmem with rfl | hold
    · exact .inr rfl
    · exact .inl (horigin assessment hold)
  · obtain rfl := Option.some.inj hselected
    obtain rfl := Option.some.inj hfound
    refine ⟨?_, ⟨best, horigin best hlisted, houtcome, rfl⟩, fun other hother hrepairable => ?_,
      actor, proposal, existingSql, hproposalMem, of_decide_eq_true hproposalId, hanswer, hpatch⟩
    · exact List.mem_map.2 ⟨best, hlisted, if_pos rfl⟩
    · have hbestRanked := hranked best hbestMem
      rcases hreplaced other hother with rfl | hold
      · exact selectionLt_irrefl hbestRanked
      · have hassessment := horigin other hold
        obtain ⟨candidate, hcandidate, hid⟩ := hassessment.id
        refine hleast other (List.mem_filter.2 ⟨List.mem_filterMap.2 ⟨candidate, hcandidate, ?_⟩,
          hrepairable⟩)
        rw [hid]
        exact assessmentById_of_mem h.nodup hold

theorem Backed.step {emission : Emission} {recorded : CaseEvent}
    (h : Backed service history snapshot) (hconsistent : Consistent snapshot)
    (hsteps : Steps service caseId event (Answered history actor) snapshot emission)
    (hrecords : emission.Records body state) (hbody : recorded.body = body) :
    Backed service history (snapshot.apply recorded) := by
  have hsource := hsteps.source hconsistent
  cases hsteps with
  | incident | refused | contained | validation | writeback | opened | attempted =>
    cases hrecords
    exact h.same (sameWork_apply hbody trivial)
  | context result hstate hincident hcontext =>
    dsimp only [Emission.Source] at hsource
    simp only [Consistent, hsource] at hconsistent
    have hnone := h.no_candidates hconsistent.2.1 hconsistent.2.2
    cases hrecords
    have happly : (snapshot.apply recorded).candidates = [] ∧
        (snapshot.apply recorded).selectedCandidate = none := by
      simp [CaseSnapshot.apply, hbody, CaseSnapshot.applyBody, hnone, h.unselected hconsistent.2.2]
    exact ⟨by simp [happly.1], by simp [happly.1], fun _ => happly.2, by simp [happly.2]⟩
  | proposals context generated hcontext hmissing =>
    dsimp only [Emission.Source] at hsource
    simp only [Consistent, hsource] at hconsistent
    have hnone := h.no_candidates hconsistent.2.2.1 hconsistent.2.2.2
    cases hrecords
    have happly : (snapshot.apply recorded).candidates = [] ∧
        (snapshot.apply recorded).selectedCandidate = none := by
      simp [CaseSnapshot.apply, hbody, CaseSnapshot.applyBody, hnone,
        h.unselected hconsistent.2.2.2]
    exact ⟨by simp [happly.1], by simp [happly.1], fun _ => happly.2, by simp [happly.2]⟩
  | assessment context proposal execution hproposed hstate hnext =>
    dsimp only [Emission.Source] at hsource
    simp only [Consistent, hsource] at hconsistent
    obtain ⟨-, -, -, -, hunpatched⟩ := hconsistent
    have hunselected := h.unselected hunpatched
    cases hrecords
    have happly : (snapshot.apply recorded).candidates =
          snapshot.candidates ++ [(service.assess proposal context execution).1] ∧
        (snapshot.apply recorded).context = snapshot.context ∧
        (snapshot.apply recorded).candidateProposals = snapshot.candidateProposals ∧
        (snapshot.apply recorded).selectedCandidate = none ∧
        (snapshot.apply recorded).patch = none := by
      simp [CaseSnapshot.apply, hbody, CaseSnapshot.applyBody, hunselected, hunpatched]
    obtain ⟨hcandidates, hcontext, hproposals, hselected, hpatch⟩ := happly
    have hfresh : proposal.id ∉ snapshot.candidates.map CandidateAssessment.id := by
      intro hmem
      obtain ⟨item, hitem, hid⟩ := List.mem_map.1 hmem
      have hsome := assessmentById_isSome.2 ⟨item, hitem, hid⟩
      have hnone := List.find?_some hnext
      rw [Option.isNone_iff_eq_none.1 hnone] at hsome
      cases hsome
    refine ⟨?_, fun assessment hmem => .inl ?_, fun _ => hselected, by simp [hselected]⟩
    · rw [hcandidates, List.map_append, List.nodup_append]
      refine ⟨h.nodup, List.nodup_singleton _, fun id hid other hother heq => hfresh ?_⟩
      rw [List.map_singleton, List.mem_singleton] at hother
      rw [heq, hother] at hid
      exact hid
    · rw [Assessment, hcontext, hproposals]
      rw [hcandidates] at hmem
      rcases List.mem_append.1 hmem with hmem | hmem
      · refine (h.origin assessment hmem).resolve_right fun hsome => ?_
        rw [hunselected] at hsome
        cases hsome
      · exact ⟨context, proposal, execution, hproposed.present, List.mem_of_find?_eq_some hnext,
          List.mem_singleton.1 hmem⟩
  | patch context best proposal existingSql patch hassessed hmissing hbest hproposal hpatch hanswer =>
    dsimp only [Emission.Source] at hsource
    simp only [Consistent, hsource] at hconsistent
    cases hrecords
    exact h.patch hconsistent.2.2.2.2 hbest hproposal hanswer hpatch hbody

theorem Backed.allowed {recorded : CaseEvent} (h : Backed service history snapshot)
    (hconsistent : Consistent snapshot)
    (hallowed : Allowed service environment history actor caseId snapshot body state)
    (hbody : recorded.body = body) : Backed service history (snapshot.apply recorded) := by
  cases hallowed with
  | advanced _ houtcome hrecords => exact h.step hconsistent (advanceStep_inv houtcome) hrecords hbody
  | _ => exact h.same (sameWork_apply hbody trivial)

theorem Chain.backed {log : List CaseEvent}
    (h : Chain service environment history caseId log snapshot) : Backed service history snapshot := by
  induction h with
  | detected hbody =>
    have happly : ∀ event : CaseEvent, ∀ schemaChange incidentUrn, event.body =
        .schemaChangeDetected schemaChange incidentUrn →
        ((CaseSnapshot.start event schemaChange incidentUrn).apply event).candidates = [] ∧
          ((CaseSnapshot.start event schemaChange incidentUrn).apply event).selectedCandidate = none := by
      intro event schemaChange incidentUrn hbody
      simp [CaseSnapshot.apply, hbody, CaseSnapshot.applyBody, CaseSnapshot.start]
    obtain ⟨hcandidates, hselected⟩ := happly _ _ _ hbody
    exact ⟨by simp [hcandidates], by simp [hcandidates], fun _ => hselected, by simp [hselected]⟩
  | step hchain _ _ hwritten ih =>
    obtain ⟨_, hallowed⟩ := hwritten.allowed
    exact ih.allowed hchain.consistent hallowed rfl

/-! ### The gate -/

/-- Only the detection of a case has nothing before it. -/
theorem Chain.not_first {log before after : List CaseEvent} {recorded : CaseEvent}
    (h : Chain service environment history caseId log snapshot)
    (hlog : log = before ++ recorded :: after) (htype : recorded.eventType ≠ .schemaChangeDetected) :
    before ≠ [] := by
  rintro rfl
  obtain ⟨first, rest, rfl, hdetected, -⟩ := h.rooted
  obtain ⟨rfl, -⟩ := List.cons.inj hlog
  exact htype hdetected

theorem Chain.split {log before after : List CaseEvent} {recorded : CaseEvent}
    (h : Chain service environment history caseId log snapshot)
    (hlog : log = before ++ recorded :: after) (hne : before ≠ []) :
    ∃ earlier state, Chain service environment history caseId before earlier ∧
      recorded.state = some state ∧
      Written service environment history caseId earlier recorded state := by
  induction h generalizing after with
  | detected =>
    have hlength := congrArg List.length hlog
    have hpositive := List.length_pos_iff.2 hne
    simp at hlength
    omega
  | @step log earlier event state hchain _ hstate hwritten ih =>
    rcases List.eq_nil_or_concat after with rfl | ⟨rest, last, rfl⟩
    · obtain ⟨rfl, hevent⟩ := List.append_inj' hlog rfl
      obtain rfl := (List.cons.inj hevent).1
      exact ⟨earlier, state, hchain, hstate, hwritten⟩
    · rw [List.concat_eq_append, ← List.cons_append, ← List.append_assoc] at hlog
      exact ih (List.append_inj' hlog rfl).1

/-- What a case holds when its pull request opens. -/
structure RepairGate (service : Service) (history : List Effect) (snapshot : CaseSnapshot) :
    Prop where
  context : ∃ context definition, snapshot.context = some context ∧
    context.glossaryDefinition = some definition ∧ definition ≠ "" ∧ context.lineageCurrent = true
  proposals : (snapshot.candidateProposals.map CandidateProposal.id).Nodup
  assessed : ∀ proposal ∈ snapshot.candidateProposals,
    (snapshot.candidates.filter (·.id = proposal.id)).length = 1
  repair : ∃ selected patch proposal, snapshot.selectedCandidate = some selected ∧
    snapshot.patch = some patch ∧ proposal ∈ snapshot.candidateProposals ∧
    proposal.id = selected.id ∧ (∀ check ∈ selected.policyChecks, check.passed = true) ∧
    (∃ verdict metrics build lineageCurrent,
      (PolicyEngine.evaluate service.policy verdict metrics build lineageCurrent).accepted = true ∧
        selected.policyChecks =
          (PolicyEngine.evaluate service.policy verdict metrics build lineageCurrent).checks ∧
        selected.reconciliation = metrics) ∧
    (∀ other ∈ snapshot.candidates, other.outcome.repairable = true →
      selectionLt other selected = false) ∧
    ∃ actor existingSql, Answered history actor
        (.readText service.settings.githubRepoRoot service.settings.githubPatchPath)
        (.ok existingSql) ∧
      renderDbtPatch proposal existingSql = .ok patch.content ∧
      patch.sha256 = service.sha256 (encode patch.content)
  connected : service.settings.replayMode = false →
    (∃ integration, snapshot.incidentIntegration = some integration ∧
      integration.status = .succeeded) ∧
    (∃ integration, snapshot.candidateGeneration = some integration ∧
      integration.status = .succeeded) ∧
    ∃ integration, snapshot.evidenceWriteback = some integration ∧ integration.status = .succeeded

theorem ready_succeeded {integration : IntegrationResult} (h : service.ready integration = true)
    (hreplay : service.settings.replayMode = false) : integration.status = .succeeded := by
  simpa [Service.ready, hreplay] using h

theorem patchOf_ok {proposal : CandidateProposal} {existingSql : String} {patch : PatchArtifact}
    (h : service.patchOf proposal existingSql = .ok patch) :
    renderDbtPatch proposal existingSql = .ok patch.content ∧
      patch.sha256 = service.sha256 (encode patch.content) := by
  obtain ⟨content, hcontent, hpatch⟩ := bind_eq_ok.1 h
  obtain rfl := Except.ok.inj hpatch
  exact ⟨hcontent, rfl⟩

theorem Repaired.gate {context : ContextBundle} {patch : PatchArtifact}
    (h : Repaired service snapshot context patch) (hbacked : Backed service history snapshot) :
    RepairGate service history snapshot := by
  obtain ⟨selected, hselected⟩ := Option.ne_none_iff_exists'.1 h.selected
  have hselection := hbacked.selection selected patch hselected h.patch
  obtain ⟨assessment, ⟨context', proposal', execution, -, -, rfl⟩, houtcome, rfl⟩ :=
    hselection.assessed
  obtain ⟨actor, proposal, existingSql, hproposal, hid, hanswer, hpatch⟩ := hselection.patched
  obtain ⟨hcontent, hsha256⟩ := patchOf_ok hpatch
  have haccepted := accepted_of_eligible houtcome
  refine ⟨?_, h.nodup, fun candidate hcandidate => ?_, ⟨_, patch, proposal, hselected, h.patch,
    hproposal, hid, PolicyEngine.evaluate_accepted.1 haccepted, ⟨_, _, _, _, haccepted, rfl, rfl⟩,
    hselection.least, actor, existingSql, hanswer, hcontent, hsha256⟩, fun hreplay => ?_⟩
  · have hcomplete := h.complete
    simp only [ContextBundle.complete, Bool.and_eq_true, decide_eq_true_eq] at hcomplete
    obtain ⟨definition, hdefinition⟩ := Option.ne_none_iff_exists'.1 hcomplete.1.1
    refine ⟨context, definition, h.present, hdefinition, fun hempty => hcomplete.1.2 ?_, hcomplete.2⟩
    rw [hdefinition, hempty]
  · have hassessed := h.assessed
    rw [CaseSnapshot.nextUnassessed, List.find?_eq_none] at hassessed
    have hsome := hassessed candidate hcandidate
    rw [Bool.not_eq_true, ← Option.not_isSome, Bool.not_eq_false', assessmentById_isSome] at hsome
    obtain ⟨item, hitem, hitemId⟩ := hsome
    have hcount : (snapshot.candidates.map CandidateAssessment.id).count candidate.id = 1 :=
      List.count_eq_one_of_mem hbacked.nodup (List.mem_map.2 ⟨item, hitem, hitemId⟩)
    rw [List.count_eq_countP, List.countP_map, List.countP_eq_length_filter] at hcount
    rw [← hcount]
    congr 1
  · obtain ⟨incident, hincident, hready⟩ := h.incident
    obtain ⟨generation, hgeneration, hready'⟩ := h.generation
    obtain ⟨writeback, hwriteback, hready''⟩ := h.writeback
    exact ⟨⟨incident, hincident, ready_succeeded hready hreplay⟩,
      ⟨generation, hgeneration, ready_succeeded hready' hreplay⟩,
      ⟨writeback, hwriteback, ready_succeeded hready'' hreplay⟩⟩

theorem Allowed.opened {pullRequest : PullRequestArtifact}
    (h : Allowed service environment history actor caseId snapshot (.prOpened pullRequest) state) :
    (∃ context patch, Repaired service snapshot context patch) ∧
      pullRequest.integration.status = .succeeded := by
  cases h with
  | advanced _ houtcome hrecords =>
    have hsteps := advanceStep_inv houtcome
    cases hrecords
    cases hsteps with
    | opened context patch pullRequest hrepaired hsucceeded =>
      exact ⟨⟨context, patch, hrepaired⟩, hsucceeded⟩

/-- The repair gate: what the log of a case holds before the event that opens its pull request. -/
theorem repair_gate {pool : ServicePool} (hsingle : environment.Single)
    (hreach : service.Reachable environment pool) :
    ∀ caseId before opened after, pool.shared.store.log caseId = before ++ opened :: after →
      opened.eventType = .prOpened →
      (∃ snapshot, projectCase before = some snapshot ∧
        RepairGate service pool.shared.history snapshot) ∧
      ∃ pullRequest, opened.body = .prOpened pullRequest ∧
        pullRequest.integration.status = .succeeded := by
  intro caseId before opened after hlog htype
  have hledger := hreach.ledger hsingle
  obtain ⟨snapshot, hchain⟩ := hledger.cases caseId (by simp [hlog])
  have hne : before ≠ [] := hchain.not_first hlog (by simp [htype])
  obtain ⟨earlier, state, hearlier, -, hwritten⟩ := hchain.split hlog hne
  obtain ⟨_, hallowed⟩ := hwritten.allowed
  obtain ⟨pullRequest, hbody⟩ : ∃ pullRequest, opened.body = .prOpened pullRequest := by
    rw [CaseEvent.eventType] at htype
    cases hbody : opened.body <;> rw [hbody] at htype <;> first | exact ⟨_, rfl⟩ | cases htype
  rw [hbody] at hallowed
  obtain ⟨⟨context, patch, hrepaired⟩, hsucceeded⟩ := hallowed.opened
  exact ⟨⟨earlier, hearlier.project, hrepaired.gate hearlier.backed⟩, pullRequest, hbody, hsucceeded⟩

/-- A connected service whose adapters work reaches a pull request through the gate. -/
theorem repair_gate_opened : ∃ pool, connectedService.Reachable {} pool ∧
    ∃ before opened, pool.shared.store.log "DR-01234567" = before ++ [opened] ∧
      opened.eventType = .prOpened ∧
      ∃ snapshot, projectCase before = some snapshot ∧
        RepairGate connectedService pool.shared.history snapshot := by
  obtain ⟨pool, hreach, -, htypes⟩ :=
    Service.session_reaches permits_default openingVisit_opens
  have hsplit := of_decide_eq_true htypes
  rw [show openedTypes = openedTypes.dropLast ++ [.prOpened] from rfl,
    List.map_eq_append_iff] at hsplit
  obtain ⟨before, rest, hlog, -, hrest⟩ := hsplit
  obtain ⟨opened, rfl, htype⟩ := List.map_eq_singleton_iff.1 hrest
  exact ⟨pool, hreach, before, opened, hlog, htype,
    (repair_gate (fun _ h => h) hreach "DR-01234567" before opened [] hlog htype).1⟩

end

end DataRescue
