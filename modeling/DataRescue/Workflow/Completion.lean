import DataRescue.Workflow.Refinement

/-!
# From the proposals to the pull request

The later stages of the advance, in the order in which it runs them. The loop over the proposals is
an induction on the proposals left; its invariant is that the earlier ones are assessed, so the next
proposal without an assessment is the one the machine names. `advance_stage` assembles all stages.
-/

namespace DataRescue

open Python Concurrency Decision

/-- The case has a complete context and usable proposals, whose ids are not checked yet. -/
structure Generated (service : Service) (snapshot : CaseSnapshot) (context : ContextBundle) : Prop
    extends Contextual service snapshot context where
  generation : ∃ integration, snapshot.candidateGeneration = some integration ∧
    service.ready integration = true
  nonempty : snapshot.candidateProposals ≠ []

section

variable {service : Service} {environment : Environment} {actor : Actor Call}
  {world : World} {caseId : String} {event : SchemaChangeEvent} {snapshot : CaseSnapshot}
  {recorded : CaseEvent} {context : ContextBundle} {patch : PatchArtifact}
  {proposals : List CandidateProposal}

/-! ### What an event keeps -/

theorem Contextual.apply (h : Contextual service snapshot context)
    (hresumable : (snapshot.apply recorded).state.ingestResumable = true)
    (hincident : (snapshot.apply recorded).incidentIntegration = snapshot.incidentIntegration)
    (hcontext : (snapshot.apply recorded).context = snapshot.context) :
    Contextual service (snapshot.apply recorded) context where
  resumable := hresumable
  incident := hincident ▸ h.incident
  present := hcontext ▸ h.present
  complete := h.complete

theorem Proposed.apply (h : Proposed service snapshot context)
    (hresumable : (snapshot.apply recorded).state.ingestResumable = true)
    (hincident : (snapshot.apply recorded).incidentIntegration = snapshot.incidentIntegration)
    (hcontext : (snapshot.apply recorded).context = snapshot.context)
    (hgeneration : (snapshot.apply recorded).candidateGeneration = snapshot.candidateGeneration)
    (hproposals : (snapshot.apply recorded).candidateProposals = snapshot.candidateProposals) :
    Proposed service (snapshot.apply recorded) context where
  toContextual := h.toContextual.apply hresumable hincident hcontext
  generation := hgeneration ▸ h.generation
  nonempty := hproposals ▸ h.nonempty
  nodup := hproposals ▸ h.nodup

/-! ### Proposals -/

theorem proposalStage_stage (hdelivers : Delivers environment actor event)
    (hcase : Advancing service actor caseId snapshot world)
    (hcontextual : Contextual service snapshot context) :
    Stage service environment actor caseId event (service.proposalStage caseId event context)
      (fun value current _ => match value with
        | none => current.state.ingestResumable = false
        | some proposals => Generated service current context ∧
          current.candidateProposals = proposals) world := by
  unfold Service.proposalStage
  refine (Stage.getCase hcase).bind fun value current after hcase hread => ?_
  obtain ⟨rfl, rfl, rfl, -⟩ := hread
  have hstep := hcontextual.step caseId event
  split
  next integration first rest hgeneration hproposals =>
    rw [hgeneration, hproposals] at hstep
    dsimp only at hstep
    refine (connectedIntegrationReady_stage hdelivers hcase fun hready => ?_).bind
      fun ready current after hcase hresult => Stage.pure hcase ?_
    · rw [hstep, hready]
      rfl
    · rcases hresult with ⟨rfl, hready, rfl, rfl⟩ | ⟨rfl, hfailed⟩
      · exact ⟨⟨hcontextual, ⟨integration, hgeneration, hready⟩, by simp [hproposals]⟩, hproposals⟩
      · simp [hfailed, CaseState.ingestResumable]
  next hnone =>
    have hstep : service.advanceStep caseId event snapshot =
        service.decideProposals event context := by
      rw [hstep]
      split
      next integration first rest hgeneration hproposals =>
        exact (hnone integration first rest hgeneration hproposals).elim
      · rfl
    refine (Stage.adapter hcase).bind fun generated current asked hcase hasked => ?_
    obtain ⟨rfl, hanswer, -⟩ := hasked
    refine (connectedIntegrationReady_stage hdelivers hcase fun hready => ?_).bind
      fun ready current after hcase hresult => ?_
    · rw [hstep]
      refine outcome_answered hanswer ?_
      rw [hready]
      rfl
    rcases hresult with ⟨rfl, hready, rfl, rfl⟩ | ⟨rfl, hfailed⟩
    · rw [if_neg (by simp)]
      split_ifs with hempty
      · have houtcome : (service.advanceStep caseId event snapshot).Outcome
            (Answered asked.history actor) (.ok (some .contain)) := by
          rw [hstep]
          refine outcome_answered hanswer ?_
          rw [hready, if_neg (by simp), if_pos hempty]
          rfl
        exact (contain_stage hdelivers hcase houtcome).bind fun _ current after hcase hcontained =>
          Stage.pure hcase (by simp [hcontained, CaseState.ingestResumable])
      · have houtcome : (service.advanceStep caseId event snapshot).Outcome
            (Answered asked.history actor) (.ok (some (.append
              (.candidatesReady generated.candidates generated.integration) .candidatesReady))) := by
          rw [hstep]
          refine outcome_answered hanswer ?_
          rw [hready, if_neg (by simp), if_neg hempty]
          rfl
        refine (Stage.append hcase (.advanced hdelivers houtcome (.append _ _))).bind
          fun recorded current after hcase happended => Stage.pure hcase ?_
        obtain ⟨hbody, hstate, rfl, -⟩ := happended
        have hkept : Contextual service (snapshot.apply recorded) context :=
          hcontextual.apply (by simp [hstate, CaseState.ingestResumable])
            (by simp [CaseSnapshot.apply, hbody, CaseSnapshot.applyBody])
            (by simp [CaseSnapshot.apply, hbody, CaseSnapshot.applyBody])
        exact ⟨⟨hkept, ⟨generated.integration,
          by simp [CaseSnapshot.apply, hbody, CaseSnapshot.applyBody], hready⟩,
          by simpa [CaseSnapshot.apply, hbody, CaseSnapshot.applyBody] using hempty⟩,
          by simp [CaseSnapshot.apply, hbody, CaseSnapshot.applyBody]⟩
    · exact Stage.pure hcase (by simp [hfailed, CaseState.ingestResumable])

/-! ### Validation -/

theorem validationStage_stage (hdelivers : Delivers environment actor event)
    (hcase : Advancing service actor caseId snapshot world)
    (hgenerated : Generated service snapshot context)
    (hproposals : snapshot.candidateProposals = proposals) :
    Stage service environment actor caseId event (service.validationStage caseId proposals)
      (fun _ current _ => Proposed service current context ∧
        current.state ≠ .candidatesReady ∧ current.candidateProposals = proposals) world := by
  have hstep := hgenerated.toContextual.validated caseId event
    hgenerated.generation hgenerated.nonempty
  subst hproposals
  unfold Service.validationStage
  split_ifs with hnodup
  · have hproposed : Proposed service snapshot context :=
      ⟨hgenerated.toContextual, hgenerated.generation, hgenerated.nonempty, hnodup⟩
    refine (Stage.getCase hcase).bind fun value current after hcase hread => ?_
    obtain ⟨rfl, rfl, rfl, -⟩ := hread
    split_ifs with hstate
    · have houtcome : (service.advanceStep caseId event snapshot).Outcome
          (Answered world.history actor) (.ok (some (.append
            (.validationStarted snapshot.candidateProposals.length service.settings.executionMode)
            .validating))) := by
        rw [hstep, Service.decideValidated, if_neg (not_not.2 hnodup), if_pos hstate]
        rfl
      refine (Stage.append hcase (.advanced hdelivers houtcome (.append _ _))).bind
        fun recorded current after hcase happended => Stage.pure hcase ?_
      obtain ⟨hbody, hrecorded, rfl, -⟩ := happended
      have hsame : (snapshot.apply recorded).candidateProposals = snapshot.candidateProposals := by
        simp [CaseSnapshot.apply, hbody, CaseSnapshot.applyBody]
      exact ⟨hproposed.apply (by simp [hrecorded, CaseState.ingestResumable])
        (by simp [CaseSnapshot.apply, hbody, CaseSnapshot.applyBody])
        (by simp [CaseSnapshot.apply, hbody, CaseSnapshot.applyBody])
        (by simp [CaseSnapshot.apply, hbody, CaseSnapshot.applyBody]) hsame,
        by simp [hrecorded], hsame⟩
    · exact Stage.pure hcase ⟨hproposed, hstate, rfl⟩
  · refine Stage.throw hcase (.inr (.inr ?_))
    rw [hstep, Service.decideValidated, if_pos hnodup]
    rfl

/-! ### Assessments -/

theorem execute_stage {proposal : CandidateProposal}
    (hcase : Advancing service actor caseId snapshot world) :
    Stage service environment actor caseId event
      (Flow.exceptException (Flow.adapter (.execute .configured caseId proposal context))
        fun error => pure (failedExecution error.typeName))
      (fun execution current after => snapshot = current ∧ ∃ answer : Except Exn CandidateExecution,
        Answered after.history actor (.execute .configured caseId proposal context) answer ∧
          (answer = .ok execution ∨ ∃ error : Exn, answer = .error error ∧
            error.isException = true ∧ execution = failedExecution error.typeName)) world := by
  intro path
  rw [Flow.exceptException, Program.wp_tryCatch]
  refine wp_held hcase.held fun _ hledger answer after hexec => ⟨trivial, ?_⟩
  obtain ⟨-, rfl⟩ := hexec
  have hcase' : Advancing service actor caseId snapshot
      (world.record actor (.adapter (.execute .configured caseId proposal context)) answer) :=
    ⟨hcase.held, hcase.snapshot, hcase.concerns⟩
  have hanswered : Answered
      (world.record actor (.adapter (.execute .configured caseId proposal context)) answer).history
      actor (.execute .configured caseId proposal context) answer :=
    ⟨world.store.currentScope, by simp [World.record, Op.recorded]⟩
  cases answer with
  | ok execution => exact ⟨snapshot, hcase', rfl, _, hanswered, .inl rfl⟩
  | error error =>
    dsimp only [Program.wp]
    split_ifs with hexception
    · exact ⟨snapshot, hcase', rfl, _, hanswered, .inr ⟨error, rfl, hexception, rfl⟩⟩
    · exact ⟨snapshot, hcase', .inr (.inl ⟨_, hanswered⟩)⟩

theorem outcome_assessment {answers : (op : AdapterOp) → Except Exn op.Reply → Prop}
    {proposal : CandidateProposal} {execution : CandidateExecution}
    {answer : Except Exn CandidateExecution}
    (hanswer : answers (.execute .configured caseId proposal context) answer)
    (hexecution : answer = .ok execution ∨ ∃ error : Exn, answer = .error error ∧
      error.isException = true ∧ execution = failedExecution error.typeName) :
    (service.decideAssessment caseId context proposal).Outcome answers
      (.ok (some (.append (.candidateAssessed (service.assess proposal context execution).1)
        .validating))) := by
  refine ⟨answer, hanswer, ?_⟩
  rcases hexecution with rfl | ⟨error, rfl, hexception, rfl⟩
  · rfl
  · dsimp only [Program.andThen]
    rw [if_pos hexception]
    rfl

/-- The case is validating usable proposals. -/
structure Validating (service : Service) (snapshot : CaseSnapshot) (context : ContextBundle)
    (proposals : List CandidateProposal) : Prop where
  proposed : Proposed service snapshot context
  state : snapshot.state ≠ .candidatesReady
  proposals : snapshot.candidateProposals = proposals

theorem nextUnassessed_eq {earlier later : List CandidateProposal} {proposal : CandidateProposal}
    (hproposals : snapshot.candidateProposals = earlier ++ proposal :: later)
    (hearlier : ∀ proposal ∈ earlier, (assessmentById snapshot.candidates proposal.id).isSome)
    (hnone : assessmentById snapshot.candidates proposal.id = none) :
    snapshot.nextUnassessed = some proposal := by
  rw [CaseSnapshot.nextUnassessed, hproposals, List.find?_append,
    List.find?_eq_none.2 fun proposal hproposal => by
      simpa [Option.isSome_iff_ne_none] using hearlier proposal hproposal]
  simp [hnone]

theorem nextUnassessed_none
    (h : ∀ proposal ∈ snapshot.candidateProposals,
      (assessmentById snapshot.candidates proposal.id).isSome) :
    snapshot.nextUnassessed = none :=
  List.find?_eq_none.2 fun proposal hproposal => by
    simpa [Option.isSome_iff_ne_none] using h proposal hproposal

theorem assessmentById_append {assessments : List CandidateAssessment}
    {assessment : CandidateAssessment} {id : String}
    (h : (assessmentById assessments id).isSome = true ∨ assessment.id = id) :
    (assessmentById (assessments ++ [assessment]) id).isSome = true := by
  rw [assessmentById_isSome] at h ⊢
  rcases h with ⟨item, hitem, hid⟩ | hid
  · exact ⟨item, List.mem_append_left _ hitem, hid⟩
  · exact ⟨assessment, by simp, hid⟩

theorem assessmentLoop_stage (hdelivers : Delivers environment actor event)
    {earlier : List CandidateProposal} {known : List CandidateAssessment} {reasons : List String}
    (hcase : Advancing service actor caseId snapshot world)
    (hvalidating : Validating service snapshot context (earlier ++ proposals))
    (hknown : snapshot.candidates = known)
    (hearlier : ∀ proposal ∈ earlier, (assessmentById known proposal.id).isSome = true) :
    Stage service environment actor caseId event
      (service.assessmentLoop caseId context proposals known reasons)
      (fun value current _ => Validating service current context (earlier ++ proposals) ∧
        current.candidates = value.1 ∧ current.nextUnassessed = none) world := by
  induction proposals generalizing earlier known reasons snapshot world with
  | nil =>
    refine Stage.pure hcase ⟨hvalidating, hknown, nextUnassessed_none fun proposal hproposal => ?_⟩
    rw [hvalidating.proposals, List.append_nil] at hproposal
    exact hknown ▸ hearlier proposal hproposal
  | cons proposal proposals ih =>
    rw [List.append_cons] at hvalidating ⊢
    unfold Service.assessmentLoop
    split
    next existing hexisting =>
      refine ih hcase hvalidating hknown fun other hother => ?_
      rcases List.mem_append.1 hother with hother | hother
      · exact hearlier other hother
      · rw [List.mem_singleton.1 hother, hexisting]
        rfl
    next hnone =>
      have hnext : snapshot.nextUnassessed = some proposal :=
        nextUnassessed_eq (by rw [hvalidating.proposals, List.append_assoc]; rfl)
          (hknown ▸ hearlier) (hknown ▸ hnone)
      refine (execute_stage hcase).bind fun execution current after hcase hexecuted => ?_
      obtain ⟨rfl, answer, hanswer, hexecution⟩ := hexecuted
      have houtcome : (service.advanceStep caseId event snapshot).Outcome
          (Answered after.history actor) (.ok (some (.append
            (.candidateAssessed (service.assess proposal context execution).1) .validating))) := by
        rw [hvalidating.proposed.step caseId event hvalidating.state, hnext]
        exact outcome_assessment hanswer hexecution
      refine (Stage.append hcase (.advanced hdelivers houtcome (.append _ _))).bind
        fun recorded current after hcase happended => ?_
      obtain ⟨hbody, hstate, rfl, -⟩ := happended
      have hproposals : (snapshot.apply recorded).candidateProposals =
          snapshot.candidateProposals := by
        simp [CaseSnapshot.apply, hbody, CaseSnapshot.applyBody]
      have hcandidates : (snapshot.apply recorded).candidates =
          known ++ [(service.assess proposal context execution).1] := by
        simp [CaseSnapshot.apply, hbody, CaseSnapshot.applyBody, hknown]
      refine ih hcase ⟨hvalidating.proposed.apply (by simp [hstate, CaseState.ingestResumable])
        (by simp [CaseSnapshot.apply, hbody, CaseSnapshot.applyBody])
        (by simp [CaseSnapshot.apply, hbody, CaseSnapshot.applyBody])
        (by simp [CaseSnapshot.apply, hbody, CaseSnapshot.applyBody]) hproposals,
        by simp [hstate], hproposals.trans hvalidating.proposals⟩ hcandidates
        fun other hother => assessmentById_append ?_
      rcases List.mem_append.1 hother with hother | hother
      · exact .inl (hearlier other hother)
      · rw [List.mem_singleton.1 hother]
        exact .inr rfl

theorem assessmentStage_stage (hdelivers : Delivers environment actor event)
    (hcase : Advancing service actor caseId snapshot world)
    (hvalidating : Validating service snapshot context proposals) :
    Stage service environment actor caseId event
      (service.assessmentStage caseId context proposals)
      (fun value current _ => Validating service current context proposals ∧
        current.nextUnassessed = none ∧ value.1.filter (·.outcome.repairable) = current.eligible)
      world := by
  unfold Service.assessmentStage
  refine (Stage.getCase hcase).bind fun value current after hcase hread => ?_
  obtain ⟨rfl, rfl, rfl, -⟩ := hread
  have hnone : Validating service snapshot context ([] ++ proposals) := hvalidating
  refine (assessmentLoop_stage hdelivers hcase hnone rfl (by simp)).bind
    fun value current after hcase hassessed => Stage.pure hcase ?_
  obtain ⟨hvalidating, hknown, hnext⟩ := hassessed
  refine ⟨hvalidating, hnext, ?_⟩
  rw [CaseSnapshot.eligible, hvalidating.proposals, hknown]
  rfl

/-! ### The repair -/

theorem eligible_replace {assessments : List CandidateAssessment} {best : CandidateAssessment}
    (selected : CandidateAssessment)
    (hbest : best ∈ (proposals.filterMap fun proposal =>
      assessmentById assessments proposal.id).filter (·.outcome.repairable))
    (hid : selected.id = best.id) (hselected : selected.outcome = .selected) :
    (proposals.filterMap fun proposal =>
      assessmentById (replaceAssessment assessments selected) proposal.id).filter
        (·.outcome.repairable) ≠ [] := by
  obtain ⟨hmem, -⟩ := List.mem_filter.1 hbest
  obtain ⟨proposal, hproposal, hfound⟩ := List.mem_filterMap.1 hmem
  obtain ⟨hbestMem, hbestId⟩ := List.mem_filter.1 (List.mem_of_getLast? hfound)
  have hpid : best.id = proposal.id := of_decide_eq_true hbestId
  have hsome : (assessmentById (replaceAssessment assessments selected) proposal.id).isSome := by
    rw [assessmentById_replace, hfound]
    rfl
  obtain ⟨found, hfound'⟩ := Option.isSome_iff_exists.1 hsome
  obtain ⟨hfoundMem, hfoundId⟩ := List.mem_filter.1 (List.mem_of_getLast? hfound')
  have hfoundEq : found = selected := by
    obtain ⟨item, -, rfl⟩ := List.mem_map.1 hfoundMem
    have hid' : (if item.id = selected.id then selected else item).id = proposal.id :=
      of_decide_eq_true hfoundId
    split_ifs at hid' ⊢ with hitem
    · rfl
    · exact absurd (hid'.trans (hpid.symm.trans hid.symm)) hitem
  refine List.ne_nil_of_mem (List.mem_filter.2
    ⟨List.mem_filterMap.2 ⟨proposal, hproposal, hfound'⟩, ?_⟩)
  rw [hfoundEq, hselected]
  rfl

theorem selectMin_mem {items : List CandidateAssessment} {best : CandidateAssessment}
    (h : selectMin items = some best) : best ∈ items := by
  cases items with
  | nil => cases h
  | cons first rest =>
    obtain rfl := Option.some.inj h
    have hfold : ∀ (rest : List CandidateAssessment) (best : CandidateAssessment),
        rest.foldl (fun best item => if selectionLt item best then item else best) best ∈
          best :: rest := by
      intro rest
      induction rest with
      | nil => simp
      | cons item rest ih =>
        intro best
        rw [List.foldl_cons]
        split_ifs
        · exact List.mem_cons_of_mem _ (ih item)
        · have := ih best
          simp only [List.mem_cons] at this ⊢
          tauto
    exact hfold rest first

/-- The case has this selected candidate and this patch. -/
structure Selected (service : Service) (snapshot : CaseSnapshot) (context : ContextBundle)
    (selected : CandidateAssessment) (patch : PatchArtifact) : Prop where
  assessed : Assessed service snapshot context
  selected : snapshot.selectedCandidate = some selected
  patch : snapshot.patch = some patch

theorem patchStage_stage {eligible : List CandidateAssessment}
    (hdelivers : Delivers environment actor event)
    (hcase : Advancing service actor caseId snapshot world)
    (hassessed : Assessed service snapshot context)
    (hproposals : snapshot.candidateProposals = proposals) (heligible : eligible = snapshot.eligible) :
    Stage service environment actor caseId event (service.patchStage caseId proposals eligible)
      (fun value current _ => Selected service current context value.1 value.2) world := by
  subst hproposals heligible
  unfold Service.patchStage
  refine (Stage.getCase hcase).bind fun value current after hcase hread => ?_
  obtain ⟨rfl, rfl, rfl, -⟩ := hread
  have hstep := hassessed.step caseId event
  split
  next selected patch hselected hpatch => exact Stage.pure hcase ⟨hassessed, hselected, hpatch⟩
  next hnone =>
    have hstep : service.advanceStep caseId event snapshot =
        service.decidePatch snapshot.candidateProposals snapshot.eligible := by
      rw [hstep]
      split
      next selected patch hselected hpatch => exact (hnone selected patch hselected hpatch).elim
      · rfl
    unfold Service.decidePatch at hstep
    split
    next hbest =>
      rw [hbest] at hstep
      exact Stage.throw hcase (.inr (.inr (by rw [hstep]; rfl)))
    next best hbest =>
      rw [hbest] at hstep
      dsimp only at hstep ⊢
      split
      next hproposal =>
        rw [hproposal] at hstep
        exact Stage.throw hcase (.inr (.inr (by rw [hstep]; rfl)))
      next proposal hproposal =>
        rw [hproposal] at hstep
        dsimp only at hstep
        refine (Stage.adapter hcase).bind fun existingSql current after hcase hasked => ?_
        obtain ⟨rfl, hanswer, -⟩ := hasked
        split
        next error herror =>
          refine Stage.throw hcase (.inr (.inr ?_))
          rw [hstep]
          refine ⟨.ok existingSql, hanswer, ?_⟩
          dsimp only [Program.andThen]
          rw [herror]
          rfl
        next patch hpatch =>
          have houtcome : (service.advanceStep caseId event snapshot).Outcome
              (Answered after.history actor) (.ok (some (.append
                (.patchReady { best with outcome := .selected } patch) .patchReady))) := by
            rw [hstep]
            refine outcome_answered hanswer ?_
            rw [hpatch]
            rfl
          refine (Stage.append hcase (.advanced hdelivers houtcome (.append _ _))).bind
            fun recorded current after hcase happended => Stage.pure hcase ?_
          obtain ⟨hbody, hstate, rfl, -⟩ := happended
          have hkept : Proposed service (snapshot.apply recorded) context :=
            hassessed.toProposed.apply (by simp [hstate, CaseState.ingestResumable])
              (by simp [CaseSnapshot.apply, hbody, CaseSnapshot.applyBody])
              (by simp [CaseSnapshot.apply, hbody, CaseSnapshot.applyBody])
              (by simp [CaseSnapshot.apply, hbody, CaseSnapshot.applyBody])
              (by simp [CaseSnapshot.apply, hbody, CaseSnapshot.applyBody])
          refine ⟨⟨hkept, by simp [hstate], ?_, ?_⟩,
            by simp [CaseSnapshot.apply, hbody, CaseSnapshot.applyBody],
            by simp [CaseSnapshot.apply, hbody, CaseSnapshot.applyBody]⟩
          · have hsame := hassessed.assessed
            rw [CaseSnapshot.nextUnassessed, List.find?_eq_none] at hsame
            refine nextUnassessed_none fun other hother => ?_
            simp only [CaseSnapshot.apply, hbody, CaseSnapshot.applyBody] at hother ⊢
            rw [assessmentById_replace]
            simpa [Option.isSome_iff_ne_none] using hsame other hother
          · have hreplaced := eligible_replace { best with outcome := .selected }
              (selectMin_mem hbest) rfl rfl
            simpa [CaseSnapshot.eligible, CaseSnapshot.apply, hbody, CaseSnapshot.applyBody] using
              hreplaced

theorem writebackStage_stage {selected : CandidateAssessment}
    (hdelivers : Delivers environment actor event) (hcase : Advancing service actor caseId snapshot world)
    (hselected : Selected service snapshot context selected patch) :
    Stage service environment actor caseId event
      (Service.writebackStage caseId event selected patch)
      (fun integration current _ => Selected service current context selected patch ∧
        current.evidenceWriteback = some integration) world := by
  unfold Service.writebackStage
  refine (Stage.getCase hcase).bind fun value current after hcase hread => ?_
  obtain ⟨rfl, rfl, rfl, -⟩ := hread
  split
  next integration hwriteback => exact Stage.pure hcase ⟨hselected, hwriteback⟩
  next hnone =>
    refine (Stage.adapter hcase).bind fun integration current after hcase hasked => ?_
    obtain ⟨rfl, hanswer, -⟩ := hasked
    have houtcome : (service.advanceStep caseId event snapshot).Outcome
        (Answered after.history actor)
        (.ok (some (.append (.evidenceWritten integration) .patchReady))) := by
      rw [hselected.assessed.step, hselected.selected, hselected.patch, hnone]
      exact ⟨.ok integration, hanswer, rfl⟩
    refine (Stage.append hcase (.advanced hdelivers houtcome (.append _ _))).bind
      fun recorded current after hcase happended => Stage.pure hcase ?_
    obtain ⟨hbody, hstate, rfl, -⟩ := happended
    have hkept : Proposed service (snapshot.apply recorded) context :=
      hselected.assessed.toProposed.apply (by simp [hstate, CaseState.ingestResumable])
        (by simp [CaseSnapshot.apply, hbody, CaseSnapshot.applyBody])
        (by simp [CaseSnapshot.apply, hbody, CaseSnapshot.applyBody])
        (by simp [CaseSnapshot.apply, hbody, CaseSnapshot.applyBody])
        (by simp [CaseSnapshot.apply, hbody, CaseSnapshot.applyBody])
    have hnext := hselected.assessed.assessed
    have heligible := hselected.assessed.eligible
    exact ⟨⟨⟨hkept, by simp [hstate],
      by simpa [CaseSnapshot.nextUnassessed, CaseSnapshot.apply, hbody, CaseSnapshot.applyBody] using
        hnext,
      by simpa [CaseSnapshot.eligible, CaseSnapshot.apply, hbody, CaseSnapshot.applyBody] using
        heligible⟩,
      by simpa [CaseSnapshot.apply, hbody, CaseSnapshot.applyBody] using hselected.selected,
      by simpa [CaseSnapshot.apply, hbody, CaseSnapshot.applyBody] using hselected.patch⟩,
      by simp [CaseSnapshot.apply, hbody, CaseSnapshot.applyBody]⟩

theorem recordOpened_stage {pullRequest : PullRequestArtifact}
    (hdelivers : Delivers environment actor event) (hcase : Advancing service actor caseId snapshot world)
    (h : (service.advanceStep caseId event snapshot).Outcome (Answered world.history actor)
      (.ok (some (.append (.prOpened pullRequest) .prOpen)))) :
    Stage service environment actor caseId event (Service.recordOpened caseId pullRequest)
      (fun _ current after => Rested service after.history caseId event current) world := by
  unfold Service.recordOpened
  refine (Stage.append hcase (.advanced hdelivers h (.append _ _))).bind
    fun recorded current after hcase happended => Stage.pure hcase (.inl ?_)
  obtain ⟨-, hstate, rfl, -⟩ := happended
  simp [hstate, CaseState.ingestResumable]

/-- A draft that was attempted stalls: the machine would attempt it again. -/
theorem pullRequestStage_stage (hdelivers : Delivers environment actor event)
    (hcase : Advancing service actor caseId snapshot world)
    (hrepaired : Repaired service snapshot context patch) :
    Stage service environment actor caseId event (Service.pullRequestStage caseId patch)
      (fun _ current after => Rested service after.history caseId event current) world := by
  unfold Service.pullRequestStage
  refine (Stage.getCase hcase).bind fun value current after hcase hread => ?_
  obtain ⟨rfl, rfl, rfl, hconsistent⟩ := hread
  have hstate : snapshot.state = .patchReady := by
    have hresumable := hrepaired.resumable
    have hpatch := hrepaired.patch
    cases hstate : snapshot.state <;>
      simp_all [Consistent, CaseState.ingestResumable]
  split
  next pullRequest hopen =>
    rw [if_pos hstate]
    exact recordOpened_stage hdelivers hcase (hrepaired.reopened hopen hstate)
  next hnone =>
    refine (Stage.adapter hcase).bind fun pullRequest current after hcase hasked => ?_
    obtain ⟨rfl, hanswer, -⟩ := hasked
    split_ifs with hsucceeded
    · exact recordOpened_stage hdelivers hcase (hrepaired.opened hnone hsucceeded hanswer)
    · refine (Stage.append hcase (.advanced hdelivers
        (hrepaired.attempted hnone hsucceeded hanswer) (.append _ _))).bind
        fun recorded current final hcase happended => Stage.pure hcase (.inr ?_)
      obtain ⟨hbody, hrecorded, rfl, hgrows⟩ := happended
      have hkept : Proposed service (snapshot.apply recorded) context :=
        hrepaired.toProposed.apply (by simp [hrecorded, CaseState.ingestResumable])
          (by simp [CaseSnapshot.apply, hbody, CaseSnapshot.applyBody])
          (by simp [CaseSnapshot.apply, hbody, CaseSnapshot.applyBody])
          (by simp [CaseSnapshot.apply, hbody, CaseSnapshot.applyBody])
          (by simp [CaseSnapshot.apply, hbody, CaseSnapshot.applyBody])
      have hnext := hrepaired.assessed
      have heligible := hrepaired.eligible
      have hagain : Repaired service (snapshot.apply recorded) context patch :=
        { toProposed := hkept
          validating := by simp [hrecorded]
          assessed := by
            simpa [CaseSnapshot.nextUnassessed, CaseSnapshot.apply, hbody, CaseSnapshot.applyBody]
              using hnext
          eligible := by
            simpa [CaseSnapshot.eligible, CaseSnapshot.apply, hbody, CaseSnapshot.applyBody]
              using heligible
          selected := by
            simpa [CaseSnapshot.apply, hbody, CaseSnapshot.applyBody] using hrepaired.selected
          patch := by
            simpa [CaseSnapshot.apply, hbody, CaseSnapshot.applyBody] using hrepaired.patch
          writeback := by
            simpa [CaseSnapshot.apply, hbody, CaseSnapshot.applyBody] using hrepaired.writeback }
      have hattempted : (snapshot.apply recorded).pullRequest = some pullRequest := by
        simp [CaseSnapshot.apply, hbody, CaseSnapshot.applyBody]
      refine ⟨actor, pullRequest, by simp [hrecorded], hattempted,
        hagain.attempted ?_ hsucceeded (hanswer.mono hgrows)⟩
      rw [hattempted]
      simp [Option.filter, hsucceeded]

theorem repair_stage (hdelivers : Delivers environment actor event)
    (hcase : Advancing service actor caseId snapshot world)
    (hvalidating : Validating service snapshot context proposals) :
    Stage service environment actor caseId event (service.repair caseId event context proposals)
      (fun _ current after => Rested service after.history caseId event current) world := by
  unfold Service.repair
  refine (assessmentStage_stage hdelivers hcase hvalidating).bind
    fun value current after hcase hassessed => ?_
  obtain ⟨hvalidating, hnext, hfilter⟩ := hassessed
  have hstep := hvalidating.proposed.step caseId event hvalidating.state
  rw [hnext] at hstep
  dsimp only
  split_ifs with hempty
  · rw [hfilter] at hempty
    refine (contain_stage hdelivers hcase ?_).mono fun _ final _ _ hcontained =>
      .inl (by simp [hcontained, CaseState.ingestResumable])
    rw [hstep, Service.decideRepair, if_pos hempty]
    rfl
  · have hassessed : Assessed service current context :=
      ⟨hvalidating.proposed, hvalidating.state, hnext, hfilter ▸ hempty⟩
    refine (patchStage_stage hdelivers hcase hassessed hvalidating.proposals hfilter).bind
      fun value current after hcase hselected => ?_
    obtain ⟨selected, patch⟩ := value
    refine (writebackStage_stage hdelivers hcase hselected).bind
      fun integration current after hcase hwritten => ?_
    obtain ⟨hselected, hwriteback⟩ := hwritten
    refine (connectedIntegrationReady_stage hdelivers hcase fun hready => ?_).bind
      fun ready current after hcase hresult => ?_
    · rw [hselected.assessed.step, hselected.selected, hselected.patch, hwriteback]
      dsimp only
      rw [hready]
      rfl
    rcases hresult with ⟨rfl, hready, rfl, rfl⟩ | ⟨rfl, hfailed⟩
    · rw [if_neg (by simp)]
      exact pullRequestStage_stage hdelivers hcase
        ⟨hselected.assessed, by simp [hselected.selected], hselected.patch, integration, hwriteback,
          hready⟩
    · exact Stage.pure hcase (.inl (by simp [hfailed, CaseState.ingestResumable]))

theorem gather_stage (hdelivers : Delivers environment actor event)
    (hcase : Advancing service actor caseId snapshot world)
    (hstate : snapshot.state.ingestResumable = true)
    (hincident : ∃ integration, snapshot.incidentIntegration = some integration ∧
      service.ready integration = true) :
    Stage service environment actor caseId event (service.gather caseId event)
      (fun _ current after => Rested service after.history caseId event current) world := by
  unfold Service.gather
  refine (contextStage_stage hdelivers hcase hstate hincident).bind
    fun value current after hcase hcontext => ?_
  cases value with
  | none => exact Stage.pure hcase (.inl hcontext)
  | some context =>
    refine (proposalStage_stage hdelivers hcase hcontext).bind
      fun value current after hcase hproposals => ?_
    cases value with
    | none => exact Stage.pure hcase (.inl hproposals)
    | some proposals =>
      obtain ⟨hgenerated, hproposals⟩ := hproposals
      exact (validationStage_stage hdelivers hcase hgenerated hproposals).bind
        fun _ current after hcase hvalidating =>
          repair_stage hdelivers hcase ⟨hvalidating.1, hvalidating.2.1, hvalidating.2.2⟩

/-- The advance is correct: if it returns, the case is at rest; if it raises, it had a cause. -/
theorem advance_stage (hdelivers : Delivers environment actor event)
    (hcase : Advancing service actor caseId snapshot world) :
    Stage service environment actor caseId event (service.advance caseId event)
      (fun _ current after => Rested service after.history caseId event current) world := by
  unfold Service.advance
  refine (Stage.getCase hcase).bind fun value current after hcase hread => ?_
  obtain ⟨rfl, rfl, rfl, -⟩ := hread
  split_ifs with hresumable
  · exact Stage.pure hcase (.inl (by simpa using hresumable))
  · have hstate : snapshot.state.ingestResumable = true := by simpa using hresumable
    refine (incidentStage_stage hdelivers hcase hstate).bind
      fun integration current after hcase hraised => ?_
    obtain ⟨hstate, hincident⟩ := hraised
    refine (connectedIntegrationReady_stage hdelivers hcase fun hready => ?_).bind
      fun ready final after hcase hresult => ?_
    · rw [advanceStep_refused hstate hincident hready]
      rfl
    rcases hresult with ⟨rfl, hready, rfl, rfl⟩ | ⟨rfl, hfailed⟩
    · rw [if_neg (by simp)]
      exact gather_stage hdelivers hcase hstate ⟨integration, hincident, hready⟩
    · exact Stage.pure hcase (.inl (by simp [hfailed, CaseState.ingestResumable]))

end

end DataRescue
