import DataRescue.Workflow.Stages

/-!
# The advance refines the checkpoint machine

`_advance` appends nothing but what the checkpoint machine names. The equations of the first part say
where the machine stands once a stage has passed; the stages of the second part reach those points,
whether they compute or reuse a checkpoint. `Service.advance_stage` assembles them: an advance that
returns has left the case at rest, and one that raises had a cause.
-/

namespace DataRescue

open Python Concurrency Decision

section

variable {service : Service} {caseId : String} {event : SchemaChangeEvent}
  {snapshot : CaseSnapshot} {context : ContextBundle} {patch : PatchArtifact}

/-! ### Where the machine stands -/

theorem advanceStep_incident (hstate : snapshot.state.ingestResumable = true)
    (hincident : snapshot.incidentIntegration = none) :
    service.advanceStep caseId event snapshot = Service.decideIncident caseId event := by
  simp [Service.advanceStep, hstate, hincident]

theorem advanceStep_refused {integration : IntegrationResult}
    (hstate : snapshot.state.ingestResumable = true)
    (hincident : snapshot.incidentIntegration = some integration)
    (hready : service.ready integration = false) :
    service.advanceStep caseId event snapshot = refuse "DataHub incident creation" integration := by
  simp [Service.advanceStep, hstate, hincident, hready]

variable (caseId event) in
theorem advanceStep_context (hstate : snapshot.state.ingestResumable = true)
    (hincident : ∃ integration, snapshot.incidentIntegration = some integration ∧
      service.ready integration = true) (hcontext : snapshot.context = none) :
    service.advanceStep caseId event snapshot = service.decideContext event := by
  obtain ⟨integration, hincident, hready⟩ := hincident
  simp [Service.advanceStep, hstate, hincident, hready, hcontext]

theorem advanceStep_incomplete (hstate : snapshot.state.ingestResumable = true)
    (hincident : ∃ integration, snapshot.incidentIntegration = some integration ∧
      service.ready integration = true) (hcontext : snapshot.context = some context)
    (hcomplete : context.complete = false) :
    service.advanceStep caseId event snapshot = Decision.contain := by
  obtain ⟨integration, hincident, hready⟩ := hincident
  simp [Service.advanceStep, hstate, hincident, hready, hcontext, Service.decideContextual, hcomplete]

variable (caseId event) in
theorem Contextual.step (h : Contextual service snapshot context) :
    service.advanceStep caseId event snapshot =
      match snapshot.candidateGeneration, snapshot.candidateProposals with
      | some integration, _ :: _ =>
        if !service.ready integration then refuse "OpenAI candidate generation" integration
        else service.decideValidated caseId event snapshot context
      | _, _ => service.decideProposals event context := by
  obtain ⟨integration, hincident, hready⟩ := h.incident
  have hcontextual : service.advanceStep caseId event snapshot =
      service.decideContextual caseId event snapshot context := by
    simp [Service.advanceStep, h.resumable, hincident, hready, h.present]
  rw [hcontextual, Service.decideContextual]
  exact if_neg (by simp [h.complete])

variable (caseId event) in
theorem Contextual.validated (h : Contextual service snapshot context)
    (hgeneration : ∃ integration, snapshot.candidateGeneration = some integration ∧
      service.ready integration = true) (hnonempty : snapshot.candidateProposals ≠ []) :
    service.advanceStep caseId event snapshot =
      service.decideValidated caseId event snapshot context := by
  obtain ⟨integration, hgeneration, hready⟩ := hgeneration
  obtain ⟨first, rest, hproposals⟩ := List.exists_cons_of_ne_nil hnonempty
  rw [h.step, hgeneration, hproposals]
  simp [hready]

variable (caseId event) in
theorem Proposed.step (h : Proposed service snapshot context)
    (hstate : snapshot.state ≠ .candidatesReady) :
    service.advanceStep caseId event snapshot =
      match snapshot.nextUnassessed with
      | some proposal => service.decideAssessment caseId context proposal
      | none => service.decideRepair caseId event snapshot := by
  rw [h.toContextual.validated caseId event h.generation h.nonempty, Service.decideValidated]
  exact (if_neg (not_not_intro h.nodup)).trans (if_neg hstate)

variable (caseId event) in
theorem Assessed.step (h : Assessed service snapshot context) :
    service.advanceStep caseId event snapshot =
      match snapshot.selectedCandidate, snapshot.patch with
      | some selected, some patch =>
        match snapshot.evidenceWriteback with
        | none => Service.decideWriteback caseId event selected patch
        | some integration =>
          if !service.ready integration then
            refuse "DataHub patch evidence write-back" integration
          else Service.decidePullRequest caseId snapshot patch
      | _, _ => service.decidePatch snapshot.candidateProposals snapshot.eligible := by
  rw [h.toProposed.step caseId event h.validating, h.assessed]
  exact if_neg h.eligible

theorem Repaired.step (h : Repaired service snapshot context patch) :
    service.advanceStep caseId event snapshot =
      Service.decidePullRequest caseId snapshot patch := by
  obtain ⟨selected, hselected⟩ := Option.ne_none_iff_exists'.1 h.selected
  obtain ⟨integration, hwriteback, hready⟩ := h.writeback
  rw [h.toAssessed.step, hselected, h.patch]
  simp [hwriteback, hready]

theorem outcome_answered {answers : (op : AdapterOp) → Except Exn op.Reply → Prop} {op : AdapterOp}
    {next : op.Reply → Decision} {reply : op.Reply} {result : Except Exn (Option Emission)}
    (hanswer : answers op (.ok reply)) (h : (next reply).Outcome answers result) :
    (ask op >>= next).Outcome answers result := ⟨.ok reply, hanswer, h⟩

/-- A draft that was not opened is attempted again from the snapshot it led to. -/
theorem Repaired.attempted {answers : (op : AdapterOp) → Except Exn op.Reply → Prop}
    {pullRequest : PullRequestArtifact} (h : Repaired service snapshot context patch)
    (hnone : snapshot.pullRequest.filter (·.integration.status = .succeeded) = none)
    (hstatus : pullRequest.integration.status ≠ .succeeded)
    (hanswer : answers (.createDraft caseId patch) (.ok pullRequest)) :
    (service.advanceStep caseId event snapshot).Outcome answers
      (.ok (some (.append (.prAttempted pullRequest) .patchReady))) := by
  rw [h.step]
  simp only [Service.decidePullRequest, hnone, Service.decideDraft]
  refine outcome_answered hanswer ?_
  rw [if_neg hstatus]
  rfl

theorem Repaired.opened {answers : (op : AdapterOp) → Except Exn op.Reply → Prop}
    {pullRequest : PullRequestArtifact} (h : Repaired service snapshot context patch)
    (hnone : snapshot.pullRequest.filter (·.integration.status = .succeeded) = none)
    (hstatus : pullRequest.integration.status = .succeeded)
    (hanswer : answers (.createDraft caseId patch) (.ok pullRequest)) :
    (service.advanceStep caseId event snapshot).Outcome answers
      (.ok (some (.append (.prOpened pullRequest) .prOpen))) := by
  rw [h.step]
  simp only [Service.decidePullRequest, hnone, Service.decideDraft]
  refine outcome_answered hanswer ?_
  rw [if_pos hstatus]
  rfl

theorem Repaired.reopened {answers : (op : AdapterOp) → Except Exn op.Reply → Prop}
    {pullRequest : PullRequestArtifact} (h : Repaired service snapshot context patch)
    (hopen : snapshot.pullRequest.filter (·.integration.status = .succeeded) = some pullRequest)
    (hstate : snapshot.state = .patchReady) :
    (service.advanceStep caseId event snapshot).Outcome answers
      (.ok (some (.append (.prOpened pullRequest) .prOpen))) := by
  rw [h.step]
  simp only [Service.decidePullRequest, hopen, hstate, ↓reduceIte]
  rfl

end

/-! ### The stages reach those points -/

/-- A draft was attempted, and the machine would attempt it again. -/
def Stalled (service : Service) (history : List Effect) (caseId : String)
    (event : SchemaChangeEvent) (snapshot : CaseSnapshot) : Prop :=
  ∃ (actor : Actor Call) (pullRequest : PullRequestArtifact), snapshot.state = .patchReady ∧
    snapshot.pullRequest = some pullRequest ∧
    (service.advanceStep caseId event snapshot).Outcome (Answered history actor)
      (.ok (some (.append (.prAttempted pullRequest) .patchReady)))

/-- Where an advance that returns leaves a case. -/
def Rested (service : Service) (history : List Effect) (caseId : String) (event : SchemaChangeEvent)
    (snapshot : CaseSnapshot) : Prop :=
  snapshot.state.ingestResumable = false ∨ Stalled service history caseId event snapshot

section

variable {service : Service} {environment : Environment} {actor : Actor Call}
  {world : World} {caseId : String} {event : SchemaChangeEvent} {snapshot : CaseSnapshot}
  {context : ContextBundle} {patch : PatchArtifact} {proposals : List CandidateProposal}

theorem contain_stage {reasons : List String} {assetUrn : String}
    (hdelivers : Delivers environment actor event) (hcase : Advancing service actor caseId snapshot world)
    (h : (service.advanceStep caseId event snapshot).Outcome (Answered world.history actor)
      (.ok (some .contain))) :
    Stage service environment actor caseId event (Service.contain caseId assetUrn reasons)
      (fun _ current _ => current.state = .contained) world := by
  unfold Service.contain
  refine (Stage.adapter hcase).bind fun writeback current after hcase hasked => ?_
  obtain ⟨rfl, -, hgrows⟩ := hasked
  have houtcome : (service.advanceStep caseId event snapshot).Outcome
      (Answered after.history actor) (.ok (some .contain)) := h.mono fun _ _ h => h.mono hgrows
  refine (Stage.append hcase (.advanced hdelivers houtcome (.contain _ writeback))).bind
    fun recorded final after hcase happended => ?_
  obtain ⟨-, hstate, rfl, -⟩ := happended
  exact Stage.pure hcase (by simp [hstate])

theorem connectedIntegrationReady_stage {integration : IntegrationResult} {label : String}
    (hdelivers : Delivers environment actor event) (hcase : Advancing service actor caseId snapshot world)
    (h : service.ready integration = false →
      (service.advanceStep caseId event snapshot).Outcome (Answered world.history actor)
        (.ok (some (.append (.failed none s!"{label} is required in connected mode"
          (some integration)) .failed)))) :
    Stage service environment actor caseId event
      (service.connectedIntegrationReady caseId integration label)
      (fun value current after =>
        (value = true ∧ service.ready integration = true ∧ snapshot = current ∧ world = after) ∨
          (value = false ∧ current.state = .failed)) world := by
  unfold Service.connectedIntegrationReady
  split_ifs with hready
  · exact Stage.pure hcase (.inl ⟨rfl, hready, rfl, rfl⟩)
  · have hready : service.ready integration = false := by simpa [Service.ready] using hready
    refine (Stage.append hcase (.advanced hdelivers (h hready) (.append _ _))).bind
      fun recorded current after hcase happended => ?_
    obtain ⟨-, hstate, rfl, -⟩ := happended
    exact Stage.pure hcase (.inr ⟨rfl, by simp [hstate]⟩)

theorem incidentStage_stage (hdelivers : Delivers environment actor event)
    (hcase : Advancing service actor caseId snapshot world)
    (hstate : snapshot.state.ingestResumable = true) :
    Stage service environment actor caseId event (Service.incidentStage caseId event snapshot)
      (fun integration current _ => current.state.ingestResumable = true ∧
        current.incidentIntegration = some integration) world := by
  unfold Service.incidentStage
  split
  next integration hincident => exact Stage.pure hcase ⟨hstate, hincident⟩
  next hincident =>
    refine (Stage.adapter hcase).bind fun integration current after hcase hasked => ?_
    obtain ⟨rfl, hanswer, -⟩ := hasked
    have houtcome : (service.advanceStep caseId event snapshot).Outcome
        (Answered after.history actor)
        (.ok (some (.append (.incidentRaised integration) .detected))) := by
      rw [advanceStep_incident hstate hincident]
      exact ⟨.ok integration, hanswer, rfl⟩
    refine (Stage.append hcase (.advanced hdelivers houtcome (.append _ _))).bind
      fun recorded final after hcase happended => ?_
    obtain ⟨hbody, hrecorded, rfl, -⟩ := happended
    exact Stage.pure hcase ⟨by simp [hrecorded, CaseState.ingestResumable],
      by simp [CaseSnapshot.apply, hbody, CaseSnapshot.applyBody]⟩

theorem context_stage {assetUrn : String} (hcase : Advancing service actor caseId snapshot world) :
    Stage service environment actor caseId event (service.context assetUrn)
      (fun context current after => snapshot = current ∧ ∃ result,
        context = service.contextBundle assetUrn result ∧
          Answered after.history actor (.fetchContext assetUrn) (.ok result)) world := by
  unfold Service.context
  refine (Stage.adapter hcase).bind fun result current after hcase hasked => ?_
  obtain ⟨rfl, hanswer, -⟩ := hasked
  exact Stage.pure hcase ⟨rfl, result, rfl, hanswer⟩

theorem contextStage_stage (hdelivers : Delivers environment actor event)
    (hcase : Advancing service actor caseId snapshot world)
    (hstate : snapshot.state.ingestResumable = true)
    (hincident : ∃ integration, snapshot.incidentIntegration = some integration ∧
      service.ready integration = true) :
    Stage service environment actor caseId event (service.contextStage caseId event)
      (fun value current _ => match value with
        | none => current.state.ingestResumable = false
        | some context => Contextual service current context) world := by
  unfold Service.contextStage
  refine (Stage.getCase hcase).bind fun value current after hcase hread => ?_
  obtain ⟨rfl, rfl, rfl, -⟩ := hread
  split
  next hnone =>
    refine (context_stage hcase).bind fun context final after hcase hbundle => ?_
    obtain ⟨rfl, result, rfl, hanswer⟩ := hbundle
    have hstep := advanceStep_context caseId event hstate hincident hnone
    split_ifs with hcomplete
    · have houtcome : (service.advanceStep caseId event snapshot).Outcome
          (Answered after.history actor) (.ok (some .contain)) := by
        rw [hstep]
        refine ⟨.ok result, hanswer, ?_⟩
        dsimp only [Program.andThen]
        rw [if_pos hcomplete]
        rfl
      exact (contain_stage hdelivers hcase houtcome).bind fun _ current after hcase hcontained =>
        Stage.pure hcase (by simp [hcontained, CaseState.ingestResumable])
    · have houtcome : (service.advanceStep caseId event snapshot).Outcome
          (Answered after.history actor) (.ok (some (.append
            (.contextGathered (service.contextBundle event.entityUrn result)) .contextGathered))) := by
        rw [hstep]
        refine ⟨.ok result, hanswer, ?_⟩
        dsimp only [Program.andThen]
        rw [if_neg hcomplete]
        rfl
      refine (Stage.append hcase (.advanced hdelivers houtcome (.append _ _))).bind
        fun recorded current after hcase happended => Stage.pure hcase ?_
      obtain ⟨hbody, hrecorded, rfl, -⟩ := happended
      exact ⟨by simp [hrecorded, CaseState.ingestResumable],
        by simpa [CaseSnapshot.apply, hbody, CaseSnapshot.applyBody] using hincident,
        by simp [CaseSnapshot.apply, hbody, CaseSnapshot.applyBody], by simpa using hcomplete⟩
  next context hcontext =>
    split_ifs with hcomplete
    · refine (contain_stage hdelivers hcase ?_).bind
        fun _ current after hcase hcontained => Stage.pure hcase ?_
      · rw [advanceStep_incomplete hstate hincident hcontext (by simpa using hcomplete)]
        rfl
      · simp [hcontained, CaseState.ingestResumable]
    · exact Stage.pure hcase ⟨hstate, hincident, hcontext, by simpa using hcomplete⟩

end

end DataRescue
