import DataRescue.Workflow.RepairGate

/-!
# Containment

Why a case is contained. The checkpoint machine contains a case for an incomplete context, for want of
a proposal, or because every proposal was assessed and none is repairable (`Contains`); a verification
contains a deployment it does not accept. The call that writes the containment has got these answers
itself, for an event of the case, and no case that holds a patch is contained before it is deployed
(`containment_gate`).
-/

namespace DataRescue

open Python Concurrency

/-- Why the checkpoint machine contains a case. -/
inductive Contains (service : Service) (event : SchemaChangeEvent)
    (answers : (op : AdapterOp) → Except Exn op.Reply → Prop) (snapshot : CaseSnapshot) : Prop
  | incomplete (result : McpContextResult) (hcontext : snapshot.context = none)
      (hincident : snapshot.incidentIntegration ≠ none)
      (hincomplete : (service.contextBundle event.entityUrn result).complete = false)
      (hanswer : answers (.fetchContext event.entityUrn) (.ok result))
  | stale (context : ContextBundle) (hincident : snapshot.incidentIntegration ≠ none)
      (hcontext : snapshot.context = some context) (hincomplete : context.complete = false)
  | noProposal (context : ContextBundle) (generated : CandidateGenerationResult)
      (hcontext : Contextual service snapshot context)
      (hmissing : snapshot.candidateGeneration = none ∨ snapshot.candidateProposals = [])
      (hready : service.ready generated.integration = true) (hempty : generated.candidates = [])
      (hanswer : answers (.propose event context) (.ok generated))
  | noneRepairable (context : ContextBundle) (hproposed : Proposed service snapshot context)
      (hstate : snapshot.state ≠ .candidatesReady) (hassessed : snapshot.nextUnassessed = none)
      (heligible : snapshot.eligible = [])

section

variable {service : Service} {environment : Environment} {history : List Effect} {caseId : String}
  {event : SchemaChangeEvent} {answers : (op : AdapterOp) → Except Exn op.Reply → Prop}
  {actor : Actor Call} {snapshot : CaseSnapshot} {context : ContextBundle} {patch : PatchArtifact}
  {body : EventBody} {state : CaseState} {p : Prop}

/-! ### What the machine contains -/

theorem outcome_emit_contain {body : EventBody} {state : CaseState}
    (h : (Decision.emit body state).Outcome answers (.ok (some .contain))) : p := by
  cases outcome_emit h

theorem decidePatch_contain {proposals : List CandidateProposal}
    {eligible : List CandidateAssessment}
    (h : (service.decidePatch proposals eligible).Outcome answers (.ok (some .contain))) : p := by
  unfold Service.decidePatch at h
  split at h
  · exact outcome_throw h
  · dsimp only at h
    split at h
    · exact outcome_throw h
    · obtain ⟨existingSql, -, h⟩ := outcome_ask h
      split at h
      · exact outcome_throw h
      · exact outcome_emit_contain h

theorem decidePullRequest_contain
    (h : (Service.decidePullRequest caseId snapshot patch).Outcome answers (.ok (some .contain))) :
    p := by
  unfold Service.decidePullRequest at h
  split at h
  · split_ifs at h
    · exact outcome_emit_contain h
    · exact outcome_halt h
  · obtain ⟨pullRequest, -, h⟩ := outcome_ask h
    split_ifs at h
    · exact outcome_emit_contain h
    · exact outcome_emit_contain h

theorem decideRepair_contain
    (h : (service.decideRepair caseId event snapshot).Outcome answers (.ok (some .contain))) :
    snapshot.eligible = [] := by
  unfold Service.decideRepair at h
  split_ifs at h with heligible
  · exact heligible
  · split at h
    · split at h
      · obtain ⟨integration, -, h⟩ := outcome_ask h
        exact outcome_emit_contain h
      · split_ifs at h
        · exact outcome_emit_contain h
        · exact decidePullRequest_contain h
    · exact decidePatch_contain h

theorem decideAssessment_contain {proposal : CandidateProposal}
    (h : (service.decideAssessment caseId context proposal).Outcome answers (.ok (some .contain))) :
    p := by
  obtain ⟨answer, -, h⟩ := h
  cases answer with
  | ok execution => exact outcome_emit_contain h
  | error error =>
    dsimp only [Program.andThen] at h
    split_ifs at h
    · exact outcome_emit_contain h
    · cases h

theorem decideValidated_contain (hcontextual : Contextual service snapshot context)
    (hgeneration : ∃ integration, snapshot.candidateGeneration = some integration ∧
      service.ready integration = true) (hnonempty : snapshot.candidateProposals ≠ [])
    (h : (service.decideValidated caseId event snapshot context).Outcome answers
      (.ok (some .contain))) : Contains service event answers snapshot := by
  unfold Service.decideValidated at h
  split_ifs at h with hnodup hstate
  · exact outcome_emit_contain h
  · split at h
    next => exact decideAssessment_contain h
    next hassessed =>
      exact .noneRepairable context ⟨hcontextual, hgeneration, hnonempty, hnodup⟩ hstate hassessed
        (decideRepair_contain h)
  · exact outcome_throw h

theorem decideProposals_contain (hcontextual : Contextual service snapshot context)
    (hmissing : snapshot.candidateGeneration = none ∨ snapshot.candidateProposals = [])
    (h : (service.decideProposals event context).Outcome answers (.ok (some .contain))) :
    Contains service event answers snapshot := by
  obtain ⟨generated, hanswer, h⟩ := outcome_ask h
  split_ifs at h with hready hempty
  · exact outcome_emit_contain h
  · exact .noProposal context generated hcontextual hmissing (by simpa using hready) hempty hanswer
  · exact outcome_emit_contain h

/-- The machine contains a case for one of these reasons only. -/
theorem advanceStep_contain
    (h : (service.advanceStep caseId event snapshot).Outcome answers (.ok (some .contain))) :
    snapshot.state.ingestResumable = true ∧ Contains service event answers snapshot := by
  unfold Service.advanceStep at h
  split_ifs at h with hstate
  · exact outcome_halt h
  have hresumable : snapshot.state.ingestResumable = true := by simpa using hstate
  refine ⟨hresumable, ?_⟩
  split at h
  next =>
    obtain ⟨integration, -, h⟩ := outcome_ask h
    exact outcome_emit_contain h
  next incident hincident =>
    have hsome : snapshot.incidentIntegration ≠ none := by
      rw [hincident]
      exact Option.some_ne_none incident
    split_ifs at h with hready
    · exact outcome_emit_contain h
    split at h
    next hnone =>
      obtain ⟨result, hanswer, h⟩ := outcome_ask h
      dsimp only at h
      split_ifs at h with hcomplete
      · exact .incomplete result hnone hsome (by simpa using hcomplete) hanswer
      · exact outcome_emit_contain h
    next context hcontext =>
      unfold Service.decideContextual at h
      split_ifs at h with hcomplete
      · exact .stale context hsome hcontext (by simpa using hcomplete)
      have hcontextual : Contextual service snapshot context :=
        ⟨hresumable, ⟨incident, hincident, by simpa using hready⟩, hcontext, by simpa using hcomplete⟩
      split at h
      next integration first rest hgeneration hproposals =>
        split_ifs at h with hready'
        · exact outcome_emit_contain h
        · refine decideValidated_contain hcontextual ⟨integration, hgeneration, ?_⟩ ?_ h
          · simpa using hready'
          · simp [hproposals]
      next hnone =>
        refine decideProposals_contain hcontextual ?_ h
        cases hgeneration : snapshot.candidateGeneration with
        | none => exact .inl rfl
        | some integration =>
          cases hproposals : snapshot.candidateProposals with
          | nil => exact .inr rfl
          | cons first rest => exact (hnone integration first rest hgeneration hproposals).elim

/-! ### The cases that are contained -/

theorem Steps.resumable {emission : Emission} (h : Steps service caseId event answers snapshot emission) :
    snapshot.state.ingestResumable = true := by
  cases h with
  | incident _ hstate => exact hstate
  | refused _ _ hstate => exact hstate
  | contained hstate => exact hstate
  | context _ hstate => exact hstate
  | proposals _ _ hcontext => exact hcontext.resumable
  | validation _ hproposed => exact hproposed.resumable
  | assessment _ _ _ hproposed => exact hproposed.resumable
  | patch _ _ _ _ _ hassessed => exact hassessed.resumable
  | writeback _ _ _ _ hassessed => exact hassessed.resumable
  | opened _ _ _ hrepaired => exact hrepaired.resumable
  | attempted _ _ _ hrepaired => exact hrepaired.resumable

theorem Allowed.isOpen (h : Allowed service environment history actor caseId snapshot body state) :
    ¬snapshot.state.closed := by
  have hnot : ∀ {state : CaseState}, snapshot.state = state → ¬state.closed →
      ¬snapshot.state.closed := by
    intro state hstate hopen
    rwa [hstate]
  cases h with
  | advanced _ houtcome _ => exact resumable_open (advanceStep_inv houtcome).resumable
  | aborted _ hopen _ => exact hopen
  | deployed hstate => exact hnot hstate (by decide)
  | refused _ _ hstate => exact hnot hstate (by decide)
  | verified hstate => exact hnot hstate (by decide)
  | unresolved _ _ hstate => exact hnot hstate (by decide)
  | resolved hstate => exact hnot hstate (by decide)

theorem Chain.context_complete {log : List CaseEvent}
    (h : Chain service environment history caseId log snapshot) {context : ContextBundle}
    (hcontext : snapshot.context = some context) : context.complete = true := by
  induction h generalizing context with
  | detected hbody =>
    simp [CaseSnapshot.apply, hbody, detectionPayload, CaseSnapshot.applyBody,
      CaseSnapshot.start] at hcontext
  | @step log earlier recorded state _ _ _ hwritten ih =>
    obtain ⟨_, hallowed⟩ := hwritten.allowed
    have hkept : recorded.body.eventType ≠ .contextGathered →
        (earlier.apply recorded).context = earlier.context := by
      intro htype
      rw [CaseSnapshot.apply]
      cases hbody : recorded.body <;> first | rfl | exact absurd (by rw [hbody]; rfl) htype
    generalize hbody : recorded.body = body at hallowed hkept
    cases hallowed with
    | advanced _ houtcome hrecords =>
      have hsteps := advanceStep_inv houtcome
      by_cases hgathered : body.eventType = .contextGathered
      · cases hsteps with
        | context result hstate hincident hnone hcomplete =>
          cases hrecords
          simp only [CaseSnapshot.apply, hbody, CaseSnapshot.applyBody] at hcontext
          rwa [← Option.some.inj hcontext]
        | _ => cases hrecords; cases hgathered
      · rw [hkept hgathered] at hcontext
        exact ih hcontext
    | _ =>
      rw [hkept (by simp [EventBody.eventType])] at hcontext
      exact ih hcontext

theorem Backed.eligible {selected : CandidateAssessment} (h : Backed service history snapshot)
    (hselected : snapshot.selectedCandidate = some selected) (hpatch : snapshot.patch = some patch) :
    snapshot.eligible ≠ [] := by
  have hselection := h.selection selected patch hselected hpatch
  obtain ⟨_, proposal, _, hproposal, hid, -⟩ := hselection.patched
  obtain ⟨_, -, -, heq⟩ := hselection.assessed
  have hfound : assessmentById snapshot.candidates proposal.id = some selected := by
    rw [hid]
    exact assessmentById_of_mem h.nodup hselection.listed
  refine List.ne_nil_of_mem (a := selected) (List.mem_filter.2 ⟨?_, ?_⟩)
  · exact List.mem_filterMap.2 ⟨proposal, hproposal, hfound⟩
  · rw [heq]
    rfl

/-- What the call that contains a case had learned: the answers are its own, to questions about the
event it delivers, whose dedup key is the case's own. -/
inductive ContainmentGate (service : Service) (past : List Effect) (actor : Actor Call)
    (caseId : String) (snapshot : CaseSnapshot) : Prop
  | incomplete (event : SchemaChangeEvent) (result : McpContextResult)
      (hcommand : actor.call.command = .ingest event)
      (hkey : schemaEventDedupKey service.sha256 event =
        schemaEventDedupKey service.sha256 snapshot.schemaChange)
      (hstate : snapshot.state = .detected) (hpatch : snapshot.patch = none)
      (hanswer : Answered past actor (.fetchContext event.entityUrn) (.ok result))
      (hincomplete : (service.contextBundle event.entityUrn result).complete = false)
  | noProposal (event : SchemaChangeEvent) (context : ContextBundle)
      (generated : CandidateGenerationResult) (hcommand : actor.call.command = .ingest event)
      (hkey : schemaEventDedupKey service.sha256 event =
        schemaEventDedupKey service.sha256 snapshot.schemaChange)
      (hstate : snapshot.state = .contextGathered) (hpatch : snapshot.patch = none)
      (hcontext : snapshot.context = some context)
      (hanswer : Answered past actor (.propose event context) (.ok generated))
      (hempty : generated.candidates = [])
  | noneRepairable (event : SchemaChangeEvent) (hcommand : actor.call.command = .ingest event)
      (hkey : schemaEventDedupKey service.sha256 event =
        schemaEventDedupKey service.sha256 snapshot.schemaChange)
      (hstate : snapshot.state = .validating) (hpatch : snapshot.patch = none)
      (hassessed : ∀ proposal ∈ snapshot.candidateProposals, ∃ assessment ∈ snapshot.candidates,
        assessment.id = proposal.id)
      (hrejected : ∀ assessment ∈ snapshot.candidates, assessment.outcome = .rejected)
  | refused (scope : Nat) (evidence : DeploymentEvidence) (calls : List (Exchange Op Op.Reply Exn))
      (hstate : snapshot.state = .deployed)
      (hevidence : Evidenced service caseId snapshot actor evidence calls)
      (hmade : Made past actor scope calls)
      (hcommit : snapshot.deploymentCommit = some evidence.verifiedCommit)
      (hrejected : (evidence.decision service).accepted = false)

theorem Backed.rejected (h : Backed service history snapshot) (hselected : snapshot.patch = none)
    (heligible : snapshot.eligible = []) :
    ∀ assessment ∈ snapshot.candidates, assessment.outcome = .rejected := by
  intro assessment hmem
  have hassessment := (h.origin assessment hmem).resolve_right fun hsome => by
    rw [h.unselected hselected] at hsome
    cases hsome
  obtain ⟨proposal, hproposal, hid⟩ := hassessment.id
  have hfound := assessmentById_of_mem h.nodup hmem
  rw [← hid] at hfound
  rw [CaseSnapshot.eligible, List.filter_eq_nil_iff] at heligible
  have hnot := heligible assessment (List.mem_filterMap.2 ⟨proposal, hproposal, hfound⟩)
  cases houtcome : assessment.outcome with
  | rejected => rfl
  | eligible => exact absurd (by rw [houtcome]; rfl) hnot
  | selected => exact absurd (by rw [houtcome]; rfl) hnot

section

variable {log : List CaseEvent} (hresumable : snapshot.state.ingestResumable = true)
  (hchain : Chain service environment history caseId log snapshot)

include hresumable hchain

theorem detected_of_no_context (hcontext : snapshot.context = none) : snapshot.state = .detected := by
  have hconsistent := hchain.consistent
  cases hstate : snapshot.state <;> simp_all [Consistent, CaseState.ingestResumable]

theorem contextGathered_of_no_proposal (hcontext : snapshot.context ≠ none)
    (hmissing : snapshot.candidateGeneration = none ∨ snapshot.candidateProposals = []) :
    snapshot.state = .contextGathered := by
  have hconsistent := hchain.consistent
  rcases hmissing with hmissing | hmissing <;>
    cases hstate : snapshot.state <;> simp_all [Consistent, CaseState.ingestResumable]

theorem validating_of_none_eligible (hproposals : snapshot.candidateProposals ≠ [])
    (hcandidates : snapshot.state ≠ .candidatesReady) (heligible : snapshot.eligible = []) :
    snapshot.state = .validating := by
  have hconsistent := hchain.consistent
  have hpatched : snapshot.state ≠ .patchReady := by
    intro hstate
    simp only [Consistent, hstate] at hconsistent
    obtain ⟨selected, hselected⟩ := Option.ne_none_iff_exists'.1 hconsistent.2.2.2.2.2.1
    obtain ⟨patch, hpatch⟩ := Option.ne_none_iff_exists'.1 hconsistent.2.2.2.2.2.2
    exact hchain.backed.eligible hselected hpatch heligible
  cases hstate : snapshot.state <;> simp_all [Consistent, CaseState.ingestResumable]

theorem Contains.gate {past : List Effect} (hcommand : actor.call.command = .ingest event)
    (hconcerns : Concerns service actor snapshot)
    (h : Contains service event (Answered past actor) snapshot) :
    ContainmentGate service past actor caseId snapshot := by
  have hkey := hconcerns event hcommand
  have hconsistent := hchain.consistent
  cases h with
  | incomplete result hcontext hincident hincomplete hanswer =>
    have hstate := detected_of_no_context hresumable hchain hcontext
    simp only [Consistent, hstate] at hconsistent
    exact .incomplete event result hcommand hkey hstate hconsistent.2.2 hanswer hincomplete
  | stale context hincident hcontext hincomplete =>
    rw [hchain.context_complete hcontext] at hincomplete
    cases hincomplete
  | noProposal context generated hcontext hmissing hready hempty hanswer =>
    have hpresent : snapshot.context ≠ none := by
      rw [hcontext.present]
      exact Option.some_ne_none context
    have hstate := contextGathered_of_no_proposal hresumable hchain hpresent hmissing
    simp only [Consistent, hstate] at hconsistent
    exact .noProposal event context generated hcommand hkey hstate hconsistent.2.2.2
      hcontext.present hanswer hempty
  | noneRepairable context hproposed hcandidates hassessed heligible =>
    have hstate := validating_of_none_eligible hresumable hchain hproposed.nonempty hcandidates
      heligible
    simp only [Consistent, hstate] at hconsistent
    refine .noneRepairable event hcommand hkey hstate hconsistent.2.2.2.2 (fun proposal hproposal => ?_)
      (hchain.backed.rejected hconsistent.2.2.2.2 heligible)
    rw [CaseSnapshot.nextUnassessed, List.find?_eq_none] at hassessed
    have hsome := hassessed proposal hproposal
    rw [Bool.not_eq_true, ← Option.not_isSome, Bool.not_eq_false'] at hsome
    exact assessmentById_isSome.1 hsome

end

theorem Allowed.contained {log : List CaseEvent} {past : List Effect} {reasons : List String}
    {writeback : IntegrationResult} {code : Nat}
    (h : Allowed service environment past actor caseId snapshot (.contained reasons writeback code)
      state) (hconcerns : Concerns service actor snapshot)
    (hchain : Chain service environment history caseId log snapshot) :
    state = .contained ∧ ContainmentGate service past actor caseId snapshot := by
  cases h with
  | @advanced _ emission _ _ hdelivers houtcome hrecords =>
    cases emission with
    | contain =>
      obtain ⟨hresumable, hcontains⟩ := advanceStep_contain houtcome
      exact ⟨hrecords.state_eq,
        hcontains.gate hresumable hchain hdelivers.command hconcerns⟩
    | append body state =>
      have hsteps := advanceStep_inv houtcome
      cases hrecords
      cases hsteps
  | refused _ _ hstate hevidence hmade hcommit hrejected =>
    exact ⟨rfl, .refused _ _ _ hstate hevidence hmade hcommit hrejected⟩

theorem contained_body {recorded : CaseEvent} (h : recorded.eventType = .contained) :
    ∃ reasons writeback code, recorded.body = .contained reasons writeback code := by
  rw [CaseEvent.eventType] at h
  cases hbody : recorded.body <;> rw [hbody] at h <;> first | exact ⟨_, _, _, rfl⟩ | cases h

theorem Chain.closed_last {log before after : List CaseEvent} {last : CaseEvent}
    (h : Chain service environment history caseId log snapshot)
    (hlog : log = before ++ last :: after) (hclosed : ∀ state, last.state = some state → state.closed) :
    after = [] := by
  rcases after with _ | ⟨next, rest⟩
  · rfl
  · have hsplit : log = (before ++ [last]) ++ next :: rest := by
      rw [hlog, List.append_assoc, List.singleton_append]
    obtain ⟨earlier, state, hearlier, -, hwritten⟩ := h.split hsplit (by simp)
    obtain ⟨_, hallowed⟩ := hwritten.allowed
    refine absurd ?_ hallowed.isOpen
    have hlast := hearlier.lastState
    rw [List.filterMap_append, List.filterMap_cons, List.filterMap_nil] at hlast
    cases hstate : last.state with
    | none =>
      rcases List.eq_nil_or_concat before with rfl | ⟨initial, final, rfl⟩
      · rw [hstate] at hlast
        cases hlast
      · have hwhole : initial.concat final ++ [last] = initial.concat final ++ last :: [] := rfl
        obtain ⟨before', state', -, hsome, -⟩ := hearlier.split hwhole (by simp)
        rw [hstate] at hsome
        cases hsome
    | some final =>
      rw [hstate, List.getLast?_concat] at hlast
      rw [← Option.some.inj hlast]
      exact hclosed final hstate

/-- The containment gate. In every run, the call that wrote the containment of a visible case knew a
reason for it, and nothing follows in the log. -/
theorem containment_gate {pool : ServicePool} (hsingle : environment.Single)
    (hreach : service.Reachable environment pool) :
    ∀ caseId before contained after, pool.shared.store.log caseId = before ++ contained :: after →
      contained.eventType = .contained →
      after = [] ∧ ∃ snapshot actor past scope rest, projectCase before = some snapshot ∧
        pool.shared.history = past ++
          ⟨actor, scope, .store (.append caseId .contained contained.body none none),
            .ok contained⟩ :: rest ∧
        ContainmentGate service past actor caseId snapshot := by
  intro caseId before contained after hlog htype
  obtain ⟨snapshot, hchain⟩ := (hreach.ledger hsingle).cases caseId (by simp [hlog])
  have hne : before ≠ [] := hchain.not_first hlog (by simp [htype])
  obtain ⟨earlier, state, hearlier, hstate, past, actor, scope, rest, hhistory, hconcerns, hallowed⟩ :=
    hchain.split hlog hne
  obtain ⟨reasons, writeback, code, hbody⟩ := contained_body htype
  obtain ⟨rfl, hgate⟩ := (hbody ▸ hallowed).contained hconcerns hearlier
  refine ⟨hchain.closed_last hlog (fun final hfinal => ?_), earlier, actor, past, scope, rest,
    hearlier.project, hhistory, hgate⟩
  rw [hstate] at hfinal
  obtain rfl := Option.some.inj hfinal
  exact .inr (.inl rfl)

/-- Adapters that work, but whose evidence contradicts the only proposal. -/
def contradictingAnswers : AdapterAnswers
  | .execute .. => .ok
      { semanticVerdict := .conflict
        evidenceRefs := []
        reconciliation :=
          { totalVariancePct := .finite 0
            rowCountVariancePct := .finite 0
            primaryKeyOverlapPct := .finite 100
            nullRateDeltaPercentagePoints := .finite 0 }
        build := { passed := true } }
  | op => workingAnswers op

theorem contradicted_contains : (connectedService.session
    [⟨.ingest canonicalDrift, contradictingAnswers⟩] 0 {}).any (fun outcome =>
      (outcome.2.store.log "DR-01234567").map CaseEvent.eventType =
        [.schemaChangeDetected, .incidentRaised, .contextGathered, .candidatesReady,
          .validationStarted, .candidateAssessed, .contained]) = true := by
  decide +kernel

/-- A drift whose only proposal is contradicted is contained through the gate. -/
theorem containment_gate_contradicted : ∃ pool, connectedService.Reachable {} pool ∧
    ∃ before contained, pool.shared.store.log "DR-01234567" = before ++ [contained] ∧
      contained.eventType = .contained ∧
      ∃ snapshot actor past scope rest, projectCase before = some snapshot ∧
        pool.shared.history = past ++
          ⟨actor, scope, .store (.append "DR-01234567" .contained contained.body none none),
            .ok contained⟩ :: rest ∧
        ContainmentGate connectedService past actor "DR-01234567" snapshot := by
  obtain ⟨pool, hreach, -, htypes⟩ :=
    Service.session_reaches permits_default contradicted_contains
  have hsplit := of_decide_eq_true htypes
  rw [show ([.schemaChangeDetected, .incidentRaised, .contextGathered, .candidatesReady,
      .validationStarted, .candidateAssessed, .contained] : List EventType) =
    [.schemaChangeDetected, .incidentRaised, .contextGathered, .candidatesReady,
      .validationStarted, .candidateAssessed] ++ [.contained] from rfl,
    List.map_eq_append_iff] at hsplit
  obtain ⟨before, rest, hlog, -, hrest⟩ := hsplit
  obtain ⟨contained, rfl, htype⟩ := List.map_eq_singleton_iff.1 hrest
  exact ⟨pool, hreach, before, contained, hlog, htype,
    (containment_gate (fun _ h => h) hreach "DR-01234567" before contained [] hlog htype).2⟩

end

end DataRescue
