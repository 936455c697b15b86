import DataRescue.Workflow.Completion
import DataRescue.Workflow.Containment

/-!
# The script of a case

`Milestone` is the protocol of a case log: which event may follow which, in what order the proposals are
assessed, and that a deployment is verified for the commit it was recorded with. `Milestone.next` decides
it event by event. Every visible log of every run follows the script (`log_scripted`), however calls
interleave, fail and resume.
-/

namespace DataRescue

open Python Concurrency

/-- How far a case has come. `validating` lists the ids that are still to be assessed. -/
inductive Milestone where
  | detected | raised | contextual
  | proposed (ids : List String)
  | validating (ids : List String)
  | patched | written | opened
  | deployed (commit : String)
  | verified | closed
  deriving DecidableEq

namespace Milestone

/-- The milestone after an event, if the script allows the event. -/
def next : Milestone → EventBody → Option Milestone
  | .closed, _ => none
  | _, .failed .. => some .closed
  | .detected, .incidentRaised _ => some .raised
  | .raised, .contextGathered context => if context.complete then some .contextual else none
  | .contextual, .candidatesReady candidates _ =>
    if candidates = [] then none else some (.proposed (candidates.map CandidateProposal.id))
  | .proposed ids, .validationStarted count _ =>
    if count = ids.length ∧ ids.Nodup then some (.validating ids) else none
  | .validating (id :: ids), .candidateAssessed assessment =>
    if assessment.id = id then some (.validating ids) else none
  | .validating [], .patchReady .. => some .patched
  | .patched, .evidenceWritten _ => some .written
  | .written, .prAttempted _ => some .written
  | .written, .prOpened pullRequest =>
    if pullRequest.integration.status = .succeeded then some .opened else none
  | .opened, .deploymentRecorded commit _ => some (.deployed commit)
  | .deployed commit, .postDeployVerified commit' .. =>
    if commit' = commit then some .verified else none
  | .verified, .incidentResolved _ => some .closed
  | .raised, .contained .. | .contextual, .contained .. | .validating [], .contained ..
  | .deployed _, .contained .. => some .closed
  | _, _ => none

/-- The milestone after some events. -/
def run : Milestone → List EventBody → Option Milestone
  | milestone, [] => some milestone
  | milestone, body :: bodies => (milestone.next body).bind fun milestone => milestone.run bodies

theorem run_snoc {milestone milestone' : Milestone} {bodies : List EventBody} {body : EventBody}
    (h : milestone.run bodies = some milestone') :
    milestone.run (bodies ++ [body]) = milestone'.next body := by
  induction bodies generalizing milestone with
  | nil =>
    obtain rfl := Option.some.inj h
    rw [List.nil_append, run]
    cases milestone.next body with
    | none => rfl
    | some after => rfl
  | cons first bodies ih =>
    obtain ⟨middle, hmiddle, hrest⟩ := Option.bind_eq_some_iff.1 h
    rw [List.cons_append, run, hmiddle, Option.bind_some]
    exact ih hrest

/-- What a case at a milestone holds. -/
def Holds : Milestone → CaseSnapshot → Prop
  | .detected, snapshot => snapshot.state = .detected ∧ snapshot.incidentIntegration = none ∧
    snapshot.evidenceWriteback = none
  | .raised, snapshot => snapshot.state = .detected ∧ snapshot.incidentIntegration ≠ none ∧
    snapshot.evidenceWriteback = none
  | .contextual, snapshot => snapshot.state = .contextGathered ∧ snapshot.evidenceWriteback = none
  | .proposed ids, snapshot => snapshot.state = .candidatesReady ∧ snapshot.candidates = [] ∧
    snapshot.candidateProposals.map CandidateProposal.id = ids ∧ snapshot.evidenceWriteback = none
  | .validating ids, snapshot => snapshot.state = .validating ∧
    snapshot.candidateProposals.map CandidateProposal.id =
      snapshot.candidates.map CandidateAssessment.id ++ ids ∧
    (snapshot.candidates.map CandidateAssessment.id ++ ids).Nodup ∧ snapshot.evidenceWriteback = none
  | .patched, snapshot => snapshot.state = .patchReady ∧ snapshot.evidenceWriteback = none
  | .written, snapshot => snapshot.state = .patchReady ∧ snapshot.evidenceWriteback ≠ none
  | .opened, snapshot => snapshot.state = .prOpen
  | .deployed commit, snapshot => snapshot.state = .deployed ∧ snapshot.deploymentCommit = some commit
  | .verified, snapshot => snapshot.state = .postDeployVerified
  | .closed, snapshot => snapshot.state.closed

end Milestone

section

variable {service : Service} {environment : Environment} {history : List Effect} {caseId : String}
  {event : SchemaChangeEvent} {answers : (op : AdapterOp) → Except Exn op.Reply → Prop}
  {snapshot : CaseSnapshot} {body : EventBody} {state : CaseState} {milestone : Milestone}
  {log : List CaseEvent} {recorded : CaseEvent} {ids : List String} {actor : Actor Call}

/-! ### The order of the assessments -/

theorem unassessed_split
    (hids : snapshot.candidateProposals.map CandidateProposal.id =
      snapshot.candidates.map CandidateAssessment.id ++ ids)
    (hnodup : (snapshot.candidates.map CandidateAssessment.id ++ ids).Nodup) :
    ∃ done rest, snapshot.candidateProposals = done ++ rest ∧ rest.map CandidateProposal.id = ids ∧
      (∀ proposal ∈ done, (assessmentById snapshot.candidates proposal.id).isSome = true) ∧
      ∀ proposal ∈ rest, assessmentById snapshot.candidates proposal.id = none := by
  obtain ⟨done, rest, hproposals, hdone, hrest⟩ := List.map_eq_append_iff.1 hids
  refine ⟨done, rest, hproposals, hrest, fun proposal hproposal => ?_, fun proposal hproposal => ?_⟩
  · have hmem : proposal.id ∈ snapshot.candidates.map CandidateAssessment.id := by
      rw [← hdone]
      exact List.mem_map_of_mem hproposal
    obtain ⟨assessment, hassessment, hid⟩ := List.mem_map.1 hmem
    exact assessmentById_isSome.2 ⟨assessment, hassessment, hid⟩
  · by_contra hsome
    obtain ⟨assessment, hassessment, hid⟩ :=
      assessmentById_isSome.1 (Option.isSome_iff_ne_none.2 hsome)
    rw [List.nodup_append] at hnodup
    refine hnodup.2.2 proposal.id ?_ proposal.id ?_ rfl
    · rw [← hid]
      exact List.mem_map_of_mem hassessment
    · rw [← hrest]
      exact List.mem_map_of_mem hproposal

theorem ids_of_nextUnassessed {proposal : CandidateProposal}
    (hids : snapshot.candidateProposals.map CandidateProposal.id =
      snapshot.candidates.map CandidateAssessment.id ++ ids)
    (hnodup : (snapshot.candidates.map CandidateAssessment.id ++ ids).Nodup)
    (hnext : snapshot.nextUnassessed = some proposal) : ∃ rest, ids = proposal.id :: rest := by
  obtain ⟨done, rest, hproposals, hrest, hdone, hnone⟩ := unassessed_split hids hnodup
  cases rest with
  | nil =>
    rw [List.append_nil] at hproposals
    rw [nextUnassessed_none (hproposals ▸ hdone)] at hnext
    cases hnext
  | cons first others =>
    rw [nextUnassessed_eq hproposals hdone (hnone first List.mem_cons_self)] at hnext
    rw [← hrest, ← Option.some.inj hnext]
    exact ⟨_, List.map_cons ..⟩

theorem ids_of_assessed
    (hids : snapshot.candidateProposals.map CandidateProposal.id =
      snapshot.candidates.map CandidateAssessment.id ++ ids)
    (hnodup : (snapshot.candidates.map CandidateAssessment.id ++ ids).Nodup)
    (hassessed : snapshot.nextUnassessed = none) : ids = [] := by
  obtain ⟨done, rest, hproposals, hrest, hdone, hnone⟩ := unassessed_split hids hnodup
  cases rest with
  | nil => exact hrest.symm
  | cons first others =>
    rw [nextUnassessed_eq hproposals hdone (hnone first List.mem_cons_self)] at hassessed
    cases hassessed

/-! ### One event -/

theorem Milestone.Holds.next_failed (hholds : milestone.Holds snapshot) (hopen : ¬snapshot.state.closed)
    {errorType : Option String} {message : String} {integration : Option IntegrationResult} :
    milestone.next (.failed errorType message integration) = some .closed := by
  cases milestone with
  | closed => exact absurd hholds hopen
  | validating ids => cases ids <;> rfl
  | _ => rfl

theorem Milestone.Holds.of_state (hholds : milestone.Holds snapshot) :
    match snapshot.state with
    | .detected => (milestone = .detected ∧ snapshot.incidentIntegration = none) ∨
        (milestone = .raised ∧ snapshot.incidentIntegration ≠ none)
    | .contextGathered => milestone = .contextual
    | .candidatesReady => milestone =
        .proposed (snapshot.candidateProposals.map CandidateProposal.id) ∧ snapshot.candidates = []
    | .validating => ∃ ids, milestone = .validating ids ∧
        snapshot.candidateProposals.map CandidateProposal.id =
          snapshot.candidates.map CandidateAssessment.id ++ ids ∧
        (snapshot.candidates.map CandidateAssessment.id ++ ids).Nodup
    | .patchReady => (milestone = .patched ∧ snapshot.evidenceWriteback = none) ∨
        (milestone = .written ∧ snapshot.evidenceWriteback ≠ none)
    | .prOpen => milestone = .opened
    | .deployed => ∃ commit, milestone = .deployed commit ∧ snapshot.deploymentCommit = some commit
    | .postDeployVerified => milestone = .verified
    | _ => milestone = .closed := by
  cases milestone <;> cases hstate : snapshot.state <;>
    simp_all [Milestone.Holds, CaseState.closed]

theorem Contains.next {reasons : List String} {writeback : IntegrationResult} {code : Nat}
    (h : Contains service event answers snapshot)
    (hresumable : snapshot.state.ingestResumable = true)
    (hchain : Chain service environment history caseId log snapshot)
    (hholds : milestone.Holds snapshot) :
    milestone.next (.contained reasons writeback code) = some .closed := by
  cases h with
  | incomplete result hcontext hincident hincomplete hanswer =>
    have hstate := detected_of_no_context hresumable hchain hcontext
    have hmilestone := hholds.of_state
    rw [hstate] at hmilestone
    rcases hmilestone with ⟨-, hnone⟩ | ⟨rfl, -⟩
    · exact absurd hnone hincident
    · rfl
  | stale context hincident hcontext hincomplete =>
    rw [hchain.context_complete hcontext] at hincomplete
    cases hincomplete
  | noProposal context generated hcontext hmissing hready hempty hanswer =>
    have hpresent : snapshot.context ≠ none := by
      rw [hcontext.present]
      exact Option.some_ne_none context
    have hstate := contextGathered_of_no_proposal hresumable hchain hpresent hmissing
    have hmilestone := hholds.of_state
    rw [hstate] at hmilestone
    rw [show milestone = .contextual from hmilestone]
    rfl
  | noneRepairable context hproposed hcandidates hassessed heligible =>
    have hstate := validating_of_none_eligible hresumable hchain hproposed.nonempty hcandidates
      heligible
    have hmilestone := hholds.of_state
    rw [hstate] at hmilestone
    obtain ⟨ids, rfl, hids, hnodup⟩ := hmilestone
    rw [ids_of_assessed hids hnodup hassessed]
    rfl

theorem Steps.next {emission : Emission}
    (h : Steps service caseId event answers snapshot emission)
    (hchain : Chain service environment history caseId log snapshot)
    (hholds : milestone.Holds snapshot) (hrecords : emission.Records body state)
    (hcontain : emission ≠ .contain) (hbody : recorded.body = body)
    (hstate : recorded.state = some state) :
    ∃ milestone', milestone.next body = some milestone' ∧
      milestone'.Holds (snapshot.apply recorded) := by
  have hconsistent := hchain.consistent
  have hbacked := hchain.backed
  have hsource := h.source hconsistent
  have hmilestone := hholds.of_state
  have happly : snapshot.apply recorded =
      { snapshot with
        state
        updatedAt := recorded.createdAt
        events := snapshot.events ++ [recorded] }.applyBody body := by
    rw [CaseSnapshot.apply, hbody, hstate]
    rfl
  rw [happly]
  cases h with
  | contained => exact absurd rfl hcontain
  | refused message integration hresumable hready =>
    cases hrecords
    exact ⟨.closed, hholds.next_failed (resumable_open hresumable), Or.inr (Or.inr rfl)⟩
  | incident integration hresumable hincident hanswer =>
    cases hrecords
    rw [show snapshot.state = .detected from hsource] at hmilestone
    obtain ⟨rfl, -⟩ := hmilestone.resolve_right fun h => h.2 hincident
    exact ⟨.raised, rfl, rfl, Option.some_ne_none integration, hholds.2.2⟩
  | context result hresumable hincident hcontext hcomplete hanswer =>
    obtain ⟨incident, hincident, -⟩ := hincident
    cases hrecords
    rw [show snapshot.state = .detected from hsource] at hmilestone
    obtain ⟨rfl, -⟩ := hmilestone.resolve_left fun h => by
      rw [hincident] at h
      cases h.2
    exact ⟨.contextual, if_pos hcomplete, rfl, hholds.2.2⟩
  | proposals context generated hcontext hmissing hready hnonempty hanswer =>
    cases hrecords
    rw [show snapshot.state = .contextGathered from hsource] at hmilestone
    obtain rfl := hmilestone
    simp only [Consistent, show snapshot.state = .contextGathered from hsource] at hconsistent
    exact ⟨_, if_neg hnonempty, rfl, hbacked.no_candidates hconsistent.2.2.1 hconsistent.2.2.2, rfl,
      hholds.2⟩
  | validation context hproposed hcandidates =>
    cases hrecords
    rw [hcandidates] at hmilestone
    obtain ⟨rfl, hnone⟩ := hmilestone
    refine ⟨.validating _, if_pos ⟨(List.length_map _).symm, hproposed.nodup⟩, rfl, ?_, ?_,
      hholds.2.2.2⟩
    · show _ = snapshot.candidates.map _ ++ _
      rw [hnone]
      rfl
    · show (snapshot.candidates.map _ ++ _).Nodup
      rw [hnone]
      exact hproposed.nodup
  | assessment context proposal execution hproposed hcandidates hnext hanswer =>
    cases hrecords
    rw [show snapshot.state = .validating from hsource] at hmilestone
    obtain ⟨ids, rfl, hids, hnodup⟩ := hmilestone
    obtain ⟨rest, rfl⟩ := ids_of_nextUnassessed hids hnodup hnext
    have happend : (snapshot.candidates ++ [(service.assess proposal context execution).1]).map
        CandidateAssessment.id ++ rest =
        snapshot.candidates.map CandidateAssessment.id ++ proposal.id :: rest := by
      rw [List.map_append, List.append_assoc]
      rfl
    refine ⟨.validating rest, if_pos rfl, rfl, ?_, ?_, hholds.2.2.2⟩
    · show _ = List.map _ (snapshot.candidates ++ [_]) ++ _
      rw [happend]
      exact hids
    · show (List.map _ (snapshot.candidates ++ [_]) ++ _).Nodup
      rw [happend]
      exact hnodup
  | patch context best proposal existingSql patch hassessed hmissing hbest hproposal hpatch hanswer =>
    cases hrecords
    rw [show snapshot.state = .validating from hsource] at hmilestone
    obtain ⟨ids, rfl, hids, hnodup⟩ := hmilestone
    have hnone := ids_of_assessed hids hnodup hassessed.assessed
    subst hnone
    exact ⟨.patched, rfl, rfl, hholds.2.2.2⟩
  | writeback context selected patch integration hassessed hselected hpatch hwriteback hanswer =>
    cases hrecords
    rw [show snapshot.state = .patchReady from hsource] at hmilestone
    obtain ⟨rfl, -⟩ := hmilestone.resolve_right fun h => h.2 hwriteback
    exact ⟨.written, rfl, rfl, Option.some_ne_none integration⟩
  | opened context patch pullRequest hrepaired hsucceeded hopen =>
    obtain ⟨integration, hwriteback, -⟩ := hrepaired.writeback
    cases hrecords
    rw [show snapshot.state = .patchReady from hsource] at hmilestone
    obtain ⟨rfl, -⟩ := hmilestone.resolve_left fun h => by
      rw [hwriteback] at h
      cases h.2
    exact ⟨.opened, if_pos hsucceeded, rfl⟩
  | attempted context patch pullRequest hrepaired hsucceeded hopen hanswer =>
    obtain ⟨integration, hwriteback, -⟩ := hrepaired.writeback
    cases hrecords
    rw [show snapshot.state = .patchReady from hsource] at hmilestone
    obtain ⟨rfl, -⟩ := hmilestone.resolve_left fun h => by
      rw [hwriteback] at h
      cases h.2
    exact ⟨.written, rfl, rfl, hholds.2⟩

theorem Allowed.next (h : Allowed service environment history actor caseId snapshot body state)
    (hchain : Chain service environment history caseId log snapshot)
    (hholds : milestone.Holds snapshot) (hbody : recorded.body = body)
    (hstate : recorded.state = some state) :
    ∃ milestone', milestone.next body = some milestone' ∧
      milestone'.Holds (snapshot.apply recorded) := by
  have hmilestone := hholds.of_state
  have happlied : (snapshot.apply recorded).state = state := by
    rw [CaseSnapshot.apply_state, hstate]
    rfl
  cases h with
  | @advanced _ emission _ _ _ houtcome hrecords =>
    by_cases hcontain : emission = .contain
    · subst hcontain
      obtain ⟨hresumable, hcontains⟩ := advanceStep_contain houtcome
      cases hrecords
      exact ⟨.closed, hcontains.next hresumable hchain hholds, Or.inr (Or.inl happlied)⟩
    · exact (advanceStep_inv houtcome).next hchain hholds hrecords hcontain hbody hstate
  | aborted _ hopen =>
    exact ⟨.closed, hholds.next_failed hopen, Or.inr (Or.inr happlied)⟩
  | deployed hprOpen hselected hevidence hmade =>
    rw [hprOpen] at hmilestone
    obtain rfl := hmilestone
    refine ⟨.deployed _, rfl, happlied, ?_⟩
    rw [CaseSnapshot.apply, hbody]
    rfl
  | refused reasons writeback hdeployed =>
    rw [hdeployed] at hmilestone
    obtain ⟨commit, rfl, -⟩ := hmilestone
    exact ⟨.closed, rfl, Or.inr (Or.inl happlied)⟩
  | verified hdeployed hevidence hmade hcommit haccepted =>
    rw [hdeployed] at hmilestone
    obtain ⟨commit, rfl, hrecordedCommit⟩ := hmilestone
    rw [hrecordedCommit] at hcommit
    exact ⟨.verified, if_pos (Option.some.inj hcommit).symm, happlied⟩
  | unresolved message integration hverified =>
    rw [hverified] at hmilestone
    obtain rfl := hmilestone
    exact ⟨.closed, rfl, Or.inr (Or.inr happlied)⟩
  | resolved hverified hevidence hmade hcommit haccepted hlive =>
    rw [hverified] at hmilestone
    obtain rfl := hmilestone
    exact ⟨.closed, rfl, Or.inl happlied⟩

theorem Chain.scripted (h : Chain service environment history caseId log snapshot) :
    ∃ first rest milestone, log = first :: rest ∧ first.eventType = .schemaChangeDetected ∧
      Milestone.run .detected (rest.map CaseEvent.body) = some milestone ∧
      milestone.Holds snapshot := by
  induction h with
  | @detected event schemaChange hbody hstate =>
    refine ⟨event, [], .detected, rfl, ?_, rfl, ?_⟩
    · rw [CaseEvent.eventType, hbody]
      rfl
    · simp [Milestone.Holds, CaseSnapshot.apply, hbody, hstate, detectionPayload,
        CaseSnapshot.applyBody, CaseSnapshot.start]
  | @step log snapshot event state hchain hcase hstate hwritten ih =>
    obtain ⟨_, hallowed⟩ := hwritten.allowed
    obtain ⟨first, rest, milestone, rfl, hfirst, hrun, hholds⟩ := ih
    obtain ⟨milestone', hnext, hholds'⟩ := hallowed.next hchain hholds rfl hstate
    refine ⟨first, rest ++ [event], milestone', rfl, hfirst, ?_, hholds'⟩
    rw [List.map_append, List.map_singleton, Milestone.run_snoc hrun]
    exact hnext

/-- The script of every run. Every visible case log is one detection, followed by events in the
order of the script. -/
theorem log_scripted {pool : ServicePool} (hsingle : environment.Single)
    (hreach : service.Reachable environment pool) :
    ∀ caseId, pool.shared.store.log caseId ≠ [] → ∃ first rest milestone snapshot,
      pool.shared.store.log caseId = first :: rest ∧ first.eventType = .schemaChangeDetected ∧
      Milestone.run .detected (rest.map CaseEvent.body) = some milestone ∧
      projectCase (pool.shared.store.log caseId) = some snapshot ∧ milestone.Holds snapshot := by
  intro caseId hne
  obtain ⟨snapshot, hchain⟩ := (hreach.ledger hsingle).cases caseId hne
  obtain ⟨first, rest, milestone, hlog, hfirst, hrun, hholds⟩ := hchain.scripted
  exact ⟨first, rest, milestone, snapshot, hlog, hfirst, hrun, hchain.project, hholds⟩

/-- The log of an opened repair follows the script. -/
theorem log_scripted_opened : ∃ pool, connectedService.Reachable {} pool ∧
    ∃ first rest milestone, pool.shared.store.log "DR-01234567" = first :: rest ∧
      rest.length = 8 ∧ Milestone.run .detected (rest.map CaseEvent.body) = some milestone := by
  obtain ⟨pool, hreach, -, htypes⟩ :=
    Service.session_reaches permits_default openingVisit_opens
  have hlength := congrArg List.length (of_decide_eq_true htypes)
  rw [List.length_map] at hlength
  have hne : pool.shared.store.log "DR-01234567" ≠ [] := by
    intro hempty
    rw [hempty] at hlength
    cases hlength
  obtain ⟨first, rest, milestone, -, hlog, -, hrun, -⟩ :=
    log_scripted (fun _ h => h) hreach "DR-01234567" hne
  rw [hlog, List.length_cons] at hlength
  exact ⟨pool, hreach, first, rest, milestone, hlog, Nat.succ.inj hlength, hrun⟩

end

end DataRescue
