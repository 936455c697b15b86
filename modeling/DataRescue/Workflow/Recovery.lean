import DataRescue.Workflow.LiveEvidence
import DataRescue.Workflow.RepairGate

/-!
# Recovery

A live incident is resolved on recomputed evidence only (`no_forged_recovery`). What a verification
has checked is read off the calls it made; in postgres mode it appends nothing before every check has
passed.
-/

namespace DataRescue

open Python Concurrency

/-- A transaction that may append an event. -/
def Op.appends : Op → Bool
  | .store (.append ..) => true
  | _ => false

/-- How a live incident came to be resolved. -/
structure Recovered (service : Service) (history : List Effect) (caseId : String)
    (snapshot : CaseSnapshot) (resolution : IntegrationResult) : Prop where
  postgres : service.settings.postgres = true
  verified : ∃ actor scope request evidence calls selected patch fetched found writeback,
    actor.call.command = .verifyDeployment caseId request ∧
    Recomputed service snapshot request.mergedCommitSha evidence calls selected patch fetched found ∧
    Made history actor scope
      (calls ++ closingCalls service caseId snapshot evidence writeback resolution) ∧
    snapshot.deploymentCommit = some evidence.verifiedCommit ∧
    (evidence.decision service).accepted = true ∧
    writeback.status = .succeeded ∧ resolution.status = .succeeded

section

variable {service : Service} {environment : Environment} {history : List Effect} {caseId : String}
  {snapshot : CaseSnapshot} {body : EventBody} {calls : List (Exchange Op Op.Reply Exn)}
  {actor : Actor Call} {α β : Type}

theorem Allowed.resolution
    (h : Allowed service environment history actor caseId snapshot body .resolved) :
    ∃ resolution, body = .incidentResolved resolution ∧
      (snapshot.liveIncident = true → Recovered service history caseId snapshot resolution) := by
  cases h with
  | advanced _ houtcome hrecords =>
    have hsteps := advanceStep_inv houtcome
    cases hrecords
    cases hsteps
  | @resolved scope evidence calls writeback resolution hstate hevidence hmade hcommit haccepted
      hlive =>
    refine ⟨resolution, rfl, fun hincident => ?_⟩
    obtain ⟨request, hcommand, htrace⟩ := hevidence.request
    rcases trace_deploymentEvidence htrace with
      ⟨hpostgres, selected, patch, fetched, found, hfound⟩ | ⟨-, hdead⟩
    · exact ⟨hpostgres, actor, scope, request, evidence, calls, selected, patch, fetched, found,
        writeback, hcommand, hfound, hmade, hcommit, haccepted, hlive hincident⟩
    · rw [hincident] at hdead
      cases hdead

theorem Chain.first_state {log : List CaseEvent}
    (h : Chain service environment history caseId log snapshot) :
    ∃ first rest, log = first :: rest ∧ first.state = some .detected := by
  induction h with
  | detected _ hstate => exact ⟨_, [], rfl, hstate⟩
  | @step log snapshot event state _ _ _ _ ih =>
    obtain ⟨first, rest, rfl, hfirst⟩ := ih
    exact ⟨first, rest ++ [event], rfl, hfirst⟩

/-! ### What a verification does before its checks have passed -/

theorem trace_bind_cases {program : Flow α} {next : α → Flow β} {result : Except Exn β}
    (h : (program >>= next).Trace calls result) :
    ((∃ error, program.Trace calls (.error error)) ∧ result.isOk = false) ∨
      ∃ first second middle, calls = first ++ second ∧ program.Trace first (.ok middle) ∧
        (next middle).Trace second result := by
  cases result with
  | ok value => exact .inr (Program.trace_bind_ok.1 h)
  | error error =>
    rcases Program.trace_bind_error.1 h with hraised | hnext
    · exact .inl ⟨⟨error, hraised⟩, rfl⟩
    · exact .inr hnext

theorem trace_refuseIf_calls {condition : Bool} {message : String} {result : Except Exn Unit}
    (h : (refuseIf condition message).Trace calls result) : calls = [] := by
  rw [refuseIf] at h
  split_ifs at h
  · exact (Program.trace_done.1 h).1
  · exact (Program.trace_done.1 h).1

/-- The case was read, and after it evidence was gathered successfully. -/
def Gathered (service : Service) (caseId : String) (request : VerifyDeploymentRequest)
    (calls : List (Exchange Op Op.Reply Exn)) : Prop :=
  ∃ case evidence part, ⟨.store (.getCase caseId), .ok case⟩ :: part <:+: calls ∧
    (service.deploymentEvidence case request).Trace part (.ok evidence)

theorem Gathered.mono {request : VerifyDeploymentRequest}
    {more : List (Exchange Op Op.Reply Exn)} (h : Gathered service caseId request calls)
    (hinside : calls <:+: more) : Gathered service caseId request more := by
  obtain ⟨case, evidence, part, hpart, htrace⟩ := h
  exact ⟨case, evidence, part, hpart.trans hinside, htrace⟩

theorem verifyDeploymentLocked_trace {request : VerifyDeploymentRequest}
    {result : Except Exn CaseSnapshot}
    (h : (service.verifyDeploymentLocked caseId request).Trace calls result) :
    (result.isOk = false ∧ ∀ call ∈ calls, call.1.appends = false) ∨
      Gathered service caseId request calls := by
  rw [Service.verifyDeploymentLocked] at h
  rcases trace_bind_cases h with ⟨⟨error, hread⟩, hfailed⟩ | ⟨first, rest, case, rfl, hread, h⟩
  · rw [Program.trace_perform.1 hread]
    exact .inl ⟨hfailed, by simp [Op.appends]⟩
  have hfirst : ∀ call ∈ first, call.1.appends = false := by
    rw [Program.trace_perform.1 hread]
    simp [Op.appends]
  rcases trace_bind_cases h with ⟨⟨error, hrefused⟩, hfailed⟩ | ⟨second, rest, _, rfl, hpassed, h⟩
  · rw [trace_refuseIf_calls hrefused, List.append_nil]
    exact .inl ⟨hfailed, hfirst⟩
  rcases trace_bind_cases h with ⟨⟨error, hrefused⟩, hfailed⟩ | ⟨third, rest, _, rfl, hpassed', h⟩
  · rw [trace_refuseIf_calls hpassed, trace_refuseIf_calls hrefused, List.append_nil, List.append_nil]
    exact .inl ⟨hfailed, hfirst⟩
  rw [trace_refuseIf_calls hpassed, trace_refuseIf_calls hpassed', List.nil_append, List.nil_append]
  rcases trace_bind_cases h with ⟨⟨error, hraised⟩, hfailed⟩ | ⟨gathered, rest, evidence, rfl, hok, -⟩
  · refine .inl ⟨hfailed, fun call hcall => ?_⟩
    rcases List.mem_append.1 hcall with hcall | hcall
    · exact hfirst call hcall
    · have hgathers := Program.Uses.trace deploymentEvidence_uses hraised call hcall
      cases hop : call.1 with
      | store op => rw [hop] at hgathers; cases hgathers
      | memory op => rfl
      | adapter op => rfl
  · refine .inr ⟨case, evidence, gathered, ⟨[], rest, ?_⟩, hok⟩
    rw [Program.trace_perform.1 hread]
    simp

theorem trace_memory {op : MemoryOp} {result : Except Exn op.Reply}
    (h : (Flow.memory op).Trace calls result) : ∀ call ∈ calls, call.1.appends = false := by
  rw [Program.trace_perform.1 h]
  simp [Op.appends]

theorem verifyDeployment_trace {request : VerifyDeploymentRequest} {result : Except Exn CaseSnapshot}
    (h : (service.verifyDeployment caseId request).Trace calls result) :
    (result.isOk = false ∧ ∀ call ∈ calls, call.1.appends = false) ∨
      Gathered service caseId request calls := by
  rw [Service.verifyDeployment, withWorkerLock] at h
  rcases trace_bind_cases h with ⟨⟨error, hlock⟩, hfailed⟩ | ⟨lock, rest, _, rfl, hlock, h⟩
  · exact .inl ⟨hfailed, trace_memory hlock⟩
  rw [Program.tryFinally, Program.trace_andThen] at h
  obtain ⟨inside, rest, ended, rfl, hinside, h⟩ := h
  obtain ⟨release, rest, final, rfl, hrelease, h⟩ := Program.trace_andThen.1 h
  have hresult : rest = [] ∧ (result = ended ∨ result.isOk = false) := by
    cases final with
    | ok _ =>
      obtain ⟨rfl, rfl⟩ := Program.trace_done.1 h
      exact ⟨rfl, .inl rfl⟩
    | error error =>
      obtain ⟨rfl, rfl⟩ := Program.trace_done.1 h
      exact ⟨rfl, .inr rfl⟩
  obtain ⟨rfl, hresult⟩ := hresult
  rcases verifyDeploymentLocked_trace hinside with ⟨hfailed, hcalls⟩ | hgathered
  · refine .inl ⟨hresult.elim (fun h => h ▸ hfailed) id, fun call hcall => ?_⟩
    rw [List.append_nil] at hcall
    rcases List.mem_append.1 hcall with hcall | hcall
    · exact trace_memory hlock call hcall
    · rcases List.mem_append.1 hcall with hcall | hcall
      · exact hcalls call hcall
      · exact trace_memory hrelease call hcall
  · exact .inr (hgathered.mono ⟨lock, release, by simp⟩)

/-! ### The recoveries of a run -/

variable {pool : ServicePool}

/-- No recovery is forged. A live incident is resolved on evidence recomputed at the trusted tip; in
postgres mode a verification whose checks of the case it read did not all pass raises without an append,
and requests for one commit are verified alike, whatever evidence they carry. -/
theorem no_forged_recovery (hsingle : environment.Single)
    (hreach : service.Reachable environment pool) :
    (∀ caseId before resolved after, pool.shared.store.log caseId = before ++ resolved :: after →
      resolved.state = some .resolved → ∃ snapshot resolution, projectCase before = some snapshot ∧
        resolved.body = .incidentResolved resolution ∧
        (snapshot.liveIncident = true →
          Recovered service pool.shared.history caseId snapshot resolution)) ∧
    (service.settings.postgres = true →
      (∀ finished ∈ pool.finished, ∀ caseId request,
        finished.actor.call.command = .verifyDeployment caseId request →
        (finished.result.isOk = false ∧ ∀ performed ∈ finished.path, performed.op.appends = false) ∨
          ∃ case evidence calls selected patch fetched found,
            ⟨.store (.getCase caseId), .ok case⟩ :: calls <:+: exchanges finished.path ∧
            Recomputed service case request.mergedCommitSha evidence calls selected patch fetched
              found) ∧
      ∀ caseId request request', request.mergedCommitSha = request'.mergedCommitSha →
        service.verifyDeployment caseId request = service.verifyDeployment caseId request') := by
  refine ⟨fun caseId before resolved after hlog hstate => ?_,
    fun hpostgres => ⟨fun finished hmem caseId request hcommand => ?_,
      fun _ _ _ => verifyDeployment_congr hpostgres⟩⟩
  · have hledger := hreach.ledger hsingle
    obtain ⟨snapshot, hchain⟩ := hledger.cases caseId (by simp [hlog])
    have hne : before ≠ [] := by
      rintro rfl
      obtain ⟨first, rest, hfirst, hdetected⟩ := hchain.first_state
      rw [hlog, List.nil_append] at hfirst
      rw [← (List.cons.inj hfirst).1, hstate] at hdetected
      cases hdetected
    obtain ⟨earlier, state, hearlier, hsome, hwritten⟩ := hchain.split hlog hne
    obtain ⟨_, hallowed⟩ := hwritten.allowed
    obtain rfl : state = .resolved := Option.some.inj (hsome.symm.trans hstate)
    obtain ⟨resolution, hbody, hrecovered⟩ := hallowed.resolution
    exact ⟨earlier, resolution, hearlier.project, hbody, hrecovered⟩
  · have hwhole : (service.program finished.actor.call.command).Trace (exchanges finished.path)
        finished.result := (hreach.traced.finished finished hmem).done
    rw [hcommand] at hwhole
    -- the answer of the request adds no call to the verification
    obtain ⟨result, htrace, hsame⟩ : ∃ result : Except Exn CaseSnapshot,
        (service.verifyDeployment caseId request).Trace (exchanges finished.path) result ∧
          result.isOk = finished.result.isOk := by
      rcases trace_bind_cases hwhole with ⟨⟨error, hraised⟩, hfailed⟩ |
        ⟨first, rest, case, hcalls, hok, hanswer⟩
      · exact ⟨_, hraised, hfailed.symm⟩
      · obtain ⟨rfl, hresult⟩ := Program.trace_done.1 hanswer
        rw [hcalls, List.append_nil, hresult]
        exact ⟨_, hok, rfl⟩
    rcases verifyDeployment_trace htrace with ⟨hfailed, hcalls⟩ | ⟨case, evidence, part, hpart, hpassed⟩
    · refine .inl ⟨hsame ▸ hfailed, fun performed hperformed => ?_⟩
      exact hcalls _ (List.mem_map.2 ⟨performed, hperformed, rfl⟩)
    · rcases trace_deploymentEvidence hpassed with
        ⟨-, selected, patch, fetched, found, hfound⟩ | ⟨hother, -⟩
      · exact .inr ⟨case, evidence, part, selected, patch, fetched, found, hpart, hfound⟩
      · rw [hpostgres] at hother
        cases hother

/-- A verification at the merged tip resolves a live incident. -/
theorem no_forged_recovery_resolved : ∃ pool, connectedService.Reachable {} pool ∧
    ∃ before resolved snapshot resolution,
      pool.shared.store.log "DR-01234567" = before ++ [resolved] ∧
      resolved.state = some .resolved ∧ projectCase before = some snapshot ∧
      Recovered connectedService pool.shared.history "DR-01234567" snapshot resolution := by
  have hsession : (connectedService.session [openingVisit, verifyingVisit] 0 {}).any (fun outcome =>
      (outcome.2.store.log "DR-01234567").getLast?.bind CaseEvent.state = some .resolved ∧
        (projectCase (outcome.2.store.log "DR-01234567").dropLast).any CaseSnapshot.liveIncident) =
      true := by decide +kernel
  obtain ⟨pool, hreach, -, hholds⟩ := Service.session_reaches permits_default hsession
  obtain ⟨hlast, hlive⟩ := of_decide_eq_true hholds
  obtain ⟨resolved, hresolved, hstate⟩ := Option.bind_eq_some_iff.1 hlast
  have hlog := List.dropLast_append_getLast? resolved hresolved
  obtain ⟨snapshot, resolution, hproject, -, hrecovered⟩ :=
    (no_forged_recovery (fun _ h => h) hreach).1 _ _ _ _ hlog.symm hstate
  rw [hproject] at hlive
  exact ⟨pool, hreach, _, resolved, snapshot, resolution, hlog.symm, hstate, hproject,
    hrecovered hlive⟩

end

end DataRescue
