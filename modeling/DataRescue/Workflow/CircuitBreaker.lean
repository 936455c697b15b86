import DataRescue.Api.Guard
import DataRescue.Workflow.CaseIds
import DataRescue.Workflow.Recovery

/-!
# The circuit breaker

The guard over every run of the service. It always decides, and it decides by the visible cases of the
asset (`guard_law`). Once an ingest has answered with a case, the guard blocks its asset, until a reset
or until a verified deployment has resolved that case (`breaker_latch`).
-/

namespace DataRescue

open Python Concurrency

/-! ### A table that grows without a reset -/

namespace Store

variable {store store' : Store} {caseId : String} {snapshot snapshot' : CaseSnapshot}

/-- A reset was written after the first rows of the table. -/
def ResetAfter (store : Store) (count : Nat) : Prop :=
  ∃ row ∈ store.rows, row.eventType = .systemReset ∧ count < row.sequence

theorem mem_of_grown (hrows : store.rows <+: store'.rows) {row : Row} (hrow : row ∈ store'.rows)
    (hold : row.sequence ≤ store.rows.length) : row ∈ store.rows := by
  obtain ⟨i, hi, rfl⟩ := List.mem_iff_getElem.1 hrow
  rw [sequence_getElem] at hold
  have hlt : i < store.rows.length := by omega
  rw [← hrows.getElem hlt]
  exact List.getElem_mem hlt

theorem currentScope_of_grown (hrows : store.rows <+: store'.rows)
    (hreset : ¬store'.ResetAfter store.rows.length) : store'.currentScope = store.currentScope := by
  refine currentScope_eq ?_ fun row hrow htype => ?_
  · rcases store.currentScope_mem with hnone | ⟨row, hrow, htype, hsequence⟩
    · exact .inl hnone
    · exact .inr ⟨row, hrows.subset hrow, htype, hsequence⟩
  · have hold : row.sequence ≤ store.rows.length := by
      by_contra hnew
      exact hreset ⟨row, hrow, htype, by omega⟩
    exact sequence_le_currentScope (mem_of_grown hrows hrow hold) htype

theorem log_of_grown (hrows : store.rows <+: store'.rows)
    (hreset : ¬store'.ResetAfter store.rows.length) : store.log caseId <+: store'.log caseId := by
  rw [log_eq, log_eq, currentScope_of_grown hrows hreset]
  exact (hrows.filter _).map _

end Store

theorem foldl_apply_id (events : List CaseEvent) (snapshot : CaseSnapshot) :
    (events.foldl .apply snapshot).id = snapshot.id ∧
      (events.foldl .apply snapshot).assetUrn = snapshot.assetUrn := by
  induction events generalizing snapshot with
  | nil => exact ⟨rfl, rfl⟩
  | cons event events ih =>
    rw [List.foldl_cons, (ih _).1, (ih _).2, CaseSnapshot.apply_id, CaseSnapshot.apply_assetUrn]
    exact ⟨rfl, rfl⟩

theorem projectCase_head {first : CaseEvent} {rest : List CaseEvent} {snapshot : CaseSnapshot}
    (h : projectCase (first :: rest) = some snapshot) :
    ∃ schemaChange incidentUrn, first.body = .schemaChangeDetected schemaChange incidentUrn ∧
      snapshot.id = first.caseId ∧ snapshot.assetUrn = schemaChange.entityUrn := by
  cases hbody : first.body <;> simp only [projectCase, hbody, reduceCtorEq, Option.some.injEq] at h
  next schemaChange incidentUrn =>
    obtain ⟨hid, hasset⟩ := foldl_apply_id (first :: rest) (.start first schemaChange incidentUrn)
    rw [h] at hid hasset
    exact ⟨schemaChange, incidentUrn, rfl, hid, hasset⟩

theorem projectCase_grown {events events' : List CaseEvent} {snapshot snapshot' : CaseSnapshot}
    (h : projectCase events = some snapshot) (h' : projectCase events' = some snapshot')
    (hgrown : events <+: events') :
    snapshot'.id = snapshot.id ∧ snapshot'.assetUrn = snapshot.assetUrn := by
  obtain ⟨more, rfl⟩ := hgrown
  cases events with
  | nil => cases h
  | cons first rest =>
    obtain ⟨_, _, hbody, hid, hasset⟩ := projectCase_head h
    obtain ⟨_, _, hbody', hid', hasset'⟩ := projectCase_head h'
    rw [hbody] at hbody'
    obtain ⟨rfl, -⟩ := EventBody.schemaChangeDetected.inj hbody'
    exact ⟨hid'.trans hid.symm, hasset'.trans hasset.symm⟩

theorem Store.getCase_id {store : Store} {caseId : String} {snapshot : CaseSnapshot}
    (h : store.getCase caseId = .ok snapshot) : snapshot.id = caseId := by
  rw [Store.getCase_ok, Store.snapshot?] at h
  cases hlog : store.log caseId with
  | nil =>
    rw [hlog] at h
    cases h
  | cons first rest =>
    have hfirst : first ∈ store.log caseId := by
      rw [hlog]
      exact List.mem_cons_self
    obtain ⟨row, -, rfl, -, rfl⟩ := Store.mem_log.1 hfirst
    rw [hlog] at h
    obtain ⟨_, _, -, hid, -⟩ := projectCase_head h
    exact hid

section

variable {service : Service} {environment : Environment} {known : World → Prop} {world : World}
  {event : SchemaChangeEvent} {dedupKey caseId : String} {deduplicated : Bool} {α : Type}
  {calls : List (Exchange Op Op.Reply Exn)} {response : SchemaChangeResponse} {pool : ServicePool}

/-! ### The case of a response was read -/

/-- The case of the response is the answer of a read. -/
def ReadBack (calls : List (Exchange Op Op.Reply Exn)) (response : SchemaChangeResponse) : Prop :=
  ∃ caseId, (⟨.store (.getCase caseId), .ok response.case⟩ : Exchange Op Op.Reply Exn) ∈ calls

theorem ReadBack.mono {more : List (Exchange Op Op.Reply Exn)} (h : ReadBack calls response)
    (hmore : calls ⊆ more) : ReadBack more response := by
  obtain ⟨caseId, hcall⟩ := h
  exact ⟨caseId, hmore hcall⟩

theorem bind_readBack {program : Flow α} {next : α → Flow SchemaChangeResponse}
    (h : (program >>= next).Trace calls (.ok response))
    (hnext : ∀ value rest, (next value).Trace rest (.ok response) → ReadBack rest response) :
    ReadBack calls response := by
  obtain ⟨first, second, value, rfl, -, hsecond⟩ := Program.trace_bind_ok.1 h
  exact (hnext value second hsecond).mono (List.subset_append_right first second)

theorem respond_readBack (h : (Service.respond caseId deduplicated).Trace calls (.ok response)) :
    ReadBack calls response := by
  obtain ⟨first, second, case, rfl, hread, hdone⟩ := Program.trace_bind_ok.1 h
  obtain ⟨rfl, hresponse⟩ := Program.trace_done.1 hdone
  obtain rfl := Except.ok.inj hresponse
  rw [Program.trace_perform.1 hread]
  exact ⟨caseId, by simp⟩

theorem deduplicatedResponse_readBack
    (h : (Service.deduplicatedResponse event dedupKey caseId).Trace calls (.ok (some response))) :
    ReadBack calls response := by
  obtain ⟨first, rest, checked, rfl, -, h⟩ := Program.trace_bind_ok.1 h
  obtain ⟨second, third, read, rfl, hread, h⟩ := Program.trace_attempt_bind.1 h
  have hsecond := Program.trace_perform.1 hread
  split at h
  · obtain ⟨rfl, hresponse⟩ := Program.trace_done.1 h
    obtain rfl := Option.some.inj (Except.ok.inj hresponse)
    exact ⟨caseId, by simp [hsecond]⟩
  · cases (Program.trace_done.1 h).2
  · cases (Program.trace_done.1 h).2

theorem detectionLoop_readBack {remaining : Nat}
    (h : (service.detectionLoop event dedupKey remaining caseId).Trace calls (.ok response)) :
    ReadBack calls response := by
  induction remaining generalizing caseId calls with
  | zero => exact bind_readBack h fun _ _ h => respond_readBack h
  | succ remaining ih =>
    refine bind_readBack h fun duplicate rest h => ?_
    cases duplicate with
    | some duplicateCase => exact respond_readBack h
    | none =>
      refine bind_readBack h fun written rest h => ?_
      split at h
      · exact bind_readBack h fun _ _ h => respond_readBack h
      · exact respond_readBack h
      · split_ifs at h
        · cases (Program.trace_done.1 h).2
        · exact bind_readBack h fun caseId _ h => ih h
      · cases (Program.trace_done.1 h).2

theorem createCase_readBack (h : (service.createCase event dedupKey).Trace calls (.ok response)) :
    ReadBack calls response := bind_readBack h fun _ _ h => detectionLoop_readBack h

theorem ingestLocked_readBack
    (h : (service.ingestLocked event dedupKey).Trace calls (.ok response)) :
    ReadBack calls response := by
  refine bind_readBack h fun existing rest h => ?_
  cases existing with
  | none => exact createCase_readBack h
  | some existing =>
    refine bind_readBack h fun duplicate rest h => ?_
    cases duplicate with
    | none => exact createCase_readBack h
    | some duplicate =>
      dsimp only at h
      split_ifs at h
      · refine bind_readBack h fun owned rest h => ?_
        split_ifs at h
        · exact bind_readBack h fun _ _ h => respond_readBack h
        · exact respond_readBack h
      · exact respond_readBack h

theorem locked_readBack
    (h : (withWorkerLock (service.ingestLocked event dedupKey)).Trace calls (.ok response)) :
    ReadBack calls response := by
  refine bind_readBack h fun _ rest h => ?_
  obtain ⟨first, second, rfl, hfirst, -⟩ := Program.trace_tryFinally_ok.1 h
  exact (ingestLocked_readBack hfirst).mono (List.subset_append_left first second)

theorem ingestKeyed_readBack
    (h : (service.ingestKeyed event dedupKey).Trace calls (.ok response)) :
    ReadBack calls response := by
  refine bind_readBack h fun existing rest h => ?_
  cases existing with
  | none => exact locked_readBack h
  | some existing =>
    obtain ⟨first, second, duplicate, rfl, hfirst, h⟩ := Program.trace_bind_ok.1 h
    cases duplicate with
    | none => exact (locked_readBack h).mono (List.subset_append_right first second)
    | some duplicate =>
      have hread : ReadBack (first ++ second) duplicate :=
        (deduplicatedResponse_readBack hfirst).mono (List.subset_append_left first second)
      dsimp only at h
      split_ifs at h
      · obtain ⟨-, hresponse⟩ := Program.trace_done.1 h
        rwa [← Except.ok.inj hresponse] at hread
      · obtain ⟨third, fourth, owned, rfl, -, h⟩ := Program.trace_bind_ok.1 h
        split_ifs at h
        · obtain ⟨-, hresponse⟩ := Program.trace_done.1 h
          rwa [← Except.ok.inj hresponse] at hread
        · refine (locked_readBack h).mono fun call hcall => ?_
          exact List.mem_append_right _ (List.mem_append_right _ hcall)

theorem program_readBack {command : Command}
    (h : (service.program command).Trace calls (.ok (.ingested response))) :
    ReadBack calls response := by
  cases command with
  | ingest event =>
    obtain ⟨first, second, value, rfl, hfirst, hdone⟩ := Program.trace_bind_ok.1 h
    obtain ⟨rfl, hresponse⟩ := Program.trace_done.1 hdone
    obtain rfl := Response.ingested.inj (Except.ok.inj hresponse)
    rw [List.append_nil]
    rcases ingest_cases service event with ⟨-, heq⟩ | ⟨-, heq⟩
    · rw [heq] at hfirst
      exact ingestKeyed_readBack hfirst
    · rw [heq] at hfirst
      cases (Program.trace_done.1 hfirst).2
  | verifyDeployment caseId request =>
    obtain ⟨_, _, _, -, -, hdone⟩ := Program.trace_bind_ok.1 h
    cases Except.ok.inj (Program.trace_done.1 hdone).2
  | reset reason =>
    obtain ⟨_, _, _, -, -, hdone⟩ := Program.trace_bind_ok.1 h
    cases Except.ok.inj (Program.trace_done.1 hdone).2

/-! ### What resolves a case -/

/-- A verification of the case was accepted, and made the calls that close the case. -/
def Service.Verified (service : Service) (history : List Effect) (caseId : String) : Prop :=
  ∃ actor scope request snapshot evidence calls writeback resolution,
    actor.call.command = .verifyDeployment caseId request ∧
    (service.deploymentEvidence snapshot request).Trace calls (.ok evidence) ∧
    (evidence.decision service).accepted = true ∧
    Made history actor scope
      (calls ++ closingCalls service caseId snapshot evidence writeback resolution)

theorem Chain.verified {history : List Effect} {log : List CaseEvent} {snapshot : CaseSnapshot}
    (h : Chain service environment history caseId log snapshot) (hstate : snapshot.state = .resolved) :
    service.Verified history caseId := by
  cases h with
  | detected hbody hdetected =>
    rw [CaseSnapshot.apply_state, hdetected] at hstate
    cases hstate
  | @step log snapshot event state hchain hcase hstep hwritten =>
    obtain ⟨_, hallowed⟩ := hwritten.allowed
    rw [CaseSnapshot.apply_state, hstep, Option.getD_some] at hstate
    subst hstate
    generalize event.body = body at hallowed
    cases hallowed with
    | advanced _ houtcome hrecords =>
      have hsteps := advanceStep_inv houtcome
      cases hrecords
      cases hsteps
    | resolved hstate hevidence hmade hcommit haccepted hlive =>
      obtain ⟨request, hcommand, htrace⟩ := hevidence.request
      exact ⟨_, _, request, _, _, _, _, _, hcommand, htrace, haccepted, hmade⟩

/-! ### Every run -/

theorem rows_of_later {discipline : Discipline (service.system environment) known}
    {before after : World} (h : discipline.Later before after) :
    before.store.rows <+: after.store.rows := by
  induction h with
  | refl => exact List.prefix_rfl
  | tail _ hchange ih =>
    cases hchange with
    | perform _ _ _ _ hexec _ => exact ih.trans (exec_rows hexec)
    | crash _ _ _ hcrash =>
      obtain ⟨-, process, -, -, rfl⟩ := hcrash
      exact ih

theorem Service.Reachable.listCases (hreach : service.Reachable environment pool)
    (hsingle : environment.Single) : ∃ cases, pool.shared.store.listCases = .ok cases :=
  (reset_never_splits hsingle hreach).2.2

theorem Service.Reachable.unresolved {snapshot : CaseSnapshot}
    (hreach : service.Reachable environment pool) (hsingle : environment.Single)
    (hcase : pool.shared.store.getCase caseId = .ok snapshot) (hstate : snapshot.state ≠ .resolved) :
    pool.shared.store.Unresolved snapshot.assetUrn snapshot := by
  refine ⟨⟨caseId, hreach.listed hsingle fun hlog => ?_, hcase⟩, rfl, hstate⟩
  rw [Store.getCase_caseNotFound.2 ⟨hlog, rfl⟩] at hcase
  cases hcase

/-- The guard is decided by the visible cases. In every run it blocks an asset that has an
unresolved case, naming the newest, and starts the command for every other asset. -/
theorem guard_law (hsingle : environment.Single) (hreach : service.Reachable environment pool)
    (launch : List String → Guard.Launch) (asset : String) (command : List String) :
    ((∃ caseId snapshot, pool.shared.store.getCase caseId = .ok snapshot ∧
        snapshot.assetUrn = asset ∧ snapshot.state ≠ .resolved) →
      Guard.Blocks pool.shared.store asset (Guard.main pool.shared.store launch asset command)) ∧
    ((∀ caseId snapshot, pool.shared.store.getCase caseId = .ok snapshot →
        snapshot.assetUrn = asset → snapshot.state = .resolved) →
      Guard.main pool.shared.store launch asset command = Guard.runCommand launch command) := by
  obtain ⟨cases, hcases⟩ := hreach.listCases hsingle
  constructor
  · rintro ⟨caseId, snapshot, hcase, rfl, hstate⟩
    exact Guard.main_blocked hcases (hreach.unresolved hsingle hcase hstate)
  · intro hresolved
    refine Guard.main_open hcases fun snapshot hunresolved => ?_
    obtain ⟨⟨caseId, -, hcase⟩, hasset, hstate⟩ := hunresolved
    exact hstate (hresolved caseId snapshot hcase hasset)

/-- The guard blocks the asset of a repair whose pull request is open. -/
theorem guard_law_opened : ∃ pool, connectedService.Reachable {} pool ∧ ∀ launch command,
    Guard.Blocks pool.shared.store canonicalAssetUrn
      (Guard.main pool.shared.store launch canonicalAssetUrn command) := by
  have hsession : (connectedService.session [openingVisit] 0 {}).any (fun outcome =>
      (outcome.2.store.snapshot? "DR-01234567").any fun snapshot =>
        snapshot.assetUrn = canonicalAssetUrn ∧ snapshot.state ≠ .resolved) = true := by
    decide +kernel
  obtain ⟨pool, hreach, -, hcase⟩ := Service.session_reaches permits_default hsession
  obtain ⟨snapshot, hsnapshot, hholds⟩ := (Option.any_eq_true _ _).1 hcase
  obtain ⟨hasset, hstate⟩ := of_decide_eq_true hholds
  refine ⟨pool, hreach, fun launch command => ?_⟩
  exact (guard_law (fun _ h => h) hreach launch _ command).1
    ⟨_, snapshot, Store.getCase_ok.2 hsnapshot, hasset, hstate⟩

/-- The breaker latches. After an ingest has answered with a case, the guard blocks the asset of
the case, whatever the command: unless a reset came after the case was read, or a verification has
resolved that very case. -/
theorem breaker_latch (hsingle : environment.Single) (hreach : service.Reachable environment pool)
    {finished : Finished Op Op.Reply Exn World Call Response} (hfinished : finished ∈ pool.finished)
    (hresult : finished.result = .ok (.ingested response)) :
    ∃ performed ∈ finished.path,
      performed.before.store.getCase response.case.id = .ok response.case ∧
      (pool.shared.store.ResetAfter performed.before.store.rows.length ∨
        ∃ snapshot, pool.shared.store.getCase response.case.id = .ok snapshot ∧
          snapshot.assetUrn = response.case.assetUrn ∧
          (snapshot.state = .resolved ∧ service.Verified pool.shared.history response.case.id ∨
            snapshot.state ≠ .resolved ∧ ∀ launch command,
              Guard.Blocks pool.shared.store response.case.assetUrn
                (Guard.main pool.shared.store launch response.case.assetUrn command))) := by
  have hfollows := hreach.traced.finished finished hfinished
  have htrace := hfollows.done
  rw [hresult] at htrace
  obtain ⟨caseId, hcall⟩ := program_readBack htrace
  obtain ⟨performed, hperformed, heq⟩ := List.mem_map.1 hcall
  obtain ⟨after, hexec⟩ := hfollows.executed performed hperformed
  have hlater := ((scope_sound hsingle hreach).finished finished hfinished).recorded.later performed
    hperformed
  obtain ⟨op, answer, before⟩ := performed
  obtain ⟨rfl, hanswer⟩ := Sigma.mk.inj heq
  obtain rfl := eq_of_heq hanswer
  have hread : before.store.getCase caseId = .ok response.case := by
    rcases hexec with ⟨fresh, now, -, hrun, -⟩ | ⟨-, ⟨_, hfailed⟩, -⟩
    · cases hget : before.store.getCase caseId with
      | error error =>
        simp only [StoreOp.run, hget, Except.mapError] at hrun
        cases hrun
      | ok case =>
        simp only [StoreOp.run, hget, Except.mapError, Except.ok.injEq] at hrun
        rw [hrun]
    · cases hfailed
  obtain rfl := Store.getCase_id hread
  refine ⟨_, hperformed, hread, ?_⟩
  by_cases hreset : pool.shared.store.ResetAfter before.store.rows.length
  · exact .inl hreset
  · right
    have hgrown : before.store.log response.case.id <+: pool.shared.store.log response.case.id :=
      Store.log_of_grown (rows_of_later hlater) hreset
    rw [Store.getCase_ok, Store.snapshot?] at hread
    have hlog : pool.shared.store.log response.case.id ≠ [] := by
      intro hnone
      rw [hnone, List.prefix_nil] at hgrown
      rw [hgrown] at hread
      cases hread
    obtain ⟨snapshot, hchain⟩ := (hreach.ledger hsingle).cases response.case.id hlog
    have hcase := Store.getCase_ok.2 hchain.project
    obtain ⟨-, hasset⟩ := projectCase_grown hread hchain.project hgrown
    refine ⟨snapshot, hcase, hasset, ?_⟩
    by_cases hstate : snapshot.state = .resolved
    · exact .inl ⟨hstate, hchain.verified hstate⟩
    · refine .inr ⟨hstate, fun launch command => ?_⟩
      exact (guard_law hsingle hreach launch _ command).1 ⟨_, snapshot, hcase, hasset, hstate⟩

/-- A finished call that ingested a drift. -/
def Served.ingested (served : Served) : Bool :=
  match served.result with
  | .ok (.ingested _) => true
  | _ => false

/-- The breaker of a repair whose pull request is open. -/
theorem breaker_latch_opened : ∃ pool, connectedService.Reachable {} pool ∧
    ∃ finished ∈ pool.finished, ∃ response, finished.result = .ok (.ingested response) ∧
      ∃ performed ∈ finished.path,
        performed.before.store.getCase response.case.id = .ok response.case ∧
        (pool.shared.store.ResetAfter performed.before.store.rows.length ∨
          ∃ snapshot, pool.shared.store.getCase response.case.id = .ok snapshot ∧
            snapshot.assetUrn = response.case.assetUrn ∧
            (snapshot.state = .resolved ∧
                connectedService.Verified pool.shared.history response.case.id ∨
              snapshot.state ≠ .resolved ∧ ∀ launch command,
                Guard.Blocks pool.shared.store response.case.assetUrn
                  (Guard.main pool.shared.store launch response.case.assetUrn command))) := by
  have hsession : (connectedService.session [openingVisit] 0 {}).any (fun outcome =>
      outcome.1.any Served.ingested) = true := by decide +kernel
  obtain ⟨pool, hreach, -, hserved⟩ := Service.session_reaches permits_default hsession
  obtain ⟨call, hcall, hingested⟩ := List.any_eq_true.1 hserved
  obtain ⟨finished, hfinished, rfl⟩ := List.mem_map.1 hcall
  have hresult : ∃ response, finished.result = .ok (.ingested response) := by
    rw [Served.ingested] at hingested
    dsimp only at hingested
    split at hingested
    next response hresult => exact ⟨response, hresult⟩
    next => cases hingested
  obtain ⟨response, hresult⟩ := hresult
  exact ⟨pool, hreach, finished, hfinished, response, hresult,
    breaker_latch (fun _ h => h) hreach hfinished hresult⟩

end

end DataRescue
