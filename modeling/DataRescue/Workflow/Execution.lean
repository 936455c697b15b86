import DataRescue.Api.CaseLog
import DataRescue.Concurrency.Execution
import DataRescue.Workflow.System

/-!
# Executing the service

Computable runs of the service: given the answers of the adapters, calls are served one after the
other from an empty database (`Service.session`). A session is a run of the system
(`Service.session_reaches`).
-/

namespace DataRescue

open Python Concurrency

/-! ### Operations -/

instance (store : Store) (fresh : String) : Decidable (store.FreshId fresh) :=
  inferInstanceAs (Decidable (_ ∧ _))

/-- An event id that a table which only ever got such ids does not hold. -/
def Store.unusedId (store : Store) : String :=
  String.ofList (List.replicate (store.rows.length + 1) 'e')

/-- The only outcome of a memory operation, unless it waits. -/
def MemoryOp.execute (tid : Nat) : (op : MemoryOp) → Memory → Option (op.Reply × Memory)
  | .acquire, memory =>
    if memory.workerLock = none then some ((), { memory with workerLock := some tid }) else none
  | .release, memory => some ((), { memory with workerLock := none })
  | .owned caseId, memory =>
    some (decide (caseId ∈ memory.activeCases) || decide (caseId ∈ memory.settledCases), memory)
  | .activate caseId, memory =>
    some ((), { memory with activeCases := memory.activeCases ++ [caseId] })
  | .deactivate caseId completed, memory =>
    some ((),
      { memory with
        activeCases := memory.activeCases.filter (· ≠ caseId)
        settledCases := if completed then memory.settledCases ++ [caseId]
          else memory.settledCases })

/-- What the adapters answer. -/
abbrev AdapterAnswers := (op : AdapterOp) → Except Exn op.Reply

/-- Transactions take place at one time and never fail for reasons of their own. -/
def Op.execute (answers : AdapterAnswers) (actor : Actor Call) : Oracle Op Op.Reply Exn World
  | .store op, world =>
    let fresh := world.store.unusedId
    if world.store.FreshId fresh then
      let answer := (op.run fresh 0 world.store).1.mapError Exn.store
      some (answer,
        (world.record actor (.store op) answer).withStore (op.run fresh 0 world.store).2)
    else none
  | .memory op, world =>
    (op.execute actor.tid (world.memory actor.call.process)).map fun outcome =>
      (.ok outcome.1, (world.record actor (.memory op) (.ok outcome.1)).withMemory
        actor.call.process outcome.2)
  | .adapter op, world => some (answers op, world.record actor (.adapter op) (answers op))

theorem MemoryOp.run_of_execute {tid : Nat} {op : MemoryOp} {memory after : Memory}
    {reply : op.Reply} (h : op.execute tid memory = some (reply, after)) :
    op.run tid memory reply after := by
  cases op with
  | acquire =>
    by_cases hfree : memory.workerLock = none
    · simp only [execute, hfree, if_true, Option.some.injEq, Prod.mk.injEq] at h
      exact ⟨hfree, h.2.symm⟩
    · simp only [execute, hfree, if_false] at h
      cases h
  | owned caseId =>
    obtain ⟨rfl, rfl⟩ := Prod.mk.inj (Option.some.inj h)
    exact ⟨rfl, rfl⟩
  | release | activate | deactivate => exact (Prod.mk.inj (Option.some.inj h)).2.symm

theorem Op.exec_of_execute {environment : Environment} {answers : AdapterAnswers}
    (hanswers : ∀ op, environment.answers op (answers op)) {actor : Actor Call} {op : Op}
    {before after : World} {answer : Except Exn op.Reply}
    (h : op.execute answers actor before = some (answer, after)) :
    op.exec environment actor before answer after := by
  cases op with
  | store op =>
    by_cases hfresh : before.store.FreshId before.store.unusedId
    · simp only [execute, hfresh, if_true, Option.some.injEq, Prod.mk.injEq] at h
      obtain ⟨rfl, rfl⟩ := h
      exact .inl ⟨_, 0, hfresh, rfl, rfl⟩
    · simp only [execute, hfresh, if_false] at h
      cases h
  | memory op =>
    obtain ⟨outcome, hmemory, houtcome⟩ := Option.map_eq_some_iff.1 h
    obtain ⟨rfl, rfl⟩ := Prod.mk.inj houtcome
    exact ⟨_, _, rfl, MemoryOp.run_of_execute hmemory, rfl⟩
  | adapter op =>
    obtain ⟨rfl, rfl⟩ := Prod.mk.inj (Option.some.inj h)
    exact ⟨hanswers op, rfl⟩

/-! ### Sessions -/

/-- A call and what the adapters answer while it is served. -/
structure Visit where
  command : Command
  answers : AdapterAnswers

/-- A call that was served. -/
structure Served where
  call : Call
  path : List (Performed Op Op.Reply Exn World)
  result : Except Exn Response

/-- The calls a pool has served. -/
def served (pool : ServicePool) : List Served :=
  pool.finished.map fun finished => ⟨finished.actor.call, finished.path, finished.result⟩

namespace Service

variable (service : Service)

/-- Serve one call after the other in process zero; `next` calls were served before. -/
def session : List Visit → Nat → World → Option (List Served × World)
  | [], _, world => some ([], world)
  | visit :: visits, next, world =>
    match (service.program visit.command).execute (Op.execute visit.answers ⟨next, ⟨0, visit.command⟩⟩)
        [] world with
    | none => none
    | some (result, path, after) =>
      match session visits (next + 1) after with
      | none => none
      | some (later, final) => some (⟨⟨0, visit.command⟩, path, result⟩ :: later, final)

variable {service}

theorem session_reachable_from {environment : Environment} {visits : List Visit}
    (hcommands : ∀ visit ∈ visits, environment.Starts ⟨0, visit.command⟩)
    (hanswers : ∀ visit ∈ visits, ∀ op, environment.answers op (visit.answers op))
    {pool : ServicePool} (hreach : service.Reachable environment pool) (hquiet : pool.Quiet)
    {calls : List Served} {final : World}
    (h : service.session visits pool.next pool.shared = some (calls, final)) :
    ∃ pool', service.Reachable environment pool' ∧ pool'.Quiet ∧ pool'.shared = final ∧
      served pool' = served pool ++ calls := by
  induction visits generalizing pool calls with
  | nil =>
    obtain ⟨rfl, rfl⟩ := Prod.mk.inj (Option.some.inj h)
    exact ⟨pool, hreach, hquiet, rfl, by simp⟩
  | cons visit visits ih =>
    rw [session] at h
    split at h
    · cases h
    · next result path after hrun =>
      split at h
      · cases h
      · next later final' hlater =>
        obtain ⟨rfl, rfl⟩ := Prod.mk.inj (Option.some.inj h)
        have hstep := hreach.execute hquiet (hcommands visit List.mem_cons_self)
          (fun op before answer after hexec =>
            Op.exec_of_execute (hanswers visit List.mem_cons_self) hexec) hrun
        obtain ⟨pool', hreach', hquiet', hshared, hserved⟩ := ih
          (fun other hother => hcommands other (List.mem_cons_of_mem _ hother))
          (fun other hother => hanswers other (List.mem_cons_of_mem _ hother)) hstep rfl hlater
        refine ⟨pool', hreach', hquiet', hshared, ?_⟩
        rw [hserved]
        simp [served]

/-- The environment forbids no call of process zero and no answer of an adapter. -/
structure Permits (environment : Environment) : Prop where
  process : environment.processes 0
  commands : ∀ command, environment.commands command
  answers : ∀ op answer, environment.answers op answer

/-- A session is a run of the system: what it reaches, if that is decidable, some pool without
running calls has reached. -/
theorem session_reaches {environment : Environment} (hpermits : Permits environment)
    {visits : List Visit} {P : List Served × World → Bool}
    (h : (service.session visits 0 {}).any P = true) :
    ∃ pool, service.Reachable environment pool ∧ pool.Quiet ∧
      P (served pool, pool.shared) = true := by
  obtain ⟨⟨calls, final⟩, hsession, hholds⟩ := (Option.any_eq_true _ _).1 h
  have hinit : service.Reachable environment (System.init {}) := .refl
  obtain ⟨pool, hreach, hquiet, hshared, hserved⟩ := session_reachable_from
    (fun visit _ => ⟨hpermits.process, hpermits.commands visit.command⟩)
    (fun visit _ op => hpermits.answers op (visit.answers op)) hinit rfl hsession
  refine ⟨pool, hreach, hquiet, ?_⟩
  rw [hshared, hserved]
  exact hholds

end Service

/-! ### A deployment that works -/

theorem permits_default : Service.Permits {} := ⟨rfl, fun _ => trivial, fun _ _ => trivial⟩

/-- Anything may happen, except that a transaction fails for reasons of its own. -/
def steadyStore : Environment := { storeFails := False }

theorem permits_steadyStore : Service.Permits steadyStore :=
  ⟨rfl, fun _ => trivial, fun _ _ => trivial⟩

/-- The answer of an integration that works. -/
def succeeded (operation : String) : IntegrationResult :=
  { status := .succeeded, operation, message := "" }

/-- The id of the commit at the tip of the base branch. -/
def tipCommit : String := String.ofList (List.replicate 40 'a')

theorem tipCommit_pattern : commitShaPattern tipCommit := by decide +kernel

/-- Git of a checkout whose base branch holds the repaired model at its tip. -/
def workingGit : List String → List UInt8
  | ["remote", "get-url", "origin"] => encode "https://github.com/girginomer10/datarescue.git"
  | "rev-parse" :: _ => encode tipCommit
  | "show" :: _ => encode (revenueDefault "net_amount")
  | _ => []

/-- Adapters that work, with one proposal that restores the revenue. -/
def workingAnswers : AdapterAnswers
  | .raiseIncident .. => .ok (succeeded "raiseIncident")
  | .resolveIncident _ => .ok (succeeded "resolveIncident")
  | .writeEvidenceReport .. => .ok (succeeded "writeEvidenceReport")
  | .fetchContext _ => .ok
      { integration := succeeded "fetchContext"
        context := [("glossary_definition", .str "net revenue"), ("lineage_current", .bool true)] }
  | .propose .. => .ok
      { candidates := [{ id := "net", sourceField := "net_amount", rationale := "" }]
        integration := succeeded "propose" }
  | .execute .. => .ok
      { semanticVerdict := .match
        evidenceRefs := []
        reconciliation :=
          { totalVariancePct := .finite 0
            rowCountVariancePct := .finite 0
            primaryKeyOverlapPct := .finite 100
            nullRateDeltaPercentagePoints := .finite 0 }
        build := { passed := true } }
  | .createDraft .. => .ok { integration := succeeded "createDraft" }
  | .readText .. => .ok (revenueDefault "amount")
  | .git _ arguments _ _ => .ok (workingGit arguments)
  | .resolvePath path => .ok path
  | .makeTemporaryDirectory .. => .ok "/tmp/verify"
  | .producesLiveEvidence _ | .canBindToCheckout => .ok true
  | .makeDirectory _ | .removeTemporaryDirectory _ | .bindToCheckout .. => .ok ()

/-- A connected service that recomputes its evidence. -/
def connectedService : Service :=
  { settings := { replayMode := false, executionMode := "postgres" }
    sha256 := fun _ => "0123456789abcdef" }

theorem canonicalAssetUrn_length :
    1 ≤ canonicalAssetUrn.length ∧ canonicalAssetUrn.length ≤ 2048 := by decide +kernel

theorem metadataLog_length : "DATAHUB_MCL".length ≤ 64 := by decide

/-- A drift of the canonical asset. -/
def canonicalDrift : SchemaChangeEvent :=
  { entityUrn := canonicalAssetUrn
    beforeFields := []
    afterFields := []
    observedAt := 0
    entityUrn_length := canonicalAssetUrn_length
    source_length := metadataLog_length }

/-- Ingest the drift while everything works. -/
def openingVisit : Visit := ⟨.ingest canonicalDrift, workingAnswers⟩

/-- The request for the merged repair; in postgres mode its evidence is not used. -/
def mergedRequest : VerifyDeploymentRequest where
  mergedCommitSha := tipCommit
  reconciliation :=
    { totalVariancePct := .finite 0
      rowCountVariancePct := .finite 0
      primaryKeyOverlapPct := .finite 100
      nullRateDeltaPercentagePoints := .finite 0 }
  build := { passed := true }
  mergedCommitSha_pattern := tipCommit_pattern
  build_checks := fun _ => Int.le_refl 0

/-- Verify its deployment while everything works. -/
def verifyingVisit : Visit := ⟨.verifyDeployment "DR-01234567" mergedRequest, workingAnswers⟩

/-- The types of the events of a repair that reaches its pull request. -/
def openedTypes : List EventType :=
  [.schemaChangeDetected, .incidentRaised, .contextGathered, .candidatesReady, .validationStarted,
    .candidateAssessed, .patchReady, .evidenceWritten, .prOpened]

theorem openingVisit_opens : (connectedService.session [openingVisit] 0 {}).any (fun outcome =>
    (outcome.2.store.log "DR-01234567").map CaseEvent.eventType = openedTypes) = true := by
  decide +kernel

end DataRescue
