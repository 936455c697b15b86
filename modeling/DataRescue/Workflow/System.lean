import DataRescue.Concurrency.RelyGuarantee
import DataRescue.Workflow.Verify

/-!
# The running system

The shared world of a deployment: the event store, the memory of every API process, and the history
of the calls that changed something or left the service. Threads of any number of processes run the
service's programs; each transaction, lock operation and adapter call is one step. A crash kills a
process and empties its memory; a later call of that process is the restarted one.

An `Environment` says what the parts outside the service may do.
-/

namespace DataRescue

open Python Concurrency

/-! ### Calls -/

/-- A request to the service. -/
inductive Command where
  | ingest (event : SchemaChangeEvent)
  | verifyDeployment (caseId : String) (request : VerifyDeploymentRequest)
  | reset (reason : String)
  deriving DecidableEq

/-- A request and the API process that serves it. -/
structure Call where
  process : Nat
  command : Command
  deriving DecidableEq

inductive Response where
  | ingested (response : SchemaChangeResponse)
  | verified (case : CaseSnapshot)
  | reset (sequence : Nat)
  deriving DecidableEq

namespace Service

/-- What a request runs. -/
def program (service : Service) : Command → Flow Response
  | .ingest event => do
    let response ← service.ingest event
    pure (.ingested response)
  | .verifyDeployment caseId request => do
    let case ← service.verifyDeployment caseId request
    pure (.verified case)
  | .reset reason => do
    let sequence ← resetService reason
    pure (.reset sequence)

end Service

/-! ### The world -/

/-- `_worker_lock`, `_active_cases` and `_settled_cases`; the lock remembers its thread. The
incarnation counts the restarts of the process. -/
structure Memory where
  incarnation : Nat := 0
  workerLock : Option Nat := none
  activeCases : List String := []
  settledCases : List String := []
  deriving DecidableEq

/-- A recorded call: who made it, in which reset scope, and its answer. -/
structure Effect where
  actor : Actor Call
  scope : Nat
  op : Op
  answer : Except Exn op.Reply

structure World where
  store : Store := .empty
  memory : Nat → Memory := fun _ => {}
  history : List Effect := []

/-- Whether a call is recorded: reads, and the lock itself, are not. -/
def Op.recorded : Op → Bool
  | .store (.append ..) | .store (.reset _) => true
  | .store _ => false
  | .memory (.activate _) | .memory (.deactivate ..) => true
  | .memory _ => false
  | .adapter _ => true

namespace World

variable (world : World)

/-- Add a call to the history if it is of the recorded kind. -/
def record (actor : Actor Call) (op : Op) (answer : Except Exn op.Reply) : World :=
  { world with
    history := if op.recorded then world.history ++ [⟨actor, world.store.currentScope, op, answer⟩]
      else world.history }

def withStore (store : Store) : World := { world with store }

def withMemory (process : Nat) (memory : Memory) : World :=
  { world with memory := Function.update world.memory process memory }

@[simp] theorem record_store (actor : Actor Call) (op : Op) (answer : Except Exn op.Reply) :
    (world.record actor op answer).store = world.store := rfl

@[simp] theorem record_memory (actor : Actor Call) (op : Op) (answer : Except Exn op.Reply) :
    (world.record actor op answer).memory = world.memory := rfl

@[simp] theorem withStore_store (store : Store) : (world.withStore store).store = store := rfl

@[simp] theorem withStore_memory (store : Store) : (world.withStore store).memory = world.memory :=
  rfl

@[simp] theorem withStore_history (store : Store) :
    (world.withStore store).history = world.history := rfl

@[simp] theorem withMemory_store (process : Nat) (memory : Memory) :
    (world.withMemory process memory).store = world.store := rfl

@[simp] theorem withMemory_history (process : Nat) (memory : Memory) :
    (world.withMemory process memory).history = world.history := rfl

@[simp] theorem withMemory_self (process : Nat) (memory : Memory) :
    (world.withMemory process memory).memory process = memory := Function.update_self ..

end World

/-! ### Execution -/

/-- What lies outside the service: the answers of the adapters, whether a transaction may fail for
reasons of its own, which processes there are, whether they may be killed, and what is called. -/
structure Environment where
  answers : (op : AdapterOp) → Except Exn op.Reply → Prop := fun _ _ => True
  storeFails : Prop := True
  processes : Nat → Prop := fun process => process = 0
  crashes : Prop := True
  commands : Command → Prop := fun _ => True

/-- The calls that can occur. -/
structure Environment.Starts (environment : Environment) (call : Call) : Prop where
  process : environment.processes call.process
  command : environment.commands call.command

/-- A generated event id is new. -/
def Store.FreshId (store : Store) (fresh : String) : Prop :=
  fresh ≠ "" ∧ ∀ row ∈ store.rows, row.eventId ≠ fresh

/-- Execute a memory operation of a thread on the memory of its process; acquiring waits for the
lock. -/
def MemoryOp.run (tid : Nat) : (op : MemoryOp) → Memory → op.Reply → Memory → Prop
  | .acquire, memory, _, after =>
    memory.workerLock = none ∧ after = { memory with workerLock := some tid }
  | .release, memory, _, after => after = { memory with workerLock := none }
  | .owned caseId, memory, answer, after =>
    answer = (decide (caseId ∈ memory.activeCases) || decide (caseId ∈ memory.settledCases)) ∧
      after = memory
  | .activate caseId, memory, _, after =>
    after = { memory with activeCases := memory.activeCases ++ [caseId] }
  | .deactivate caseId completed, memory, _, after =>
    after =
      { memory with
        activeCases := memory.activeCases.filter (· ≠ caseId)
        settledCases := if completed then memory.settledCases ++ [caseId]
          else memory.settledCases }

/-- Execute an operation. A transaction that fails for reasons of its own changes nothing. -/
def Op.exec (environment : Environment) (actor : Actor Call) :
    (op : Op) → World → Except Exn op.Reply → World → Prop
  | .store op, world, answer, after =>
    (∃ fresh now, world.store.FreshId fresh ∧
      answer = (op.run fresh now world.store).1.mapError .store ∧
      after = (world.record actor (.store op) answer).withStore (op.run fresh now world.store).2) ∨
    (environment.storeFails ∧ (∃ typeName, answer = .error (.external .other typeName)) ∧
      after = world.record actor (.store op) answer)
  | .memory op, world, answer, after =>
    ∃ reply memory, answer = .ok reply ∧
      op.run actor.tid (world.memory actor.call.process) reply memory ∧
      after = (world.record actor (.memory op) answer).withMemory actor.call.process memory
  | .adapter op, world, answer, after =>
    environment.answers op answer ∧ after = world.record actor (.adapter op) answer

/-- A crash kills the calls of one process; the process starts again with an empty memory. -/
def Environment.crash (environment : Environment) (world : World) (killed : Call → Prop)
    (after : World) : Prop :=
  environment.crashes ∧ ∃ process, environment.processes process ∧
    killed = (fun call => call.process = process) ∧
    after = world.withMemory process { incarnation := (world.memory process).incarnation + 1 }

/-- The system of a service in an environment. -/
def Service.system (service : Service) (environment : Environment) :
    System Op Op.Reply Exn World Call Response where
  program call := service.program call.command
  starts := environment.Starts
  exec := Op.exec environment
  crash := environment.crash

/-- A pool of the service. -/
abbrev ServicePool := Pool Op Op.Reply Exn World Call Response

/-- The pools reachable from an empty database. -/
def Service.Reachable (service : Service) (environment : Environment) (pool : ServicePool) : Prop :=
  (service.system environment).Reachable (System.init {}) pool

end DataRescue
