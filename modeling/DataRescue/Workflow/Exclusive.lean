import DataRescue.Api.CaseLog
import DataRescue.Workflow.System

/-!
# The worker lock

In a deployment with one process every program changes the world only while its thread holds the
worker lock. `Exclusive` is the proof rule that follows: what others do between two steps of the
holder is nothing at all, and to everyone else the tables only grow. The rules at the end execute one
operation each, under the lock (`…_held`) or without it.
-/

namespace DataRescue

open Python Concurrency

variable {environment : Environment} {service : Service} {actor other : Actor Call}
  {world world' : World}

/-! ### Transactions -/

/-- The transactions that only read. -/
def StoreOp.reads : StoreOp → Bool
  | .append .. | .reset _ => false
  | _ => true

theorem StoreOp.run_reads {op : StoreOp} (h : op.reads = true) (fresh : String) (now : Timestamp)
    (store : Store) : (op.run fresh now store).2 = store := by
  cases op <;> first | rfl | cases h

theorem StoreOp.run_rows (op : StoreOp) (fresh : String) (now : Timestamp) (store : Store) :
    store.rows <+: (op.run fresh now store).2.rows := by
  cases op with
  | append caseId state body dedupKey eventId =>
    simp only [run]
    cases h : store.append fresh now caseId state body dedupKey eventId with
    | error error => exact List.prefix_rfl
    | ok written => exact ⟨_, (Store.append_ok.1 h).2.1.rows.symm⟩
  | reset reason =>
    simp only [run]
    cases h : store.reset fresh now reason with
    | error error => exact List.prefix_rfl
    | ok written => exact ⟨_, (Store.reset_ok h).1.rows.symm⟩
  | _ => exact List.prefix_rfl

/-- The operations a thread may call without the lock. -/
def Op.free : Op → Bool
  | .store op => op.reads
  | .memory .acquire | .memory (.owned _) => true
  | _ => false

/-- A thread holds the lock of the process. -/
def World.HeldBy (world : World) (actor : Actor Call) : Prop :=
  (world.memory 0).workerLock = some actor.tid

theorem exec_history {op : Op} {answer : Except Exn op.Reply}
    (h : op.exec environment actor world answer world') :
    world'.history = (world.record actor op answer).history := by
  cases op with
  | store op =>
    rcases h with ⟨fresh, now, -, -, rfl⟩ | ⟨-, -, rfl⟩ <;> rfl
  | memory op =>
    obtain ⟨reply, memory, rfl, -, rfl⟩ := h
    rfl
  | adapter op =>
    obtain ⟨-, rfl⟩ := h
    rfl

theorem exec_rows {op : Op} {answer : Except Exn op.Reply}
    (h : op.exec environment actor world answer world') :
    world.store.rows <+: world'.store.rows := by
  cases op with
  | store op =>
    rcases h with ⟨fresh, now, -, -, rfl⟩ | ⟨-, -, rfl⟩
    · exact op.run_rows fresh now world.store
    · exact List.prefix_rfl
  | memory op =>
    obtain ⟨reply, memory, rfl, -, rfl⟩ := h
    exact List.prefix_rfl
  | adapter op =>
    obtain ⟨-, rfl⟩ := h
    exact List.prefix_rfl

theorem history_prefix (op : Op) (answer : Except Exn op.Reply) :
    world.history <+: (world.record actor op answer).history := by
  unfold World.record
  split
  · exact List.prefix_append ..
  · exact List.prefix_rfl

theorem mem_record {op : Op} {answer : Except Exn op.Reply} {effect : Effect}
    (h : effect ∈ (world.record actor op answer).history) :
    effect ∈ world.history ∨ effect = ⟨actor, world.store.currentScope, op, answer⟩ := by
  unfold World.record at h
  dsimp only at h
  split at h
  · exact (List.mem_append.1 h).imp_right List.mem_singleton.1
  · exact .inl h

theorem exec_free {op : Op} {answer : Except Exn op.Reply} (hfree : op.free = true)
    (h : op.exec environment actor world answer world') :
    world' = world ∨
      (op = .memory .acquire ∧ (world.memory actor.call.process).workerLock = none ∧
        world' = world.withMemory actor.call.process
          { world.memory actor.call.process with workerLock := some actor.tid }) := by
  cases op with
  | store op =>
    have hrecord : ∀ answer, world.record actor (.store op) answer = world := by
      intro answer
      cases op <;> first | rfl | cases hfree
    rcases h with ⟨fresh, now, -, -, rfl⟩ | ⟨-, -, rfl⟩
    · rw [hrecord, StoreOp.run_reads hfree]
      exact .inl rfl
    · exact .inl (hrecord _)
  | memory op =>
    obtain ⟨reply, memory, rfl, hrun, rfl⟩ := h
    cases op with
    | acquire =>
      obtain ⟨hlock, rfl⟩ := hrun
      exact .inr ⟨rfl, hlock, rfl⟩
    | owned caseId =>
      obtain ⟨-, rfl⟩ := hrun
      exact .inl (by simp [World.withMemory, World.record, Op.recorded])
    | _ => cases hfree
  | adapter op => cases hfree

/-! ### The discipline -/

/-- What a thread relies on: while it holds the lock nothing changes, and nobody gives it the lock or
acts under its name. -/
structure Relies (actor : Actor Call) (world world' : World) : Prop where
  frozen : world.HeldBy actor → world' = world
  unheld : ¬world.HeldBy actor → ¬world'.HeldBy actor
  rows : world.store.rows <+: world'.store.rows
  history : world.history <+: world'.history
  mine : ∀ effect ∈ world'.history, effect.actor.tid = actor.tid → effect ∈ world.history

theorem Relies.refl (actor : Actor Call) (world : World) : Relies actor world world :=
  ⟨fun _ => rfl, id, List.prefix_rfl, List.prefix_rfl, fun _ h _ => h⟩

theorem Relies.trans {world'' : World} (h : Relies actor world world')
    (h' : Relies actor world' world'') : Relies actor world world'' where
  frozen hheld := by
    have heq := h.frozen hheld
    rw [h'.frozen (heq ▸ hheld), heq]
  unheld hheld := h'.unheld (h.unheld hheld)
  rows := h.rows.trans h'.rows
  history := h.history.trans h'.history
  mine effect heffect htid := h.mine effect (h'.mine effect heffect htid) htid

/-- The worker lock keeps the promise: every step that needs it is invisible to the other holders. -/
theorem exec_relies {op : Op} {answer : Except Exn op.Reply} (hprocess : actor.call.process = 0)
    (hlock : op.free = true ∨ world.HeldBy actor) (hne : other.tid ≠ actor.tid)
    (h : op.exec environment actor world answer world') : Relies other world world' := by
  have hrows := exec_rows h
  have hhistory : world.history <+: world'.history := by
    rw [exec_history h]
    exact history_prefix op answer
  have hmine : ∀ effect ∈ world'.history, effect.actor.tid = other.tid → effect ∈ world.history := by
    intro effect heffect htid
    rw [exec_history h] at heffect
    refine (mem_record heffect).resolve_right ?_
    rintro rfl
    exact hne htid.symm
  by_cases hfree : op.free = true
  · rcases exec_free hfree h with rfl | ⟨-, hnone, rfl⟩
    · exact .refl ..
    · rw [hprocess] at hnone
      refine ⟨fun hheld => ?_, fun _ hheld => ?_, hrows, hhistory, hmine⟩
      · rw [World.HeldBy, hnone] at hheld
        cases hheld
      · rw [hprocess, World.HeldBy, World.withMemory_self] at hheld
        exact hne (Option.some.inj hheld).symm
  · have hheld := hlock.resolve_left hfree
    have hholder : ¬world.HeldBy other := by
      intro hother
      exact hne (Option.some.inj (hother.symm.trans hheld))
    refine ⟨fun hother => absurd hother hholder, fun _ hother => ?_, hrows, hhistory, hmine⟩
    have hafter : (world'.memory 0).workerLock = some actor.tid ∨
        (world'.memory 0).workerLock = none := by
      cases op with
      | store op =>
        rcases h with ⟨fresh, now, -, -, rfl⟩ | ⟨-, -, rfl⟩ <;> exact .inl hheld
      | memory op =>
        obtain ⟨reply, memory, rfl, hrun, rfl⟩ := h
        rw [hprocess] at hrun ⊢
        rw [World.withMemory_self]
        cases op with
        | acquire => cases hfree rfl
        | owned caseId => cases hfree rfl
        | release => obtain rfl := hrun; exact .inr rfl
        | activate caseId => obtain rfl := hrun; exact .inl hheld
        | deactivate caseId completed => obtain rfl := hrun; exact .inl hheld
      | adapter op =>
        obtain ⟨-, rfl⟩ := h
        exact .inl hheld
    rcases hafter with hafter | hafter <;> rw [World.HeldBy, hafter] at hother
    · exact hne (Option.some.inj hother).symm
    · cases hother

/-- Nothing in the world mentions the thread. -/
structure World.Fresh (world : World) (tid : Nat) : Prop where
  lock : (world.memory 0).workerLock ≠ some tid
  history : ∀ effect ∈ world.history, effect.actor.tid ≠ tid

/-- An `Environment` with one process, numbered zero. -/
def Environment.Single (environment : Environment) : Prop :=
  ∀ process, environment.processes process → process = 0

/-- A rely–guarantee proof under the worker lock: besides the lock, each step keeps `licence`, from
which the invariant follows. -/
structure Exclusive (service : Service) (environment : Environment) (known : World → Prop) where
  invariant : World → Prop
  licence : Actor Call → List (Performed Op Op.Reply Exn World) → (op : Op) → World →
    Except Exn op.Reply → World → Prop
  post : Actor Call → Except Exn Response → List (Performed Op Op.Reply Exn World) → World → Prop
  preserved : ∀ actor path op before answer after, environment.Starts actor.call → known before →
    known after → invariant before → (op.free = true ∨ before.HeldBy actor) →
    op.exec environment actor before answer after →
    licence actor path op before answer after → invariant after
  crash : ∀ before killed after, known before → known after → invariant before →
    environment.crash before killed after → invariant after

namespace Exclusive

variable {known : World → Prop} (proof : Exclusive service environment known)

/-- The logic of a thread. -/
def logic (actor : Actor Call) : Logic Op Op.Reply Exn World where
  rely before after := Relies actor before after ∧ known after ∧ proof.invariant after
  exec := Op.exec environment actor
  guar path op before answer after := (op.free = true ∨ before.HeldBy actor) ∧
    proof.licence actor path op before answer after

/-- The discipline of a system with one process. -/
def discipline (hsingle : environment.Single)
    (triple : ∀ (actor : Actor Call) world, environment.Starts actor.call →
      actor.call.process = 0 → known world → proof.invariant world → world.Fresh actor.tid →
      (service.program actor.call.command).wp (proof.logic actor) (proof.post actor) [] world) :
    Discipline (service.system environment) known where
  invariant := proof.invariant
  fresh tid world := world.Fresh tid
  rely := Relies
  guar actor path op before answer after := (op.free = true ∨ before.HeldBy actor) ∧
    proof.licence actor path op before answer after
  post := proof.post
  rely_refl := Relies.refl
  rely_trans _ _ _ _ := Relies.trans
  guar_sound actor path op before answer after hstarts hknown hknown' hinvariant hexec hguar := by
    have hprocess := hsingle _ hstarts.process
    refine ⟨proof.preserved actor path op before answer after hstarts hknown hknown' hinvariant
      hguar.1 hexec hguar.2, fun other _ hne => exec_relies hprocess hguar.1 hne hexec,
      fun tid hne hfresh => ⟨fun hlock => ?_, fun effect heffect => ?_⟩⟩
    · have hrelies : Relies ⟨tid, actor.call⟩ before after :=
        exec_relies hprocess hguar.1 hne hexec
      exact hrelies.unheld hfresh.lock hlock
    · rw [exec_history hexec] at heffect
      rcases mem_record heffect with hold | rfl
      · exact hfresh.history effect hold
      · exact hne.symm
  crash_sound before killed after hknown hknown' hinvariant hcrash := by
    refine ⟨proof.crash before killed after hknown hknown' hinvariant hcrash, ?_, ?_⟩
    · obtain ⟨-, process, hprocess, rfl, rfl⟩ := hcrash
      intro other hstarts hsurvives
      exact absurd ((hsingle _ hstarts.process).trans (hsingle _ hprocess).symm) hsurvives
    · obtain ⟨-, process, hprocess, rfl, rfl⟩ := hcrash
      obtain rfl := hsingle _ hprocess
      intro tid hfresh
      exact ⟨by rw [World.withMemory_self]; simp, hfresh.history⟩
  triple actor world hstarts hknown hinvariant hfresh :=
    triple actor world hstarts (hsingle _ hstarts.process) hknown hinvariant hfresh

end Exclusive

end DataRescue
