import DataRescue.Workflow.Exclusive
import DataRescue.Workflow.Footprint

/-!
# Proof rules under the worker lock

One rule for each way a thread meets the others: a call without the lock sees some later world and
leaves it alone (`wp_unheld`), `withWorkerLock` enters a world nobody holds and gives it back
(`wp_withWorkerLock`), and a call in between is executed in the world the thread left (`wp_held`).
Gathering evidence under the lock only lengthens the history (`wp_gathers`).
-/

namespace DataRescue

open Python Concurrency

namespace World

/-- The world after a thread of process zero has taken the lock. -/
def locked (world : World) (actor : Actor Call) : World :=
  world.withMemory 0 { world.memory 0 with workerLock := some actor.tid }

def released (world : World) : World :=
  world.withMemory 0 { world.memory 0 with workerLock := none }

/-- The world after calls that only left the service. -/
def recordAll (world : World) (actor : Actor Call) (calls : List (Exchange Op Op.Reply Exn)) : World :=
  { world with
    history := world.history ++
      calls.map fun call => ⟨actor, world.store.currentScope, call.1, call.2⟩ }

variable {world : World} {actor : Actor Call}

theorem locked_heldBy : (world.locked actor).HeldBy actor := by
  rw [HeldBy, locked, withMemory_self]

@[simp] theorem locked_store : (world.locked actor).store = world.store := rfl

@[simp] theorem locked_history : (world.locked actor).history = world.history := rfl

@[simp] theorem released_store : world.released.store = world.store := rfl

@[simp] theorem released_history : world.released.history = world.history := rfl

@[simp] theorem recordAll_store {calls : List (Exchange Op Op.Reply Exn)} :
    (world.recordAll actor calls).store = world.store := rfl

@[simp] theorem recordAll_memory {calls : List (Exchange Op Op.Reply Exn)} :
    (world.recordAll actor calls).memory = world.memory := rfl

end World

section

variable {service : Service} {environment : Environment} {known : World → Prop}
  {proof : Exclusive service environment known} {actor : Actor Call} {world : World} {α : Type}
  {path : List (Performed Op Op.Reply Exn World)}
  {post : Except Exn α → List (Performed Op Op.Reply Exn World) → World → Prop}

/-- Under the lock a call is executed in the world the thread left. -/
theorem wp_held {op : Op} {next : Except Exn op.Reply → Flow α} (hheld : world.HeldBy actor)
    (h : known world → proof.invariant world → ∀ answer after,
      op.exec environment actor world answer after →
      proof.licence actor path op world answer after ∧
        (next answer).wp (proof.logic actor) post (path ++ [⟨op, answer, world⟩]) after) :
    (Program.call op next).wp (proof.logic actor) post path world := by
  rintro before ⟨hrely, hknown, hinvariant⟩ answer after hexec
  obtain rfl := hrely.frozen hheld
  obtain ⟨hlicence, hnext⟩ := h hknown hinvariant answer after hexec
  exact ⟨⟨.inr hheld, hlicence⟩, hnext⟩

/-- Without it, in some later world, which it leaves alone. -/
theorem wp_unheld {op : Op} {next : Except Exn op.Reply → Flow α} (hfree : op.free = true)
    (hacquire : op ≠ .memory .acquire) (hunheld : ¬world.HeldBy actor)
    (h : ∀ before answer, Relies actor world before → known before → proof.invariant before →
      ¬before.HeldBy actor → op.exec environment actor before answer before →
      proof.licence actor path op before answer before ∧
        (next answer).wp (proof.logic actor) post (path ++ [⟨op, answer, before⟩]) before) :
    (Program.call op next).wp (proof.logic actor) post path world := by
  rintro before ⟨hrely, hknown, hinvariant⟩ answer after hexec
  rcases exec_free hfree hexec with rfl | ⟨hop, -⟩
  · obtain ⟨hlicence, hnext⟩ := h after answer hrely hknown hinvariant (hrely.unheld hunheld) hexec
    exact ⟨⟨.inl hfree, hlicence⟩, hnext⟩
  · exact absurd hop hacquire

/-- The critical section. -/
theorem wp_withWorkerLock {body : Flow α} (hprocess : actor.call.process = 0)
    (hlicence : ∀ path op before answer after, op = .acquire ∨ op = .release →
      proof.licence actor path (.memory op) before answer after)
    (h : ∀ before, Relies actor world before → known before → proof.invariant before →
      (before.memory 0).workerLock = none →
      body.wp (proof.logic actor)
        (fun result path after => after.HeldBy actor ∧
          post result (path ++ [⟨.memory .release, .ok (), after⟩]) after.released)
        (path ++ [⟨.memory .acquire, .ok (), before⟩]) (before.locked actor)) :
    (withWorkerLock body).wp (proof.logic actor) post path world := by
  rintro before ⟨hrely, hknown, hinvariant⟩ answer after hexec
  obtain ⟨reply, memory, rfl, ⟨hlock, rfl⟩, rfl⟩ := hexec
  refine ⟨⟨.inl rfl, hlicence _ _ _ _ _ (.inl rfl)⟩, ?_⟩
  rw [hprocess] at hlock ⊢
  change (body.tryFinally fun _ => Flow.memory .release).wp _ _ _ _
  rw [Program.wp_tryFinally]
  refine Program.wp_mono (h before hrely hknown hinvariant hlock) ?_
  rintro result path after ⟨hheld, hpost⟩
  refine wp_held hheld fun _ _ answer final hexec => ⟨hlicence _ _ _ _ _ (.inr rfl), ?_⟩
  obtain ⟨reply, memory, rfl, rfl, rfl⟩ := hexec
  rw [hprocess]
  exact hpost

theorem wp_gathers {flow : Flow α} (huses : flow.Uses Op.GathersEvidence)
    (hheld : world.HeldBy actor)
    (hlicence : ∀ path op before answer after, proof.licence actor path (.adapter op) before answer after)
    (hpost : ∀ calls result more, flow.Trace calls result →
      (∀ performed ∈ more, performed.op.GathersEvidence) →
      post result (path ++ more) (world.recordAll actor calls)) :
    flow.wp (proof.logic actor) post path world := by
  refine Program.wp_of_trace (fun calls path' after => after = world.recordAll actor calls ∧
    ∃ more, path' = path ++ more ∧ ∀ performed ∈ more, performed.op.GathersEvidence) [] huses
    ⟨by simp [World.recordAll], [], by simp⟩ ?_ ?_
  · rintro calls _ _ before op answer after hop ⟨rfl, more, rfl, hmore⟩ hrely hexec
    have hheld : (world.recordAll actor calls).HeldBy actor := hheld
    obtain rfl := hrely.1.frozen hheld
    cases op with
    | store op => cases hop
    | memory op => cases hop
    | adapter op =>
      obtain ⟨-, rfl⟩ := hexec
      refine ⟨⟨.inr hheld, hlicence _ _ _ _ _⟩, ?_, more ++ [_], by rw [List.append_assoc],
        fun performed hperformed => ?_⟩
      · simp [World.recordAll, World.record, Op.recorded]
      · rcases List.mem_append.1 hperformed with hperformed | hperformed
        · exact hmore performed hperformed
        · rw [List.mem_singleton.1 hperformed]
          exact hop
  · rintro calls result path after htrace ⟨rfl, more, rfl, hmore⟩
    exact hpost calls result more htrace hmore

end

end DataRescue
