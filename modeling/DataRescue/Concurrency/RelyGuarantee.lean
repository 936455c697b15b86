import DataRescue.Concurrency.Program
import Mathlib.Logic.Function.Basic
import Mathlib.Logic.Relation

/-!
# Rely and guarantee

Any number of threads run programs over one shared state; a step is one operation of one thread, the
start or the end of a thread, or a crash that removes some threads at once. `Discipline` collects what
has to be checked once per system: the guarantee of a thread is what the others rely on, and every
program is correct under its rely. `Discipline.sound` is the rule that results: in every reachable
pool the invariant holds, every live thread still satisfies the rest of its weakest precondition, and
every finished one its postcondition.
-/

namespace Concurrency

/-- A running call: which thread, and what was called. -/
structure Actor (Call : Type) where
  tid : Nat
  call : Call

section

variable {Op : Type} {Reply : Op → Type} {ε σ Call α : Type}

/-- A live thread. `born` is the number of calls that had finished when it started. -/
structure Thread (Op : Type) (Reply : Op → Type) (ε σ Call α : Type) where
  call : Call
  born : Nat
  path : List (Performed Op Reply ε σ)
  rest : Program Op Reply ε α

/-- A call that has ended. -/
structure Finished (Op : Type) (Reply : Op → Type) (ε σ Call α : Type) where
  actor : Actor Call
  born : Nat
  path : List (Performed Op Reply ε σ)
  result : Except ε α

/-- The shared state, the live threads and the calls that have ended, oldest first. -/
structure Pool (Op : Type) (Reply : Op → Type) (ε σ Call α : Type) where
  shared : σ
  threads : Nat → Option (Thread Op Reply ε σ Call α) := fun _ => none
  finished : List (Finished Op Reply ε σ Call α) := []
  next : Nat := 0

/-- What is called, what the operations do, and which calls a crash kills. -/
structure System (Op : Type) (Reply : Op → Type) (ε σ Call α : Type) where
  program : Call → Program Op Reply ε α
  starts : Call → Prop
  exec : Actor Call → (op : Op) → σ → Except ε (Reply op) → σ → Prop
  crash : σ → (Call → Prop) → σ → Prop

namespace System

variable (system : System Op Reply ε σ Call α)

open Classical in
/-- One step of a pool. -/
inductive Step : Pool Op Reply ε σ Call α → Pool Op Reply ε σ Call α → Prop
  | start {pool : Pool Op Reply ε σ Call α} (call : Call) (hstarts : system.starts call) :
      Step pool { pool with
        threads := Function.update pool.threads pool.next
          (some ⟨call, pool.finished.length, [], system.program call⟩)
        next := pool.next + 1 }
  | perform {pool : Pool Op Reply ε σ Call α} (tid : Nat) {call : Call} {born : Nat}
      {path : List (Performed Op Reply ε σ)} {op : Op}
      {rest : Except ε (Reply op) → Program Op Reply ε α} {answer : Except ε (Reply op)} {after : σ}
      (hthread : pool.threads tid = some ⟨call, born, path, .call op rest⟩)
      (hexec : system.exec ⟨tid, call⟩ op pool.shared answer after) :
      Step pool { pool with
        shared := after
        threads := Function.update pool.threads tid
          (some ⟨call, born, path ++ [⟨op, answer, pool.shared⟩], rest answer⟩) }
  | finish {pool : Pool Op Reply ε σ Call α} (tid : Nat) {call : Call} {born : Nat}
      {path : List (Performed Op Reply ε σ)} {result : Except ε α}
      (hthread : pool.threads tid = some ⟨call, born, path, .done result⟩) :
      Step pool { pool with
        threads := Function.update pool.threads tid none
        finished := pool.finished ++ [⟨⟨tid, call⟩, born, path, result⟩] }
  | crash {pool : Pool Op Reply ε σ Call α} {killed : Call → Prop} {after : σ}
      (hcrash : system.crash pool.shared killed after) :
      Step pool { pool with
        shared := after
        threads := fun tid => (pool.threads tid).filter fun thread => ¬killed thread.call }

/-- The pools a run from an initial one reaches. -/
def Reachable (initial : Pool Op Reply ε σ Call α) : Pool Op Reply ε σ Call α → Prop :=
  Relation.ReflTransGen system.Step initial

/-- A run starts with no thread. -/
def init (shared : σ) : Pool Op Reply ε σ Call α := { shared }

end System

/-! ### The rule -/

/-- The obligations of a rely–guarantee proof of a system, given a property `known` of its reachable
states. -/
structure Discipline (system : System Op Reply ε σ Call α) (known : σ → Prop) where
  invariant : σ → Prop
  /-- The shared state holds no trace of a thread. -/
  fresh : Nat → σ → Prop
  rely : Actor Call → σ → σ → Prop
  guar : Actor Call → List (Performed Op Reply ε σ) → (op : Op) → σ → Except ε (Reply op) → σ → Prop
  post : Actor Call → Except ε α → List (Performed Op Reply ε σ) → σ → Prop
  rely_refl : ∀ actor state, rely actor state state
  rely_trans : ∀ actor first second third, rely actor first second → rely actor second third →
    rely actor first third
  /-- A step under the guarantee keeps the invariant, and the other threads may rely on it. -/
  guar_sound : ∀ actor path op before answer after, system.starts actor.call → known before →
    known after → invariant before → system.exec actor op before answer after →
    guar actor path op before answer after →
    invariant after ∧
      (∀ other : Actor Call, system.starts other.call → other.tid ≠ actor.tid →
        rely other before after) ∧
      ∀ tid, tid ≠ actor.tid → fresh tid before → fresh tid after
  crash_sound : ∀ before killed after, known before → known after → invariant before →
    system.crash before killed after →
    invariant after ∧
      (∀ other : Actor Call, system.starts other.call → ¬killed other.call →
        rely other before after) ∧
      ∀ tid, fresh tid before → fresh tid after
  triple : ∀ (actor : Actor Call) state, system.starts actor.call → known state → invariant state →
    fresh actor.tid state →
    (system.program actor.call).wp
      { rely := fun before after => rely actor before after ∧ known after ∧ invariant after
        exec := system.exec actor
        guar := guar actor }
      (post actor) [] state

namespace Discipline

variable {system : System Op Reply ε σ Call α} {known : σ → Prop}
  (discipline : Discipline system known)

/-- The logic of one thread. -/
def logic (actor : Actor Call) : Logic Op Reply ε σ where
  rely before after := discipline.rely actor before after ∧ known after ∧ discipline.invariant after
  exec := system.exec actor
  guar := discipline.guar actor

/-- One change of the shared state, by a call that keeps its guarantee or by a crash. -/
inductive Change : σ → σ → Prop
  | perform {actor : Actor Call} {path : List (Performed Op Reply ε σ)} {op : Op} {before after : σ}
      {answer : Except ε (Reply op)} (hstarts : system.starts actor.call)
      (hknown : known before) (hknown' : known after) (hinvariant : discipline.invariant before)
      (hexec : system.exec actor op before answer after)
      (hguar : discipline.guar actor path op before answer after) : Change before after
  | crash {before after : σ} {killed : Call → Prop} (hknown : known before) (hknown' : known after)
      (hinvariant : discipline.invariant before) (hcrash : system.crash before killed after) :
      Change before after

/-- A state and one that a run reaches from it. -/
def Later : σ → σ → Prop := Relation.ReflTransGen discipline.Change

/-- What the rule maintains of the calls a thread has made: their states are in the past, and come
after the end of every call that had ended when the thread started. -/
structure Recorded (shared : σ) (ended : List (Finished Op Reply ε σ Call α)) (born : Nat)
    (path : List (Performed Op Reply ε σ)) : Prop where
  bounded : born ≤ ended.length
  later : ∀ performed ∈ path, discipline.Later performed.before shared
  past : ∀ performed ∈ path, ∀ earlier ∈ ended.take born, ∃ state,
    discipline.Later state performed.before ∧
      discipline.post earlier.actor earlier.result earlier.path state

/-- What the rule maintains of a live thread: the rest of its program is correct from some state
that only relied-on changes separate from the current one. -/
structure Alive (shared : σ) (ended : List (Finished Op Reply ε σ Call α)) (next : Nat) (tid : Nat)
    (thread : Thread Op Reply ε σ Call α) : Prop where
  fresh : tid < next
  unique : ∀ finished ∈ ended, finished.actor.tid ≠ tid
  starts : system.starts thread.call
  recorded : discipline.Recorded shared ended thread.born thread.path
  rest : ∃ state, discipline.Later state shared ∧ discipline.rely ⟨tid, thread.call⟩ state shared ∧
    thread.rest.wp (discipline.logic ⟨tid, thread.call⟩) (discipline.post ⟨tid, thread.call⟩)
      thread.path state

/-- What the rule maintains of a call that has ended. -/
structure Ended (shared : σ) (ended : List (Finished Op Reply ε σ Call α)) (next : Nat)
    (finished : Finished Op Reply ε σ Call α) : Prop where
  fresh : finished.actor.tid < next
  starts : system.starts finished.actor.call
  recorded : discipline.Recorded shared ended finished.born finished.path
  result : ∃ state, discipline.Later state shared ∧
    discipline.post finished.actor finished.result finished.path state

/-- What the rule maintains of a pool. -/
structure Sound (initial : σ) (pool : Pool Op Reply ε σ Call α) : Prop where
  invariant : discipline.invariant pool.shared
  later : discipline.Later initial pool.shared
  fresh : ∀ tid, pool.next ≤ tid → discipline.fresh tid pool.shared
  unique : (pool.finished.map (·.actor.tid)).Nodup
  threads : ∀ tid thread, pool.threads tid = some thread →
    discipline.Alive pool.shared pool.finished pool.next tid thread
  finished : ∀ finished ∈ pool.finished,
    discipline.Ended pool.shared pool.finished pool.next finished

variable {discipline} {initial shared after : σ} {next tid : Nat}
  {thread : Thread Op Reply ε σ Call α} {finished : Finished Op Reply ε σ Call α}

theorem Recorded.step {ended : List (Finished Op Reply ε σ Call α)} {born : Nat}
    {path : List (Performed Op Reply ε σ)} (h : discipline.Recorded shared ended born path)
    (hchange : discipline.Change shared after) : discipline.Recorded after ended born path :=
  ⟨h.bounded, fun performed hperformed => (h.later performed hperformed).tail hchange, h.past⟩

theorem Recorded.finish {ended : List (Finished Op Reply ε σ Call α)} {born : Nat}
    {path : List (Performed Op Reply ε σ)} (h : discipline.Recorded shared ended born path)
    (finished : Finished Op Reply ε σ Call α) :
    discipline.Recorded shared (ended ++ [finished]) born path where
  bounded := Nat.le_trans h.bounded (by simp)
  later := h.later
  past performed hperformed earlier hearlier := by
    rw [List.take_append_of_le_length h.bounded] at hearlier
    exact h.past performed hperformed earlier hearlier

theorem Alive.step {ended : List (Finished Op Reply ε σ Call α)}
    (h : discipline.Alive shared ended next tid thread) (hchange : discipline.Change shared after)
    (hrely : discipline.rely ⟨tid, thread.call⟩ shared after) :
    discipline.Alive after ended next tid thread := by
  obtain ⟨state, hlater, hstate, hwp⟩ := h.rest
  exact ⟨h.fresh, h.unique, h.starts, h.recorded.step hchange, state, hlater.tail hchange,
    discipline.rely_trans _ _ _ _ hstate hrely, hwp⟩

theorem Ended.step {ended : List (Finished Op Reply ε σ Call α)}
    (h : discipline.Ended shared ended next finished) (hchange : discipline.Change shared after) :
    discipline.Ended after ended next finished := by
  obtain ⟨state, hlater, hpost⟩ := h.result
  exact ⟨h.fresh, h.starts, h.recorded.step hchange, state, hlater.tail hchange, hpost⟩

theorem update_some {threads : Nat → Option (Thread Op Reply ε σ Call α)} {other : Nat}
    {value : Option (Thread Op Reply ε σ Call α)}
    (h : Function.update threads tid value other = some thread) :
    (other = tid ∧ value = some thread) ∨ (other ≠ tid ∧ threads other = some thread) := by
  rcases eq_or_ne other tid with rfl | hne
  · exact .inl ⟨rfl, by rwa [Function.update_self] at h⟩
  · exact .inr ⟨hne, by rwa [Function.update_of_ne hne] at h⟩

/-- The rely–guarantee rule: one step of a pool. -/
theorem Sound.step {pool pool' : Pool Op Reply ε σ Call α} (h : discipline.Sound initial pool)
    (hknown : known pool.shared) (hknown' : known pool'.shared) (hstep : system.Step pool pool') :
    discipline.Sound initial pool' := by
  cases hstep with
  | start call hstarts =>
    refine ⟨h.invariant, h.later, fun tid htid => h.fresh tid (Nat.le_of_succ_le htid), h.unique,
      fun tid thread hthread => ?_, fun finished hfinished => ?_⟩
    · rcases update_some hthread with ⟨rfl, hnew⟩ | ⟨-, hold⟩
      · obtain rfl := Option.some.inj hnew
        exact ⟨Nat.lt_succ_self _,
          fun finished hfinished => Nat.ne_of_lt (h.finished finished hfinished).fresh, hstarts,
          ⟨Nat.le_refl _, nofun, nofun⟩, pool.shared, .refl, discipline.rely_refl _ _,
          discipline.triple ⟨pool.next, call⟩ pool.shared hstarts hknown h.invariant
            (h.fresh _ (Nat.le_refl _))⟩
      · have halive := h.threads tid thread hold
        exact ⟨Nat.lt_succ_of_lt halive.fresh, halive.unique, halive.starts, halive.recorded,
          halive.rest⟩
    · have hended := h.finished finished hfinished
      exact ⟨Nat.lt_succ_of_lt hended.fresh, hended.starts, hended.recorded, hended.result⟩
  | @perform tid call born path op rest answer after hthread hexec =>
    have halive := h.threads tid _ hthread
    obtain ⟨state, -, hrely, hwp⟩ := halive.rest
    obtain ⟨hguar, hnext⟩ := hwp pool.shared ⟨hrely, hknown, h.invariant⟩ answer after hexec
    obtain ⟨hinvariant, hothers, hfresh⟩ := discipline.guar_sound ⟨tid, call⟩ path op pool.shared answer
      after halive.starts hknown hknown' h.invariant hexec hguar
    have hchange : discipline.Change pool.shared after :=
      .perform halive.starts hknown hknown' h.invariant hexec hguar
    refine ⟨hinvariant, h.later.tail hchange,
      fun other hother => hfresh other (Nat.ne_of_gt (Nat.lt_of_lt_of_le halive.fresh hother))
        (h.fresh other hother), h.unique, fun other thread hother => ?_,
      fun finished hfinished => (h.finished finished hfinished).step hchange⟩
    · rcases update_some hother with ⟨rfl, hnew⟩ | ⟨hne, hold⟩
      · obtain rfl := Option.some.inj hnew
        refine ⟨halive.fresh, halive.unique, halive.starts, ⟨halive.recorded.bounded, ?_, ?_⟩, after,
          .refl, discipline.rely_refl _ _, hnext⟩
        · intro performed hperformed
          rcases List.mem_append.1 hperformed with hperformed | hperformed
          · exact (halive.recorded.later performed hperformed).tail hchange
          · rw [List.mem_singleton.1 hperformed]
            exact .single hchange
        · intro performed hperformed earlier hearlier
          rcases List.mem_append.1 hperformed with hperformed | hperformed
          · exact halive.recorded.past performed hperformed earlier hearlier
          · rw [List.mem_singleton.1 hperformed]
            exact (h.finished earlier (List.mem_of_mem_take hearlier)).result
      · have hother := h.threads other thread hold
        exact hother.step hchange (hothers ⟨other, thread.call⟩ hother.starts hne)
  | @finish tid call born path result hthread =>
    have halive := h.threads tid _ hthread
    obtain ⟨state, hlater, -, hwp⟩ := halive.rest
    refine ⟨h.invariant, h.later, h.fresh, ?_, fun other thread hother => ?_,
      fun finished hfinished => ?_⟩
    · rw [List.map_append, List.nodup_append]
      refine ⟨h.unique, by simp, fun first hfirst second hsecond => ?_⟩
      obtain ⟨finished, hfinished, rfl⟩ := List.mem_map.1 hfirst
      rw [List.map_singleton, List.mem_singleton] at hsecond
      exact hsecond ▸ halive.unique finished hfinished
    · rcases update_some hother with ⟨-, hnone⟩ | ⟨hne, hold⟩
      · cases hnone
      · have hother := h.threads other thread hold
        refine ⟨hother.fresh, fun finished hfinished => ?_, hother.starts, hother.recorded.finish _,
          hother.rest⟩
        rcases List.mem_append.1 hfinished with hfinished | hfinished
        · exact hother.unique finished hfinished
        · rw [List.mem_singleton.1 hfinished]
          exact hne.symm
    · rcases List.mem_append.1 hfinished with hfinished | hfinished
      · have hended := h.finished finished hfinished
        exact ⟨hended.fresh, hended.starts, hended.recorded.finish _, hended.result⟩
      · rw [List.mem_singleton.1 hfinished]
        exact ⟨halive.fresh, halive.starts, halive.recorded.finish _, state, hlater, hwp⟩
  | @crash killed after hcrash =>
    obtain ⟨hinvariant, hothers, hfresh⟩ :=
      discipline.crash_sound pool.shared killed after hknown hknown' h.invariant hcrash
    have hchange : discipline.Change pool.shared after := .crash hknown hknown' h.invariant hcrash
    refine ⟨hinvariant, h.later.tail hchange, fun tid htid => hfresh tid (h.fresh tid htid),
      h.unique, fun tid thread hthread => ?_,
      fun finished hfinished => (h.finished finished hfinished).step hchange⟩
    obtain ⟨hold, hsurvives⟩ := Option.filter_eq_some_iff.1 hthread
    have halive := h.threads tid thread hold
    exact halive.step hchange (hothers ⟨tid, thread.call⟩ halive.starts (by simpa using hsurvives))

/-- The rely–guarantee rule: every reachable pool. -/
theorem sound (hinitial : discipline.invariant initial)
    (hfresh : ∀ tid, discipline.fresh tid initial)
    (hknown : ∀ pool, system.Reachable (System.init initial) pool → known pool.shared)
    {pool : Pool Op Reply ε σ Call α} (h : system.Reachable (System.init initial) pool) :
    discipline.Sound initial pool := by
  induction h with
  | refl => exact ⟨hinitial, .refl, fun tid _ => hfresh tid, .nil, nofun, nofun⟩
  | tail hreach hstep ih => exact ih.step (hknown _ hreach) (hknown _ (hreach.tail hstep)) hstep

end Discipline

end

end Concurrency
