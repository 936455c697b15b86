import DataRescue.Concurrency.RelyGuarantee

/-!
# Executions

An oracle that chooses one admissible answer for each operation turns a program into a computable
function of the state. Executing it in a pool without other threads is one of the pool's runs. In every
run, the calls of a thread are a trace of its program.
-/

namespace Concurrency

section

variable {Op : Type} {Reply : Op → Type} {ε σ Call α β : Type}

/-- Answers operations, unless they would wait. -/
abbrev Oracle (Op : Type) (Reply : Op → Type) (ε σ : Type) :=
  (op : Op) → σ → Option (Except ε (Reply op) × σ)

/-- Execute the rest of a program, after the calls of a path, with the answers of the oracle. -/
def Program.execute (oracle : Oracle Op Reply ε σ) : Program Op Reply ε β →
    List (Performed Op Reply ε σ) → σ → Option (Except ε β × List (Performed Op Reply ε σ) × σ)
  | .done result, path, state => some (result, path, state)
  | .call op next, path, state =>
    match oracle op state with
    | none => none
    | some (answer, after) => (next answer).execute oracle (path ++ [⟨op, answer, state⟩]) after

variable {system : System Op Reply ε σ Call α} {initial : Pool Op Reply ε σ Call α}
  {oracle : Oracle Op Reply ε σ} {result : Except ε α} {after : σ}
  {path path' : List (Performed Op Reply ε σ)}

/-- The oracle answers as the operations of the system may. -/
def System.Admits (system : System Op Reply ε σ Call α) (actor : Actor Call)
    (oracle : Oracle Op Reply ε σ) : Prop :=
  ∀ op before answer after, oracle op before = some (answer, after) →
    system.exec actor op before answer after

theorem System.Admits.execute {actor : Actor Call} (hadmits : system.Admits actor oracle)
    {program : Program Op Reply ε α} {pool : Pool Op Reply ε σ Call α} {born : Nat}
    (hreach : system.Reachable initial pool)
    (hthread : pool.threads actor.tid = some ⟨actor.call, born, path, program⟩)
    (hrun : program.execute oracle path pool.shared = some (result, path', after)) :
    system.Reachable initial { pool with
      shared := after
      threads := Function.update pool.threads actor.tid
        (some ⟨actor.call, born, path', .done result⟩) } := by
  induction program generalizing pool path with
  | done ended =>
    obtain ⟨rfl, hrest⟩ := Prod.mk.inj (Option.some.inj hrun)
    obtain ⟨rfl, rfl⟩ := Prod.mk.inj hrest
    rw [← hthread, Function.update_eq_self]
    exact hreach
  | call op next ih =>
    rw [Program.execute] at hrun
    cases hanswer : oracle op pool.shared with
    | none =>
      rw [hanswer] at hrun
      cases hrun
    | some outcome =>
      obtain ⟨answer, stepped⟩ := outcome
      rw [hanswer] at hrun
      have hstep := System.Step.perform actor.tid hthread (hadmits op _ _ _ hanswer)
      have hreach' := ih answer (hreach.tail hstep) (Function.update_self ..) hrun
      simpa only [Function.update_idem] using hreach'

/-- A pool in which no call is running. -/
def Pool.Quiet (pool : Pool Op Reply ε σ Call α) : Prop := pool.threads = fun _ => none

/-- A call made alone is one of the system's runs. -/
theorem System.Reachable.execute {pool : Pool Op Reply ε σ Call α}
    (hreach : system.Reachable initial pool) (hquiet : pool.Quiet) {call : Call}
    (hstarts : system.starts call) (hadmits : system.Admits ⟨pool.next, call⟩ oracle)
    (hrun : (system.program call).execute oracle [] pool.shared = some (result, path, after)) :
    system.Reachable initial
      { shared := after
        threads := fun _ => none
        finished := pool.finished ++ [⟨⟨pool.next, call⟩, pool.finished.length, path, result⟩]
        next := pool.next + 1 } := by
  have hstarted := hreach.tail (System.Step.start call hstarts)
  have hdone := hadmits.execute hstarted (Function.update_self ..) hrun
  have hfinished := hdone.tail (System.Step.finish pool.next (Function.update_self ..))
  rw [show pool.threads = fun _ => none from hquiet] at hfinished
  simp only [Function.update_idem, Function.update_eq_self] at hfinished
  exact hfinished

/-! ### The calls of a thread -/

/-- The calls of a path, without the states they were made in. -/
def exchanges (path : List (Performed Op Reply ε σ)) : List (Exchange Op Reply ε) :=
  path.map fun performed => ⟨performed.op, performed.answer⟩

/-- The calls of a path were executed, and lead a thread to the rest of its program. -/
structure System.Follows (system : System Op Reply ε σ Call α) (actor : Actor Call)
    (path : List (Performed Op Reply ε σ)) (rest : Program Op Reply ε α) : Prop where
  trace : ∀ calls result, rest.Trace calls result →
    (system.program actor.call).Trace (exchanges path ++ calls) result
  executed : ∀ performed ∈ path, ∃ after,
    system.exec actor performed.op performed.before performed.answer after

/-- Threads run their programs. -/
structure Pool.Traced (system : System Op Reply ε σ Call α) (pool : Pool Op Reply ε σ Call α) :
    Prop where
  threads : ∀ tid thread, pool.threads tid = some thread →
    system.Follows ⟨tid, thread.call⟩ thread.path thread.rest
  finished : ∀ finished ∈ pool.finished,
    system.Follows finished.actor finished.path (.done finished.result)

theorem System.Follows.perform {actor : Actor Call} {path : List (Performed Op Reply ε σ)} {op : Op}
    {rest : Except ε (Reply op) → Program Op Reply ε α} {answer : Except ε (Reply op)}
    {before after : σ} (h : system.Follows actor path (.call op rest))
    (hexec : system.exec actor op before answer after) :
    system.Follows actor (path ++ [⟨op, answer, before⟩]) (rest answer) where
  trace calls result htrace := by
    have hcall := h.trace (⟨op, answer⟩ :: calls) result (.call htrace)
    rw [exchanges, List.map_append, List.append_assoc]
    exact hcall
  executed performed hperformed := by
    rcases List.mem_append.1 hperformed with hold | hnew
    · exact h.executed performed hold
    · rw [List.mem_singleton.1 hnew]
      exact ⟨after, hexec⟩

theorem System.Follows.done {actor : Actor Call} {path : List (Performed Op Reply ε σ)}
    {result : Except ε α} (h : system.Follows actor path (.done result)) :
    (system.program actor.call).Trace (exchanges path) result := by
  have htrace := h.trace [] result (.done result)
  rwa [List.append_nil] at htrace

theorem Pool.Traced.step {pool pool' : Pool Op Reply ε σ Call α} (h : pool.Traced system)
    (hstep : system.Step pool pool') : pool'.Traced system := by
  cases hstep with
  | start call hstarts =>
    refine ⟨fun tid thread hthread => ?_, h.finished⟩
    dsimp only at hthread
    by_cases hnew : tid = pool.next
    · subst hnew
      rw [Function.update_self] at hthread
      obtain rfl := Option.some.inj hthread
      exact ⟨fun _ _ htrace => htrace, by simp⟩
    · rw [Function.update_of_ne hnew] at hthread
      exact h.threads tid thread hthread
  | @perform tid call born path op rest answer after hthread hexec =>
    refine ⟨fun other thread hother => ?_, h.finished⟩
    dsimp only at hother
    by_cases hself : other = tid
    · subst hself
      rw [Function.update_self] at hother
      obtain rfl := Option.some.inj hother
      exact (h.threads other _ hthread).perform hexec
    · rw [Function.update_of_ne hself] at hother
      exact h.threads other thread hother
  | @finish tid call born path result hthread =>
    refine ⟨fun other thread hother => ?_, fun finished hfinished => ?_⟩
    · dsimp only at hother
      by_cases hself : other = tid
      · subst hself
        rw [Function.update_self] at hother
        cases hother
      · rw [Function.update_of_ne hself] at hother
        exact h.threads other thread hother
    · rcases List.mem_append.1 hfinished with hold | hnew
      · exact h.finished finished hold
      · rw [List.mem_singleton.1 hnew]
        exact h.threads tid _ hthread
  | crash hcrash =>
    refine ⟨fun tid thread hthread => ?_, h.finished⟩
    exact h.threads tid thread (Option.filter_eq_some_iff.1 hthread).1

theorem System.Reachable.traced {shared : σ} {pool : Pool Op Reply ε σ Call α}
    (hreach : system.Reachable (System.init shared) pool) : pool.Traced system := by
  induction hreach with
  | refl =>
    refine ⟨fun tid thread hthread => ?_, fun finished hfinished => ?_⟩
    · cases hthread
    · cases hfinished
  | tail _ hstep ih => exact ih.step hstep

/-! ### Footprints -/

/-- The operations the programs can call at all, by call. -/
def System.Calls (system : System Op Reply ε σ Call α) (good : Call → Op → Prop) : Prop :=
  ∀ call, system.starts call → (system.program call).Uses (good call)

/-- A property that the operations of the programs keep, whoever calls them when, and that crashes
keep, holds in every run. -/
theorem System.Reachable.footprint {good : Call → Op → Prop} (invariant : σ → Prop) {shared : σ}
    {pool : Pool Op Reply ε σ Call α} (hcalls : system.Calls good)
    (hperform : ∀ actor op before answer after, system.starts actor.call → good actor.call op →
      system.exec actor op before answer after → invariant before → invariant after)
    (hcrash : ∀ before killed after, system.crash before killed after → invariant before →
      invariant after)
    (hinitial : invariant shared) (hreach : system.Reachable (System.init shared) pool) :
    invariant pool.shared ∧ ∀ tid thread, pool.threads tid = some thread →
      system.starts thread.call ∧ thread.rest.Uses (good thread.call) := by
  induction hreach with
  | refl => exact ⟨hinitial, fun tid thread hthread => by cases hthread⟩
  | tail _ hstep ih =>
    obtain ⟨hinvariant, huses⟩ := ih
    cases hstep with
    | start call hstarts =>
      refine ⟨hinvariant, fun tid thread hthread => ?_⟩
      rcases Discipline.update_some hthread with ⟨-, hnew⟩ | ⟨-, hold⟩
      · obtain rfl := Option.some.inj hnew
        exact ⟨hstarts, hcalls call hstarts⟩
      · exact huses tid thread hold
    | @perform tid call born path op rest answer after hthread hexec =>
      obtain ⟨hstarts, hrest⟩ := huses tid _ hthread
      obtain ⟨hop, hnext⟩ := Program.uses_call.1 hrest
      refine ⟨hperform ⟨tid, call⟩ op _ answer after hstarts hop hexec hinvariant,
        fun other thread hother => ?_⟩
      rcases Discipline.update_some hother with ⟨-, hnew⟩ | ⟨-, hold⟩
      · obtain rfl := Option.some.inj hnew
        exact ⟨hstarts, hnext answer⟩
      · exact huses other thread hold
    | @finish tid call born path result hthread =>
      refine ⟨hinvariant, fun other thread hother => ?_⟩
      rcases Discipline.update_some hother with ⟨-, hnone⟩ | ⟨-, hold⟩
      · cases hnone
      · exact huses other thread hold
    | crash hcrashed =>
      refine ⟨hcrash _ _ _ hcrashed hinvariant, fun tid thread hthread => ?_⟩
      exact huses tid thread (Option.filter_eq_some_iff.1 hthread).1

end

end Concurrency
