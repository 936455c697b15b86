import DataRescue.Concurrency.Program

/-!
# Licensed calls

The weakest precondition of a program of which only the calls matter: each call needs a licence, which
the calls before it give. `Licensed.trace` reads it as a statement about every run.
-/

namespace Concurrency

variable {Op : Type} {Reply : Op → Type} {ε α β : Type}

namespace Program

/-- Each call has its licence in the calls before it, and the result and all calls satisfy `post`. -/
def Licensed (licence : List (Exchange Op Reply ε) → Op → Prop) :
    Program Op Reply ε α → (Except ε α → List (Exchange Op Reply ε) → Prop) →
      List (Exchange Op Reply ε) → Prop
  | done result, post, calls => post result calls
  | call op next, post, calls =>
    licence calls op ∧ ∀ answer, (next answer).Licensed licence post (calls ++ [⟨op, answer⟩])

variable {licence : List (Exchange Op Reply ε) → Op → Prop} {calls : List (Exchange Op Reply ε)}
  {post post' : Except ε α → List (Exchange Op Reply ε) → Prop} {program : Program Op Reply ε α}

theorem Licensed.mono (h : program.Licensed licence post calls)
    (hpost : ∀ result calls, post result calls → post' result calls) :
    program.Licensed licence post' calls := by
  induction program generalizing calls with
  | done result => exact hpost result calls h
  | call op next ih => exact ⟨h.1, fun answer => ih answer (h.2 answer)⟩

theorem licensed_andThen {next : Except ε α → Program Op Reply ε β}
    {post : Except ε β → List (Exchange Op Reply ε) → Prop} :
    (program.andThen next).Licensed licence post calls ↔
      program.Licensed licence (fun result calls => (next result).Licensed licence post calls) calls := by
  induction program generalizing calls with
  | done result => rfl
  | call op rest ih => simp only [andThen, Licensed, ih]

theorem Licensed.bind {next : α → Program Op Reply ε β}
    {last : Except ε β → List (Exchange Op Reply ε) → Prop}
    (h : program.Licensed licence post calls)
    (hok : ∀ value calls, post (.ok value) calls → (next value).Licensed licence last calls)
    (herror : ∀ exception calls, post (.error exception) calls → last (.error exception) calls) :
    (program >>= next).Licensed licence last calls := by
  rw [bind_eq, licensed_andThen]
  refine h.mono fun result calls hresult => ?_
  cases result with
  | ok value => exact hok value calls hresult
  | error exception => exact herror exception calls hresult

theorem Licensed.tryCatch {handler : ε → Program Op Reply ε α}
    {last : Except ε α → List (Exchange Op Reply ε) → Prop}
    (h : program.Licensed licence post calls)
    (hok : ∀ value calls, post (.ok value) calls → last (.ok value) calls)
    (herror : ∀ exception calls, post (.error exception) calls →
      (handler exception).Licensed licence last calls) :
    (program.tryCatch handler).Licensed licence last calls := by
  rw [Program.tryCatch, licensed_andThen]
  refine h.mono fun result calls hresult => ?_
  cases result with
  | ok value => exact hok value calls hresult
  | error exception => exact herror exception calls hresult

theorem Licensed.attempt_bind {next : Except ε α → Program Op Reply ε β}
    {last : Except ε β → List (Exchange Op Reply ε) → Prop}
    (h : program.Licensed licence post calls)
    (hnext : ∀ result calls, post result calls → (next result).Licensed licence last calls) :
    (program.attempt >>= next).Licensed licence last calls := by
  rw [bind_eq, licensed_andThen, Program.attempt, licensed_andThen]
  exact h.mono hnext

theorem Licensed.tryFinally {finalizer : Except ε α → Program Op Reply ε Unit}
    (h : program.Licensed licence post calls)
    (hfinalizer : ∀ result calls, post result calls →
      (finalizer result).Licensed licence (fun _ _ => True) calls) :
    (program.tryFinally finalizer).Licensed licence (fun _ _ => True) calls := by
  rw [Program.tryFinally, licensed_andThen]
  refine h.mono fun result calls hresult => ?_
  rw [licensed_andThen]
  refine (hfinalizer result calls hresult).mono fun final calls _ => ?_
  cases final <;> exact trivial

theorem Uses.licensed {allowed : Op → Prop} (h : program.Uses allowed)
    (hlicence : ∀ more op, allowed op → licence (calls ++ more) op)
    (hpost : ∀ trace result, program.Trace trace result → post result (calls ++ trace)) :
    program.Licensed licence post calls := by
  induction h generalizing calls with
  | done result =>
    have hdone := hpost [] result (.done result)
    rw [List.append_nil] at hdone
    exact hdone
  | @call op next hop _ ih =>
    refine ⟨by simpa using hlicence [] op hop, fun answer => ih answer (fun more op hop => ?_) ?_⟩
    · rw [List.append_assoc]
      exact hlicence _ op hop
    · intro trace result htrace
      rw [List.append_assoc]
      exact hpost _ result (.call htrace)

/-- In every run each call has its licence in the calls before it. -/
theorem Licensed.trace {trace : List (Exchange Op Reply ε)} {result : Except ε α}
    (h : program.Licensed licence post calls) (htrace : program.Trace trace result) :
    (∀ before call after, trace = before ++ call :: after → licence (calls ++ before) call.1) ∧
      post result (calls ++ trace) := by
  induction htrace generalizing calls with
  | done result =>
    refine ⟨by simp, ?_⟩
    rw [List.append_nil]
    exact h
  | @call op next answer trace result _ ih =>
    obtain ⟨hlicences, hpost⟩ := ih (h.2 answer)
    refine ⟨fun before call after heq => ?_, by simpa using hpost⟩
    cases before with
    | nil =>
      obtain ⟨rfl, -⟩ := List.cons.inj heq
      simpa using h.1
    | cons first before =>
      obtain ⟨rfl, hrest⟩ := List.cons.inj heq
      simpa using hlicences before call after hrest

end Program

end Concurrency
