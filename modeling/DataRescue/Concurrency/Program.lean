import Mathlib.Data.List.Basic
import Mathlib.Logic.Basic

/-!
# Programs over fallible operations

A program calls operations and continues with their answers; an operation, like a program, returns
normally or raises. Programs are finite trees, so every run of one ends. `Logic` gives operations a
meaning on a state that other parties may change between two calls, and `Program.wp` is the weakest
precondition of a program under such interference: each step may rely on `rely`, must keep `guar`,
and may look at the calls the program has made so far.

`Uses` bounds the operations a program calls. `Trace` lists the calls of one run in order, and
`wp_of_trace` proves a triple from the traces alone when all operations are of one harmless kind.
-/

namespace Concurrency

/-- A program with operations `Op`, normal answers `Reply`, exceptions `ε` and results `α`. -/
inductive Program (Op : Type) (Reply : Op → Type) (ε α : Type) where
  | done (result : Except ε α)
  | call (op : Op) (next : Except ε (Reply op) → Program Op Reply ε α)

variable {Op : Type} {Reply : Op → Type} {ε α β : Type}

namespace Program

/-- Continue with whatever a program ends in. -/
def andThen : Program Op Reply ε α → (Except ε α → Program Op Reply ε β) → Program Op Reply ε β
  | done result, next => next result
  | call op rest, next => call op fun answer => (rest answer).andThen next

def bind (program : Program Op Reply ε α) (next : α → Program Op Reply ε β) :
    Program Op Reply ε β :=
  program.andThen fun
    | .ok value => next value
    | .error exception => done (.error exception)

instance : Monad (Program Op Reply ε) where
  pure value := done (.ok value)
  bind := bind

/-- Raise an exception. -/
def throw (exception : ε) : Program Op Reply ε α := done (.error exception)

/-- Run the handler on an exception. -/
def tryCatch (program : Program Op Reply ε α) (handler : ε → Program Op Reply ε α) :
    Program Op Reply ε α :=
  program.andThen fun
    | .ok value => done (.ok value)
    | .error exception => handler exception

/-- Return the outcome of a program, its exception included. -/
def attempt (program : Program Op Reply ε α) : Program Op Reply ε (Except ε α) :=
  program.andThen fun result => done (.ok result)

/-- Run the finalizer in every case; its own exception wins. -/
def tryFinally (program : Program Op Reply ε α) (finalizer : Except ε α → Program Op Reply ε Unit) :
    Program Op Reply ε α :=
  program.andThen fun result => (finalizer result).andThen fun
    | .ok () => done result
    | .error exception => done (.error exception)

/-- Perform one operation. -/
def perform (op : Op) : Program Op Reply ε (Reply op) := call op done

theorem pure_eq (value : α) : (pure value : Program Op Reply ε α) = done (.ok value) := rfl

theorem bind_eq (program : Program Op Reply ε α) (next : α → Program Op Reply ε β) :
    program >>= next = program.andThen fun
      | .ok value => next value
      | .error exception => done (.error exception) := rfl

end Program

/-! ### Weakest preconditions -/

/-- One call of an operation, with the state it was executed in. -/
structure Performed (Op : Type) (Reply : Op → Type) (ε σ : Type) where
  op : Op
  answer : Except ε (Reply op)
  before : σ

/-- A call and its answer. -/
abbrev Exchange (Op : Type) (Reply : Op → Type) (ε : Type) := (op : Op) × Except ε (Reply op)

/-- The meaning of operations on a state `σ`, what others may do in between, and what a call may do
given the calls before it. -/
structure Logic (Op : Type) (Reply : Op → Type) (ε σ : Type) where
  rely : σ → σ → Prop
  exec : (op : Op) → σ → Except ε (Reply op) → σ → Prop
  guar : List (Performed Op Reply ε σ) → (op : Op) → σ → Except ε (Reply op) → σ → Prop

section

variable {σ : Type} {logic : Logic Op Reply ε σ}

namespace Program

/-- The weakest precondition: every call keeps the guarantee, and the result, the calls made and the
final state satisfy `post`. -/
def wp (logic : Logic Op Reply ε σ) :
    Program Op Reply ε α → (Except ε α → List (Performed Op Reply ε σ) → σ → Prop) →
      List (Performed Op Reply ε σ) → σ → Prop
  | done result, post, path, state => post result path state
  | call op next, post, path, state =>
    ∀ before, logic.rely state before → ∀ answer after, logic.exec op before answer after →
      logic.guar path op before answer after ∧
        (next answer).wp logic post (path ++ [⟨op, answer, before⟩]) after

variable {post post' : Except ε α → List (Performed Op Reply ε σ) → σ → Prop}
  {path : List (Performed Op Reply ε σ)} {state : σ}

theorem wp_mono {program : Program Op Reply ε α} (h : program.wp logic post path state)
    (hpost : ∀ result path state, post result path state → post' result path state) :
    program.wp logic post' path state := by
  induction program generalizing path state with
  | done result => exact hpost _ _ _ h
  | call op next ih =>
    intro before hrely answer after hexec
    obtain ⟨hguar, hnext⟩ := h before hrely answer after hexec
    exact ⟨hguar, ih answer hnext⟩

/-- A correct program stays correct under a stronger rely and a weaker guarantee. -/
theorem wp.weaken {logic' : Logic Op Reply ε σ} {program : Program Op Reply ε α}
    (h : program.wp logic post path state)
    (hrely : ∀ state before, logic'.rely state before → logic.rely state before)
    (hexec : ∀ op before answer after, logic'.exec op before answer after →
      logic.exec op before answer after)
    (hguar : ∀ path op before answer after, logic.guar path op before answer after →
      logic'.guar path op before answer after) : program.wp logic' post path state := by
  induction program generalizing path state with
  | done result => exact h
  | call op next ih =>
    intro before hbefore answer after hafter
    obtain ⟨hstep, hnext⟩ := h before (hrely _ _ hbefore) answer after (hexec _ _ _ _ hafter)
    exact ⟨hguar _ _ _ _ _ hstep, ih answer hnext⟩

/-- Two postconditions hold together, the second proved without owing the guarantee. -/
theorem wp.and_post {program : Program Op Reply ε α} (h : program.wp logic post path state)
    (h' : program.wp { logic with guar := fun _ _ _ _ _ => True } post' path state) :
    program.wp logic
      (fun result path state => post result path state ∧ post' result path state) path state := by
  induction program generalizing path state with
  | done result => exact ⟨h, h'⟩
  | call op next ih =>
    intro before hrely answer after hexec
    obtain ⟨hguar, hnext⟩ := h before hrely answer after hexec
    exact ⟨hguar, ih answer hnext (h' before hrely answer after hexec).2⟩

theorem wp_andThen {program : Program Op Reply ε α} {next : Except ε α → Program Op Reply ε β}
    {post : Except ε β → List (Performed Op Reply ε σ) → σ → Prop} :
    (program.andThen next).wp logic post path state ↔
      program.wp logic (fun result path state => (next result).wp logic post path state)
        path state := by
  induction program generalizing path state with
  | done result => rfl
  | call op rest ih =>
    simp only [andThen, wp, ih]

theorem wp_bind {program : Program Op Reply ε α} {next : α → Program Op Reply ε β}
    {post : Except ε β → List (Performed Op Reply ε σ) → σ → Prop} :
    (program >>= next).wp logic post path state ↔
      program.wp logic (fun result path state => match result with
        | .ok value => (next value).wp logic post path state
        | .error exception => post (.error exception) path state) path state := by
  rw [bind_eq, wp_andThen]
  refine ⟨fun h => wp_mono h ?_, fun h => wp_mono h ?_⟩ <;>
    rintro (_ | _) path state h <;> exact h

theorem wp_tryCatch {program : Program Op Reply ε α} {handler : ε → Program Op Reply ε α} :
    (program.tryCatch handler).wp logic post path state ↔
      program.wp logic (fun result path state => match result with
        | .ok value => post (.ok value) path state
        | .error exception => (handler exception).wp logic post path state) path state := by
  rw [tryCatch, wp_andThen]
  refine ⟨fun h => wp_mono h ?_, fun h => wp_mono h ?_⟩ <;>
    rintro (_ | _) path state h <;> exact h

theorem wp_attempt {program : Program Op Reply ε α}
    {post : Except ε (Except ε α) → List (Performed Op Reply ε σ) → σ → Prop} :
    program.attempt.wp logic post path state ↔
      program.wp logic (fun result path state => post (.ok result) path state) path state :=
  wp_andThen

theorem wp_tryFinally {program : Program Op Reply ε α}
    {finalizer : Except ε α → Program Op Reply ε Unit} :
    (program.tryFinally finalizer).wp logic post path state ↔
      program.wp logic (fun result path state =>
        (finalizer result).wp logic (fun final path state => match final with
          | .ok () => post result path state
          | .error exception => post (.error exception) path state) path state) path state := by
  rw [tryFinally, wp_andThen]
  refine ⟨fun h => wp_mono h ?_, fun h => wp_mono h ?_⟩ <;>
  · intro result path state h
    rw [wp_andThen] at *
    refine wp_mono h ?_
    rintro (_ | _) path state h <;> exact h

/-! ### Operations used -/

/-- Every operation the program can call satisfies `allowed`. -/
inductive Uses (allowed : Op → Prop) : Program Op Reply ε α → Prop
  | done (result : Except ε α) : Uses allowed (done result)
  | call {op : Op} {next : Except ε (Reply op) → Program Op Reply ε α} (h : allowed op)
      (hnext : ∀ answer, Uses allowed (next answer)) : Uses allowed (call op next)

theorem uses_call {allowed : Op → Prop} {op : Op}
    {next : Except ε (Reply op) → Program Op Reply ε α} :
    (call op next).Uses allowed ↔ allowed op ∧ ∀ answer, (next answer).Uses allowed :=
  ⟨fun h => by cases h with | call h hnext => exact ⟨h, hnext⟩, fun h => .call h.1 h.2⟩

theorem Uses.mono {allowed allowed' : Op → Prop} {program : Program Op Reply ε α}
    (h : program.Uses allowed) (himp : ∀ op, allowed op → allowed' op) : program.Uses allowed' := by
  induction h with
  | done result => exact .done result
  | call h _ ih => exact .call (himp _ h) ih

theorem Uses.andThen {allowed : Op → Prop} {program : Program Op Reply ε α}
    {next : Except ε α → Program Op Reply ε β} (h : program.Uses allowed)
    (hnext : ∀ result, (next result).Uses allowed) : (program.andThen next).Uses allowed := by
  induction h with
  | done result => exact hnext result
  | call h _ ih => exact .call h ih

theorem Uses.bind {allowed : Op → Prop} {program : Program Op Reply ε α}
    {next : α → Program Op Reply ε β} (h : program.Uses allowed)
    (hnext : ∀ value, (next value).Uses allowed) : (program >>= next).Uses allowed := by
  refine h.andThen fun result => ?_
  cases result with
  | error exception => exact .done _
  | ok value => exact hnext value

theorem Uses.tryCatch {allowed : Op → Prop} {program : Program Op Reply ε α}
    {handler : ε → Program Op Reply ε α} (h : program.Uses allowed)
    (hhandler : ∀ exception, (handler exception).Uses allowed) :
    (program.tryCatch handler).Uses allowed := by
  refine h.andThen fun result => ?_
  cases result with
  | error exception => exact hhandler exception
  | ok value => exact .done _

theorem Uses.attempt {allowed : Op → Prop} {program : Program Op Reply ε α}
    (h : program.Uses allowed) : program.attempt.Uses allowed := h.andThen fun _ => .done _

theorem Uses.tryFinally {allowed : Op → Prop} {program : Program Op Reply ε α}
    {finalizer : Except ε α → Program Op Reply ε Unit} (h : program.Uses allowed)
    (hfinalizer : ∀ result, (finalizer result).Uses allowed) :
    (program.tryFinally finalizer).Uses allowed := by
  refine h.andThen fun result => (hfinalizer result).andThen fun final => ?_
  rcases final with _ | ⟨⟨⟩⟩ <;> exact .done _

/-! ### Traces -/

/-- The program can make these calls, be answered so, and end in this result. -/
inductive Trace : Program Op Reply ε α → List (Exchange Op Reply ε) → Except ε α → Prop
  | done (result : Except ε α) : Trace (done result) [] result
  | call {op : Op} {next : Except ε (Reply op) → Program Op Reply ε α}
      {answer : Except ε (Reply op)} {calls : List (Exchange Op Reply ε)} {result : Except ε α}
      (h : Trace (next answer) calls result) : Trace (call op next) (⟨op, answer⟩ :: calls) result

variable {calls : List (Exchange Op Reply ε)}

theorem trace_done {ended result : Except ε α} :
    Trace (done ended : Program Op Reply ε α) calls result ↔ calls = [] ∧ result = ended :=
  ⟨fun h => by cases h; exact ⟨rfl, rfl⟩, fun ⟨hcalls, h⟩ => by subst hcalls h; exact .done _⟩

theorem trace_call {op : Op} {next : Except ε (Reply op) → Program Op Reply ε α}
    {result : Except ε α} :
    Trace (call op next) calls result ↔
      ∃ answer rest, calls = ⟨op, answer⟩ :: rest ∧ (next answer).Trace rest result :=
  ⟨fun h => by cases h with | call h => exact ⟨_, _, rfl, h⟩,
    fun ⟨_, _, hcalls, h⟩ => hcalls ▸ .call h⟩

theorem trace_andThen {program : Program Op Reply ε α} {next : Except ε α → Program Op Reply ε β}
    {result : Except ε β} :
    (program.andThen next).Trace calls result ↔
      ∃ first second middle, calls = first ++ second ∧ program.Trace first middle ∧
        (next middle).Trace second result := by
  induction program generalizing calls with
  | done ended =>
    simp only [andThen, trace_done]
    exact ⟨fun h => ⟨[], calls, ended, rfl, ⟨rfl, rfl⟩, h⟩,
      by rintro ⟨_, second, _, rfl, ⟨rfl, rfl⟩, h⟩; exact h⟩
  | call op rest ih =>
    simp only [andThen, trace_call, ih]
    constructor
    · rintro ⟨answer, _, rfl, first, second, middle, rfl, hfirst, hsecond⟩
      exact ⟨⟨op, answer⟩ :: first, second, middle, rfl, ⟨answer, first, rfl, hfirst⟩, hsecond⟩
    · rintro ⟨_, second, middle, rfl, ⟨answer, first, rfl, hfirst⟩, hsecond⟩
      exact ⟨answer, first ++ second, rfl, first, second, middle, rfl, hfirst, hsecond⟩

theorem trace_bind_ok {program : Program Op Reply ε α} {next : α → Program Op Reply ε β} {value : β} :
    (program >>= next).Trace calls (.ok value) ↔
      ∃ first second middle, calls = first ++ second ∧ program.Trace first (.ok middle) ∧
        (next middle).Trace second (.ok value) := by
  rw [bind_eq, trace_andThen]
  constructor
  · rintro ⟨first, second, middle, rfl, hfirst, hsecond⟩
    cases middle with
    | error exception => cases (trace_done.1 hsecond).2
    | ok middle => exact ⟨first, second, middle, rfl, hfirst, hsecond⟩
  · rintro ⟨first, second, middle, rfl, hfirst, hsecond⟩
    exact ⟨first, second, .ok middle, rfl, hfirst, hsecond⟩

theorem trace_perform {op : Op} {result : Except ε (Reply op)} :
    (perform op).Trace calls result ↔ calls = [⟨op, result⟩] := by
  simp only [perform, trace_call, trace_done]
  constructor
  · rintro ⟨_, _, rfl, rfl, rfl⟩
    rfl
  · rintro rfl
    exact ⟨_, _, rfl, rfl, rfl⟩

theorem trace_bind_error {program : Program Op Reply ε α} {next : α → Program Op Reply ε β}
    {exception : ε} :
    (program >>= next).Trace calls (.error exception) ↔ program.Trace calls (.error exception) ∨
      ∃ first second middle, calls = first ++ second ∧ program.Trace first (.ok middle) ∧
        (next middle).Trace second (.error exception) := by
  rw [bind_eq, trace_andThen]
  constructor
  · rintro ⟨first, second, middle, rfl, hfirst, hsecond⟩
    cases middle with
    | error exception' =>
      obtain ⟨rfl, heq⟩ := trace_done.1 hsecond
      cases heq
      exact .inl (by rwa [List.append_nil])
    | ok middle => exact .inr ⟨first, second, middle, rfl, hfirst, hsecond⟩
  · rintro (hfirst | ⟨first, second, middle, rfl, hfirst, hsecond⟩)
    · exact ⟨calls, [], .error exception, (List.append_nil _).symm, hfirst, .done _⟩
    · exact ⟨first, second, .ok middle, rfl, hfirst, hsecond⟩

theorem trace_tryCatch {program : Program Op Reply ε α} {handler : ε → Program Op Reply ε α}
    {result : Except ε α} :
    (program.tryCatch handler).Trace calls result ↔
      (∃ value, result = .ok value ∧ program.Trace calls (.ok value)) ∨
        ∃ first second exception, calls = first ++ second ∧
          program.Trace first (.error exception) ∧ (handler exception).Trace second result := by
  rw [tryCatch, trace_andThen]
  constructor
  · rintro ⟨first, second, middle, rfl, hfirst, hsecond⟩
    cases middle with
    | ok value =>
      obtain ⟨rfl, rfl⟩ := trace_done.1 hsecond
      exact .inl ⟨value, rfl, by rwa [List.append_nil]⟩
    | error exception => exact .inr ⟨first, second, exception, rfl, hfirst, hsecond⟩
  · rintro (⟨value, rfl, hfirst⟩ | ⟨first, second, exception, rfl, hfirst, hsecond⟩)
    · exact ⟨calls, [], .ok value, (List.append_nil _).symm, hfirst, .done _⟩
    · exact ⟨first, second, .error exception, rfl, hfirst, hsecond⟩

theorem trace_done_bind_ok {computed : Except ε α} {next : α → Program Op Reply ε β} {value : β} :
    ((done computed : Program Op Reply ε α) >>= next).Trace calls (.ok value) ↔
      ∃ middle, computed = .ok middle ∧ (next middle).Trace calls (.ok value) := by
  rw [trace_bind_ok]
  constructor
  · rintro ⟨first, second, middle, rfl, hfirst, hsecond⟩
    obtain ⟨rfl, heq⟩ := trace_done.1 hfirst
    exact ⟨middle, heq.symm, hsecond⟩
  · rintro ⟨middle, rfl, hsecond⟩
    exact ⟨[], calls, middle, rfl, .done _, hsecond⟩

theorem trace_attempt_bind {program : Program Op Reply ε α}
    {next : Except ε α → Program Op Reply ε β} {result : Except ε β} :
    (program.attempt >>= next).Trace calls result ↔
      ∃ first second ended, calls = first ++ second ∧ program.Trace first ended ∧
        (next ended).Trace second result := by
  rw [bind_eq, trace_andThen]
  constructor
  · rintro ⟨first, second, middle, rfl, hfirst, hsecond⟩
    obtain ⟨before, after, ended, rfl, hprogram, hafter⟩ := trace_andThen.1 hfirst
    obtain ⟨rfl, rfl⟩ := trace_done.1 hafter
    exact ⟨before, second, ended, by rw [List.append_nil], hprogram, hsecond⟩
  · rintro ⟨first, second, ended, rfl, hprogram, hsecond⟩
    exact ⟨first, second, .ok ended, rfl,
      trace_andThen.2 ⟨first, [], ended, (List.append_nil _).symm, hprogram, .done _⟩, hsecond⟩

theorem trace_tryFinally_ok {program : Program Op Reply ε α}
    {finalizer : Except ε α → Program Op Reply ε Unit} {value : α} :
    (program.tryFinally finalizer).Trace calls (.ok value) ↔
      ∃ first second, calls = first ++ second ∧ program.Trace first (.ok value) ∧
        (finalizer (.ok value)).Trace second (.ok ()) := by
  rw [tryFinally, trace_andThen]
  constructor
  · rintro ⟨first, second, ended, rfl, hfirst, hsecond⟩
    obtain ⟨final, rest, result, rfl, hfinal, hrest⟩ := trace_andThen.1 hsecond
    cases result with
    | error exception => exact absurd (trace_done.1 hrest).2 (by simp)
    | ok _ =>
      obtain ⟨rfl, rfl⟩ := trace_done.1 hrest
      exact ⟨first, final, by rw [List.append_nil], hfirst, hfinal⟩
  · rintro ⟨first, second, rfl, hfirst, hsecond⟩
    exact ⟨first, second, .ok value, rfl, hfirst,
      trace_andThen.2 ⟨second, [], .ok (), (List.append_nil _).symm, hsecond, .done _⟩⟩

/-- The result of the run with these calls, if the program makes exactly these. -/
def replay [DecidableEq Op] :
    Program Op Reply ε α → List (Exchange Op Reply ε) → Option (Except ε α)
  | done result, [] => some result
  | call op next, ⟨op', answer⟩ :: calls =>
    if h : op' = op then (next (h ▸ answer)).replay calls else none
  | _, _ => none

theorem replay_trace [DecidableEq Op] {program : Program Op Reply ε α} {result : Except ε α}
    (h : program.replay calls = some result) : program.Trace calls result := by
  induction program generalizing calls with
  | done ended =>
    cases calls with
    | nil => exact trace_done.2 ⟨rfl, (Option.some.inj h).symm⟩
    | cons _ _ => exact absurd h (by simp [replay])
  | call op next ih =>
    cases calls with
    | nil => exact absurd h (by simp [replay])
    | cons called rest =>
      obtain ⟨op', answer⟩ := called
      rw [replay] at h
      split at h
      next heq =>
        subst heq
        exact .call (ih answer h)
      next => exact absurd h (by simp)

theorem Uses.trace {allowed : Op → Prop} {program : Program Op Reply ε α} {result : Except ε α}
    (h : program.Uses allowed) (htrace : program.Trace calls result) :
    ∀ call ∈ calls, allowed call.1 := by
  induction htrace with
  | done ended => simp
  | call _ ih =>
    obtain ⟨hop, hnext⟩ := uses_call.1 h
    rintro call (_ | ⟨_, hmem⟩)
    · exact hop
    · exact ih (hnext _) call hmem

theorem Trace.unique {program : Program Op Reply ε α} {result result' : Except ε α}
    {calls' rest rest' : List (Exchange Op Reply ε)} (h : program.Trace calls result)
    (h' : program.Trace calls' result') (heq : calls ++ rest = calls' ++ rest') :
    calls = calls' ∧ result = result' := by
  induction h generalizing calls' with
  | done ended =>
    obtain ⟨rfl, rfl⟩ := trace_done.1 h'
    exact ⟨rfl, rfl⟩
  | call h ih =>
    obtain ⟨answer', calls', rfl, hnext⟩ := trace_call.1 h'
    rw [List.cons_append, List.cons_append, List.cons.injEq] at heq
    obtain ⟨hcall, heq⟩ := heq
    cases hcall
    obtain ⟨rfl, rfl⟩ := ih hnext heq
    exact ⟨rfl, rfl⟩

/-- No run makes more than `bound` calls of a kind. -/
def AtMost (kind : Op → Bool) (bound : Nat) (program : Program Op Reply ε α) : Prop :=
  ∀ calls result, program.Trace calls result → calls.countP (kind ·.1) ≤ bound

theorem AtMost.andThen {kind : Op → Bool} {bound bound' : Nat} {program : Program Op Reply ε α}
    {next : Except ε α → Program Op Reply ε β} (h : program.AtMost kind bound)
    (hnext : ∀ result, (next result).AtMost kind bound') :
    (program.andThen next).AtMost kind (bound + bound') := by
  intro calls result htrace
  obtain ⟨first, second, middle, rfl, hfirst, hsecond⟩ := trace_andThen.1 htrace
  rw [List.countP_append]
  exact Nat.add_le_add (h first middle hfirst) (hnext middle second result hsecond)

theorem AtMost.bind {kind : Op → Bool} {bound bound' : Nat} {program : Program Op Reply ε α}
    {next : α → Program Op Reply ε β} (h : program.AtMost kind bound)
    (hnext : ∀ value, (next value).AtMost kind bound') :
    (program >>= next).AtMost kind (bound + bound') := by
  refine h.andThen fun result => ?_
  cases result with
  | error exception =>
    intro calls result htrace
    rw [(trace_done.1 htrace).1]
    exact Nat.zero_le _
  | ok value => exact hnext value

theorem Uses.atMost {kind : Op → Bool} {bound : Nat} {program : Program Op Reply ε α}
    (h : program.Uses fun op => kind op = false) : program.AtMost kind bound := by
  induction h with
  | done ended =>
    intro calls result htrace
    rw [(trace_done.1 htrace).1]
    exact Nat.zero_le bound
  | call h _ ih =>
    intro calls result htrace
    obtain ⟨answer, rest, rfl, hrest⟩ := trace_call.1 htrace
    rw [List.countP_cons_of_neg (by simp [h])]
    exact ih answer rest result hrest

theorem Uses.bind_atMost {kind : Op → Bool} {bound : Nat} {program : Program Op Reply ε α}
    {next : α → Program Op Reply ε β} (h : program.Uses fun op => kind op = false)
    (hnext : ∀ value, (next value).AtMost kind bound) : (program >>= next).AtMost kind bound :=
  Nat.zero_add bound ▸ (h.atMost : program.AtMost kind 0).bind hnext

theorem AtMost.bind_uses {kind : Op → Bool} {bound : Nat} {program : Program Op Reply ε α}
    {next : α → Program Op Reply ε β} (h : program.AtMost kind bound)
    (hnext : ∀ value, (next value).Uses fun op => kind op = false) :
    (program >>= next).AtMost kind bound :=
  h.bind fun value => ((hnext value).atMost : (next value).AtMost kind 0)

theorem AtMost.tryCatch_uses {kind : Op → Bool} {bound : Nat} {program : Program Op Reply ε α}
    {handler : ε → Program Op Reply ε α} (h : program.AtMost kind bound)
    (hhandler : ∀ exception, (handler exception).Uses fun op => kind op = false) :
    (program.tryCatch handler).AtMost kind bound := by
  refine Nat.add_zero bound ▸ h.andThen fun result => ?_
  cases result with
  | ok value => exact Uses.atMost (.done _)
  | error exception => exact (hhandler exception).atMost

theorem atMost_perform {kind : Op → Bool} {op : Op} :
    (perform op : Program Op Reply ε (Reply op)).AtMost kind 1 := by
  intro calls result htrace
  obtain ⟨answer, rest, rfl, hrest⟩ := trace_call.1 htrace
  rw [(trace_done.1 hrest).1]
  exact List.countP_le_length

theorem atMost_done {kind : Op → Bool} {bound : Nat} {result : Except ε α} :
    (done result : Program Op Reply ε α).AtMost kind bound :=
  Uses.atMost (.done result)

/-- A program whose operations all keep an invariant keeps it; the invariant may speak of the calls
made, and the postcondition of the whole trace. -/
theorem wp_of_trace {allowed : Op → Prop}
    (invariant : List (Exchange Op Reply ε) → List (Performed Op Reply ε σ) → σ → Prop)
    (calls : List (Exchange Op Reply ε)) {program : Program Op Reply ε α}
    (h : program.Uses allowed) (hstart : invariant calls path state)
    (hstep : ∀ calls path state before op answer after, allowed op → invariant calls path state →
      logic.rely state before → logic.exec op before answer after →
      logic.guar path op before answer after ∧
        invariant (calls ++ [⟨op, answer⟩]) (path ++ [⟨op, answer, before⟩]) after)
    (hdone : ∀ rest result path state, program.Trace rest result →
      invariant (calls ++ rest) path state → post result path state) :
    program.wp logic post path state := by
  induction h generalizing calls path state with
  | done result => exact hdone [] result path state (.done result) (by rwa [List.append_nil])
  | @call op next h _ ih =>
    intro before hrely answer after hexec
    obtain ⟨hguar, hafter⟩ := hstep calls path state before op answer after h hstart hrely hexec
    refine ⟨hguar, ih answer _ hafter fun rest result path state htrace hrest => ?_⟩
    exact hdone (⟨op, answer⟩ :: rest) result path state (.call htrace)
      (by rwa [List.append_cons])

theorem wp_of_uses {allowed : Op → Prop} {invariant : List (Performed Op Reply ε σ) → σ → Prop}
    {program : Program Op Reply ε α} (h : program.Uses allowed)
    (hstart : invariant path state)
    (hstep : ∀ path state before op answer after, allowed op → invariant path state →
      logic.rely state before → logic.exec op before answer after →
      logic.guar path op before answer after ∧ invariant (path ++ [⟨op, answer, before⟩]) after) :
    program.wp logic (fun _ path state => invariant path state) path state :=
  wp_of_trace (fun _ => invariant) [] h hstart (fun _ => hstep)
    fun _ _ _ _ _ hinvariant => hinvariant

/-- A correct program stays correct where its guarantee follows for the operations it uses. -/
theorem wp.within {logic' : Logic Op Reply ε σ} {allowed : Op → Prop}
    {program : Program Op Reply ε α} (huses : program.Uses allowed)
    (h : program.wp logic post path state)
    (hrely : ∀ state before, logic'.rely state before → logic.rely state before)
    (hexec : ∀ op before answer after, logic'.exec op before answer after →
      logic.exec op before answer after)
    (hguar : ∀ path op before answer after, allowed op → logic.guar path op before answer after →
      logic'.guar path op before answer after) : program.wp logic' post path state := by
  induction program generalizing path state with
  | done result => exact h
  | call op next ih =>
    obtain ⟨hallowed, hanswers⟩ := uses_call.1 huses
    intro before hbefore answer after hafter
    obtain ⟨hstep, hnext⟩ := h before (hrely _ _ hbefore) answer after (hexec _ _ _ _ hafter)
    exact ⟨hguar _ _ _ _ _ hallowed hstep, ih answer (hanswers answer) hnext⟩

/-! ### Outcomes -/

/-- The program can end in a result if its operations are answered as `answers` allows. -/
def Outcome (answers : (op : Op) → Except ε (Reply op) → Prop) :
    Program Op Reply ε α → Except ε α → Prop
  | done ended, result => result = ended
  | call op next, result => ∃ answer, answers op answer ∧ (next answer).Outcome answers result

theorem Outcome.mono {answers answers' : (op : Op) → Except ε (Reply op) → Prop}
    {program : Program Op Reply ε α} {result : Except ε α} (h : program.Outcome answers result)
    (himp : ∀ op answer, answers op answer → answers' op answer) :
    program.Outcome answers' result := by
  induction program with
  | done ended => exact h
  | call op next ih =>
    obtain ⟨answer, hanswer, h⟩ := h
    exact ⟨answer, himp op answer hanswer, ih answer h⟩

theorem Outcome.unique {answers : (op : Op) → Except ε (Reply op) → Prop}
    {program : Program Op Reply ε α} {result result' : Except ε α}
    (hanswers : ∀ op answer answer', answers op answer → answers op answer' → answer = answer')
    (h : program.Outcome answers result) (h' : program.Outcome answers result') :
    result = result' := by
  induction program with
  | done ended => exact Eq.trans h (Eq.symm h')
  | call op next ih =>
    obtain ⟨answer, hanswer, h⟩ := h
    obtain ⟨answer', hanswer', h'⟩ := h'
    obtain rfl := hanswers op answer answer' hanswer hanswer'
    exact ih answer h h'

theorem Outcome.andThen {answers : (op : Op) → Except ε (Reply op) → Prop}
    {program : Program Op Reply ε α} {next : Except ε α → Program Op Reply ε β}
    {result : Except ε β} :
    (program.andThen next).Outcome answers result ↔
      ∃ middle, program.Outcome answers middle ∧ (next middle).Outcome answers result := by
  induction program with
  | done ended =>
    exact ⟨fun h => ⟨ended, rfl, h⟩, fun ⟨_, hmiddle, h⟩ => by obtain rfl := hmiddle; exact h⟩
  | call op rest ih =>
    constructor
    · rintro ⟨answer, hanswer, h⟩
      obtain ⟨middle, hmiddle, h⟩ := (ih answer).1 h
      exact ⟨middle, ⟨answer, hanswer, hmiddle⟩, h⟩
    · rintro ⟨middle, ⟨answer, hanswer, hmiddle⟩, h⟩
      exact ⟨answer, hanswer, (ih answer).2 ⟨middle, hmiddle, h⟩⟩

end Program

end

end Concurrency
