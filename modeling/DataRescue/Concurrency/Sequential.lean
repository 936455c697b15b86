import DataRescue.Concurrency.Program
import Mathlib.Data.List.Forall2

/-!
# Programs that run alone

Programs that run one after the other on a state nobody else changes; each may be interrupted between
any two of its calls. `Alone` is what such programs owe: every call is `safe` in the state it is made
in, and `invariant` holds between the calls. `Alone.Keeps` is the triple of a program under these terms,
with one rule for each way to compose programs, and `Alone.session_sound` is what triples say about all
the programs of a session together.
-/

namespace Concurrency

variable {Op : Type} {Reply : Op → Type} {ε α β σ ι : Type}

/-! ### Runs -/

section

variable (exec : (op : Op) → σ → Except ε (Reply op) → σ → Prop)

/-- Calls that were executed one after the other. -/
inductive Performs : σ → List (Performed Op Reply ε σ) → σ → Prop
  | nil (state : σ) : Performs state [] state
  | cons {op : Op} {answer : Except ε (Reply op)} {state after final : σ}
      {calls : List (Performed Op Reply ε σ)} (h : exec op state answer after)
      (hrest : Performs after calls final) : Performs state (⟨op, answer, state⟩ :: calls) final

/-- A run of a program, with the calls it made: it ended in a result, or was interrupted. -/
inductive Ran : Program Op Reply ε α → σ → List (Performed Op Reply ε σ) → Option (Except ε α) → σ →
    Prop
  | done (result : Except ε α) (state : σ) : Ran (.done result) state [] (some result) state
  | interrupted (program : Program Op Reply ε α) (state : σ) : Ran program state [] none state
  | call {op : Op} {next : Except ε (Reply op) → Program Op Reply ε α} {answer : Except ε (Reply op)}
      {state after final : σ} {calls : List (Performed Op Reply ε σ)} {result : Option (Except ε α)}
      (h : exec op state answer after) (hrest : Ran (next answer) after calls result final) :
      Ran (.call op next) state (⟨op, answer, state⟩ :: calls) result final

/-- Programs run one after the other, with the results of those that ended. -/
inductive Session (program : ι → Program Op Reply ε α) :
    σ → List (Performed Op Reply ε σ) → List (ι × Except ε α) → σ → Prop
  | nil (state : σ) : Session program state [] [] state
  | cons {index : ι} {state middle final : σ} {calls more : List (Performed Op Reply ε σ)}
      {result : Option (Except ε α)} {results : List (ι × Except ε α)}
      (hran : Ran exec (program index) state calls result middle)
      (hrest : Session program middle more results final) :
      Session program state (calls ++ more) (result.toList.map (index, ·) ++ results) final

end

variable {exec : (op : Op) → σ → Except ε (Reply op) → σ → Prop} {state middle final : σ}
  {calls more : List (Performed Op Reply ε σ)}

theorem Performs.append (h : Performs exec state calls middle) (h' : Performs exec middle more final) :
    Performs exec state (calls ++ more) final := by
  induction h with
  | nil state => exact h'
  | cons h _ ih => exact .cons h (ih h')

theorem Ran.performs {program : Program Op Reply ε α} {result : Option (Except ε α)}
    (h : Ran exec program state calls result final) : Performs exec state calls final := by
  induction h with
  | done result state => exact .nil state
  | interrupted program state => exact .nil state
  | call h _ ih => exact .cons h ih

theorem Session.performs {program : ι → Program Op Reply ε α} {results : List (ι × Except ε α)}
    (h : Session exec program state calls results final) : Performs exec state calls final := by
  induction h with
  | nil state => exact .nil state
  | cons hran _ ih => exact hran.performs.append ih

/-- What every call keeps between its two states holds between any two states of a run, the first one
and the last one among them. -/
theorem Performs.pairwise (grows : σ → σ → Prop) (h : Performs exec state calls final)
    (hrefl : ∀ state, grows state state)
    (htrans : ∀ {state middle final}, grows state middle → grows middle final → grows state final)
    (hstep : ∀ call ∈ calls, ∀ after, exec call.op call.before call.answer after →
      grows call.before after) :
    (calls.map (·.before) ++ [final]).Pairwise grows ∧
      ∀ passed ∈ calls.map (·.before) ++ [final], grows state passed := by
  induction h with
  | nil state =>
    refine ⟨List.pairwise_singleton _ _, fun passed hpassed => ?_⟩
    rw [List.mem_singleton.1 hpassed]
    exact hrefl state
  | @cons op answer state after final calls hexec _ ih =>
    have hgrown : grows state after := hstep _ List.mem_cons_self after hexec
    obtain ⟨hpairs, hlater⟩ := ih fun call hcall => hstep call (List.mem_cons_of_mem _ hcall)
    have hfirst : ∀ passed ∈ calls.map (·.before) ++ [final], grows state passed :=
      fun passed hpassed => htrans hgrown (hlater passed hpassed)
    refine ⟨List.pairwise_cons.2 ⟨hfirst, hpairs⟩, fun passed hpassed => ?_⟩
    rcases List.mem_cons.1 hpassed with rfl | hpassed
    · exact hrefl _
    · exact hfirst passed hpassed

theorem Performs.of_unchanged {trace : List (Exchange Op Reply ε)}
    (h : ∀ call ∈ trace, exec call.1 state call.2 state) :
    Performs exec state (trace.map fun call => ⟨call.1, call.2, state⟩) state := by
  induction trace with
  | nil => exact .nil state
  | cons call trace ih =>
    exact .cons (h call List.mem_cons_self) (ih fun other hother => h other (List.mem_cons_of_mem _ hother))

/-- The calls are the first ones of a program. -/
def Program.begins [DecidableEq Op] : Program Op Reply ε α → List (Exchange Op Reply ε) → Bool
  | _, [] => true
  | done _, _ :: _ => false
  | call op next, ⟨op', answer⟩ :: calls =>
    if h : op' = op then (next (h ▸ answer)).begins calls else false

theorem Ran.of_begins [DecidableEq Op] {program : Program Op Reply ε α}
    {trace : List (Exchange Op Reply ε)} (h : program.begins trace = true)
    (htrace : calls.map (fun call => ⟨call.op, call.answer⟩) = trace)
    (hperforms : Performs exec state calls final) : Ran exec program state calls none final := by
  subst htrace
  induction hperforms generalizing program with
  | nil state => exact .interrupted program state
  | @cons op answer state after final calls hexec _ ih =>
    cases program with
    | done result => exact absurd h (by simp [Program.begins])
    | call op' next =>
      rw [List.map_cons, Program.begins] at h
      split at h
      next heq =>
        subst heq
        exact .call hexec (ih h)
      next => exact absurd h (by simp)

/-! ### Triples -/

/-- What programs that run alone owe. -/
structure Alone (Op : Type) (Reply : Op → Type) (ε σ : Type) where
  exec : (op : Op) → σ → Except ε (Reply op) → σ → Prop
  safe : Op → σ → Prop
  invariant : σ → Prop

namespace Alone

variable (alone : Alone Op Reply ε σ)

def logic : Logic Op Reply ε σ where
  rely state before := before = state
  exec := alone.exec
  guar _ op before _ after := alone.safe op before ∧ alone.invariant after

/-- From this state the program makes safe calls only, which keep the invariant, and returns values that
satisfy `post`. -/
def Keeps (state : σ) (program : Program Op Reply ε α) (post : α → σ → Prop) : Prop :=
  alone.invariant state → ∀ path, program.wp alone.logic
    (fun result _ final => alone.invariant final ∧ ∀ value, result = .ok value → post value final)
    path state

variable {alone} {program : Program Op Reply ε α} {post post' : α → σ → Prop}

theorem Keeps.pure {value : α} (h : post value state) : alone.Keeps state (pure value) post := by
  intro hinvariant path
  refine ⟨hinvariant, fun other hother => ?_⟩
  cases hother
  exact h

theorem Keeps.throw {exception : ε} : alone.Keeps state (.throw exception) post :=
  fun hinvariant _ => ⟨hinvariant, fun _ h => absurd h (by simp)⟩

theorem Keeps.done {result : Except ε α} (h : ∀ value, result = .ok value → post value state) :
    alone.Keeps state (.done result) post :=
  fun hinvariant _ => ⟨hinvariant, h⟩

theorem Keeps.assume (h : alone.invariant state → alone.Keeps state program post) :
    alone.Keeps state program post :=
  fun hinvariant => h hinvariant hinvariant

theorem Keeps.bind {next : α → Program Op Reply ε β} {last : β → σ → Prop}
    (h : alone.Keeps state program post)
    (hnext : ∀ value middle, post value middle → alone.Keeps middle (next value) last) :
    alone.Keeps state (program >>= next) last := by
  intro hinvariant path
  refine Program.wp_bind.2 (Program.wp_mono (h hinvariant path) fun result path middle hmiddle => ?_)
  cases result with
  | error exception => exact ⟨hmiddle.1, fun _ hok => absurd hok (by simp)⟩
  | ok value => exact hnext value middle (hmiddle.2 value rfl) hmiddle.1 path

theorem Keeps.attempt_bind {next : Except ε α → Program Op Reply ε β} {last : β → σ → Prop}
    (h : alone.Keeps state program post)
    (hok : ∀ value middle, post value middle → alone.Keeps middle (next (.ok value)) last)
    (herror : ∀ exception middle, alone.Keeps middle (next (.error exception)) last) :
    alone.Keeps state (program.attempt >>= next) last := by
  intro hinvariant path
  rw [Program.wp_bind, Program.wp_attempt]
  refine Program.wp_mono (h hinvariant path) fun result path middle hmiddle => ?_
  cases result with
  | error exception => exact herror exception middle hmiddle.1 path
  | ok value => exact hok value middle (hmiddle.2 value rfl) hmiddle.1 path

theorem Keeps.perform {op : Op} {post : Reply op → σ → Prop}
    (h : ∀ answer after, alone.exec op state answer after →
      alone.safe op state ∧ alone.invariant after ∧ ∀ value, answer = .ok value → post value after) :
    alone.Keeps state (Program.perform op) post := by
  rintro - path _ rfl answer after hexec
  obtain ⟨hsafe, hinvariant, hpost⟩ := h answer after hexec
  exact ⟨⟨hsafe, hinvariant⟩, hinvariant, hpost⟩

/-! ### Programs that only read -/

variable {reading : Op → Prop}

/-- A program of calls that only read leaves the state as it is, and what it returns rests on calls
that were all answered from that state. -/
theorem Keeps.reads
    (hreading : ∀ op before answer after, reading op → alone.exec op before answer after →
      after = before ∧ alone.safe op before)
    (huses : program.Uses reading)
    (hpost : ∀ trace value, program.Trace trace (.ok value) →
      (∀ call ∈ trace, alone.exec call.1 state call.2 state) → post value state) :
    alone.Keeps state program post := by
  intro hinvariant path
  refine Program.wp_of_trace
    (fun trace _ final => final = state ∧ ∀ call ∈ trace, alone.exec call.1 state call.2 state) [] huses
    ⟨rfl, by simp⟩ ?_ ?_
  · rintro trace path _ before op answer after hop ⟨rfl, htrace⟩ hbefore hexec
    obtain rfl : before = _ := hbefore
    obtain ⟨rfl, hsafe⟩ := hreading op before answer after hop hexec
    refine ⟨⟨hsafe, hinvariant⟩, rfl, fun call hcall => ?_⟩
    rcases List.mem_append.1 hcall with hcall | hcall
    · exact htrace call hcall
    · rw [List.mem_singleton.1 hcall]
      exact hexec
  · rintro trace result path _ htrace ⟨rfl, hcalls⟩
    refine ⟨hinvariant, fun value hvalue => ?_⟩
    rw [hvalue] at htrace
    exact hpost trace value htrace hcalls

theorem Keeps.reads_bind {next : α → Program Op Reply ε β} {last : β → σ → Prop}
    (hreading : ∀ op before answer after, reading op → alone.exec op before answer after →
      after = before ∧ alone.safe op before)
    (huses : program.Uses reading) (hnext : ∀ value, alone.Keeps state (next value) last) :
    alone.Keeps state (program >>= next) last := by
  have hsame : alone.Keeps state program fun _ middle => middle = state :=
    .reads hreading huses fun _ _ _ _ => rfl
  refine hsame.bind fun value middle hmiddle => ?_
  rw [hmiddle]
  exact hnext value

theorem Keeps.tryFinally {finalizer : Except ε α → Program Op Reply ε Unit}
    (hreading : ∀ op before answer after, reading op → alone.exec op before answer after →
      after = before ∧ alone.safe op before)
    (h : alone.Keeps state program post) (hfinalizer : ∀ result, (finalizer result).Uses reading) :
    alone.Keeps state (program.tryFinally finalizer) post := by
  intro hinvariant path
  rw [Program.wp_tryFinally]
  refine Program.wp_mono (h hinvariant path) fun result path middle hmiddle => ?_
  have hsame : alone.Keeps middle (finalizer result) fun _ final => final = middle :=
    .reads hreading (hfinalizer result) fun _ _ _ _ => rfl
  refine Program.wp_mono (hsame hmiddle.1 path) fun last _ final hfinal => ?_
  cases last with
  | error exception => exact ⟨hfinal.1, fun _ hok => absurd hok (by simp)⟩
  | ok _ =>
    obtain rfl : final = middle := hfinal.2 () rfl
    exact hmiddle

/-! ### Soundness -/

theorem ran_sound {result : Option (Except ε α)} (hran : Ran alone.exec program state calls result final)
    (h : alone.Keeps state program post) (hstart : alone.invariant state) :
    alone.invariant final ∧
      (∀ call ∈ calls, alone.safe call.op call.before ∧ alone.invariant call.before) ∧
      ∀ value, result = some (.ok value) → post value final := by
  suffices hwp : ∀ path, program.wp alone.logic
      (fun result _ final => alone.invariant final ∧ ∀ value, result = .ok value → post value final)
      path state → _ from
    hwp [] (h hstart [])
  clear h
  induction hran with
  | done result state =>
    intro _ h
    exact ⟨h.1, by simp, fun value hvalue => h.2 value (Option.some.inj hvalue)⟩
  | interrupted program state =>
    intro _ _
    exact ⟨hstart, by simp, fun _ hvalue => absurd hvalue (by simp)⟩
  | @call op next answer state after final calls result hexec _ ih =>
    intro path h
    obtain ⟨⟨hsafe, hinvariant⟩, hnext⟩ := h state rfl answer after hexec
    obtain ⟨hfinal, hcalls, hpost⟩ := ih hinvariant _ hnext
    refine ⟨hfinal, fun call hcall => ?_, hpost⟩
    rcases List.mem_cons.1 hcall with rfl | hcall
    · exact ⟨hsafe, hstart⟩
    · exact hcalls call hcall

/-- A session of programs that keep the invariant keeps it, all its calls are safe, and what a
program returned still holds in the end, if safe calls preserve it. -/
theorem session_sound {program : ι → Program Op Reply ε α} {post : ι → α → σ → Prop}
    {results : List (ι × Except ε α)} (h : ∀ index state, alone.Keeps state (program index) (post index))
    (hstable : ∀ index value op before answer after, alone.invariant before → alone.safe op before →
      alone.exec op before answer after → post index value before → post index value after)
    (hsession : Session alone.exec program state calls results final)
    (hstart : alone.invariant state) :
    alone.invariant final ∧
      (∀ call ∈ calls, alone.safe call.op call.before ∧ alone.invariant call.before) ∧
      ∀ index value, (index, .ok value) ∈ results → post index value final := by
  induction hsession with
  | nil state => exact ⟨hstart, by simp, by simp⟩
  | @cons index state middle final calls more result results hran hrest ih =>
    obtain ⟨hmiddle, hcalls, hpost⟩ := ran_sound hran (h index state) hstart
    obtain ⟨hfinal, hmore, hlater⟩ := ih hmiddle
    refine ⟨hfinal, fun call hcall => ?_, fun other value hvalue => ?_⟩
    · rcases List.mem_append.1 hcall with hcall | hcall
      · exact hcalls call hcall
      · exact hmore call hcall
    rcases List.mem_append.1 hvalue with hvalue | hvalue
    · obtain ⟨ended, hended, heq⟩ := List.mem_map.1 hvalue
      obtain ⟨rfl, rfl⟩ := Prod.mk.inj heq
      have hkept : ∀ call ∈ more, ∀ after, alone.exec call.op call.before call.answer after →
          (post index value call.before → post index value after) := fun call hcall after hexec =>
        hstable index value _ _ _ _ (hmore call hcall).2 (hmore call hcall).1 hexec
      have hgrown := hrest.performs.pairwise (post index value · → post index value ·) (fun _ => id)
        (fun hfirst hsecond => hsecond ∘ hfirst) hkept
      have hlast : post index value middle → post index value final := hgrown.2 final (by simp)
      exact hlast (hpost value (Option.mem_toList.1 hended))
    · exact hlater other value hvalue

end Alone

end Concurrency
