import DataRescue.Concurrency.Program

/-!
# Budgets and exceptions

A program that makes at most so many calls of a kind can be given a budget for them, and every such call
finds some of it left (`Program.wp_of_budget`). A program whose exceptions all have a property if those
of its operations have it keeps that property in every execution (`Program.Raises.wp`).
-/

namespace Concurrency

section

variable {Op : Type} {Reply : Op → Type} {ε σ α ι : Type}

namespace Program

theorem exists_trace [Inhabited ε] (program : Program Op Reply ε α) :
    ∃ calls result, program.Trace calls result := by
  induction program with
  | done result => exact ⟨[], result, .done result⟩
  | call op next ih =>
    obtain ⟨calls, result, htrace⟩ := ih (.error default)
    exact ⟨_, result, .call htrace⟩

theorem AtMost.call [Inhabited ε] {kind : Op → Bool} {bound : Nat} {op : Op}
    {next : Except ε (Reply op) → Program Op Reply ε α}
    (h : (Program.call op next).AtMost kind bound) :
    (kind op = true → 0 < bound) ∧
      ∀ answer, (next answer).AtMost kind (if kind op then bound - 1 else bound) := by
  have hcons : ∀ {answer calls result}, (next answer).Trace calls result →
      calls.countP (kind ·.1) + (if kind op then 1 else 0) ≤ bound := by
    intro answer calls result htrace
    have hbound := h _ result (.call htrace)
    rwa [List.countP_cons] at hbound
  refine ⟨fun hkind => ?_, fun answer calls result htrace => ?_⟩
  · obtain ⟨calls, result, htrace⟩ := exists_trace (next (.error default))
    have hbound := hcons htrace
    rw [if_pos hkind] at hbound
    omega
  · have hbound := hcons htrace
    split_ifs at hbound ⊢ <;> omega

/-- A program within its budgets: the invariant speaks of what is left of them, and a call that
draws on a budget finds it positive. -/
theorem wp_of_budget [Inhabited ε] {logic : Logic Op Reply ε σ} {allowed : Op → Prop}
    {kind : ι → Op → Bool} (invariant : (ι → Nat) → σ → Prop) {program : Program Op Reply ε α}
    {bound : ι → Nat} {path : List (Performed Op Reply ε σ)} {state : σ}
    {post : Except ε α → List (Performed Op Reply ε σ) → σ → Prop}
    (h : program.Uses allowed) (hmost : ∀ i, program.AtMost (kind i) (bound i))
    (hstart : invariant bound state)
    (hstep : ∀ bound path state before op answer after, allowed op →
      (∀ i, kind i op = true → 0 < bound i) → invariant bound state →
      logic.rely state before → logic.exec op before answer after →
      logic.guar path op before answer after ∧
        invariant (fun i => if kind i op then bound i - 1 else bound i) after)
    (hdone : ∀ bound result path state, invariant bound state → post result path state) :
    program.wp logic post path state := by
  induction h generalizing bound path state with
  | done result => exact hdone bound result path state hstart
  | @call op next h _ ih =>
    intro before hrely answer after hexec
    obtain ⟨hguar, hafter⟩ := hstep bound path state before op answer after h
      (fun i => (hmost i).call.1) hstart hrely hexec
    exact ⟨hguar, ih answer (fun i => (hmost i).call.2 answer) hafter⟩

/-! ### Exceptions -/

/-- The exceptions of the program satisfy `p` if those of its operations do. -/
inductive Raises (p : ε → Prop) : Program Op Reply ε α → Prop
  | done (result : Except ε α) (h : ∀ exception, result = .error exception → p exception) :
      Raises p (done result)
  | call {op : Op} {next : Except ε (Reply op) → Program Op Reply ε α}
      (h : ∀ answer, (∀ exception, answer = .error exception → p exception) → Raises p (next answer)) :
      Raises p (call op next)

variable {p : ε → Prop}

theorem raises_pure {value : α} : (pure value : Program Op Reply ε α).Raises p :=
  .done _ fun _ h => by cases h

theorem raises_throw {exception : ε} (h : p exception) :
    (throw exception : Program Op Reply ε α).Raises p :=
  .done _ fun _ heq => by cases heq; exact h

theorem raises_perform {op : Op} : (call op .done : Program Op Reply ε (Reply op)).Raises p :=
  .call fun answer h => .done answer h

theorem Raises.bind {β : Type} {program : Program Op Reply ε α} {next : α → Program Op Reply ε β}
    (h : program.Raises p) (hnext : ∀ value, (next value).Raises p) :
    (program >>= next).Raises p := by
  rw [bind_eq]
  induction h with
  | done result h =>
    cases result with
    | ok value => exact hnext value
    | error exception => exact raises_throw (h exception rfl)
  | call h ih => exact .call ih

theorem Raises.tryCatch {program : Program Op Reply ε α} {handler : ε → Program Op Reply ε α}
    (h : program.Raises p) (hhandler : ∀ exception, p exception → (handler exception).Raises p) :
    (program.tryCatch handler).Raises p := by
  unfold Program.tryCatch
  induction h with
  | done result h =>
    cases result with
    | ok value => exact raises_pure
    | error exception => exact hhandler exception (h exception rfl)
  | call h ih => exact .call ih

theorem Raises.wp {logic : Logic Op Reply ε σ} {program : Program Op Reply ε α}
    {path : List (Performed Op Reply ε σ)} {state : σ} (h : program.Raises p)
    (hexec : ∀ op before exception after, logic.exec op before (.error exception) after →
      p exception) :
    program.wp { logic with guar := fun _ _ _ _ _ => True }
      (fun result _ _ => ∀ exception, result = .error exception → p exception) path state := by
  induction h generalizing path state with
  | done result h => exact h
  | call h ih =>
    intro before hrely answer after hafter
    refine ⟨trivial, ih answer fun exception heq => ?_⟩
    subst heq
    exact hexec _ before exception after hafter

end Program

end

end Concurrency
