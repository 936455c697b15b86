import Mathlib.Data.List.Forall2

/-!
# Computations that raise

A Python function that returns or raises is an `Except`. When a sequence of steps returns, each step
did: one inversion for a step and its rest, and one for a step per item of a list.
-/

namespace DataRescue.Python

variable {ε α β : Type}

theorem bind_eq_ok {first : Except ε α} {rest : α → Except ε β} {result : β} :
    first >>= rest = .ok result ↔ ∃ value, first = .ok value ∧ rest value = .ok result := by
  cases first <;> simp [bind, Except.bind]

theorem forM_ok {check : α → Except ε Unit} {items : List α} :
    items.forM check = .ok () ↔ ∀ item ∈ items, check item = .ok () := by
  induction items with
  | nil => simp [List.forM_eq_forM, pure, Except.pure]
  | cons first rest ih =>
    rw [List.forM_eq_forM, List.forM_cons, bind_eq_ok, List.forall_mem_cons]
    constructor
    · rintro ⟨⟨⟩, hfirst, hrest⟩
      exact ⟨hfirst, ih.1 hrest⟩
    · rintro ⟨hfirst, hrest⟩
      exact ⟨(), hfirst, ih.2 hrest⟩


theorem mapM_ok {f : α → Except ε β} {items : List α} {results : List β} :
    items.mapM f = .ok results ↔
      List.Forall₂ (fun item result => f item = .ok result) items results := by
  induction items generalizing results with
  | nil => simp [pure, Except.pure, eq_comm]
  | cons item items ih =>
    rw [List.mapM_cons, List.forall₂_cons_left_iff]
    cases hitem : f item with
    | error error => simp [bind, Except.bind]
    | ok result =>
      cases hitems : items.mapM f with
      | error error =>
        have hnone : ∀ others, ¬List.Forall₂ (fun item result => f item = .ok result) items others :=
          fun others hothers => by rw [← ih, hitems] at hothers; cases hothers
        simp [bind, Except.bind, hnone]
      | ok others =>
        simp only [hitems, Except.ok.injEq] at ih
        simp [bind, Except.bind, pure, Except.pure, ← ih, eq_comm]

theorem mapM_returns {f : α → Except ε β} {items : List α} :
    (∃ results, items.mapM f = .ok results) ↔ ∀ item ∈ items, ∃ result, f item = .ok result := by
  induction items with
  | nil => simp [pure, Except.pure]
  | cons item items ih =>
    rw [List.forall_mem_cons, ← ih]
    simp only [List.mapM_cons, bind_eq_ok]
    constructor
    · rintro ⟨_, result, hresult, results, hresults, -⟩
      exact ⟨⟨result, hresult⟩, results, hresults⟩
    · rintro ⟨⟨result, hresult⟩, results, hresults⟩
      exact ⟨_, result, hresult, results, hresults, rfl⟩

theorem mapM_error {f : α → Except ε β} {items : List α} {error : ε} :
    items.mapM f = .error error ↔ ∃ before item after, items = before ++ item :: after ∧
      (∀ other ∈ before, ∃ value, f other = .ok value) ∧ f item = .error error := by
  induction items with
  | nil => simp [pure, Except.pure]
  | cons first items ih =>
    rw [List.mapM_cons]
    cases hfirst : f first with
    | error raised =>
      constructor
      · intro h
        cases h
        exact ⟨[], first, items, rfl, by simp, hfirst⟩
      · rintro ⟨before, item, after, heq, hbefore, hitem⟩
        cases before with
        | nil =>
          cases heq
          cases hfirst.symm.trans hitem
          rfl
        | cons other before =>
          cases heq
          obtain ⟨value, hvalue⟩ := hbefore first List.mem_cons_self
          exact absurd (hfirst.symm.trans hvalue) (by simp)
    | ok value =>
      have hrest : ((do let values ← items.mapM f; pure (value :: values)) = Except.error error) ↔
          items.mapM f = .error error := by
        cases items.mapM f <;> simp [bind, Except.bind, pure, Except.pure]
      refine Iff.trans hrest (ih.trans ⟨?_, ?_⟩)
      · rintro ⟨before, item, after, rfl, hbefore, hitem⟩
        refine ⟨first :: before, item, after, rfl, fun other hother => ?_, hitem⟩
        rcases List.mem_cons.1 hother with rfl | hother
        · exact ⟨value, hfirst⟩
        · exact hbefore other hother
      · rintro ⟨before, item, after, heq, hbefore, hitem⟩
        cases before with
        | nil =>
          cases heq
          exact absurd (hfirst.symm.trans hitem) (by simp)
        | cons other before =>
          cases heq
          exact ⟨before, item, after, rfl,
            fun other hother => hbefore other (List.mem_cons_of_mem _ hother), hitem⟩

end DataRescue.Python
