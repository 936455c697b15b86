import DataRescue.Api.Models

/-!
# Case state machine

`apps/api/state_machine.py`: the transition table and its check.
-/

namespace DataRescue

namespace CaseState

/-- `ALLOWED_TRANSITIONS`. -/
def allowedTransitions : CaseState → List CaseState
  | detected => [contextGathered, contained, failed]
  | contextGathered => [candidatesReady, contained, failed]
  | candidatesReady => [validating, contained, failed]
  | validating => [patchReady, contained, failed]
  | patchReady => [prOpen, contained, failed]
  | prOpen => [deployed, contained, failed]
  | deployed => [postDeployVerified, contained, failed]
  | postDeployVerified => [resolved, contained, failed]
  | resolved => []
  | contained => []
  | failed => []

/-- The states no transition leaves. -/
def closed (state : CaseState) : Prop := state = resolved ∨ state = contained ∨ state = failed

instance (state : CaseState) : Decidable state.closed := by unfold closed; infer_instance

theorem closed_iff_no_transition (state : CaseState) :
    state.closed ↔ state.allowedTransitions = [] := by cases state <;> decide

theorem contained_failed_mem {state : CaseState} (h : ¬state.closed) :
    contained ∈ state.allowedTransitions ∧ failed ∈ state.allowedTransitions := by
  cases state <;> first | decide | exact absurd (by decide) h

end CaseState

/-- `validate_transition`; the error is the text of `InvalidStateTransition`. -/
def validateTransition (current : Option CaseState) (target : CaseState) : Except String Unit :=
  match current with
  | none =>
    if target ≠ .detected then .error s!"A new case must start in DETECTED, not {target.value}"
    else .ok ()
  | some current =>
    if current = target then .ok ()
    else if target ∉ current.allowedTransitions then
      .error s!"Invalid case transition: {current.value} -> {target.value}"
    else .ok ()

/-- A case may start in a state, or move between two. -/
def Transition : Option CaseState → CaseState → Prop
  | none, target => target = .detected
  | some current, target => current = target ∨ target ∈ current.allowedTransitions

theorem validateTransition_ok {current : Option CaseState} {target : CaseState} :
    validateTransition current target = .ok () ↔ Transition current target := by
  cases current with
  | none => by_cases h : target = .detected <;> simp [validateTransition, Transition, h]
  | some current =>
    by_cases h : current = target <;>
      by_cases h' : target ∈ current.allowedTransitions <;>
        simp [validateTransition, Transition, h, h']

theorem Transition.closed {current target : CaseState} (h : Transition (some current) target)
    (hclosed : current.closed) : target = current := by
  rcases h with h | h
  · exact h.symm
  · rw [(CaseState.closed_iff_no_transition current).1 hclosed] at h
    cases h

end DataRescue
