import DataRescue.Workflow.Correctness
import DataRescue.Workflow.Execution

/-!
# Stranded verifications

A verification records the deployment before it reports it, and nothing handles what a report raises
in between. Its case ends as it was, or closed, exactly when none of its reports raised
(`verify_deployment_settles_iff`).
-/

namespace DataRescue

open Python Concurrency

/-- A verification that took the lock before one world and left it in another ended its case: it raised
and left the log as it was, or the case is resolved, contained or failed. -/
def Settled (caseId : String) (failed : Prop) (before after : World) : Prop :=
  (failed ∧ after.store.log caseId = before.store.log caseId) ∨
    ∃ snapshot, after.store.snapshot? caseId = some snapshot ∧ snapshot.state.closed

section

variable {service : Service} {environment : Environment} {caseId : String} {failed : Prop}
  {path : List (Performed Op Op.Reply Exn World)} {before after : World} {pool : ServicePool}

theorem Ending.settled_iff (h : Ending environment caseId failed path before after)
    (hstore : ¬environment.storeFails) : Settled caseId failed before after ↔ Undisturbed path := by
  cases h with
  | unchanged hfailed hsame hpath =>
    exact iff_of_true (.inl ⟨hfailed, by rw [hsame]⟩) hpath
  | closed hsnapshot hclosed hpath => exact iff_of_true (.inr ⟨_, hsnapshot, hclosed⟩) hpath
  | @stranded opened snapshot hfailed hopened hopen hsnapshot hstate hpath =>
    refine iff_of_false ?_ (hpath.resolve_right hstore)
    rintro (⟨-, hlog⟩ | ⟨found, hfound, hclosed⟩)
    · -- the case left its state, so its log is not the same
      rw [Store.snapshot?, hlog, ← Store.snapshot?, hopened] at hsnapshot
      obtain rfl := Option.some.inj hsnapshot
      rw [hopen] at hstate
      rcases hstate with h | h <;> cases h
    · obtain rfl := Option.some.inj (hsnapshot.symm.trans hfound)
      rcases hstate with h | h <;> rw [h] at hclosed <;> rcases hclosed with h | h | h <;> cases h

/-- When a verification settles its case. -/
theorem verify_deployment_settles_iff (hsingle : environment.Single)
    (hstore : ¬environment.storeFails) (hreach : service.Reachable environment pool) :
    ∀ finished ∈ pool.finished, ∀ caseId request,
      finished.actor.call.command = .verifyDeployment caseId request →
      ∃ before body after,
        finished.path =
          [⟨.memory .acquire, .ok (), before⟩] ++ body ++ [⟨.memory .release, .ok (), after⟩] ∧
        (Settled caseId (finished.result.isOk = false) before after ↔ Undisturbed finished.path) := by
  intro finished hmem caseId request hcommand
  obtain ⟨_, -, hpost⟩ := ((ledger_sound hsingle hreach).finished finished hmem).result
  have hcall : CallPost environment finished.actor finished.result finished.path := hpost
  obtain ⟨before, body, after, hpath, hending⟩ := hcall caseId request hcommand
  exact ⟨before, body, after, hpath, hending.settled_iff hstore⟩

end

/-- A verification whose reports are answered. -/
theorem verify_deployment_settles_working : ∃ pool, connectedService.Reachable steadyStore pool ∧
    ∃ finished ∈ pool.finished,
      finished.actor.call.command = .verifyDeployment "DR-01234567" mergedRequest ∧
      ∃ before body after,
        finished.path =
          [⟨.memory .acquire, .ok (), before⟩] ++ body ++ [⟨.memory .release, .ok (), after⟩] ∧
        (Settled "DR-01234567" (finished.result.isOk = false) before after ↔
          Undisturbed finished.path) := by
  have hsession : (connectedService.session [openingVisit, verifyingVisit] 0 {}).any (fun outcome =>
      verifyingVisit.command ∈ outcome.1.map fun served => served.call.command) = true := by decide +kernel
  obtain ⟨pool, hreach, -, hserved⟩ := Service.session_reaches permits_steadyStore hsession
  obtain ⟨served, hserved, hcommand⟩ := List.mem_map.1 (of_decide_eq_true hserved)
  obtain ⟨finished, hfinished, rfl⟩ := List.mem_map.1 hserved
  exact ⟨pool, hreach, finished, hfinished, hcommand,
    verify_deployment_settles_iff (fun _ h => h) not_false hreach finished hfinished _ _ hcommand⟩

/-- The remote incident answers with a list, which the adapter looks up in a set. -/
def unhashableAnswers : AdapterAnswers
  | .resolveIncident _ => .error (.external .other "TypeError")
  | op => workingAnswers op

/-- A verification may leave its case between deployment and resolution. -/
theorem verify_deployment_strands : ∃ pool, connectedService.Reachable steadyStore pool ∧
    pool.Quiet ∧
    (∃ finished ∈ pool.finished,
      finished.actor.call.command = .verifyDeployment "DR-01234567" mergedRequest ∧
      finished.result = .error (.external .other "TypeError")) ∧
    (pool.shared.store.snapshot? "DR-01234567").map CaseSnapshot.state = some .postDeployVerified := by
  have hsession : (connectedService.session
      [openingVisit, ⟨.verifyDeployment "DR-01234567" mergedRequest, unhashableAnswers⟩] 0 {}).any
      (fun outcome =>
        (Command.verifyDeployment "DR-01234567" mergedRequest,
            (.error (.external .other "TypeError") : Except Exn Response)) ∈
          outcome.1.map (fun served => (served.call.command, served.result)) ∧
          (outcome.2.store.snapshot? "DR-01234567").map CaseSnapshot.state =
            some .postDeployVerified) = true := by decide +kernel
  obtain ⟨pool, hreach, hquiet, hholds⟩ := Service.session_reaches permits_steadyStore hsession
  obtain ⟨hserved, hstate⟩ := of_decide_eq_true hholds
  obtain ⟨call, hcall, hserved⟩ := List.mem_map.1 hserved
  obtain ⟨finished, hfinished, rfl⟩ := List.mem_map.1 hcall
  obtain ⟨hcommand, hresult⟩ := Prod.mk.inj hserved
  exact ⟨pool, hreach, hquiet, ⟨finished, hfinished, hcommand, hresult⟩, hstate⟩

end DataRescue
