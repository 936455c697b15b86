import DataRescue.Http.Exceptions
import DataRescue.Remediation.Candidates

/-!
# Malformed proposals

Which answers make the candidate generator raise: a response whose body is no object
(`openaiCandidates_uncaught`).
-/

namespace DataRescue

open Python Concurrency

namespace CandidateGenerator

open Http

variable {printing : Printing} {generator : CandidateGenerator}

theorem outputText_raises (items : List Json) : Raises catches (outputText items) := by
  induction items with
  | nil => exact raises_error rfl
  | cons item items ih =>
    cases item with
    | obj item =>
      rw [outputText]
      split
      · refine (iterate_raises fun _ => rfl).bind fun contents => ?_
        dsimp only
        split
        · exact raises_ok
        · exact ih
      · refine raises_ok.bind fun contents => ?_
        dsimp only
        split
        · exact raises_ok
        · exact ih
    | _ => exact ih

theorem responseOutputText_uncaught {body : Json} :
    Uncaught catches (responseOutputText body) ↔ ∀ fields, body ≠ .obj fields := by
  cases body with
  | obj fields =>
    refine iff_of_false (Raises.not_uncaught ?_) fun h => h fields rfl
    unfold responseOutputText
    dsimp only
    split
    · exact raises_ok
    · split
      · exact (iterate_raises fun _ => rfl).bind outputText_raises
      · exact raises_ok.bind outputText_raises
  | _ => exact iff_of_true ⟨_, rfl, rfl⟩ (by simp)

theorem checked_raises {α : Type} {result : Except SqlSafetyError α} :
    Raises catches (checked printing result) := by
  rw [checked]
  cases result with
  | error error => exact raises_error rfl
  | ok value => exact raises_ok

theorem proposal_raises {event : SchemaChangeEvent} {context : ContextBundle} {raw : Json}
    {index : Nat} : Raises catches (proposal printing event context raw index) := by
  have hsubscript : ∀ value key, Raises catches (subscript value key) := fun value key =>
    subscript_raises (fun _ => rfl) fun _ => rfl
  rw [proposal]
  refine (hsubscript _ _).bind fun sourceField => checked_raises.bind fun sourceField => ?_
  refine (hsubscript _ _).bind fun targetAlias => checked_raises.bind fun targetAlias => ?_
  split
  · exact raises_error rfl
  refine (hsubscript _ _).bind fun evidence => (iterate_raises fun _ => rfl).bind fun evidence => ?_
  dsimp only
  split
  · exact raises_error rfl
  · exact (hsubscript _ _).bind fun rationale => raises_ok

theorem proposals_uncaught {event : SchemaChangeEvent} {context : ContextBundle} {body : Json} :
    Uncaught catches (proposals printing event context body) ↔ ∀ fields, body ≠ .obj fields := by
  rw [← responseOutputText_uncaught]
  refine uncaught_bind fun text => (decode_raises fun _ => rfl).bind fun parsed => ?_
  refine (subscript_raises (fun _ => rfl) fun _ => rfl).bind fun raws => ?_
  exact (iterate_raises fun _ => rfl).bind fun raws => Raises.mapM (fun _ => proposal_raises) _

theorem openaiCandidates_uncaught {apiKey : String} {event : SchemaChangeEvent}
    {context : ContextBundle} {calls : List HttpCall}
    {ended : Except AdapterError (List CandidateProposal)} (hremote : Remote calls)
    (h : (generator.openaiCandidates printing apiKey event context).Trace calls ended) :
    Uncaught catches ended ↔ ∃ body, Posted calls body ∧ ∀ fields, body ≠ .obj fields := by
  rw [posted_uncaught (fun _ => rfl) (fun _ => rfl) hremote h]
  simp only [proposals_uncaught]

end CandidateGenerator

end DataRescue
