import DataRescue.Api.Models

/-!
# Policy engine

`packages/policy/engine.py`: seven named checks of one candidate's evidence. `accepted` is the
absence of failed checks (`evaluate_accepted`), and acceptance makes the two ranked metrics numbers
rather than NaN (`evaluate_ranked`), which is what lets the accepted candidates be compared.
-/

namespace DataRescue

open Python

structure PolicyDecision where
  accepted : Bool
  checks : List PolicyCheck
  reasons : List String
  deriving DecidableEq

namespace PolicyEngine

/-- The checks of `PolicyEngine.evaluate`, in order. -/
def checks (config : PolicyConfig) (semanticVerdict : SemanticVerdict)
    (metrics : ReconciliationMetrics) (build : BuildResult) (lineageCurrent : Bool) :
    List PolicyCheck :=
  [{ name := "semantic_evidence"
     passed := if config.semanticEvidenceRequired then semanticVerdict = .match
       else semanticVerdict ≠ .conflict
     observed := semanticVerdict.value
     requirement := if config.semanticEvidenceRequired then "MATCH required" else "No conflict" },
   { name := "total_variance"
     passed := metrics.totalVariancePct.abs.le config.maxTotalVariancePct
     observed := s!"{metrics.totalVariancePct.fixed2}%"
     requirement := s!"absolute value <= {config.maxTotalVariancePct.fixed2}%" },
   { name := "row_count_variance"
     passed := metrics.rowCountVariancePct.abs.le config.maxRowCountVariancePct
     observed := s!"{metrics.rowCountVariancePct.fixed2}%"
     requirement := s!"absolute value <= {config.maxRowCountVariancePct.fixed2}%" },
   { name := "primary_key_overlap"
     passed := config.minPrimaryKeyOverlapPct.le metrics.primaryKeyOverlapPct
     observed := s!"{metrics.primaryKeyOverlapPct.fixed2}%"
     requirement := s!">= {config.minPrimaryKeyOverlapPct.fixed2}%" },
   { name := "null_rate_delta"
     passed := metrics.nullRateDeltaPercentagePoints.abs.le config.maxNullRateDeltaPercentagePoints
     observed := s!"{metrics.nullRateDeltaPercentagePoints.fixed2} pp"
     requirement := s!"absolute value <= {config.maxNullRateDeltaPercentagePoints.fixed2} pp" },
   { name := "dbt_build"
     passed := if config.dbtBuildRequired then build.passed else true
     observed := if build.totalChecks ≠ 0 then
         s!"{build.passedChecks}/{build.totalChecks} passed"
       else if build.passed then "passed" else "failed"
     requirement := if config.dbtBuildRequired then "dbt build must pass" else "optional" },
   { name := "lineage_current"
     passed := if config.lineageMustBeCurrent then lineageCurrent else true
     observed := if lineageCurrent then "current" else "missing or stale"
     requirement := if config.lineageMustBeCurrent then "current lineage required"
       else "optional" }]

/-- `PolicyEngine.evaluate`. -/
def evaluate (config : PolicyConfig) (semanticVerdict : SemanticVerdict)
    (metrics : ReconciliationMetrics) (build : BuildResult) (lineageCurrent : Bool) :
    PolicyDecision :=
  let checks := checks config semanticVerdict metrics build lineageCurrent
  let reasons := (checks.filter fun check => !check.passed).map fun check =>
    s!"{check.name}: observed {check.observed}; required {check.requirement}"
  { accepted := reasons.isEmpty, checks, reasons }

/-- `PolicyEngine.outcome`. -/
def outcome (decision : PolicyDecision) : CandidateOutcome :=
  if decision.accepted then .eligible else .rejected

section

variable {config : PolicyConfig} {semanticVerdict : SemanticVerdict}
  {metrics : ReconciliationMetrics} {build : BuildResult} {lineageCurrent : Bool}

theorem evaluate_accepted :
    (evaluate config semanticVerdict metrics build lineageCurrent).accepted = true ↔
      ∀ check ∈ (evaluate config semanticVerdict metrics build lineageCurrent).checks,
        check.passed = true := by
  simp [evaluate, List.isEmpty_iff, List.filter_eq_nil_iff]

theorem evaluate_ranked
    (h : (evaluate config semanticVerdict metrics build lineageCurrent).accepted = true) :
    metrics.totalVariancePct.abs.place.isSome = true ∧
      metrics.rowCountVariancePct.abs.place.isSome = true := by
  have hpassed := evaluate_accepted.1 h
  simp only [evaluate, checks, List.forall_mem_cons] at hpassed
  obtain ⟨_, htotal, hrows, _⟩ := hpassed
  obtain ⟨_, _, htotal, _⟩ := PyFloat.le_place htotal
  obtain ⟨_, _, hrows, _⟩ := PyFloat.le_place hrows
  exact ⟨by rw [htotal]; rfl, by rw [hrows]; rfl⟩

theorem evaluate_bounds {total rows overlap nulls : ℚ}
    (htotal : metrics.totalVariancePct = .finite total)
    (hrows : metrics.rowCountVariancePct = .finite rows)
    (hoverlap : metrics.primaryKeyOverlapPct = .finite overlap)
    (hnulls : metrics.nullRateDeltaPercentagePoints = .finite nulls)
    (h : (evaluate {} semanticVerdict metrics build lineageCurrent).accepted = true) :
    |total| ≤ 1 / 2 ∧ |rows| ≤ 1 / 10 ∧ 999 / 10 ≤ overlap ∧ |nulls| ≤ 1 / 2 := by
  have hpassed := evaluate_accepted.1 h
  simp only [evaluate, checks, List.forall_mem_cons, htotal, hrows, hoverlap, hnulls, PyFloat.abs,
    PyFloat.finite_le] at hpassed
  obtain ⟨-, htotal, hrows, hoverlap, hnulls, -⟩ := hpassed
  exact ⟨htotal, hrows, hoverlap, hnulls⟩

end

end PolicyEngine

end DataRescue
