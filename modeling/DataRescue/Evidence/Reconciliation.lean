import DataRescue.Policy.Engine
import DataRescue.Remediation.SqlSafety
import DataRescue.Sql.Relation
import Mathlib.Tactic.FieldSimp
import Mathlib.Tactic.Positivity

/-!
# Reconciliation

`PostgresDbtExecutor._reconcile` of `packages/evidence/executor.py`, in exact arithmetic: the metrics
of a candidate relation against the last good one. A division by zero is an exception here as it is in
the source, and none happens. What the policy accepts then bounds the difference of the two relations
(`reconcile_sound`). The key overlap counts the rows of a join, so it bounds the matched keys only if
the candidate repeats none of them.
-/

namespace DataRescue

open Python

namespace PostgresDbtExecutor

inductive ReconcileError where
  | sqlSafety (error : SqlSafetyError)
  | valueError (message : String)
  | zeroDivision
  deriving DecidableEq, Repr

/-- `x / y` -/
def divide (x y : ℚ) : Except ReconcileError ℚ :=
  if y = 0 then .error .zeroDivision else .ok (x / y)

/-- `_percentage_delta` -/
def percentageDelta (current baseline : ℚ) : Except ReconcileError ℚ :=
  if baseline = 0 then .ok (if current = 0 then 0 else 1000000000)
  else do
    let ratio ← divide (current - baseline) |baseline|
    pure (ratio * 100)

/-- `100.0 if baseline_count == 0 else (overlap_count / baseline_count) * 100.0` -/
def overlapPercentage (overlapCount baselineCount : Nat) : Except ReconcileError ℚ :=
  if baselineCount = 0 then .ok 100
  else do
    let ratio ← divide overlapCount baselineCount
    pure (ratio * 100)

/-- The columns of `fct_revenue` and of the last good relation that are compared. -/
structure RevenueRow (κ : Type) where
  paymentId : Option κ
  revenue : Option ℚ
  deriving DecidableEq

variable {κ : Type}

/-- `COUNT(*)`, `COALESCE(SUM(revenue), 0)` and the average of the null indicator of a relation. -/
structure Aggregates where
  count : Nat
  total : ℚ
  nullRate : ℚ

def aggregates (rows : List (RevenueRow κ)) : Aggregates where
  count := rows.length
  total := (Sql.sum (rows.map RevenueRow.revenue)).getD 0
  nullRate := (Sql.avg (rows.map fun row => some (if row.revenue.isNone then 1 else 0))).getD 0

/-- The sum of the revenues that are not null. -/
def revenueTotal (rows : List (RevenueRow κ)) : ℚ := (rows.filterMap RevenueRow.revenue).sum

/-- The share of the rows whose revenue is null; an empty relation has none. -/
def revenueNullRate (rows : List (RevenueRow κ)) : ℚ :=
  (rows.countP fun row => row.revenue.isNone : ℚ) / rows.length

theorem aggregates_total (rows : List (RevenueRow κ)) :
    (aggregates rows).total = revenueTotal rows := by
  rw [aggregates, Sql.sum_getD, List.filterMap_map]
  rfl

theorem aggregates_nullRate (rows : List (RevenueRow κ)) :
    (aggregates rows).nullRate = revenueNullRate rows :=
  Sql.avg_indicator rows fun row => row.revenue.isNone

variable [DecidableEq κ]

/-- `_reconcile`, with the path that `_write_evidence` returned. An aggregate query always has a row,
so the three checks for a missing one are not taken. -/
def reconcile (baselineRelation schema : String) (artifact : Option String)
    (candidate baseline : List (RevenueRow κ)) : Except ReconcileError ReconciliationMetrics := do
  let parts ← ((split '.' baselineRelation).mapM fun part =>
    requireIdentifier part "baseline relation").mapError .sqlSafety
  if parts.length ≠ 2 then
    throw (.valueError "Baseline relation must be schema-qualified")
  let current := aggregates candidate
  let last := aggregates baseline
  let overlapCount := Sql.joinCount (candidate.map RevenueRow.paymentId)
    (baseline.map RevenueRow.paymentId)
  let totalVariance ← percentageDelta current.total last.total
  let rowVariance ← percentageDelta current.count last.count
  let overlap ← overlapPercentage overlapCount last.count
  let nullDelta := (current.nullRate - last.nullRate) * 100
  pure
    { totalVariancePct := .finite totalVariance
      rowCountVariancePct := .finite rowVariance
      primaryKeyOverlapPct := .finite overlap
      nullRateDeltaPercentagePoints := .finite nullDelta
      currentRowCount := some current.count
      baselineRowCount := some last.count
      evidenceRefs :=
        [match artifact with
          | some path => if path ≠ "" then path else s!"postgres://execution/{schema}/reconciliation"
          | none => s!"postgres://execution/{schema}/reconciliation"] }

/-! ### Deltas -/

/-- The percentage itself, where it is defined. -/
def delta (current baseline : ℚ) : ℚ :=
  if baseline = 0 then if current = 0 then 0 else 1000000000
  else (current - baseline) / |baseline| * 100

theorem percentageDelta_eq (current baseline : ℚ) :
    percentageDelta current baseline = .ok (delta current baseline) := by
  unfold percentageDelta delta
  by_cases hbaseline : baseline = 0
  · rw [if_pos hbaseline, if_pos hbaseline]
  · have habs : |baseline| ≠ 0 := abs_ne_zero.2 hbaseline
    rw [if_neg hbaseline, if_neg hbaseline, divide, if_neg habs]
    rfl

/-- A small percentage is a small difference, and over a zero baseline there is none. -/
theorem delta_le {current baseline bound : ℚ} (hbound : bound < 1000000000)
    (h : |delta current baseline| ≤ bound) : 100 * |current - baseline| ≤ bound * |baseline| := by
  unfold delta at h
  split at h
  next hbaseline =>
    split at h
    next hcurrent => simp [hbaseline, hcurrent]
    next =>
      rw [abs_of_pos (by norm_num)] at h
      exact absurd h (not_le.2 hbound)
  next hbaseline =>
    have hpos : 0 < |baseline| := abs_pos.2 hbaseline
    rw [abs_mul, abs_div, abs_abs, abs_of_pos (by norm_num : (0 : ℚ) < 100), div_mul_eq_mul_div,
      div_le_iff₀ hpos] at h
    linarith

/-- The overlap itself. -/
def overlapPct (overlapCount baselineCount : Nat) : ℚ :=
  if baselineCount = 0 then 100 else overlapCount / baselineCount * 100

theorem overlapPercentage_eq (overlapCount baselineCount : Nat) :
    overlapPercentage overlapCount baselineCount = .ok (overlapPct overlapCount baselineCount) := by
  unfold overlapPercentage overlapPct
  by_cases hcount : baselineCount = 0
  · rw [if_pos hcount, if_pos hcount]
  · rw [if_neg hcount, if_neg hcount, divide, if_neg (Nat.cast_ne_zero.2 hcount)]
    rfl

theorem le_overlapPct {overlapCount baselineCount : Nat}
    (h : 999 / 10 ≤ overlapPct overlapCount baselineCount) :
    999 * baselineCount ≤ 1000 * overlapCount := by
  unfold overlapPct at h
  split at h
  next hbaseline => simp [hbaseline]
  next hbaseline =>
    have hpos : (0 : ℚ) < baselineCount := by exact_mod_cast Nat.pos_of_ne_zero hbaseline
    rw [div_mul_eq_mul_div, le_div_iff₀ hpos] at h
    have hcast : (999 * baselineCount : ℚ) ≤ 1000 * overlapCount := by linarith
    exact_mod_cast hcast

/-! ### The metrics -/

variable {baselineRelation schema : String} {artifact : Option String}
  {candidate baseline : List (RevenueRow κ)}

theorem reconcile_cases (baselineRelation schema : String) (artifact : Option String)
    (candidate baseline : List (RevenueRow κ)) :
    (∃ error, reconcile baselineRelation schema artifact candidate baseline = .error error ∧
        error ≠ .zeroDivision) ∨
      ∃ metrics, reconcile baselineRelation schema artifact candidate baseline = .ok metrics ∧
        metrics.totalVariancePct =
          .finite (delta (aggregates candidate).total (aggregates baseline).total) ∧
        metrics.rowCountVariancePct = .finite (delta candidate.length baseline.length) ∧
        metrics.primaryKeyOverlapPct = .finite (overlapPct
          (Sql.joinCount (candidate.map RevenueRow.paymentId) (baseline.map RevenueRow.paymentId))
          baseline.length) ∧
        metrics.nullRateDeltaPercentagePoints =
          .finite (((aggregates candidate).nullRate - (aggregates baseline).nullRate) * 100) := by
  unfold reconcile
  cases ((split '.' baselineRelation).mapM fun part => requireIdentifier part "baseline relation") with
  | error error => exact .inl ⟨_, rfl, nofun⟩
  | ok parts =>
    simp only [Except.mapError, bind, Except.bind]
    split
    · exact .inl ⟨_, rfl, nofun⟩
    · simp only [percentageDelta_eq, overlapPercentage_eq]
      refine .inr ⟨_, rfl, ?_, ?_, ?_, ?_⟩ <;> rfl

/-- A relation with a primary key. -/
structure KeyedRelation (κ : Type) where
  rows : List (RevenueRow κ)
  unique : (rows.map RevenueRow.paymentId).Nodup
  notNull : ∀ row ∈ rows, row.paymentId ≠ none

/-- The payment ids of the baseline that occur in the candidate. -/
def matchedKeys (candidate : List (RevenueRow κ)) (baseline : KeyedRelation κ) : List (Option κ) :=
  Sql.matched (candidate.map RevenueRow.paymentId) (baseline.rows.map RevenueRow.paymentId)

/-- What the policy accepts is close to the baseline: in its total, its row count and its null
rate, and in its keys as far as the candidate does not repeat them. No division by zero happens. -/
theorem reconcile_sound (baselineRelation schema : String) (artifact : Option String)
    (candidate : List (RevenueRow κ)) (baseline : KeyedRelation κ) :
    reconcile baselineRelation schema artifact candidate baseline.rows ≠ .error .zeroDivision ∧
      ∀ metrics, reconcile baselineRelation schema artifact candidate baseline.rows = .ok metrics →
        ∀ semanticVerdict build lineageCurrent,
          (PolicyEngine.evaluate {} semanticVerdict metrics build lineageCurrent).accepted = true →
            200 * |revenueTotal candidate - revenueTotal baseline.rows| ≤
                |revenueTotal baseline.rows| ∧
              1000 * |(candidate.length : ℤ) - baseline.rows.length| ≤ baseline.rows.length ∧
              999 * baseline.rows.length ≤ 1000 * Sql.joinCount
                (candidate.map RevenueRow.paymentId) (baseline.rows.map RevenueRow.paymentId) ∧
              ((∀ row ∈ baseline.rows,
                  (candidate.map RevenueRow.paymentId).count row.paymentId ≤ 1) →
                999 * baseline.rows.length ≤ 1000 * (matchedKeys candidate baseline).length) ∧
              100 * |revenueNullRate candidate - revenueNullRate baseline.rows| ≤ 1 / 2 := by
  rcases reconcile_cases baselineRelation schema artifact candidate baseline.rows with
    ⟨error, herror, hzero⟩ | ⟨metrics, hmetrics, htotal, hrows, hoverlap, hnulls⟩
  · rw [herror]
    exact ⟨fun h => hzero (Except.error.inj h), fun metrics h => absurd h (by simp)⟩
  · rw [hmetrics]
    refine ⟨by simp, fun metrics' heq semanticVerdict build lineageCurrent haccepted => ?_⟩
    obtain rfl := Except.ok.inj heq
    obtain ⟨htotal, hrows, hoverlap, hnulls⟩ :=
      PolicyEngine.evaluate_bounds htotal hrows hoverlap hnulls haccepted
    rw [aggregates_total, aggregates_total] at htotal
    rw [aggregates_nullRate, aggregates_nullRate, abs_mul,
      abs_of_pos (by norm_num : (0 : ℚ) < 100)] at hnulls
    have hjoined := le_overlapPct hoverlap
    refine ⟨?_, ?_, hjoined, fun hunrepeated => ?_, by linarith⟩
    · have hclose := delta_le (by norm_num) htotal
      linarith
    · have hclose := delta_le (by norm_num) hrows
      have hcount : |(baseline.rows.length : ℚ)| = baseline.rows.length :=
        abs_of_nonneg (Nat.cast_nonneg _)
      rw [hcount] at hclose
      have hcast : (1000 * |(candidate.length : ℤ) - baseline.rows.length| : ℚ) ≤
          baseline.rows.length := by
        push_cast
        linarith
      exact_mod_cast hcast
    · have hnotNull : ∀ key ∈ baseline.rows.map RevenueRow.paymentId, key ≠ none := fun key hkey => by
        obtain ⟨row, hrow, rfl⟩ := List.mem_map.1 hkey
        exact baseline.notNull row hrow
      rwa [Sql.joinCount_eq_matched hnotNull fun key hkey => by
        obtain ⟨row, hrow, rfl⟩ := List.mem_map.1 hkey
        exact hunrepeated row hrow] at hjoined

/-- A candidate that repeats one key in place of another is accepted with a full overlap. -/
theorem reconcile_counterexample :
    ¬∀ (candidate : List (RevenueRow Nat)) (baseline : KeyedRelation Nat)
      (metrics : ReconciliationMetrics),
      reconcile "audit.payments_fct_last_good" "candidate" none candidate baseline.rows =
          .ok metrics →
        (PolicyEngine.evaluate {} .match metrics { passed := true } true).accepted = true →
          999 * baseline.rows.length ≤ 1000 * (matchedKeys candidate baseline).length := by
  intro h
  let baseline : KeyedRelation Nat :=
    { rows := [⟨some 1, some 10⟩, ⟨some 2, some 10⟩], unique := by decide, notNull := by decide }
  let candidate : List (RevenueRow Nat) := [⟨some 1, some 10⟩, ⟨some 1, some 10⟩]
  have hrun := h candidate baseline
    { totalVariancePct := .finite 0
      rowCountVariancePct := .finite 0
      primaryKeyOverlapPct := .finite 100
      nullRateDeltaPercentagePoints := .finite 0
      currentRowCount := some 2
      baselineRowCount := some 2
      evidenceRefs := ["postgres://execution/candidate/reconciliation"] }
    (by decide +kernel) (by decide +kernel)
  exact absurd hrun (by decide +kernel)

end PostgresDbtExecutor

end DataRescue
