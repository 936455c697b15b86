import DataRescue.Api.Models
import DataRescue.Python.Raising
import DataRescue.Python.Text

/-!
# SQL safety

`packages/remediation/sql_safety.py`: identifiers, the candidate query and the one-line edit of the
dbt model. An error keeps the rejected value; its text is the constructor's.
-/

namespace DataRescue

open Python

/-- The causes of a `SQLSafetyError`. -/
inductive SqlSafetyError where
  /-- `Unsafe {label}: {value!r}` -/
  | unsafeIdentifier (label value : String)
  /-- `Unsafe relation: {value!r}` -/
  | unsafeRelation (value : String)
  /-- `The v1 remediation renderer only permits target_alias='revenue'` -/
  | aliasNotRevenue
  /-- `The staging model does not contain one unambiguous allowlisted revenue default` -/
  | ambiguousModel
  /-- `The staging model patch made no change` -/
  | patchMadeNoChange
  /-- `Comments and multiple statements are not allowed` -/
  | commentOrStatement
  /-- `Candidate SQL does not match the read-only allowlisted shape` -/
  | shapeMismatch
  deriving DecidableEq, Repr

def isIdentifierStart (c : Char) : Bool :=
  ('A' ≤ c && c ≤ 'Z') || ('a' ≤ c && c ≤ 'z') || c == '_'

def isIdentifierRest (c : Char) : Bool := isIdentifierStart c || ('0' ≤ c && c ≤ '9')

/-- `IDENTIFIER.fullmatch`. -/
def isIdentifier (value : String) : Bool :=
  match value.toList with
  | [] => false
  | first :: rest => isIdentifierStart first && rest.all isIdentifierRest && rest.length ≤ 127

def requireIdentifier (value label : String) : Except SqlSafetyError String :=
  if isIdentifier value then .ok value else .error (.unsafeIdentifier label value)

theorem isIdentifier_cons {value : String} (h : isIdentifier value = true) :
    ∃ first rest, value.toList = first :: rest ∧ isIdentifierStart first = true ∧
      (∀ c ∈ rest, isIdentifierRest c = true) ∧ rest.length ≤ 127 := by
  unfold isIdentifier at h
  split at h
  · exact absurd h (by decide)
  next first rest heq =>
    simp only [Bool.and_eq_true, List.all_eq_true, decide_eq_true_eq] at h
    exact ⟨first, rest, heq, h.1.1, h.1.2, h.2⟩

theorem requireIdentifier_ok {value label out : String} :
    requireIdentifier value label = .ok out ↔ isIdentifier value = true ∧ out = value := by
  unfold requireIdentifier
  split
  next h => simp [h, eq_comm]
  next h => simp [h]

def requireRelation (value : String) : Except SqlSafetyError String := do
  let parts := split '.' value
  if 1 ≤ parts.length ∧ parts.length ≤ 3 then
    let parts ← parts.mapM fun part => requireIdentifier part "relation component"
    pure (".".intercalate parts)
  else throw (.unsafeRelation value)

def requireRevenueAlias (value : String) : Except SqlSafetyError String := do
  let name ← requireIdentifier value "target alias"
  if name ≠ "revenue" then throw .aliasNotRevenue else pure name

theorem requireRevenueAlias_ok {value out : String} :
    requireRevenueAlias value = .ok out ↔ value = "revenue" ∧ out = "revenue" := by
  unfold requireRevenueAlias
  rw [bind_eq_ok]
  constructor
  · rintro ⟨name, hname, hout⟩
    obtain ⟨-, rfl⟩ := requireIdentifier_ok.1 hname
    split at hout
    next => exact absurd hout (by simp [throw, throwThe, MonadExceptOf.throw])
    next hrevenue =>
      rw [ne_eq, not_not] at hrevenue
      obtain rfl : name = out := Except.ok.inj hout
      exact ⟨hrevenue, hrevenue⟩
  · rintro ⟨rfl, rfl⟩
    exact ⟨"revenue", requireIdentifier_ok.2 ⟨by decide +kernel, rfl⟩, rfl⟩

def renderCandidateSql (proposal : CandidateProposal) (relation : String) :
    Except SqlSafetyError String := do
  let sourceField ← requireIdentifier proposal.sourceField "source field"
  let targetAlias ← requireRevenueAlias proposal.targetAlias
  let relation ← requireRelation relation
  pure ("SELECT\n    payment_id,\n    " ++ sourceField ++ " AS " ++ targetAlias ++ "\nFROM " ++
    relation)

/-! ### The dbt model edit -/

/-- `text.count(needle)`: occurrences that do not overlap, from the left; `skip` characters of the
last one are still to be passed. -/
def countFrom (needle : List Char) : Nat → List Char → Nat
  | _, [] => 0
  | skip + 1, _ :: text => countFrom needle skip text
  | 0, c :: text =>
    if needle.isPrefixOf (c :: text) then countFrom needle (needle.length - 1) text + 1
    else countFrom needle 0 text

def count (text needle : String) : Nat := countFrom needle.toList 0 text.toList

/-- `text.replace(old, new, 1)`. -/
def replaceFirst (old new : List Char) : List Char → List Char
  | [] => []
  | c :: text =>
    if old.isPrefixOf (c :: text) then new ++ (c :: text).drop old.length
    else c :: replaceFirst old new text

/-- The revenue default of the staging model, for a source column. -/
def revenueDefault (sourceField : String) : String :=
  "\x7b% set revenue_column = env_var(\"DATARESCUE_REVENUE_COLUMN\", \"" ++ sourceField ++ "\") %\x7d"

def renderDbtPatch (proposal : CandidateProposal) (existingSql : String) :
    Except SqlSafetyError String := do
  let sourceField ← requireIdentifier proposal.sourceField "source field"
  let _ ← requireRevenueAlias proposal.targetAlias
  let before := revenueDefault "amount"
  let desired := revenueDefault sourceField
  let beforeCount := count existingSql before
  let desiredCount := count existingSql desired
  if beforeCount = 0 ∧ desiredCount = 1 then pure existingSql
  else if beforeCount ≠ 1 ∨ desiredCount ≠ 0 then throw .ambiguousModel
  else
    let patched := String.ofList (replaceFirst before.toList desired.toList existingSql.toList)
    if patched = existingSql then throw .patchMadeNoChange else pure patched

example :
    renderDbtPatch { id := "c", sourceField := "net_amount", rationale := "" }
      ("-- model\n" ++ revenueDefault "amount") =
    .ok ("-- model\n" ++ revenueDefault "net_amount") := by decide +kernel

end DataRescue
