import DataRescue.Api.StoreRuns
import DataRescue.Workflow.Operations

/-!
# The downstream guard

`datarescue guard` of `apps/api/cli.py`, after `argparse`: the guard starts a command unless the event
store holds an unresolved case of the asset. Where the cases can be listed, the guard is decided by
them (`Guard.main_blocked`, `Guard.main_open`), and the case it names is the newest it could name.
-/

namespace DataRescue

/-! ### The source -/

namespace Guard

/-- `CONTAINED_EXIT_CODE` -/
def containedExitCode : Int := 75

/-- How `subprocess.run` ends. An `OSError` comes with its text. -/
inductive Launch where
  | returned (code : Int)
  | osError (message : String)
  | raised (error : Exn)
  deriving DecidableEq

/-- A run of the guard: what it prints on standard error, the command it passes to `subprocess.run`,
and its exit code, unless an exception escapes. -/
structure Run where
  stderr : List String
  command : Option (List String)
  exit : Except Exn Int
  deriving DecidableEq

/-- The message of a blocked run. -/
def blockedMessage (asset : String) (blocked : CaseSnapshot) : String :=
  s!"DataRescue blocked downstream execution: {asset} is unsafe in {blocked.state.value} case {blocked.id}"

/-- The command after `--`. -/
def guardedCommand : List String → List String
  | "--" :: command => command
  | command => command

/-- The end of `main`, for an asset that is not blocked. -/
def runCommand (launch : List String → Launch) (command : List String) : Run :=
  match guardedCommand command with
  | [] =>
    { stderr := ["datarescue guard requires a command after --"], command := none, exit := .ok 2 }
  | first :: arguments =>
    match launch (first :: arguments) with
    | .returned code => { stderr := [], command := some (first :: arguments), exit := .ok code }
    | .osError message =>
      { stderr := [s!"Unable to start guarded command: {message}"]
        command := some (first :: arguments)
        exit := .ok 127 }
    | .raised error =>
      { stderr := [], command := some (first :: arguments), exit := .error error }

/-- `main` -/
def main (store : Store) (launch : List String → Launch) (asset : String) (command : List String) :
    Run :=
  match store.blockedAsset asset with
  | .error error => { stderr := [], command := none, exit := .error (.store error) }
  | .ok (some blocked) =>
    { stderr := [blockedMessage asset blocked], command := none, exit := .ok containedExitCode }
  | .ok none => runCommand launch command

end Guard

/-! ### The cases of an asset -/

namespace Store

variable {store : Store} {caseId asset : String} {cases : List CaseSnapshot}
  {snapshot : CaseSnapshot}

/-- A visible case of the asset that is not resolved. -/
structure Unresolved (store : Store) (asset : String) (snapshot : CaseSnapshot) : Prop where
  visible : ∃ caseId ∈ store.activeCaseIds, store.getCase caseId = .ok snapshot
  asset : snapshot.assetUrn = asset
  state : snapshot.state ≠ .resolved

theorem mem_listCases (h : store.listCases = .ok cases) :
    snapshot ∈ cases ↔ ∃ caseId ∈ store.activeCaseIds, store.getCase caseId = .ok snapshot := by
  obtain ⟨snapshots, hsnapshots, rfl⟩ := listCases_ok.1 h
  rw [List.mem_insertionSort]
  constructor
  · intro hmem
    obtain ⟨i, hi, rfl⟩ := List.mem_iff_getElem.1 hmem
    have hlength := hsnapshots.length_eq
    exact ⟨_, List.getElem_mem (by omega), (List.forall₂_iff_get.1 hsnapshots).2 i (by omega) hi⟩
  · rintro ⟨caseId, hcase, hget⟩
    obtain ⟨i, hi, rfl⟩ := List.mem_iff_getElem.1 hcase
    have hlength := hsnapshots.length_eq
    have hi' : i < snapshots.length := by omega
    have hsame := (List.forall₂_iff_get.1 hsnapshots).2 i hi hi'
    rw [List.get_eq_getElem, List.get_eq_getElem, hget] at hsame
    rw [Except.ok.inj hsame]
    exact List.getElem_mem hi'

theorem listCases_sorted (h : store.listCases = .ok cases) :
    cases.Pairwise fun first second => second.updatedAt ≤ first.updatedAt := by
  obtain ⟨snapshots, -, rfl⟩ := listCases_ok.1 h
  have htotal : Std.Total fun first second : CaseSnapshot => second.updatedAt ≤ first.updatedAt :=
    ⟨fun first second => Nat.le_total second.updatedAt first.updatedAt⟩
  have htrans : IsTrans CaseSnapshot fun first second => second.updatedAt ≤ first.updatedAt :=
    ⟨fun _ _ _ hfirst hsecond => Nat.le_trans hsecond hfirst⟩
  exact List.pairwise_insertionSort _ _

theorem blockedAsset_eq (h : store.listCases = .ok cases) : store.blockedAsset asset =
    .ok (cases.find? fun case => case.assetUrn = asset ∧ case.state ≠ .resolved) := by
  rw [blockedAsset, h]
  rfl

theorem blockedAsset_some (h : store.listCases = .ok cases)
    (hblocked : store.blockedAsset asset = .ok (some snapshot)) :
    store.Unresolved asset snapshot ∧
      ∀ other, store.Unresolved asset other → other.updatedAt ≤ snapshot.updatedAt := by
  rw [blockedAsset_eq h] at hblocked
  obtain ⟨hholds, before, after, hsplit, hbefore⟩ :=
    List.find?_eq_some_iff_append.1 (Except.ok.inj hblocked)
  obtain ⟨hasset, hstate⟩ := of_decide_eq_true hholds
  have hmem : snapshot ∈ cases := by simp [hsplit]
  refine ⟨⟨(mem_listCases h).1 hmem, hasset, hstate⟩, fun other hother => ?_⟩
  have hsorted := listCases_sorted h
  have hlisted : other ∈ cases := (mem_listCases h).2 hother.visible
  rw [hsplit, List.mem_append, List.mem_cons] at hlisted
  rcases hlisted with hearlier | rfl | hlater
  · have hnot := hbefore other hearlier
    simp [hother.asset, hother.state] at hnot
  · exact Nat.le_refl _
  · rw [hsplit, List.pairwise_append] at hsorted
    exact (List.pairwise_cons.1 hsorted.2.1).1 other hlater

theorem blockedAsset_none (h : store.listCases = .ok cases) :
    store.blockedAsset asset = .ok none ↔ ∀ snapshot, ¬store.Unresolved asset snapshot := by
  rw [blockedAsset_eq h, Except.ok.injEq, List.find?_eq_none]
  constructor
  · intro hnone snapshot hunresolved
    refine hnone snapshot ((mem_listCases h).2 hunresolved.visible) ?_
    exact decide_eq_true ⟨hunresolved.asset, hunresolved.state⟩
  · intro hnone snapshot hmem hholds
    obtain ⟨hasset, hstate⟩ := of_decide_eq_true hholds
    exact hnone snapshot ⟨(mem_listCases h).1 hmem, hasset, hstate⟩

end Store

/-! ### The guard -/

namespace Guard

variable {store : Store} {launch : List String → Launch} {asset : String} {command : List String}
  {cases : List CaseSnapshot}

/-- The guard refuses to start the command because of an unresolved case, the newest of its asset. -/
def Blocks (store : Store) (asset : String) (run : Run) : Prop :=
  ∃ snapshot, store.Unresolved asset snapshot ∧
    (∀ other, store.Unresolved asset other → other.updatedAt ≤ snapshot.updatedAt) ∧
    run = { stderr := [blockedMessage asset snapshot], command := none, exit := .ok containedExitCode }

theorem main_blocked {snapshot : CaseSnapshot} (h : store.listCases = .ok cases)
    (hunresolved : store.Unresolved asset snapshot) :
    Blocks store asset (main store launch asset command) := by
  have hdecided : store.blockedAsset asset = _ := Store.blockedAsset_eq h
  cases hfind : cases.find? fun case => case.assetUrn = asset ∧ case.state ≠ .resolved with
  | none =>
    rw [hfind] at hdecided
    exact absurd hunresolved ((Store.blockedAsset_none h).1 hdecided snapshot)
  | some blocked =>
    rw [hfind] at hdecided
    obtain ⟨hblocked, hnewest⟩ := Store.blockedAsset_some h hdecided
    refine ⟨blocked, hblocked, hnewest, ?_⟩
    rw [main, hdecided]

theorem main_open (h : store.listCases = .ok cases)
    (hresolved : ∀ snapshot, ¬store.Unresolved asset snapshot) :
    main store launch asset command = runCommand launch command := by
  rw [main, (Store.blockedAsset_none h).2 hresolved]

end Guard

end DataRescue
