import DataRescue.Http.Client
import DataRescue.Remediation.Commands
import DataRescue.Remediation.SqlSafety

/-!
# The dbt build

`PostgresDbtExecutor._run_dbt`: one `dbt build` in a target directory of its own, and the verdict on the
`run_results.json` it leaves there. The verdict is the one of a complete build (`CompleteBuild`), except
that the counters put the status of each node in a set: an array or an object there is an exception
that the `except` clause does not name.
-/

namespace DataRescue

open Python

/-- What escapes `_run_dbt`. -/
inductive DbtError where
  | sqlSafety (error : SqlSafetyError)
  | typeError (message : String)
  | unicodeDecodeError
  | recursionError
  | osError (message : String)
  deriving DecidableEq, Repr

/-- `target_path / "run_results.json"` after the process has ended. -/
inductive DbtArtifact where
  | absent
  | directory
  /-- A file that cannot be read, with the text of the `OSError`. -/
  | unreadable (message : String)
  | file (content : List UInt8)

/-- What `subprocess.run` raises here. -/
inductive DbtProcessError where
  | osError (message : String)
  | timeoutExpired (message : String)

/-- One run of dbt: how the process ended, what it left in the target directory, and what became of
the copy of the evidence. -/
structure DbtRun where
  /-- The directory of `tempfile.TemporaryDirectory`, with the outcome of its removal. -/
  target : String
  removed : Except String Unit := .ok ()
  process : Except DbtProcessError CompletedProcess
  artifact : DbtArtifact
  /-- `mkdir` and `shutil.copy2`, with the text of the `OSError`. -/
  copied : Except String Unit := .ok ()

/-- What the interpreter adds: the texts of its values and exceptions, and the texts that are nested
deeper than its recursion limit. -/
structure DbtHost where
  printing : Printing
  decodeError : List UInt8 → String
  tooDeep : String → Bool

structure PostgresDbtExecutor where
  /-- `_parse_postgres_dsn(self.postgres_dsn)`, with the text of its `ValueError`. -/
  connection : Except String Unit
  dbtProjectDir : String
  dbtProfilesDir : String
  dbtTarget : String
  evidenceDir : Option String

/-! ### The artifact -/

def expectedDbtModelSuffixes : List String := [".stg_payments", ".fct_revenue"]

def minExpectedDbtChecks : Nat := 8

abbrev DbtNode := List (String × Json)

def endsWith (text suffix : String) : Bool := suffix.toList.isSuffixOf text.toList

def asNode : Json → Option DbtNode
  | .obj fields => some fields
  | _ => none

/-- The result nodes of a decoded artifact. -/
def resultNodes : Json → Except String (List DbtNode)
  | .obj artifact =>
    match getField artifact "args" with
    | some (.obj args) =>
      if !Json.isText (getField args "which") "build" then
        .error "run_results.json is not from dbt build"
      else
        match getField artifact "results" with
        | some (.arr (first :: rest)) =>
          match (first :: rest).mapM asNode with
          | some nodes => .ok nodes
          | none => .error "run_results.json contains an invalid result node"
        | _ => .error "run_results.json has no result nodes"
    | _ => .error "run_results.json is not from dbt build"
  | _ => .error "run_results.json root is not an object"

/-- `item.get("status") in {"pass", "success"}`: a list or a dict has no hash. -/
def statusPassed (node : DbtNode) : Except DbtError Bool :=
  match getField node "status" with
  | some (.arr _) => .error (.typeError "unhashable type: 'list'")
  | some (.obj _) => .error (.typeError "unhashable type: 'dict'")
  | status => .ok (Json.isText status "pass" || Json.isText status "success")

def countPassed (nodes : List DbtNode) : Except DbtError Nat := do
  let passed ← nodes.mapM statusPassed
  pure (passed.count true)

structure BuildCounts where
  passedChecks : Nat := 0
  totalChecks : Nat := 0
  passedNodes : Nat := 0
  totalNodes : Nat := 0

namespace DbtHost

variable (host : DbtHost)

/-- `str(item.get("unique_id", ""))` -/
def uniqueId (node : DbtNode) : String :=
  host.printing.toText ((getField node "unique_id").getD (.str ""))

def testNodes (nodes : List DbtNode) : List DbtNode :=
  nodes.filter fun node => startsWith (host.uniqueId node) "test."

def modelIds (nodes : List DbtNode) : List String :=
  (nodes.map host.uniqueId).filter fun uniqueId => startsWith uniqueId "model."

def missingModels (nodes : List DbtNode) : List String :=
  expectedDbtModelSuffixes.filter fun suffix => !(host.modelIds nodes).any (endsWith · suffix)

/-- The checks that follow the counters. -/
def incomplete (nodes : List DbtNode) : Option String :=
  if host.missingModels nodes ≠ [] then
    some ("run_results.json is missing expected models: " ++
      ", ".intercalate (host.missingModels nodes))
  else if (host.testNodes nodes).length < minExpectedDbtChecks then
    some s!"run_results.json contains fewer than {minExpectedDbtChecks} dbt tests"
  else none

def countNodes (nodes : List DbtNode) : Except DbtError BuildCounts := do
  let passedNodes ← countPassed nodes
  let passedChecks ← countPassed (host.testNodes nodes)
  pure { passedChecks, totalChecks := (host.testNodes nodes).length, passedNodes,
         totalNodes := nodes.length }

/-- `json.loads(results_path.read_text(encoding="utf-8"))` -/
def loadArtifact (content : List UInt8) : Except DbtError (Except String Json) :=
  match decodeUtf8 content with
  | none => .ok (.error (host.decodeError content))
  | some text =>
    let text := String.ofList (universalNewlines text.toList)
    if host.tooDeep text then .error .recursionError
    else .ok ((loads text).mapError fun error => host.printing.loadsError error text)

/-- The counters after the `try` block, and `artifact_error`. -/
def checkArtifact : DbtArtifact → Except DbtError (BuildCounts × Option String)
  | .absent | .directory => .ok ({}, some "run_results.json is missing")
  | .unreadable message => .ok ({}, some message)
  | .file content => do
    match ← host.loadArtifact content with
    | .error message => pure ({}, some message)
    | .ok root =>
      match resultNodes root with
      | .error message => pure ({}, some message)
      | .ok nodes =>
        let counts ← host.countNodes nodes
        pure (counts, host.incomplete nodes)

end DbtHost

/-! ### The run -/

def DbtArtifact.exists : DbtArtifact → Bool
  | .absent => false
  | _ => true

def DbtProcessError.text : DbtProcessError → String
  | .osError message | .timeoutExpired message => message

namespace PostgresDbtExecutor

variable (executor : PostgresDbtExecutor)

def command (target : String) : String :=
  " ".intercalate ["dbt", "build", "--project-dir", executor.dbtProjectDir, "--profiles-dir",
    executor.dbtProfilesDir, "--target", executor.dbtTarget, "--target-path", target]

/-- The copy of the artifact among the evidence, if one is kept. -/
def copyArtifact (schema : String) (run : DbtRun) : Except DbtError (Option String) :=
  match executor.evidenceDir with
  | some directory =>
    if run.artifact.exists then
      match run.copied with
      | .ok () => .ok (some (directory ++ "/" ++ schema ++ "/run_results.json"))
      | .error message => .error (.osError message)
    else .ok none
  | none => .ok none

/-- The body of the `with` statement. -/
def buildResult (host : DbtHost) (schema : String) (run : DbtRun) : Except DbtError BuildResult :=
  match run.process with
  | .error error =>
    let message := error.text
    .ok { passed := false, command := executor.command run.target,
          summary := s!"dbt did not complete: {message}" }
  | .ok completed => do
    let decodes := (decodeUtf8 completed.stdout).isSome && (decodeUtf8 completed.stderr).isSome
    if !decodes then throw .unicodeDecodeError
    let (counts, artifactError) ← host.checkArtifact run.artifact
    let buildArtifact ← executor.copyArtifact schema run
    let passed := completed.returncode = 0 ∧ artifactError = none ∧ 0 < counts.totalNodes ∧
      counts.passedNodes = counts.totalNodes ∧ counts.passedChecks = counts.totalChecks
    let returncode := completed.returncode
    let passedChecks := counts.passedChecks
    let totalChecks := counts.totalChecks
    let passedNodes := counts.passedNodes
    let totalNodes := counts.totalNodes
    let artifactSummary := match artifactError with
      | none => "run_results.json verified"
      | some message => s!"invalid build evidence: {message}"
    pure { passed := passed, passedChecks := counts.passedChecks, totalChecks := counts.totalChecks,
           command := executor.command run.target, evidenceRefs := buildArtifact.toList,
           summary := s!"dbt exited {returncode}; {passedChecks}/{totalChecks} tests passed; " ++
             s!"{passedNodes}/{totalNodes} total nodes succeeded; {artifactSummary}" }

/-- `_run_dbt(schema=schema, source_field=source_field)` -/
def runDbt (host : DbtHost) (schema sourceField : String) (run : DbtRun) :
    Except DbtError BuildResult :=
  match executor.connection with
  | .error message =>
    .ok { passed := false, command := "dbt build (not run: invalid PostgreSQL DSN)",
          summary := s!"dbt was not started: {message}" }
  | .ok () => do
    let _ ← (requireIdentifier sourceField "source field").mapError DbtError.sqlSafety
    let result := executor.buildResult host schema run
    -- An exception of the body gives way to one of the removal.
    match run.removed with
    | .ok () => result
    | .error message => .error (.osError message)

end PostgresDbtExecutor


/-! ### Complete builds -/

def Succeeded (node : DbtNode) : Bool :=
  Json.isText (getField node "status") "pass" || Json.isText (getField node "status") "success"

/-- The status of a node can be looked up in a set. -/
def HasHash (node : DbtNode) : Prop :=
  ∀ status, getField node "status" = some status → (∀ items, status ≠ .arr items) ∧
    ∀ fields, status ≠ .obj fields

theorem statusPassed_ok {node : DbtNode} {passed : Bool} :
    statusPassed node = .ok passed ↔ HasHash node ∧ passed = Succeeded node := by
  unfold statusPassed HasHash Succeeded
  split
  next items h => simp [h]
  next fields h => simp [h]
  next harr hobj =>
    constructor
    · intro h
      refine ⟨fun status hstatus => ⟨?_, ?_⟩, (Except.ok.inj h).symm⟩
      · rintro items rfl
        exact harr items hstatus
      · rintro fields rfl
        exact hobj fields hstatus
    · rintro ⟨-, rfl⟩
      rfl

theorem countPassed_ok {nodes : List DbtNode} {passed : Nat} :
    countPassed nodes = .ok passed ↔ (∀ node ∈ nodes, HasHash node) ∧
      passed = nodes.countP Succeeded := by
  have hmapM : ∀ statuses, nodes.mapM statusPassed = .ok statuses ↔
      (∀ node ∈ nodes, HasHash node) ∧ statuses = nodes.map Succeeded := by
    intro statuses
    rw [mapM_ok]
    induction nodes generalizing statuses with
    | nil => simp
    | cons node nodes ih =>
      rw [List.forall₂_cons_left_iff, List.forall_mem_cons, List.map_cons]
      constructor
      · rintro ⟨status, others, hnode, hothers, rfl⟩
        obtain ⟨hhash, rfl⟩ := statusPassed_ok.1 hnode
        obtain ⟨hnodes, rfl⟩ := (ih others).1 hothers
        exact ⟨⟨hhash, hnodes⟩, rfl⟩
      · rintro ⟨⟨hhash, hnodes⟩, rfl⟩
        exact ⟨_, _, statusPassed_ok.2 ⟨hhash, rfl⟩, (ih _).2 ⟨hnodes, rfl⟩, rfl⟩
  have hcount : (nodes.map Succeeded).count true = nodes.countP Succeeded := by
    rw [List.count, List.countP_map]
    congr 1
    funext node
    simp
  unfold countPassed
  rw [bind_eq_ok]
  constructor
  · rintro ⟨statuses, hstatuses, hpassed⟩
    obtain ⟨hnodes, rfl⟩ := (hmapM statuses).1 hstatuses
    exact ⟨hnodes, by rw [← hcount]; exact (Except.ok.inj hpassed).symm⟩
  · rintro ⟨hnodes, rfl⟩
    exact ⟨_, (hmapM _).2 ⟨hnodes, rfl⟩, by rw [hcount]; rfl⟩

/-- A decoded artifact of `dbt build`, with its result nodes. -/
def IsBuildOf (root : Json) (nodes : List DbtNode) : Prop :=
  ∃ artifact args, root = .obj artifact ∧ getField artifact "args" = some (.obj args) ∧
    getField args "which" = some (.str "build") ∧
    getField artifact "results" = some (.arr (nodes.map .obj)) ∧ nodes ≠ []

theorem asNode_some {item : Json} {node : DbtNode} : asNode item = some node ↔ item = .obj node := by
  cases item <;> simp [asNode]

theorem mapM_asNode {items : List Json} {nodes : List DbtNode} :
    items.mapM asNode = some nodes ↔ items = nodes.map .obj := by
  induction items generalizing nodes with
  | nil => cases nodes <;> simp
  | cons item items ih =>
    rw [List.mapM_cons, Option.bind_eq_bind, Option.bind_eq_some_iff]
    constructor
    · rintro ⟨node, hnode, h⟩
      rw [Option.bind_eq_bind, Option.bind_eq_some_iff] at h
      obtain ⟨rest, hrest, hnodes⟩ := h
      obtain rfl := Option.some.inj hnodes
      rw [List.map_cons, asNode_some.1 hnode, ih.1 hrest]
    · intro h
      cases nodes with
      | nil => cases h
      | cons node nodes =>
        rw [List.map_cons, List.cons.injEq] at h
        refine ⟨node, asNode_some.2 h.1, ?_⟩
        rw [ih.2 h.2]
        rfl

theorem resultNodes_ok {root : Json} {nodes : List DbtNode} :
    resultNodes root = .ok nodes ↔ IsBuildOf root nodes := by
  constructor
  · intro h
    unfold resultNodes at h
    split at h
    next artifact =>
      split at h
      next args hargs =>
        split at h
        · cases h
        next hwhich =>
          rw [Bool.not_eq_true', Bool.not_eq_false, Json.isText_iff] at hwhich
          split at h
          next first rest hresults =>
            split at h
            next found hfound =>
              obtain rfl := Except.ok.inj h
              rw [mapM_asNode] at hfound
              refine ⟨artifact, args, rfl, hargs, hwhich, by rw [hresults, hfound], ?_⟩
              rintro rfl
              cases hfound
            · cases h
          · cases h
      · cases h
    · cases h
  · rintro ⟨artifact, args, rfl, hargs, hwhich, hresults, hnodes⟩
    obtain ⟨first, rest, rfl⟩ := List.exists_cons_of_ne_nil hnodes
    have hitems : ((first :: rest).map Json.obj).mapM asNode = some (first :: rest) :=
      mapM_asNode.2 rfl
    rw [List.map_cons] at hresults hitems
    simp only [resultNodes, hargs, hresults, Json.isText_iff.2 hwhich, hitems, Bool.not_true,
      Bool.false_eq_true, ↓reduceIte]

namespace DbtHost

variable (host : DbtHost)

/-- What the gate asks of the result nodes. -/
structure CompleteBuild (nodes : List DbtNode) : Prop where
  succeeded : ∀ node ∈ nodes, getField node "status" = some (.str "pass") ∨
    getField node "status" = some (.str "success")
  models : ∀ suffix ∈ expectedDbtModelSuffixes, ∃ node ∈ nodes,
    startsWith (host.uniqueId node) "model." = true ∧ endsWith (host.uniqueId node) suffix = true
  tests : minExpectedDbtChecks ≤
    (nodes.filter fun node => startsWith (host.uniqueId node) "test.").length

theorem missingModels_nil {nodes : List DbtNode} :
    host.missingModels nodes = [] ↔ ∀ suffix ∈ expectedDbtModelSuffixes, ∃ node ∈ nodes,
      startsWith (host.uniqueId node) "model." = true ∧
        endsWith (host.uniqueId node) suffix = true := by
  unfold missingModels modelIds
  rw [List.filter_eq_nil_iff]
  refine forall₂_congr fun suffix _ => ?_
  rw [Bool.not_eq_true, Bool.not_eq_false', List.any_eq_true]
  constructor
  · rintro ⟨uniqueId, hmem, hsuffix⟩
    obtain ⟨hmem, hmodel⟩ := List.mem_filter.1 hmem
    obtain ⟨node, hnode, rfl⟩ := List.mem_map.1 hmem
    exact ⟨node, hnode, hmodel, hsuffix⟩
  · rintro ⟨node, hnode, hmodel, hsuffix⟩
    exact ⟨_, List.mem_filter.2 ⟨List.mem_map_of_mem hnode, hmodel⟩, hsuffix⟩

theorem incomplete_none {nodes : List DbtNode} :
    host.incomplete nodes = none ↔ host.missingModels nodes = [] ∧
      minExpectedDbtChecks ≤ (host.testNodes nodes).length := by
  unfold incomplete
  split
  next h => simp [h]
  next h =>
    rw [ne_eq, not_not] at h
    split
    next htests => simp [h, htests]
    next htests => simpa [h] using htests

theorem countNodes_ok {nodes : List DbtNode} {counts : BuildCounts} :
    host.countNodes nodes = .ok counts ↔ (∀ node ∈ nodes, HasHash node) ∧
      counts = { passedChecks := (host.testNodes nodes).countP Succeeded
                 totalChecks := (host.testNodes nodes).length
                 passedNodes := nodes.countP Succeeded
                 totalNodes := nodes.length } := by
  unfold countNodes
  simp only [bind_eq_ok, countPassed_ok]
  constructor
  · rintro ⟨_, ⟨hnodes, rfl⟩, _, ⟨-, rfl⟩, hcounts⟩
    exact ⟨hnodes, (Except.ok.inj hcounts).symm⟩
  · rintro ⟨hnodes, rfl⟩
    have htests : ∀ node ∈ host.testNodes nodes, HasHash node :=
      fun node hnode => hnodes node (List.mem_filter.1 hnode).1
    exact ⟨_, ⟨hnodes, rfl⟩, _, ⟨htests, rfl⟩, rfl⟩

theorem counts_verdict {nodes : List DbtNode} (hne : nodes ≠ []) :
    (host.incomplete nodes = none ∧ 0 < nodes.length ∧ nodes.countP Succeeded = nodes.length ∧
      (host.testNodes nodes).countP Succeeded = (host.testNodes nodes).length) ↔
      host.CompleteBuild nodes := by
  have hsucceeded : ∀ node, Succeeded node = true ↔ getField node "status" = some (.str "pass") ∨
      getField node "status" = some (.str "success") := by
    intro node
    unfold Succeeded
    rw [Bool.or_eq_true, Json.isText_iff, Json.isText_iff]
  rw [incomplete_none, missingModels_nil, List.countP_eq_length, List.countP_eq_length]
  constructor
  · rintro ⟨⟨hmodels, htests⟩, -, hall, -⟩
    exact ⟨fun node hnode => (hsucceeded node).1 (hall node hnode), hmodels, htests⟩
  · rintro ⟨hall, hmodels, htests⟩
    have hpassed : ∀ node ∈ nodes, Succeeded node = true :=
      fun node hnode => (hsucceeded node).2 (hall node hnode)
    exact ⟨⟨hmodels, htests⟩, List.length_pos_of_ne_nil hne, hpassed,
      fun node hnode => hpassed node (List.mem_filter.1 hnode).1⟩

end DbtHost


/-! ### The artifact of a run -/

/-- The text of a file that is read as UTF-8. -/
def readText (content : List UInt8) : Option String :=
  (decodeUtf8 content).map fun text => String.ofList (universalNewlines text.toList)

/-- The file holds this JSON value. -/
def DbtArtifact.Holds (artifact : DbtArtifact) (root : Json) : Prop :=
  ∃ content text, artifact = .file content ∧ readText content = some text ∧ loads text = .ok root

theorem DbtArtifact.Holds.nodes_unique {artifact : DbtArtifact} {root other : Json}
    {nodes others : List DbtNode} (hroot : artifact.Holds root) (hnodes : IsBuildOf root nodes)
    (hother : artifact.Holds other) (hothers : IsBuildOf other others) : nodes = others := by
  obtain ⟨_, _, rfl, hread, hloads⟩ := hroot
  obtain ⟨_, _, hfile, hread', hloads'⟩ := hother
  obtain rfl := DbtArtifact.file.inj hfile
  obtain rfl := Option.some.inj (hread.symm.trans hread')
  obtain rfl := Except.ok.inj (hloads.symm.trans hloads')
  exact Except.ok.inj ((resultNodes_ok.2 hnodes).symm.trans (resultNodes_ok.2 hothers))

namespace DbtHost

variable (host : DbtHost)

/-- The artifact holds a `dbt build` that is complete. -/
def VerifiedArtifact (artifact : DbtArtifact) : Prop :=
  ∃ root nodes, artifact.Holds root ∧ IsBuildOf root nodes ∧ host.CompleteBuild nodes

/-- No text is nested too deep for the interpreter, and every status of a `dbt build` has a hash. -/
structure Countable (artifact : DbtArtifact) : Prop where
  shallow : ∀ content text, artifact = .file content → readText content = some text →
    host.tooDeep text = false
  hashes : ∀ root nodes, artifact.Holds root → IsBuildOf root nodes → ∀ node ∈ nodes, HasHash node

theorem checkArtifact_invalid {artifact : DbtArtifact}
    (hnone : ∀ root nodes, artifact.Holds root → ¬IsBuildOf root nodes)
    (hshallow : ∀ content text, artifact = .file content → readText content = some text →
      host.tooDeep text = false) :
    ∃ message, host.checkArtifact artifact = .ok ({}, some message) := by
  cases artifact with
  | absent | directory | unreadable => exact ⟨_, rfl⟩
  | file content =>
    cases hdecode : decodeUtf8 content with
    | none =>
      refine ⟨host.decodeError content, ?_⟩
      simp [checkArtifact, loadArtifact, hdecode, bind, Except.bind, pure, Except.pure]
    | some decoded =>
      let text := String.ofList (universalNewlines decoded.toList)
      have hread : readText content = some text := by rw [readText, hdecode]; rfl
      have hload : host.loadArtifact content =
          .ok ((loads text).mapError fun error => host.printing.loadsError error text) := by
        simp only [loadArtifact, hdecode, hshallow content text rfl hread, text,
          Bool.false_eq_true, ↓reduceIte]
      unfold checkArtifact
      simp only [hload, bind, Except.bind]
      cases hloads : loads text with
      | error error => exact ⟨_, rfl⟩
      | ok root =>
        have hnodes : ∀ nodes, resultNodes root ≠ .ok nodes := fun nodes h =>
          hnone root nodes ⟨content, text, rfl, hread, hloads⟩ (resultNodes_ok.1 h)
        simp only [Except.mapError]
        cases hresult : resultNodes root with
        | error message => exact ⟨message, rfl⟩
        | ok nodes => exact absurd hresult (hnodes nodes)

theorem checkArtifact_build {artifact : DbtArtifact} {root : Json} {nodes : List DbtNode}
    (hholds : artifact.Holds root) (hbuild : IsBuildOf root nodes)
    (hshallow : ∀ content text, artifact = .file content → readText content = some text →
      host.tooDeep text = false) :
    host.checkArtifact artifact =
      (host.countNodes nodes).map fun counts => (counts, host.incomplete nodes) := by
  obtain ⟨content, text, rfl, hread, hloads⟩ := hholds
  obtain ⟨decoded, hdecode, htext⟩ := Option.map_eq_some_iff.1 hread
  have hload : host.loadArtifact content = .ok (.ok root) := by
    unfold loadArtifact
    simp only [hdecode, htext, hshallow content text rfl hread, hloads, Bool.false_eq_true,
      ↓reduceIte, Except.mapError]
  unfold checkArtifact
  simp only [hload, resultNodes_ok.2 hbuild, bind, Except.bind]
  cases host.countNodes nodes <;> rfl

theorem checkArtifact_deep {content : List UInt8} {text : String}
    (hread : readText content = some text) (hdeep : host.tooDeep text = true) :
    host.checkArtifact (.file content) = .error .recursionError := by
  obtain ⟨decoded, hdecode, htext⟩ := Option.map_eq_some_iff.1 hread
  unfold checkArtifact loadArtifact
  simp only [hdecode, htext, hdeep, ↓reduceIte, bind, Except.bind]

theorem checkArtifact_returns {artifact : DbtArtifact} :
    (∃ checked, host.checkArtifact artifact = .ok checked) ↔ host.Countable artifact := by
  by_cases hshallow : ∀ content text, artifact = .file content → readText content = some text →
      host.tooDeep text = false
  · by_cases hbuild : ∃ root nodes, artifact.Holds root ∧ IsBuildOf root nodes
    · obtain ⟨root, nodes, hholds, hnodes⟩ := hbuild
      rw [host.checkArtifact_build hholds hnodes hshallow]
      constructor
      · rintro ⟨checked, hchecked⟩
        cases hcounts : host.countNodes nodes with
        | error error => rw [hcounts] at hchecked; cases hchecked
        | ok counts =>
          refine ⟨hshallow, fun other others hother hothers => ?_⟩
          obtain rfl := hholds.nodes_unique hnodes hother hothers
          exact (host.countNodes_ok.1 hcounts).1
      · intro hcountable
        rw [host.countNodes_ok.2 ⟨hcountable.hashes root nodes hholds hnodes, rfl⟩]
        exact ⟨_, rfl⟩
    · have hnone : ∀ root nodes, artifact.Holds root → ¬IsBuildOf root nodes :=
        fun root nodes hholds hnodes => hbuild ⟨root, nodes, hholds, hnodes⟩
      obtain ⟨message, hmessage⟩ := host.checkArtifact_invalid hnone hshallow
      exact iff_of_true ⟨_, hmessage⟩
        ⟨hshallow, fun root nodes hholds hnodes => absurd hnodes (hnone root nodes hholds)⟩
  · refine iff_of_false ?_ fun hcountable => hshallow hcountable.shallow
    push Not at hshallow
    obtain ⟨content, text, rfl, hread, hdeep⟩ := hshallow
    rw [host.checkArtifact_deep hread (by simpa using hdeep)]
    rintro ⟨_, h⟩
    cases h

theorem checkArtifact_verdict {artifact : DbtArtifact} {counts : BuildCounts}
    {artifactError : Option String} (h : host.checkArtifact artifact = .ok (counts, artifactError)) :
    ((artifactError = none ∧ 0 < counts.totalNodes ∧ counts.passedNodes = counts.totalNodes ∧
      counts.passedChecks = counts.totalChecks) ↔ host.VerifiedArtifact artifact) ∧
    counts.passedChecks ≤ counts.totalChecks := by
  have hcountable := host.checkArtifact_returns.1 ⟨_, h⟩
  by_cases hbuild : ∃ root nodes, artifact.Holds root ∧ IsBuildOf root nodes
  · obtain ⟨root, nodes, hholds, hnodes⟩ := hbuild
    rw [host.checkArtifact_build hholds hnodes hcountable.shallow,
      host.countNodes_ok.2 ⟨hcountable.hashes root nodes hholds hnodes, rfl⟩] at h
    obtain ⟨rfl, rfl⟩ := Prod.mk.inj (Except.ok.inj h)
    refine ⟨?_, List.countP_le_length⟩
    have hne : nodes ≠ [] := by
      obtain ⟨_, _, -, -, -, -, hne⟩ := hnodes
      exact hne
    rw [host.counts_verdict hne]
    constructor
    · exact fun hcomplete => ⟨root, nodes, hholds, hnodes, hcomplete⟩
    · rintro ⟨other, others, hother, hothers, hcomplete⟩
      obtain rfl := hholds.nodes_unique hnodes hother hothers
      exact hcomplete
  · have hnone : ∀ root nodes, artifact.Holds root → ¬IsBuildOf root nodes :=
      fun root nodes hholds hnodes => hbuild ⟨root, nodes, hholds, hnodes⟩
    obtain ⟨message, hmessage⟩ := host.checkArtifact_invalid hnone hcountable.shallow
    rw [hmessage] at h
    obtain ⟨rfl, rfl⟩ := Prod.mk.inj (Except.ok.inj h)
    refine ⟨iff_of_false (fun hverdict => nomatch hverdict.1) ?_, le_rfl⟩
    rintro ⟨root, nodes, hholds, hnodes, -⟩
    exact hnone root nodes hholds hnodes

end DbtHost

/-! ### The run of dbt -/

namespace PostgresDbtExecutor

variable (executor : PostgresDbtExecutor) (host : DbtHost)

/-- The build that the claimed verdict is about: dbt ended with code 0 and left a complete build. -/
def Verified (run : DbtRun) : Prop :=
  ∃ completed, run.process = .ok completed ∧ completed.returncode = 0 ∧
    host.VerifiedArtifact run.artifact

/-- Nothing in a run is outside of what `_run_dbt` catches. -/
structure Caught (run : DbtRun) : Prop where
  decodes : ∀ completed, run.process = .ok completed →
    (decodeUtf8 completed.stdout).isSome = true ∧ (decodeUtf8 completed.stderr).isSome = true
  countable : ∀ completed, run.process = .ok completed → host.Countable run.artifact
  copied : ∀ completed, run.process = .ok completed → executor.evidenceDir ≠ none →
    run.artifact.exists = true → run.copied = .ok ()
  removed : run.removed = .ok ()

theorem copyArtifact_returns {schema : String} {run : DbtRun} :
    (∃ copied, executor.copyArtifact schema run = .ok copied) ↔
      (executor.evidenceDir ≠ none → run.artifact.exists = true → run.copied = .ok ()) := by
  unfold copyArtifact
  cases executor.evidenceDir with
  | none => simp
  | some directory =>
    cases run.artifact.exists with
    | false => simp
    | true => cases run.copied <;> simp

theorem buildResult_process {schema : String} {run : DbtRun} {completed : CompletedProcess}
    (hprocess : run.process = .ok completed) {result : BuildResult} :
    executor.buildResult host schema run = .ok result →
      ((result.passed = true ↔ Verified host run) ∧ result.passedChecks ≤ result.totalChecks) ∧
      ((decodeUtf8 completed.stdout).isSome = true ∧ (decodeUtf8 completed.stderr).isSome = true) ∧
      (∃ checked, host.checkArtifact run.artifact = .ok checked) ∧
      ∃ copied, executor.copyArtifact schema run = .ok copied := by
  intro h
  unfold buildResult at h
  simp only [hprocess] at h
  split at h
  · cases h
  next hdecodes =>
    obtain ⟨⟨counts, artifactError⟩, hchecked, h⟩ := bind_eq_ok.1 h
    obtain ⟨buildArtifact, hcopied, h⟩ := bind_eq_ok.1 h
    obtain ⟨hverdict, hle⟩ := host.checkArtifact_verdict hchecked
    obtain rfl := Except.ok.inj h
    rw [Bool.not_eq_true', Bool.not_eq_false, Bool.and_eq_true] at hdecodes
    refine ⟨⟨?_, Int.ofNat_le.2 hle⟩, hdecodes, ⟨_, hchecked⟩, _, hcopied⟩
    rw [decide_eq_true_iff, hverdict]
    constructor
    · rintro ⟨hcode, hartifact⟩
      exact ⟨completed, hprocess, hcode, hartifact⟩
    · rintro ⟨other, hother, hcode, hartifact⟩
      obtain rfl := Except.ok.inj (hprocess.symm.trans hother)
      exact ⟨hcode, hartifact⟩

theorem buildResult_returns {schema : String} {run : DbtRun} {completed : CompletedProcess}
    (hprocess : run.process = .ok completed)
    (hdecodes : (decodeUtf8 completed.stdout).isSome = true ∧
      (decodeUtf8 completed.stderr).isSome = true)
    (hchecked : ∃ checked, host.checkArtifact run.artifact = .ok checked)
    (hcopied : ∃ copied, executor.copyArtifact schema run = .ok copied) :
    ∃ result, executor.buildResult host schema run = .ok result := by
  obtain ⟨checked, hchecked⟩ := hchecked
  obtain ⟨copied, hcopied⟩ := hcopied
  unfold buildResult
  simp only [hprocess, hdecodes, hchecked, hcopied, Bool.and_self, Bool.not_true,
    Bool.false_eq_true, ↓reduceIte, bind, Except.bind]
  exact ⟨_, rfl⟩

theorem runDbt_started {schema sourceField : String} {run : DbtRun}
    (hconnection : executor.connection = .ok ()) (hsource : isIdentifier sourceField = true)
    {result : BuildResult} :
    executor.runDbt host schema sourceField run = .ok result ↔
      executor.buildResult host schema run = .ok result ∧ run.removed = .ok () := by
  have hidentifier : requireIdentifier sourceField "source field" = .ok sourceField :=
    requireIdentifier_ok.2 ⟨hsource, rfl⟩
  unfold runDbt
  simp only [hconnection, hidentifier, Except.mapError, bind, Except.bind]
  cases run.removed <;> simp

/-- The verdict on a dbt build. Once dbt can start, `_run_dbt` returns a result whose verdict is
that of a complete build, in the runs in which nothing is outside of what it catches, and in no other. -/
theorem runDbt_contract (schema sourceField : String) (run : DbtRun)
    (hconnection : executor.connection = .ok ()) (hsource : isIdentifier sourceField = true) :
    (∃ result, executor.runDbt host schema sourceField run = .ok result ∧
      (result.passed = true ↔ Verified host run) ∧ result.passedChecks ≤ result.totalChecks) ↔
      executor.Caught host run := by
  simp only [executor.runDbt_started host hconnection hsource]
  cases hprocess : run.process with
  | error error =>
    constructor
    · rintro ⟨result, ⟨-, hremoved⟩, -⟩
      exact ⟨fun _ h => (nomatch hprocess.symm.trans h), fun _ h => (nomatch hprocess.symm.trans h),
        fun _ h => (nomatch hprocess.symm.trans h), hremoved⟩
    · intro hcaught
      refine ⟨_, ⟨by simp only [buildResult, hprocess]; rfl, hcaught.removed⟩, ?_, le_rfl⟩
      refine iff_of_false Bool.false_ne_true ?_
      rintro ⟨completed, hcompleted, -⟩
      exact nomatch hprocess.symm.trans hcompleted
  | ok completed =>
    constructor
    · rintro ⟨result, ⟨hresult, hremoved⟩, -⟩
      obtain ⟨-, hdecodes, hchecked, hcopied⟩ := executor.buildResult_process host hprocess hresult
      refine ⟨?_, fun _ _ => host.checkArtifact_returns.1 hchecked,
        fun _ _ => executor.copyArtifact_returns.1 hcopied, hremoved⟩
      intro other hother
      obtain rfl := Except.ok.inj (hprocess.symm.trans hother)
      exact hdecodes
    · intro hcaught
      obtain ⟨result, hresult⟩ := executor.buildResult_returns host hprocess
        (hcaught.decodes _ hprocess) (host.checkArtifact_returns.2 (hcaught.countable _ hprocess))
        ((@copyArtifact_returns executor schema run).2 (hcaught.copied _ hprocess))
      obtain ⟨hverdict, -⟩ := executor.buildResult_process host hprocess hresult
      exact ⟨result, ⟨hresult, hcaught.removed⟩, hverdict⟩

/-! ### A status that is an array -/

/-- An executor that keeps no evidence. -/
def plainExecutor : PostgresDbtExecutor where
  connection := .ok ()
  dbtProjectDir := "/repo/dbt"
  dbtProfilesDir := "/repo/dbt"
  dbtTarget := "dev"
  evidenceDir := none

def plainHost : DbtHost where
  printing := ⟨fun _ => "", fun _ => "", fun _ => "", fun _ => "", fun _ _ => "", fun _ _ => ""⟩
  decodeError := fun _ => ""
  tooDeep := fun _ => false

/-- A run of dbt that prints nothing. -/
def plainRun (returncode : Int) (artifact : DbtArtifact) : DbtRun where
  target := "/tmp/target"
  process := .ok { returncode, stdout := [] }
  artifact := artifact

def arrayStatus : String :=
  "\x7b\"args\":\x7b\"which\":\"build\"\x7d,\"results\":[\x7b\"status\":[]\x7d]\x7d"

/-! ### A complete build -/

def passedNode (uniqueId : String) : DbtNode :=
  [("unique_id", .str uniqueId), ("status", .str "pass")]

/-- Both models, and eight tests. -/
def passedNodes : List DbtNode :=
  [passedNode "model.d.stg_payments", passedNode "model.d.fct_revenue"] ++
    List.replicate 8 (passedNode "test.d.t")

def passedRoot : Json :=
  .obj [("args", .obj [("which", .str "build")]), ("results", .arr (passedNodes.map .obj))]

def passedText (uniqueId : String) : List Char :=
  "\x7b\"unique_id\":\"".toList ++ uniqueId.toList ++ "\",\"status\":\"pass\"\x7d".toList

/-- The characters of its artifact. -/
def passedChars : List Char :=
  "\x7b\"args\":\x7b\"which\":\"build\"\x7d,\"results\":[".toList ++
    [','].intercalate ([passedText "model.d.stg_payments", passedText "model.d.fct_revenue"] ++
      List.replicate 8 (passedText "test.d.t")) ++ "]\x7d".toList

def passedRun : DbtRun := plainRun 0 (.file (encode (String.ofList passedChars)))

theorem passedRun_holds : passedRun.artifact.Holds passedRoot := by
  refine ⟨_, String.ofList passedChars, rfl, ?_, ?_⟩
  · have hplain : universalNewlines passedChars = passedChars := by decide +kernel
    rw [readText, decodeUtf8_encode, Option.map_some, String.toList_ofList, hplain]
  · rw [loads, String.toList_ofList]
    decide +kernel

theorem passedRoot_build : IsBuildOf passedRoot passedNodes :=
  ⟨_, _, rfl, rfl, rfl, rfl, List.cons_ne_nil _ _⟩

theorem passedNodes_complete : plainHost.CompleteBuild passedNodes where
  succeeded := by
    intro node hnode
    simp only [passedNodes, List.mem_append, List.mem_replicate, List.mem_cons, List.not_mem_nil,
      or_false] at hnode
    rcases hnode with (rfl | rfl) | ⟨-, rfl⟩
    all_goals exact .inl rfl
  models := by
    intro suffix hsuffix
    simp only [expectedDbtModelSuffixes, List.mem_cons, List.not_mem_nil, or_false] at hsuffix
    rcases hsuffix with rfl | rfl
    · exact ⟨passedNode "model.d.stg_payments", by simp [passedNodes], by decide +kernel, by decide +kernel⟩
    · exact ⟨passedNode "model.d.fct_revenue", by simp [passedNodes], by decide +kernel, by decide +kernel⟩
  tests := by decide +kernel

theorem passedRun_caught : plainExecutor.Caught plainHost passedRun where
  decodes := by
    rintro completed h
    obtain rfl := Except.ok.inj h
    exact ⟨rfl, rfl⟩
  countable := by
    rintro completed -
    refine ⟨fun _ _ _ _ => rfl, fun root nodes hholds hbuild node hnode => ?_⟩
    rw [hholds.nodes_unique hbuild passedRun_holds passedRoot_build] at hnode
    rintro status hstatus
    rcases passedNodes_complete.succeeded node hnode with hpass | hpass
    all_goals
      obtain rfl := Option.some.inj (hpass.symm.trans hstatus)
      exact ⟨by simp, by simp⟩
  copied := fun _ _ h => absurd rfl h
  removed := rfl

/-- A complete build that passes. -/
theorem runDbt_contract_passed : Verified plainHost passedRun ∧
    ∃ result, plainExecutor.runDbt plainHost "candidate_dr_1_net" "net_amount" passedRun = .ok result ∧
      (result.passed = true ↔ Verified plainHost passedRun) ∧
      result.passedChecks ≤ result.totalChecks :=
  ⟨⟨_, rfl, rfl, passedRoot, passedNodes, passedRun_holds, passedRoot_build, passedNodes_complete⟩,
    (runDbt_contract plainExecutor plainHost "candidate_dr_1_net" "net_amount" passedRun rfl
      (by decide +kernel)).2 passedRun_caught⟩

theorem arrayStatus_raises :
    plainExecutor.runDbt plainHost "candidate_dr_1_net" "net_amount"
      (plainRun 0 (.file arrayStatus.toUTF8.data.toList)) =
        .error (.typeError "unhashable type: 'list'") := by
  decide +kernel

/-- Return code 0 and a node whose status is `[]`: an exception. -/
theorem runDbt_counterexample :
    ¬∀ (returncode : Int) (content : List UInt8), ∃ result,
      plainExecutor.runDbt plainHost "candidate_dr_1_net" "net_amount"
        (plainRun returncode (.file content)) = .ok result ∧
      (result.passed = true ↔ Verified plainHost (plainRun returncode (.file content))) ∧
      result.passedChecks ≤ result.totalChecks := by
  intro h
  obtain ⟨result, hresult, -⟩ := h 0 arrayStatus.toUTF8.data.toList
  rw [arrayStatus_raises] at hresult
  cases hresult

end PostgresDbtExecutor

end DataRescue
