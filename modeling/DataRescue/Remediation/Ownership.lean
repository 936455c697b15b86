import DataRescue.Remediation.DraftProof

/-!
# Commits of the adapter

`_commit_message` writes what `_commit_is_owned` recognises. The message of a commit is read back line by
line; its subject and its trailers then name one case, one patch and one base commit, and the commit is
owned by no other case and for no other patch (`commitIsOwned_iff`).
-/

namespace DataRescue

open Python Concurrency

/-! ### Messages -/

def trailerNames : List String :=
  ["DataRescue-Case: ", "DataRescue-Patch-SHA256: ", "DataRescue-Base-Commit: "]

theorem commitSubject_eq (caseId : String) :
    commitSubject caseId = "fix(data): recover schema drift for " ++ caseId := rfl

/-- The lines that git prints of a message. `git commit` stores a newline after it, and `git show` adds
another one. -/
def messageLines (caseId patchSha256 baseCommit : String) : List String :=
  [commitSubject caseId, "", "DataRescue-Case: " ++ caseId, "DataRescue-Patch-SHA256: " ++ patchSha256,
    "DataRescue-Base-Commit: " ++ baseCommit, ""]

theorem commitMessage_lines (caseId patchSha256 baseCommit : String) :
    commitMessage caseId patchSha256 baseCommit ++ "\n" ++ "\n" =
      unlines (messageLines caseId patchSha256 baseCommit) := by
  have hbreaks : "\n\n" = "\n" ++ ("" ++ "\n") := by decide
  show commitSubject caseId ++ "\n\n" ++ ("DataRescue-Case: " ++ caseId ++ "\n") ++
    ("DataRescue-Patch-SHA256: " ++ patchSha256 ++ "\n") ++ ("DataRescue-Base-Commit: " ++ baseCommit) ++
    "\n" ++ "\n" = _
  rw [hbreaks]
  simp only [unlines, messageLines, String.append_assoc, String.append_empty, String.empty_append]

theorem splitlines_commitMessage {caseId patchSha256 baseCommit : String} (hcase : SingleLine caseId)
    (hpatch : SingleLine patchSha256) (hbase : SingleLine baseCommit) :
    splitlines (commitMessage caseId patchSha256 baseCommit ++ "\n" ++ "\n") =
      messageLines caseId patchSha256 baseCommit := by
  have hplain : ∀ text ∈ "fix(data): recover schema drift for " :: "" :: trailerNames, SingleLine text := by
    unfold SingleLine
    decide +kernel
  rw [commitMessage_lines, splitlines_unlines]
  intro line hline
  simp only [messageLines, List.mem_cons, List.not_mem_nil, or_false] at hline
  rcases hline with rfl | rfl | rfl | rfl | rfl | rfl
  · exact (hplain "fix(data): recover schema drift for " (by simp)).append hcase
  · exact hplain _ (by simp)
  · exact (hplain _ (by simp [trailerNames])).append hcase
  · exact (hplain _ (by simp [trailerNames])).append hpatch
  · exact (hplain _ (by simp [trailerNames])).append hbase
  · exact hplain _ (by simp)

theorem startsWith_other {start other : String} (rest : String) (h : startsWith other start = false)
    (h' : startsWith start other = false) : startsWith (other ++ rest) start = false := by
  rw [startsWith, Bool.eq_false_iff, Ne, List.isPrefixOf_iff_prefix] at h h' ⊢
  intro hstart
  rw [String.toList_append] at hstart
  rcases List.prefix_or_prefix_of_prefix hstart (List.prefix_append _ _) with hlead | hlead
  · exact h hlead
  · exact h' hlead

theorem trailers_cons_self (name value : String) (lines : List String) :
    trailers name ((name ++ value) :: lines) = value :: trailers name lines := by
  have hstart : startsWith (name ++ value) name = true := by
    rw [startsWith, List.isPrefixOf_iff_prefix, String.toList_append]
    exact List.prefix_append _ _
  rw [trailers, List.filter_cons, if_pos hstart, List.map_cons, String.toList_append,
    ← String.length_toList, List.drop_left, String.ofList_toList]
  rfl

theorem trailers_cons_other {name line : String} (lines : List String)
    (h : startsWith line name = false) : trailers name (line :: lines) = trailers name lines := by
  rw [trailers, List.filter_cons, if_neg (by rw [h]; decide)]
  rfl

theorem trailers_skip {name other : String} (hname : name ∈ trailerNames) (hother : other ∈ trailerNames)
    (hne : other ≠ name) (value : String) (lines : List String) :
    trailers name ((other ++ value) :: lines) = trailers name lines := by
  have hapart : ∀ name ∈ trailerNames, ∀ other ∈ trailerNames, other ≠ name →
      startsWith other name = false := by decide +kernel
  exact trailers_cons_other _ (startsWith_other value (hapart name hname other hother hne)
    (hapart other hother name hname hne.symm))

theorem trailers_subject {name : String} (hname : name ∈ trailerNames) (caseId : String)
    (lines : List String) : trailers name (commitSubject caseId :: "" :: lines) = trailers name lines := by
  have hapart : ∀ name ∈ trailerNames, startsWith "fix(data): recover schema drift for " name = false ∧
      startsWith name "fix(data): recover schema drift for " = false ∧ startsWith "" name = false := by
    decide +kernel
  obtain ⟨hother, hother', hempty⟩ := hapart name hname
  rw [commitSubject_eq, trailers_cons_other _ (startsWith_other caseId hother hother'),
    trailers_cons_other _ hempty]

/-- The trailers of a message are its case, its patch and its base commit. -/
theorem trailers_messageLines (caseId patchSha256 baseCommit : String) :
    trailers "DataRescue-Case: " (messageLines caseId patchSha256 baseCommit) = [caseId] ∧
      trailers "DataRescue-Patch-SHA256: " (messageLines caseId patchSha256 baseCommit) = [patchSha256] ∧
      trailers "DataRescue-Base-Commit: " (messageLines caseId patchSha256 baseCommit) = [baseCommit] := by
  have hcase : "DataRescue-Case: " ∈ trailerNames := by simp [trailerNames]
  have hpatch : "DataRescue-Patch-SHA256: " ∈ trailerNames := by simp [trailerNames]
  have hbase : "DataRescue-Base-Commit: " ∈ trailerNames := by simp [trailerNames]
  unfold messageLines
  refine ⟨?_, ?_, ?_⟩
  · rw [trailers_subject hcase, trailers_cons_self, trailers_skip hcase hpatch (by decide),
      trailers_skip hcase hbase (by decide)]
    rfl
  · rw [trailers_subject hpatch, trailers_skip hpatch hcase (by decide), trailers_cons_self,
      trailers_skip hpatch hbase (by decide)]
    rfl
  · rw [trailers_subject hbase, trailers_skip hbase hcase (by decide),
      trailers_skip hbase hpatch (by decide), trailers_cons_self]
    rfl

namespace GitHubDraftPRAdapter

theorem startsWith_trailer (caseId : String) :
    startsWith ("DataRescue-Case: " ++ caseId) "DataRescue-" = true := by
  have hname : "DataRescue-Case: " = "DataRescue-" ++ "Case: " := by decide
  rw [startsWith, List.isPrefixOf_iff_prefix, hname, String.append_assoc, String.toList_append]
  exact List.prefix_append _ _

theorem recordedBase_messageLines (caseId parent author sha256 base : String) (patch : PatchArtifact) :
    recordedBase caseId patch parent (messageLines author sha256 base) =
      if author = caseId ∧ sha256 = patch.sha256 ∧ base = parent then some parent else none := by
  have htrailer : ((messageLines author sha256 base).drop 1).any (startsWith · "DataRescue-") = true := by
    refine List.any_eq_true.2 ⟨"DataRescue-Case: " ++ author, ?_, startsWith_trailer author⟩
    simp [messageLines]
  obtain ⟨hcase, hpatch, hbase⟩ := trailers_messageLines author sha256 base
  rw [recordedBase, if_pos htrailer, hcase, hpatch, hbase]
  simp only [ne_eq, List.cons.injEq, and_true]
  by_cases hnames : author = caseId ∧ sha256 = patch.sha256 ∧ base = parent
  · rw [if_pos hnames, if_neg (by tauto)]
  · rw [if_neg hnames, if_pos (by tauto)]

/-! ### Git -/

/-- A commit with one parent: its stored message, the paths it changes, as git prints them, and the
contents of its files. -/
structure GitCommit where
  id : String
  parent : String
  message : String
  changed : List String
  file : String → Option (List UInt8)

/-- Whether the text of a file is this one. A file that is not there, and one that is no text, cannot be
read. -/
def GitCommit.holds (commit : GitCommit) (path content : String) : Except CommandError Bool :=
  match commit.file path with
  | none => .error .calledProcessError
  | some bytes => (decodeOutput bytes).map fun text => decide (text = content)

/-- A command that succeeded, with an output that decodes so. -/
def Succeeds (text : Except CommandError String) (answer : Except CommandError CompletedProcess) : Prop :=
  ∃ completed, answer = .ok completed ∧ completed.returncode = 0 ∧
    decodeOutput completed.stdout = text ∧ ∃ error, decodeOutput completed.stderr = .ok error

/-- A command that printed this text. -/
def Prints (text : String) (answer : Except CommandError CompletedProcess) : Prop :=
  Succeeds (.ok text) answer

/-- A command that failed. -/
def Fails (answer : Except CommandError CompletedProcess) : Prop :=
  ∃ completed, answer = .ok completed ∧ completed.returncode ≠ 0 ∧
    (∃ text, decodeOutput completed.stdout = .ok text) ∧ ∃ error, decodeOutput completed.stderr = .ok error

/-- Git answers about the commit; `isAncestor` says whether its parent belongs to the base. -/
structure GitCommit.Answered (adapter : GitHubDraftPRAdapter) (commit : GitCommit) (isAncestor : Bool)
    (baseCommit : String) (answers : (op : CommandOp) → Except CommandError op.Reply → Prop) : Prop where
  message : ∀ answer, answers (.run (messageArguments commit.id) adapter.repoRoot 120) answer →
    Prints (commit.message ++ "\n") answer
  parents : ∀ answer, answers (.run (parentsArguments commit.id) adapter.repoRoot 120) answer →
    Prints (commit.id ++ " " ++ commit.parent ++ "\n") answer
  ancestor : ∀ answer,
    answers (.run (ancestorArguments commit.parent baseCommit) adapter.repoRoot 120) answer →
    if isAncestor then Prints "" answer else Fails answer
  range : ∀ answer,
    answers (.run (rangeArguments commit.parent commit.id) adapter.repoRoot 120) answer →
    Prints (unlines [commit.id]) answer
  diff : ∀ answer,
    answers (.run (diffArguments commit.parent commit.id) adapter.repoRoot 120) answer →
    Prints (unlines commit.changed) answer
  content : ∀ path answer,
    answers (.run (contentArguments commit.id path) adapter.repoRoot 120) answer →
    match commit.file path with
    | none => Fails answer
    | some bytes => Succeeds (decodeOutput bytes) answer

section

variable {adapter : GitHubDraftPRAdapter}
  {answers : (op : CommandOp) → Except CommandError op.Reply → Prop}

theorem outcome_bind {α β : Type} {program : Shell α} {next : α → Shell β}
    {result : Except CommandError β} (h : (program >>= next).Outcome answers result) :
    (∃ value, program.Outcome answers (.ok value) ∧ (next value).Outcome answers result) ∨
      ∃ error, program.Outcome answers (.error error) ∧ result = .error error := by
  rw [Program.bind_eq] at h
  obtain ⟨middle, hmiddle, hnext⟩ := Program.Outcome.andThen.1 h
  cases middle with
  | ok value => exact .inl ⟨value, hmiddle, hnext⟩
  | error error => exact .inr ⟨error, hmiddle, hnext⟩

theorem subprocess_outcome {args : List String} {cwd : String} {timeout : Nat}
    {result : Except CommandError (Int × String)}
    (h : (Shell.subprocess args cwd timeout).Outcome answers result) :
    ∃ answer, answers (.run args cwd timeout) answer ∧ result = answer.bind fun completed =>
      (decodeOutput completed.stdout).bind fun stdout =>
        (decodeOutput completed.stderr).bind fun _ => .ok (completed.returncode, stdout) := by
  obtain ⟨answer, hanswer, h⟩ := h
  refine ⟨answer, hanswer, ?_⟩
  cases answer with
  | error error => exact h
  | ok completed => exact h

theorem exists_outcome {α : Type} (program : Shell α) (h : ∀ op, ∃ answer, answers op answer) :
    ∃ result, program.Outcome answers result := by
  induction program with
  | done result => exact ⟨result, rfl⟩
  | call op next ih =>
    obtain ⟨answer, hanswer⟩ := h op
    obtain ⟨result, hresult⟩ := ih answer
    exact ⟨result, answer, hanswer, hresult⟩

theorem run_outcome {args : List String} {text : Except CommandError String}
    {result : Except CommandError String}
    (hsucceeds : ∀ answer, answers (.run args adapter.repoRoot 120) answer → Succeeds text answer)
    (h : (adapter.run args).Outcome answers result) : result = text := by
  have hprocess : ∀ result, (Shell.subprocess args adapter.repoRoot 120).Outcome answers result →
      result = text.map fun text => (0, text) := by
    intro result h
    obtain ⟨answer, hanswer, rfl⟩ := subprocess_outcome h
    obtain ⟨completed, rfl, hcode, rfl, error, hstderr⟩ := hsucceeds answer hanswer
    cases htext : decodeOutput completed.stdout with
    | ok text => simp only [Except.bind, Except.map, htext, hstderr, hcode]
    | error error => simp only [Except.bind, Except.map, htext]
  rcases outcome_bind h with ⟨value, hvalue, hnext⟩ | ⟨error, herror, rfl⟩
  · cases text with
    | ok text =>
      cases hprocess _ hvalue
      exact hnext
    | error error => cases hprocess _ hvalue
  · cases text with
    | ok text => cases hprocess _ herror
    | error error =>
      cases hprocess _ herror
      rfl

theorem run_fails {args : List String} {result : Except CommandError String}
    (hfails : ∀ answer, answers (.run args adapter.repoRoot 120) answer → Fails answer)
    (h : (adapter.run args).Outcome answers result) : result = .error .calledProcessError := by
  have hprocess : ∀ result, (Shell.subprocess args adapter.repoRoot 120).Outcome answers result →
      ∃ code text, code ≠ 0 ∧ result = .ok (code, text) := by
    intro result h
    obtain ⟨answer, hanswer, rfl⟩ := subprocess_outcome h
    obtain ⟨completed, rfl, hcode, ⟨text, hstdout⟩, error, hstderr⟩ := hfails answer hanswer
    refine ⟨completed.returncode, text, hcode, ?_⟩
    simp only [Except.bind, hstdout, hstderr]
  rcases outcome_bind h with ⟨value, hvalue, hnext⟩ | ⟨error, herror, -⟩
  · obtain ⟨code, text, hcode, heq⟩ := hprocess _ hvalue
    cases heq
    dsimp only at hnext
    rw [if_pos hcode] at hnext
    exact hnext
  · obtain ⟨code, text, hcode, heq⟩ := hprocess _ herror
    cases heq

theorem run_bind_outcome {β : Type} {args : List String} {text : String} {next : String → Shell β}
    {result : Except CommandError β}
    (hprints : ∀ answer, answers (.run args adapter.repoRoot 120) answer → Prints text answer)
    (h : (adapter.run args >>= next).Outcome answers result) : (next text).Outcome answers result := by
  rcases outcome_bind h with ⟨value, hvalue, hnext⟩ | ⟨error, herror, -⟩
  · rw [← Except.ok.inj (run_outcome hprints hvalue)]
    exact hnext
  · cases run_outcome hprints herror

theorem isHexDigit_plain {c : Char} (h : isHexDigit c = true) : isSpace c = false := by
  have hcases : 48 ≤ c.toNat ∧ c.toNat ≤ 57 ∨ 97 ≤ c.toNat ∧ c.toNat ≤ 102 ∨
      65 ≤ c.toNat ∧ c.toNat ≤ 70 := by
    simpa [isHexDigit, Char.le_def, UInt32.le_iff_toNat_le, or_assoc] using h
  simp only [isSpace, whitespace, List.contains_eq_mem, List.mem_cons, List.not_mem_nil, or_false,
    decide_eq_false_iff_not]
  omega

theorem isCommitId_plain {text : String} (h : isCommitId text = true) :
    (∀ c ∈ text.toList, isSpace c = false) ∧ text.toList ≠ [] := by
  simp only [isCommitId, Bool.and_eq_true, decide_eq_true_eq] at h
  refine ⟨fun c hc => isHexDigit_plain (List.all_eq_true.1 h.2 c hc), fun hnil => ?_⟩
  rw [← String.length_toList, hnil] at h
  exact absurd h.1.1 (by decide)

theorem isCommitId_singleLine {text : String} (h : isCommitId text = true) : SingleLine text := by
  intro c hc
  have hspace := (isCommitId_plain h).1 c hc
  simp only [isSpace, whitespace, List.contains_eq_mem, List.mem_cons, List.not_mem_nil, or_false,
    decide_eq_false_iff_not] at hspace
  simp only [lineBreaks, List.contains_eq_mem, List.mem_cons, List.not_mem_nil, or_false,
    decide_eq_false_iff_not]
  omega

theorem words_parents {commit parent : String} (hcommit : isCommitId commit = true)
    (hparent : isCommitId parent = true) : words (commit ++ " " ++ parent ++ "\n") = [commit, parent] := by
  obtain ⟨hspace, hne⟩ := isCommitId_plain hcommit
  obtain ⟨hspace', hne'⟩ := isCommitId_plain hparent
  have hblank : " ".toList = [' '] := by decide
  have hbreak : "\n".toList = ['\n'] := by decide
  rw [words, String.toList_append, String.toList_append, String.toList_append, hblank, hbreak,
    List.append_assoc, List.append_assoc, List.singleton_append,
    List.splitOnP_append_cons_of_forall_mem hspace ' ' (by decide),
    List.splitOnP_append_cons_of_forall_mem hspace' '\n' (by decide), List.splitOnP_nil]
  simp [hne, hne']

variable {commit : GitCommit} {isAncestor : Bool} {caseId baseCommit : String} {patch : PatchArtifact}
  {targetRelative : PosixPath}

theorem isAncestor_outcome {result : Except CommandError Bool}
    (hgit : commit.Answered adapter isAncestor baseCommit answers)
    (h : (adapter.isAncestor commit.parent baseCommit).Outcome answers result) :
    result = .ok isAncestor := by
  obtain ⟨middle, hmiddle, hresult⟩ := Program.Outcome.andThen.1 h
  cases isAncestor with
  | true =>
    obtain rfl : middle = .ok true := run_bind_outcome hgit.ancestor hmiddle
    exact hresult
  | false =>
    rcases outcome_bind hmiddle with ⟨value, hvalue, -⟩ | ⟨error, herror, rfl⟩
    · cases run_fails hgit.ancestor hvalue
    · cases run_fails hgit.ancestor herror
      exact hresult

theorem content_outcome {path content : String} {result : Except CommandError Bool}
    (hgit : commit.Answered adapter isAncestor baseCommit answers)
    (h : (do
      let text ← adapter.run (contentArguments commit.id path)
      pure (decide (text = content)) : Shell Bool).Outcome answers result) :
    result = commit.holds path content := by
  have hcontent := hgit.content path
  rw [GitCommit.holds]
  cases hfile : commit.file path with
  | none =>
    rw [hfile] at hcontent
    rcases outcome_bind h with ⟨value, hvalue, -⟩ | ⟨error, herror, rfl⟩
    · cases run_fails hcontent hvalue
    · cases run_fails hcontent herror
      rfl
  | some bytes =>
    rw [hfile] at hcontent
    dsimp only
    rcases outcome_bind h with ⟨text, htext, hnext⟩ | ⟨error, herror, rfl⟩
    · rw [← run_outcome hcontent htext]
      exact hnext
    · rw [← run_outcome hcontent herror]
      rfl

theorem changesOnlyTarget_outcome {result : Except CommandError Bool}
    (hgit : commit.Answered adapter isAncestor baseCommit answers) (hid : isCommitId commit.id = true)
    (hchanged : ∀ path ∈ commit.changed, SingleLine path)
    (h : (adapter.changesOnlyTarget commit.id patch targetRelative commit.parent).Outcome answers result) :
    result = if commit.changed = [targetRelative.asPosix]
      then commit.holds targetRelative.asPosix patch.content else .ok false := by
  replace h := run_bind_outcome hgit.range h
  rw [splitlines_unlines (by simpa using isCommitId_singleLine hid), if_neg (not_not.2 rfl)] at h
  replace h := run_bind_outcome hgit.diff h
  rw [splitlines_unlines hchanged] at h
  by_cases htarget : commit.changed = [targetRelative.asPosix]
  · rw [if_neg (not_not.2 htarget)] at h
    rw [if_pos htarget]
    exact content_outcome hgit h
  · rw [if_pos htarget] at h
    rw [if_neg htarget]
    exact h

/-- Own commits are always recognised, and nothing else is. A commit that carries a message of the
adapter is owned exactly by the case and the patch that its message names, if the message names its
parent, the parent belongs to the base, and the commit changes the target and nothing else, to the
content of the patch. The target of a commit that is otherwise owned has to be read. -/
theorem commitIsOwned_iff {author sha256 base : String} {result : Except CommandError Bool}
    (hgit : commit.Answered adapter isAncestor baseCommit answers)
    (hmessage : commit.message = commitMessage author sha256 base ++ "\n") (hauthor : SingleLine author)
    (hsha256 : SingleLine sha256) (hbase : SingleLine base) (hid : isCommitId commit.id = true)
    (hparent : isCommitId commit.parent = true) (hchanged : ∀ path ∈ commit.changed, SingleLine path)
    (h : (adapter.commitIsOwned commit.id caseId patch targetRelative baseCommit).Outcome answers
      result) :
    result = if (author = caseId ∧ sha256 = patch.sha256 ∧ base = commit.parent) ∧
        isAncestor = true ∧ commit.changed = [targetRelative.asPosix]
      then commit.holds targetRelative.asPosix patch.content else .ok false := by
  replace h := run_bind_outcome hgit.message h
  rw [hmessage, splitlines_commitMessage hauthor hsha256 hbase] at h
  have hsubject : (messageLines author sha256 base).head? = some (commitSubject author) := rfl
  dsimp only at h
  rw [hsubject] at h
  by_cases hcase : author = caseId
  · subst hcase
    rw [if_neg (not_not.2 rfl)] at h
    replace h := run_bind_outcome hgit.parents h
    rw [words_parents hid hparent] at h
    dsimp only at h
    rw [recordedBase_messageLines] at h
    by_cases hnames : sha256 = patch.sha256 ∧ base = commit.parent
    · rw [if_pos ⟨rfl, hnames⟩] at h
      rcases outcome_bind h with ⟨ancestor, hancestor, hnext⟩ | ⟨error, herror, -⟩
      · cases isAncestor_outcome hgit hancestor
        cases isAncestor with
        | false =>
          obtain rfl := hnext
          simp
        | true =>
          rw [changesOnlyTarget_outcome hgit hid hchanged hnext]
          simp [hnames]
      · cases isAncestor_outcome hgit herror
    · rw [if_neg fun hall => hnames hall.2] at h
      obtain rfl := h
      simp [hnames]
  · have hne : ¬some (commitSubject author) = some (commitSubject caseId) := by
      rw [Option.some.injEq, commitSubject_eq, commitSubject_eq, String.append_right_inj]
      exact hcase
    rw [if_pos hne] at h
    obtain rfl := h
    simp [hcase]

end

section

def trackedAdapter : GitHubDraftPRAdapter :=
  { enabled := true, repository := "a/b", repoRoot := "/a", baseBranch := "main", patchPath := "m.sql"
    runtimeDir := "/r" }

def trackedPatch : PatchArtifact := ⟨"m.sql", "select 1", "ab"⟩

def trackedCommit : GitCommit where
  id := "0123456789012345678901234567890123456789"
  parent := "9876543210987654321098765432109876543210"
  message := commitMessage "d" "ab" "9876543210987654321098765432109876543210" ++ "\n"
  changed := ["m.sql"]
  file _ := some (encode "select 1")

/-- What git prints about the commit. -/
def trackedText (args : List String) : String :=
  if args = messageArguments trackedCommit.id then trackedCommit.message ++ "\n"
  else if args = parentsArguments trackedCommit.id then
    trackedCommit.id ++ " " ++ trackedCommit.parent ++ "\n"
  else if args = ancestorArguments trackedCommit.parent trackedCommit.parent then ""
  else if args = rangeArguments trackedCommit.parent trackedCommit.id then unlines [trackedCommit.id]
  else if args = diffArguments trackedCommit.parent trackedCommit.id then unlines trackedCommit.changed
  else "select 1"

def trackedAnswer : (op : CommandOp) → Except CommandError op.Reply
  | .run args _ _ => .ok { returncode := 0, stdout := encode (trackedText args) }
  | .which _ => .ok none
  | .pathExists _ => .ok false
  | .resolvePath path => .ok path
  | .makeDirectory _ | .writeText .. | .removeTree _ => .ok ()

theorem trackedAnswer_succeeds {args : List String} {text : String} (htext : trackedText args = text)
    (answer : Except CommandError CompletedProcess)
    (h : answer = trackedAnswer (.run args trackedAdapter.repoRoot 120)) :
    Succeeds (decodeOutput (encode text)) answer := by
  have herror : decodeOutput [] = .ok "" := by decide +kernel
  refine ⟨_, h, rfl, ?_, "", herror⟩
  rw [htext]

theorem trackedAnswer_prints {args : List String} {text : String} (htext : trackedText args = text)
    (hdecoded : decodeOutput (encode text) = .ok text) (answer : Except CommandError CompletedProcess)
    (h : answer = trackedAnswer (.run args trackedAdapter.repoRoot 120)) : Prints text answer := by
  rw [Prints, ← hdecoded]
  exact trackedAnswer_succeeds htext answer h

/-- Git gives these answers. -/
def Tracked (op : CommandOp) (answer : Except CommandError op.Reply) : Prop := answer = trackedAnswer op

theorem trackedCommit_answered :
    trackedCommit.Answered trackedAdapter true trackedCommit.parent Tracked where
  message := trackedAnswer_prints (by decide +kernel) (by decide +kernel)
  parents := trackedAnswer_prints (by decide +kernel) (by decide +kernel)
  ancestor := trackedAnswer_prints (by decide +kernel) (by decide +kernel)
  range := trackedAnswer_prints (by decide +kernel) (by decide +kernel)
  diff := trackedAnswer_prints (by decide +kernel) (by decide +kernel)
  content path := by
    refine trackedAnswer_succeeds ?_
    simp [trackedText, contentArguments, messageArguments, parentsArguments, ancestorArguments,
      rangeArguments, diffArguments, trackedCommit]

/-- A commit of this case, on a base that has not moved. -/
theorem commitIsOwned_iff_tracked :
    (trackedAdapter.commitIsOwned trackedCommit.id "d" trackedPatch (PosixPath.parse "m.sql")
      trackedCommit.parent).Outcome Tracked (.ok true) := by
  have hanswered : ∀ op, ∃ answer, Tracked op answer := fun op => ⟨trackedAnswer op, rfl⟩
  obtain ⟨result, h⟩ := exists_outcome (trackedAdapter.commitIsOwned trackedCommit.id "d" trackedPatch
    (PosixPath.parse "m.sql") trackedCommit.parent) hanswered
  have hplain : ∀ text ∈ ["d", "ab", trackedCommit.parent, "m.sql"], SingleLine text := by
    unfold SingleLine
    decide +kernel
  have hresult := commitIsOwned_iff trackedCommit_answered rfl (hplain "d" (by simp))
    (hplain "ab" (by simp)) (hplain trackedCommit.parent (by simp)) (by decide +kernel) (by decide +kernel)
    (fun path hpath => hplain path (by simp_all [trackedCommit])) h
  rw [hresult] at h
  have howned : (if ("d" = "d" ∧ "ab" = trackedPatch.sha256 ∧ trackedCommit.parent = trackedCommit.parent) ∧
        true = true ∧ trackedCommit.changed = [(PosixPath.parse "m.sql").asPosix]
      then trackedCommit.holds (PosixPath.parse "m.sql").asPosix trackedPatch.content
      else .ok false) = .ok true := by decide +kernel
  exact howned ▸ h

end

end GitHubDraftPRAdapter

end DataRescue
