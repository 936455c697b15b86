import DataRescue.Concurrency.Licence
import DataRescue.Remediation.DraftRetries

/-!
# What a draft deletes

A draft deletes a worktree and a branch in the end, and only those that it added itself. Before each
deletion, the calls of the same run show that neither existed, and that the worktree was added; or, where
the command that adds it failed, that git has registered just this worktree, on this branch and at the
commit it was to start from (`draft_deletes_own`).
-/

namespace DataRescue

open Python Concurrency

namespace GitHubDraftPRAdapter

/-! ### Licences -/

section

variable (adapter : GitHubDraftPRAdapter) (caseId : String)

def addArguments (baseCommit : String) : List String :=
  ["git", "worktree", "add", "-b", caseBranch caseId, (adapter.worktree caseId).asPosix, baseCommit]

def branchArguments : List String := ["git", "rev-parse", "--verify", "refs/heads/" ++ caseBranch caseId]

/-- The three deletions of a case. -/
def OwnDeletion (op : CommandOp) : Prop :=
  op = .run ["git", "worktree", "remove", "--force", (adapter.worktree caseId).asPosix]
    adapter.repoRoot 30 ∨
  op = .run ["git", "branch", "-D", caseBranch caseId] adapter.repoRoot 30 ∨
  op = .removeTree (adapter.worktree caseId).asPosix

/-- The branch was not found, and the directory of the worktree did not exist. -/
structure SlotFree (calls : List CommandCall) : Prop where
  branch : ∃ completed : CompletedProcess, completed.returncode ≠ 0 ∧
    (⟨.run (branchArguments caseId) adapter.repoRoot 30, .ok completed⟩ : CommandCall) ∈ calls
  path : (⟨.pathExists (adapter.worktree caseId).asPosix, .ok false⟩ : CommandCall) ∈ calls

/-- The worktree was added. -/
def Added (calls : List CommandCall) : Prop :=
  ∃ baseCommit text, ∃ call ∈ calls,
    Printed adapter.repoRoot (adapter.addArguments caseId baseCommit) text call

/-- Git lists the worktree as registered, on the branch of the case and at the commit it was to start
from, where the branch still is. -/
structure Listed (baseCommit : String) (calls : List CommandCall) : Prop where
  listed : ∃ expected payload path resolved, ∃ record ∈ worktreeRecords payload,
    (⟨.resolvePath (adapter.worktree caseId).asPosix, .ok expected⟩ : CommandCall) ∈ calls ∧
    (∃ call ∈ calls, Printed adapter.repoRoot ["git", "worktree", "list", "--porcelain", "-z"] payload
      call) ∧
    record.field "worktree" = some path ∧ (⟨.resolvePath path, .ok resolved⟩ : CommandCall) ∈ calls ∧
    PosixPath.parse resolved = PosixPath.parse expected ∧
    record.field "branch" = some ("refs/heads/" ++ caseBranch caseId) ∧
    casefold ((record.field "HEAD").getD "") = casefold baseCommit
  tip : ∃ completed text, completed.returncode = 0 ∧ decodeOutput completed.stdout = .ok text ∧
    strip text = baseCommit ∧
    (⟨.run (branchArguments caseId) adapter.repoRoot 30, .ok completed⟩ : CommandCall) ∈ calls

/-- The worktree was to be added, and listed afterwards, though the command had failed. -/
def Registered (baseCommit : String) (calls : List CommandCall) : Prop :=
  ∃ before answer after,
    calls = before ++
      ⟨.run (adapter.addArguments caseId baseCommit) adapter.repoRoot 120, answer⟩ :: after ∧
    adapter.Listed caseId baseCommit after

/-- What a deletion rests on: first the slot was free, and then the worktree was added. -/
def Grounds (calls : List CommandCall) : Prop :=
  ∃ slot rest, calls = slot ++ rest ∧ adapter.SlotFree caseId slot ∧
    (adapter.Added caseId rest ∨ ∃ baseCommit, adapter.Registered caseId baseCommit rest)

/-- A deletion is one of the case's own, and rests on the calls before it. -/
def licence (calls : List CommandCall) (op : CommandOp) : Prop :=
  op.deletes = true → adapter.OwnDeletion caseId op ∧ adapter.Grounds caseId calls

end

variable {printing : Printing} {adapter : GitHubDraftPRAdapter} {caseId : String}
  {calls more : List CommandCall}

theorem SlotFree.mono (h : adapter.SlotFree caseId calls) (hsub : calls ⊆ more) :
    adapter.SlotFree caseId more := by
  obtain ⟨⟨completed, hcode, hbranch⟩, hpath⟩ := h
  exact ⟨⟨completed, hcode, hsub hbranch⟩, hsub hpath⟩

theorem Added.mono (h : adapter.Added caseId calls) (hsub : calls ⊆ more) :
    adapter.Added caseId more := by
  obtain ⟨baseCommit, text, call, hcall, hprinted⟩ := h
  exact ⟨baseCommit, text, call, hsub hcall, hprinted⟩

theorem Listed.mono {baseCommit : String} (h : adapter.Listed caseId baseCommit calls)
    (hsub : calls ⊆ more) : adapter.Listed caseId baseCommit more := by
  obtain ⟨⟨expected, payload, path, resolved, record, hrecord, hexpected, ⟨call, hcall, hprinted⟩, hpath,
    hresolved, hfields⟩, completed, text, hcode, htext, htip, hlooked⟩ := h
  exact ⟨⟨expected, payload, path, resolved, record, hrecord, hsub hexpected,
    ⟨call, hsub hcall, hprinted⟩, hpath, hsub hresolved, hfields⟩, completed, text, hcode, htext, htip,
    hsub hlooked⟩

theorem Registered.append {baseCommit : String} (h : adapter.Registered caseId baseCommit calls) :
    adapter.Registered caseId baseCommit (calls ++ more) := by
  obtain ⟨before, answer, after, rfl, hlisted⟩ := h
  exact ⟨before, answer, after ++ more, by simp, hlisted.mono (List.subset_append_left _ _)⟩

theorem Grounds.append (h : adapter.Grounds caseId calls) : adapter.Grounds caseId (calls ++ more) := by
  obtain ⟨slot, rest, rfl, hfree, hadded | ⟨baseCommit, hregistered⟩⟩ := h
  · exact ⟨slot, rest ++ more, List.append_assoc .., hfree,
      .inl (hadded.mono (List.subset_append_left _ _))⟩
  · exact ⟨slot, rest ++ more, List.append_assoc .., hfree, .inr ⟨baseCommit, hregistered.append⟩⟩

/-! ### Programs that delete nothing -/

/-- The program deletes nothing. -/
abbrev Tame {α : Type} (program : Shell α) : Prop := program.Uses fun op => op.deletes = false

theorem Mild.tame {α : Type} {program : Shell α} (h : Mild program) : Tame program :=
  Program.Uses.mono h fun _ hop => (mild_iff.1 hop).2

theorem tame_licensed {α : Type} {program : Shell α}
    {post : Except CommandError α → List CommandCall → Prop} (h : Tame program)
    (hpost : ∀ trace result, program.Trace trace result → post result (calls ++ trace)) :
    program.Licensed (adapter.licence caseId) post calls := by
  refine h.licensed (fun more op hop hdeletes => ?_) hpost
  rw [hop] at hdeletes
  cases hdeletes

theorem tame_bind {α β : Type} {program : Shell α} {next : α → Shell β} (h : Tame program)
    (hnext : ∀ trace value, program.Trace trace (.ok value) →
      (next value).Licensed (adapter.licence caseId) (fun _ _ => True) (calls ++ trace)) :
    (program >>= next).Licensed (adapter.licence caseId) (fun _ _ => True) calls := by
  have htraced : program.Licensed (adapter.licence caseId)
      (fun result more => ∃ trace, more = calls ++ trace ∧ program.Trace trace result) calls :=
    tame_licensed h fun trace _ htrace => ⟨trace, rfl, htrace⟩
  refine htraced.bind (fun value more hmore => ?_) fun _ _ _ => trivial
  obtain ⟨trace, rfl, htrace⟩ := hmore
  exact hnext trace value htrace

theorem runIn_tame {cwd : String} {args : List String}
    (h : CommandOp.deletes (.run args cwd 120) = false) : Tame (runIn cwd args) := by
  refine (subprocess_uses h).bind fun answer => ?_
  dsimp only
  split <;> exact .done _

theorem createOrReconcilePr_tame {branch baseCommit : String} {patch : PatchArtifact} :
    Tame (adapter.createOrReconcilePr printing caseId branch patch baseCommit) := by
  refine (runIn_tame rfl).attempt.bind fun created => ?_
  cases created with
  | error error =>
    dsimp only
    split
    · exact .done _
    refine findExistingPr_mild.tame.bind fun existing => ?_
    cases existing <;> exact .done _
  | ok output =>
    refine Program.Uses.bind (.done _) fun _ => findExistingPr_mild.tame.bind fun existing => ?_
    split <;> exact .done _

theorem commitAndPush_tame {branch baseCommit : String} {patch : PatchArtifact}
    {targetRelative : PosixPath} :
    Tame (adapter.commitAndPush caseId branch patch targetRelative baseCommit) := by
  refine (perform_mild rfl).tame.bind fun target => (perform_mild rfl).tame.bind fun resolved => ?_
  dsimp only
  split
  · exact .done _
  refine (perform_mild rfl).tame.bind fun _ => (perform_mild rfl).tame.bind fun _ =>
    (runIn_tame rfl).bind fun _ => (runIn_tame rfl).bind fun _ => (runIn_tame rfl).bind fun _ => .done _

/-! ### Evidence -/

theorem localBranchSha_cases {branch : String} {sha : Option String}
    (h : (adapter.localBranchSha branch).Trace calls (.ok sha)) :
    ∃ completed text, calls = [⟨.run ["git", "rev-parse", "--verify", "refs/heads/" ++ branch]
        adapter.repoRoot 30, .ok completed⟩] ∧ decodeOutput completed.stdout = .ok text ∧
      (sha = none ∧ completed.returncode ≠ 0 ∨ sha = some (strip text) ∧ completed.returncode = 0) := by
  obtain ⟨first, second, ⟨returncode, stdout⟩, rfl, hfirst, hsecond⟩ := Program.trace_bind_ok.1 h
  obtain ⟨completed, rfl, hcode, hstdout⟩ := subprocess_ok hfirst
  dsimp only at hsecond
  split at hsecond
  next hne =>
    obtain ⟨rfl, heq⟩ := Program.trace_done.1 hsecond
    rw [← hcode] at hne
    exact ⟨completed, stdout, rfl, hstdout, .inl ⟨Except.ok.inj heq, hne⟩⟩
  next hzero =>
    split at hsecond
    · exact absurd hsecond refuse_ne_ok
    · obtain ⟨rfl, heq⟩ := Program.trace_done.1 hsecond
      exact ⟨completed, stdout, rfl, hstdout, .inr ⟨Except.ok.inj heq, hcode.trans (not_not.1 hzero)⟩⟩

theorem assertLocalSlotAvailable_ok
    (h : (adapter.assertLocalSlotAvailable printing (caseBranch caseId) (adapter.worktree caseId)).Trace
      calls (.ok ())) : adapter.SlotFree caseId calls := by
  obtain ⟨first, second, sha, rfl, hfirst, hsecond⟩ := Program.trace_bind_ok.1 h
  obtain ⟨completed, text, rfl, -, hsha⟩ := localBranchSha_cases hfirst
  split at hsecond
  · exact absurd hsecond refuse_ne_ok
  next hnone =>
    obtain ⟨look, last, found, rfl, hlook, hlast⟩ := Program.trace_bind_ok.1 hsecond
    obtain rfl := Program.trace_perform.1 hlook
    cases found with
    | true => exact absurd hlast refuse_ne_ok
    | false =>
      refine ⟨⟨completed, ?_, by simp [branchArguments]⟩, by simp⟩
      rcases hsha with ⟨-, hcode⟩ | ⟨hsome, -⟩
      · exact hcode
      · rw [not_not.1 hnone] at hsome
        cases hsome

theorem ownsWorktree_true {expectedPath expectedBranch baseCommit : String}
    {records : List WorktreeRecord}
    (h : (ownsWorktree expectedPath expectedBranch baseCommit records).Trace calls (.ok true)) :
    ∃ record ∈ records, ∃ path resolved, record.field "worktree" = some path ∧
      (⟨.resolvePath path, .ok resolved⟩ : CommandCall) ∈ calls ∧
      PosixPath.parse resolved = PosixPath.parse expectedPath ∧
      record.field "branch" = some expectedBranch ∧
      casefold ((record.field "HEAD").getD "") = casefold baseCommit := by
  induction records generalizing calls with
  | nil => exact absurd (Program.trace_done.1 h).2 (by simp)
  | cons record records ih =>
    unfold ownsWorktree at h
    split at h
    next hfield =>
      obtain ⟨here, hhere, hrest⟩ := Program.trace_done_bind_ok.1 h
      cases hhere
      obtain ⟨other, hother, hfound⟩ := ih hrest
      exact ⟨other, List.mem_cons_of_mem _ hother, hfound⟩
    next path hfield =>
      obtain ⟨first, second, resolved, rfl, hfirst, hsecond⟩ := Program.trace_bind_ok.1 h
      obtain rfl := Program.trace_perform.1 hfirst
      obtain ⟨here, hhere, hrest⟩ := Program.trace_done_bind_ok.1 hsecond
      cases here with
      | true =>
        have hfields := Except.ok.inj hhere
        simp only [Bool.and_eq_true, decide_eq_true_eq] at hfields
        exact ⟨record, List.mem_cons_self, path, resolved, hfield, by simp, hfields.1.1, hfields.1.2,
          hfields.2⟩
      | false =>
        obtain ⟨other, hother, path', resolved', hpath', hresolved', hfields⟩ := ih hrest
        exact ⟨other, List.mem_cons_of_mem _ hother, path', resolved', hpath',
          List.mem_append_right _ hresolved', hfields⟩

/-! ### Deletions -/

theorem cleanupWorktree_licensed (h : adapter.Grounds caseId calls) :
    (adapter.cleanupWorktree (adapter.worktree caseId) (caseBranch caseId)).Licensed
      (adapter.licence caseId) (fun _ _ => True) calls := by
  have huses : (adapter.cleanupWorktree (adapter.worktree caseId) (caseBranch caseId)).Uses
      fun op => op.deletes = true → adapter.OwnDeletion caseId op := by
    have hremove : CommandOp.deletes (.run ["git", "worktree", "remove", "--force",
        (adapter.worktree caseId).asPosix] adapter.repoRoot 30) = true →
        adapter.OwnDeletion caseId _ := fun _ => .inl rfl
    have hbranch : CommandOp.deletes (.run ["git", "branch", "-D", caseBranch caseId]
        adapter.repoRoot 30) = true → adapter.OwnDeletion caseId _ := fun _ => .inr (.inl rfl)
    have htree : CommandOp.deletes (.removeTree (adapter.worktree caseId).asPosix) = true →
        adapter.OwnDeletion caseId _ := fun _ => .inr (.inr rfl)
    have hexists : CommandOp.deletes (.pathExists (adapter.worktree caseId).asPosix) = true →
        adapter.OwnDeletion caseId (.pathExists (adapter.worktree caseId).asPosix) :=
      fun hdeletes => absurd hdeletes (by simp [CommandOp.deletes])
    refine (bestEffortRun_uses hremove).bind fun _ => (bestEffortRun_uses hbranch).bind fun _ => ?_
    refine Program.Uses.tryCatch ?_ fun error => ?_
    · refine Program.Uses.bind (perform_uses hexists) fun found => ?_
      split
      · exact perform_uses htree
      · exact .done _
    · split <;> exact .done _
  refine huses.licensed (fun more op hown hdeletes => ?_) fun _ _ _ => trivial
  exact ⟨hown hdeletes, h.append⟩

theorem suppress_licensed {program : Shell Unit}
    (h : program.Licensed (adapter.licence caseId) (fun _ _ => True) calls) :
    (Shell.suppress program).Licensed (adapter.licence caseId) (fun _ _ => True) calls := by
  refine h.tryCatch (fun _ _ _ => trivial) fun error more _ => ?_
  split <;> exact trivial

/-- After a failed command the worktree is deleted only if git lists it as this attempt's. -/
theorem cleanupIncompleteWorktree_licensed {baseCommit : String}
    {answer : Except CommandError CompletedProcess} {slot rest : List CommandCall}
    (hfree : adapter.SlotFree caseId slot) (hattempted : calls = slot ++
      ⟨.run (adapter.addArguments caseId baseCommit) adapter.repoRoot 120, answer⟩ :: rest) :
    (adapter.cleanupIncompleteWorktree (adapter.worktree caseId) (caseBranch caseId) baseCommit).Licensed
      (adapter.licence caseId) (fun _ _ => True) calls := by
  refine tame_bind (perform_mild rfl).tame fun first expected hfirst => ?_
  obtain rfl := Program.trace_perform.1 hfirst
  refine tame_bind (run_mild rfl).tame fun second payload hsecond => ?_
  obtain ⟨listing, rfl, hlisting⟩ := runIn_ok hsecond
  refine tame_bind ownsWorktree_mild.tame fun third owned hthird => ?_
  cases owned with
  | false => exact trivial
  | true =>
    obtain ⟨record, hrecord, path, resolved, hpath, hresolved, hfields⟩ := ownsWorktree_true hthird
    refine tame_bind localBranchSha_mild.tame fun fourth sha hfourth => ?_
    obtain ⟨completed, text, rfl, htext, hsha⟩ := localBranchSha_cases hfourth
    split
    · exact trivial
    next htip =>
      rw [not_not] at htip
      have hlisted : adapter.Listed caseId baseCommit (rest ++
          [⟨.resolvePath (adapter.worktree caseId).asPosix, .ok expected⟩] ++ [listing] ++ third ++
          [⟨.run (branchArguments caseId) adapter.repoRoot 30, .ok completed⟩]) :=
        { listed := ⟨expected, payload, path, resolved, record, hrecord, by simp,
            ⟨listing, by simp, hlisting⟩, hpath, by simp [hresolved], hfields⟩
          tip := by
            rcases hsha with ⟨hnone, -⟩ | ⟨hsome, hcode⟩
            · rw [hnone] at htip
              cases htip
            · rw [hsome, Option.some.injEq] at htip
              exact ⟨completed, text, hcode, htext, htip, by simp⟩ }
      refine cleanupWorktree_licensed ⟨slot, _, ?_, hfree, .inr ⟨baseCommit, [], answer, _, rfl, hlisted⟩⟩
      simp [hattempted, branchArguments]

variable {patch : PatchArtifact} {targetRelative : PosixPath} {baseCommit : String}

theorem createFreshDraft_licensed :
    (adapter.createFreshDraft printing caseId (caseBranch caseId) patch targetRelative baseCommit).Licensed
      (adapter.licence caseId) (fun _ _ => True) calls := by
  refine tame_bind assertLocalSlotAvailable_mild.tame fun slot _ hslot => ?_
  have hfree : adapter.SlotFree caseId (calls ++ slot) :=
    (assertLocalSlotAvailable_ok hslot).mono (List.subset_append_right _ _)
  have hrun : (adapter.run (adapter.addArguments caseId baseCommit)).Licensed (adapter.licence caseId)
      (fun result more => ∃ answer rest, more = calls ++ slot ++
          ⟨.run (adapter.addArguments caseId baseCommit) adapter.repoRoot 120, answer⟩ :: rest ∧
        ∀ text, result = .ok text → adapter.Grounds caseId more) (calls ++ slot) := by
    refine tame_licensed (runIn_tame rfl) fun trace result htrace => ?_
    have hadded : ∀ text, result = .ok text → adapter.Added caseId trace := by
      rintro text rfl
      obtain ⟨call, rfl, hprinted⟩ := runIn_ok htrace
      exact ⟨baseCommit, text, call, by simp, hprinted⟩
    obtain ⟨answer, rest, rfl, -⟩ := Program.trace_call.1 htrace
    exact ⟨answer, rest, rfl, fun text htext => ⟨_, _, rfl, hfree, .inl (hadded text htext)⟩⟩
  have hadd : ((adapter.run (adapter.addArguments caseId baseCommit)).tryCatch fun error => do
      Shell.suppress (adapter.cleanupIncompleteWorktree (adapter.worktree caseId) (caseBranch caseId)
        baseCommit)
      Shell.throw error).Licensed (adapter.licence caseId)
      (fun result more => ∀ text, result = .ok text → adapter.Grounds caseId more) (calls ++ slot) := by
    refine hrun.tryCatch (fun text more hmore _ _ => ?_) fun error more hmore => ?_
    · obtain ⟨_, _, -, hgrounds⟩ := hmore
      exact hgrounds text rfl
    obtain ⟨answer, rest, hattempted, -⟩ := hmore
    have hcleanup := suppress_licensed (cleanupIncompleteWorktree_licensed hfree hattempted)
    refine hcleanup.bind (fun _ _ _ text htext => ?_) fun _ _ _ text htext => ?_
    · cases htext
    · cases htext
  refine hadd.bind (fun text more hmore => ?_) fun _ _ _ => trivial
  have hgrounds := hmore text rfl
  have hbody : Program.Licensed (adapter.licence caseId) (do
      adapter.commitAndPush caseId (caseBranch caseId) patch targetRelative baseCommit
      adapter.createOrReconcilePr printing caseId (caseBranch caseId) patch baseCommit : Shell String)
      (fun _ more => adapter.Grounds caseId more) more :=
    tame_licensed (commitAndPush_tame.bind fun _ => createOrReconcilePr_tame) fun trace result _ =>
      hgrounds.append
  exact hbody.tryFinally fun result more hmore => suppress_licensed (cleanupWorktree_licensed hmore)

theorem createRealDraft_licensed :
    (adapter.createRealDraft printing caseId (caseBranch caseId) patch).Licensed (adapter.licence caseId)
      (fun _ _ => True) calls := by
  refine tame_bind checkRequest_mild.tame fun _ _ _ => tame_bind checkRepository_mild.tame
    fun _ baseCommit _ => tame_bind findExistingPr_mild.tame fun _ existing _ => ?_
  cases existing with
  | some url => exact trivial
  | none =>
    refine tame_bind remoteBranchSha_mild.tame fun _ remoteSha _ => ?_
    cases remoteSha with
    | none => exact createFreshDraft_licensed
    | some sha =>
      refine tame_bind commitIsOwned_mild.tame fun _ owned _ => ?_
      cases owned with
      | false => exact trivial
      | true => exact tame_licensed createOrReconcilePr_tame fun _ _ _ => trivial

theorem createDraft_licensed :
    (adapter.createDraft printing caseId patch).Licensed (adapter.licence caseId) (fun _ _ => True)
      calls := by
  unfold createDraft
  dsimp only
  split
  · exact tame_licensed bundled_mild.tame fun _ _ _ => trivial
  refine createRealDraft_licensed.attempt_bind fun result more _ => ?_
  cases result with
  | ok url => exact trivial
  | error error =>
    dsimp only
    split
    · exact trivial
    · exact tame_licensed bundled_mild.tame fun _ _ _ => trivial

/-- A draft deletes only what it has added. Whatever the commands answer, a call that deletes removes
the worktree of the case, its branch or its directory; before it, the branch was not found, the directory
did not exist, and the worktree was added, or registered by the command that was to add it. -/
theorem draft_deletes_own {before after : List CommandCall} {call : CommandCall}
    {result : Except CommandError PullRequestArtifact}
    (h : (adapter.createDraft printing caseId patch).Trace calls result)
    (hcalls : calls = before ++ call :: after) (hdeletes : call.1.deletes = true) :
    adapter.OwnDeletion caseId call.1 ∧ adapter.Grounds caseId before := by
  have hlicensed : (adapter.createDraft printing caseId patch).Licensed (adapter.licence caseId)
      (fun _ _ => True) [] := createDraft_licensed
  have hcall := (hlicensed.trace h).1 before call after hcalls hdeletes
  rwa [List.nil_append] at hcall

section

/-- The calls after the push: the worktree and the branch are removed, and a bundle is written. -/
def callsAfterPush : List CommandCall :=
  [⟨.run ["git", "worktree", "remove", "--force", "/r/worktrees/d"] "/a" 30,
      .ok { returncode := 0, stdout := [] }⟩,
    ⟨.run ["git", "branch", "-D", "datarescue/d"] "/a" 30, .ok { returncode := 0, stdout := [] }⟩,
    ⟨.pathExists "/r/worktrees/d", .ok false⟩, ⟨.makeDirectory "/r/pr-bundles/d", .ok ()⟩,
    ⟨.writeText "/r/pr-bundles/d/payments_fct.sql" "select 1", .ok ()⟩,
    ⟨.writeText "/r/pr-bundles/d/manifest.json" (plainAdapter.manifest "d" "datarescue/d" plainPatch),
      .ok ()⟩]

/-- A draft whose push timed out removes the branch it has added. -/
theorem draft_deletes_own_branch : ∃ result,
    (plainAdapter.createDraft plainPrinting "d" plainPatch).Trace
      (callsToPush ++ [pushCall] ++ callsAfterPush) result ∧
    plainAdapter.OwnDeletion "d" (.run ["git", "branch", "-D", "datarescue/d"] "/a" 30) ∧
    plainAdapter.Grounds "d" (callsToPush ++ [pushCall] ++ callsAfterPush.take 1) := by
  have hreplay : ((plainAdapter.createDraft plainPrinting "d" plainPatch).replay
      (callsToPush ++ [pushCall] ++ callsAfterPush)).isSome = true := by decide +kernel
  obtain ⟨result, hresult⟩ := Option.isSome_iff_exists.1 hreplay
  have htrace := Program.replay_trace hresult
  have hcalls : callsToPush ++ [pushCall] ++ callsAfterPush =
      (callsToPush ++ [pushCall] ++ callsAfterPush.take 1) ++
        (⟨.run ["git", "branch", "-D", "datarescue/d"] "/a" 30,
          .ok { returncode := 0, stdout := [] }⟩ : CommandCall) :: callsAfterPush.drop 2 := by
    simp [callsAfterPush]
  have hdeletion := draft_deletes_own htrace hcalls rfl
  exact ⟨result, htrace, hdeletion⟩

end

end GitHubDraftPRAdapter

end DataRescue
