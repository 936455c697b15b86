import DataRescue.Concurrency.Sequential
import DataRescue.Remediation.DraftProof
import Mathlib.Logic.Function.Basic

/-!
# Retries of drafts

The repository behind `origin`: the heads of its branches and its open pull requests. A command may fail,
with or without its effect; what a successful read prints is what the repository holds. However often drafts
are asked for, and wherever a call is cut off, a branch is pushed only while it has no head and a pull
request is created only while its branch has none, so nothing is duplicated or overwritten
(`drafts_once`).
-/

namespace DataRescue

open Python Concurrency

/-- An open pull request. -/
structure Pull where
  url : String
  branch : String
  deriving DecidableEq

/-- The repository behind `origin`. -/
structure Origin where
  heads : String → Option String
  pulls : List Pull

namespace Origin

def pullsOf (origin : Origin) (branch : String) : List Pull :=
  origin.pulls.filter (·.branch = branch)

/-- No branch has two open pull requests. -/
def Single (origin : Origin) : Prop := ∀ branch, (origin.pullsOf branch).length ≤ 1

/-- Every head is where it was, and every pull request is still open. -/
def Grows (origin origin' : Origin) : Prop :=
  (∀ branch head, origin.heads branch = some head → origin'.heads branch = some head) ∧
    origin.pulls <+: origin'.pulls

end Origin

/-- The commands that write to it. -/
def CommandOp.writes : CommandOp → Bool
  | .run args _ _ => ["git", "push"].isPrefixOf args || ["gh", "pr", "create"].isPrefixOf args
  | _ => false

/-- The commands that delete. -/
def CommandOp.deletes : CommandOp → Bool
  | .run args _ _ => ["git", "worktree", "remove"].isPrefixOf args || ["git", "branch"].isPrefixOf args
  | .removeTree _ => true
  | _ => false

def CommandOp.mild (op : CommandOp) : Bool := !(op.writes || op.deletes)

namespace GitHubDraftPRAdapter

/-- An entry of a listing that is this pull request. -/
def Lists (candidate : Json) (pull : Pull) : Prop :=
  ∃ entry, candidate = .obj entry ∧ getField entry "url" = some (.str pull.url)

/-- What a successful read shows of the repository: the head of a branch, and the first hundred open pull
requests of one. -/
structure Shows (printing : Printing) (adapter : GitHubDraftPRAdapter) (call : CommandCall)
    (origin : Origin) : Prop where
  head : ∀ branch text head, Printed adapter.repoRoot (lsRemoteArguments branch) text call →
    remoteHead printing branch text = .ok head → head = origin.heads branch
  pulls : ∀ branch text candidates,
    Printed adapter.repoRoot (listArguments adapter.repository branch) text call →
    listedCandidates text = .ok candidates →
    List.Forall₂ Lists candidates ((origin.pullsOf branch).take 100)

/-- The effects of the writes. -/
inductive Changes (repository : String) : CommandOp → Origin → Origin → Prop
  | push (branch head cwd : String) (timeout : Nat) (origin : Origin) :
    Changes repository (.run (pushArguments branch) cwd timeout) origin
      { origin with heads := Function.update origin.heads branch (some head) }
  | create (baseBranch branch title body url cwd : String) (timeout : Nat) (origin : Origin) :
    Changes repository (.run (createArguments repository baseBranch branch title body) cwd timeout) origin
      { origin with pulls := origin.pulls ++ [⟨url, branch⟩] }

/-- A command that answers, whether or not it had its effect. -/
def Executes (printing : Printing) (adapter : GitHubDraftPRAdapter) (op : CommandOp) (before : Origin)
    (answer : Except CommandError op.Reply) (after : Origin) : Prop :=
  adapter.Shows printing ⟨op, answer⟩ before ∧
    (after = before ∨ Changes adapter.repository op before after)

/-- A branch is pushed only while it has no head, and a pull request created only while its branch has
none. -/
structure Once (repository : String) (op : CommandOp) (origin : Origin) : Prop where
  push : ∀ branch cwd timeout, op = .run (pushArguments branch) cwd timeout →
    origin.heads branch = none
  create : ∀ baseBranch branch title body cwd timeout,
    op = .run (createArguments repository baseBranch branch title body) cwd timeout →
    origin.pullsOf branch = []

/-- What the adapter owes while nobody else writes to the repository. -/
def terms (printing : Printing) (adapter : GitHubDraftPRAdapter) :
    Alone CommandOp CommandOp.Reply CommandError Origin where
  exec := adapter.Executes printing
  safe := Once adapter.repository
  invariant := Origin.Single

variable {printing : Printing} {adapter : GitHubDraftPRAdapter} {origin : Origin} {calls : List CommandCall}

/-! ### Reads -/

theorem reads_execute (op : CommandOp) (before : Origin) (answer : Except CommandError op.Reply)
    (after : Origin) (hop : op.writes = false) (h : (adapter.terms printing).exec op before answer after) :
    after = before ∧ (adapter.terms printing).safe op before := by
  constructor
  · rcases h.2 with rfl | hchanges
    · rfl
    · cases hchanges <;> simp [CommandOp.writes, pushArguments, createArguments] at hop
  · constructor
    · rintro branch cwd timeout rfl
      simp [CommandOp.writes, pushArguments] at hop
    · rintro baseBranch branch title body cwd timeout rfl
      simp [CommandOp.writes, createArguments] at hop

/-- The program neither writes to the repository behind `origin` nor deletes anything. -/
abbrev Mild {α : Type} (program : Shell α) : Prop := program.Uses fun op => op.mild = true

/-- The program does not write to the repository behind `origin`. -/
abbrev Quiet {α : Type} (program : Shell α) : Prop := program.Uses fun op => op.writes = false

theorem mild_iff {op : CommandOp} :
    op.mild = true ↔ op.writes = false ∧ op.deletes = false := by
  rw [CommandOp.mild, Bool.not_eq_true', Bool.or_eq_false_iff]

theorem Mild.quiet {α : Type} {program : Shell α} (h : Mild program) : Quiet program :=
  Program.Uses.mono h fun _ hop => (mild_iff.1 hop).1

theorem perform_mild {op : CommandOp} (h : op.mild = true) :
    Mild (Program.perform op : Shell op.Reply) :=
  perform_uses h

theorem runIn_mild {cwd : String} {args : List String}
    (h : CommandOp.mild (.run args cwd 120) = true) : Mild (runIn cwd args) := by
  refine (subprocess_uses h).bind fun answer => ?_
  dsimp only
  split <;> exact .done _

theorem run_mild {args : List String} (h : CommandOp.mild (.run args adapter.repoRoot 120) = true) :
    Mild (adapter.run args) :=
  runIn_mild h

theorem runUnchecked_mild {args : List String}
    (h : CommandOp.mild (.run args adapter.repoRoot 30) = true) :
    Mild (adapter.runUnchecked args) :=
  subprocess_uses h

theorem checkRequest_mild {caseId : String} {patch : PatchArtifact} :
    Mild (adapter.checkRequest caseId patch) := by
  refine (perform_mild rfl).bind fun gitDirectory => ?_
  dsimp only
  split
  · exact .done _
  refine (perform_mild rfl).bind fun gh => ?_
  split
  case' isTrue => refine Program.Uses.bind (.done _) fun git => ?_
  case' isFalse => refine (perform_mild rfl).bind fun git => ?_
  all_goals repeat' split
  all_goals first | exact .done _ | exact perform_mild rfl

theorem checkRepository_mild : Mild (adapter.checkRepository printing) := by
  refine (run_mild rfl).bind fun _ => (run_mild rfl).bind fun output => ?_
  dsimp only
  split
  · exact .done _
  refine Program.Uses.bind ?_ fun _ => ?_
  · exact (run_mild rfl).bind fun _ => (run_mild rfl).bind fun _ => .done _
  · refine (run_mild rfl).bind fun _ => (run_mild rfl).bind fun _ => (run_mild rfl).bind fun _ => ?_
    dsimp only
    split <;> exact .done _

theorem fetchRemoteCommit_mild {commit : String} : Mild (adapter.fetchRemoteCommit commit) := by
  unfold fetchRemoteCommit
  split
  · exact .done _
  · exact (run_mild rfl).bind fun _ => .done _

theorem remoteBranchSha_mild {branch : String} : Mild (adapter.remoteBranchSha printing branch) := by
  refine (run_mild rfl).bind fun output => Program.Uses.bind (.done _) fun head => ?_
  cases head with
  | none => exact .done _
  | some sha => exact fetchRemoteCommit_mild.bind fun _ => .done _

theorem commitIsOwned_mild {commit caseId baseCommit : String} {patch : PatchArtifact}
    {targetRelative : PosixPath} :
    Mild (adapter.commitIsOwned commit caseId patch targetRelative baseCommit) := by
  have hno : Mild (pure false : Shell Bool) := .done _
  refine (run_mild rfl).bind fun message => ?_
  dsimp only
  split
  · exact hno
  refine (run_mild rfl).bind fun output => ?_
  split
  · split
    · exact hno
    refine Program.Uses.bind ?_ fun ancestor => ?_
    · refine Program.Uses.tryCatch ((run_mild rfl).bind fun _ => .done _) fun error => ?_
      split <;> exact .done _
    split
    · exact hno
    refine (run_mild rfl).bind fun range => ?_
    split
    · exact hno
    refine (run_mild rfl).bind fun changed => ?_
    split
    · exact hno
    · exact (run_mild rfl).bind fun content => .done _
  · exact hno

theorem ownedUrls_mild {caseId branch baseCommit head : String} {patch : PatchArtifact}
    {targetRelative : PosixPath} {candidates : List Json} :
    Mild (adapter.ownedUrls caseId branch patch targetRelative baseCommit head candidates) := by
  induction candidates with
  | nil => exact .done _
  | cons candidate candidates ih =>
    refine Program.Uses.bind (.done _) fun checked => fetchRemoteCommit_mild.bind fun _ =>
      commitIsOwned_mild.bind fun owned => ?_
    split
    · exact .done _
    · exact ih.bind fun _ => .done _

theorem findExistingPr_mild {caseId branch baseCommit : String} {patch : PatchArtifact}
    {targetRelative : PosixPath} :
    Mild (adapter.findExistingPr printing caseId branch patch targetRelative baseCommit) := by
  refine (run_mild rfl).bind fun raw => Program.Uses.bind (.done _) fun candidates =>
    remoteBranchSha_mild.bind fun head => ?_
  cases head with
  | none => dsimp only; split <;> exact .done _
  | some head =>
    refine ownedUrls_mild.bind fun urls => ?_
    split <;> exact .done _

theorem localBranchSha_mild {branch : String} : Mild (adapter.localBranchSha branch) := by
  refine (runUnchecked_mild rfl).bind fun answer => ?_
  dsimp only
  repeat' split
  all_goals exact .done _

theorem assertLocalSlotAvailable_mild {branch : String} {worktree : PosixPath} :
    Mild (adapter.assertLocalSlotAvailable printing branch worktree) := by
  refine localBranchSha_mild.bind fun sha => ?_
  split
  · exact .done _
  refine (perform_mild rfl).bind fun found => ?_
  split <;> exact .done _

theorem cleanupWorktree_quiet {worktree : PosixPath} {branch : String} :
    Quiet (adapter.cleanupWorktree worktree branch) :=
  cleanupWorktree_uses rfl rfl (fun _ => rfl) fun _ => rfl

theorem ownsWorktree_mild {expectedPath expectedBranch baseCommit : String}
    {records : List WorktreeRecord} :
    Mild (ownsWorktree expectedPath expectedBranch baseCommit records) := by
  induction records with
  | nil => exact .done _
  | cons record records ih =>
    unfold ownsWorktree
    split
    case' h_1 => refine Program.Uses.bind (.done _) fun here => ?_
    case' h_2 => refine (perform_mild rfl).bind fun _ => Program.Uses.bind (.done _) fun here => ?_
    all_goals
      dsimp only
      split
      · exact .done _
      · exact ih

theorem cleanupIncompleteWorktree_quiet {worktree : PosixPath} {branch baseCommit : String} :
    Quiet (adapter.cleanupIncompleteWorktree worktree branch baseCommit) := by
  refine (perform_mild rfl).quiet.bind fun expectedPath => (run_mild rfl).quiet.bind fun payload =>
    ownsWorktree_mild.quiet.bind fun owned => ?_
  split
  · exact .done _
  refine localBranchSha_mild.quiet.bind fun sha => ?_
  split
  · exact .done _
  · exact cleanupWorktree_quiet

theorem bundled_mild {caseId branch message : String} {patch : PatchArtifact}
    {status : IntegrationStatus} :
    Mild (adapter.bundled caseId branch patch status message) := by
  refine Program.Uses.bind ?_ fun _ => .done _
  exact (perform_mild rfl).bind fun _ => (perform_mild rfl).bind fun _ =>
    (perform_mild rfl).bind fun _ => .done _

/-! ### Looks -/

/-- The branch has one open pull request, at this URL. -/
def OnlyPull (origin : Origin) (branch url : String) : Prop :=
  ∃ pull, origin.pullsOf branch = [pull] ∧ pull.url = url

/-- What a look for the pull request of a branch has found. -/
def Found (branch : String) (origin : Origin) : Option String → Prop
  | none => origin.pullsOf branch = []
  | some url => OnlyPull origin branch url

theorem findExistingPr_none {caseId branch baseCommit : String} {patch : PatchArtifact}
    (h : (adapter.findExistingPr printing caseId branch patch (PosixPath.parse adapter.patchPath)
      baseCommit).Trace calls (.ok none)) :
    ∃ listing ∈ calls, ∃ raw, Printed adapter.repoRoot (listArguments adapter.repository branch) raw
      listing ∧ listedCandidates raw = .ok [] := by
  obtain ⟨listing, raw, rest, rfl, hlisting, hrest⟩ := run_bind_ok h
  obtain ⟨candidates, hcandidates, hlook⟩ := Program.trace_done_bind_ok.1 hrest
  obtain ⟨first, second, found, rfl, -, hfound⟩ := Program.trace_bind_ok.1 hlook
  suffices hnone : candidates = [] by
    rw [hnone] at hcandidates
    exact ⟨listing, List.mem_cons_self, raw, hlisting, hcandidates⟩
  cases found with
  | none =>
    dsimp only at hfound
    split at hfound
    · exact absurd hfound refuse_ne_ok
    next hempty => exact not_not.1 hempty
  | some head =>
    obtain ⟨owned, last, urls, rfl, hurls, hlast⟩ := Program.trace_bind_ok.1 hfound
    cases candidates with
    | nil => rfl
    | cons candidate candidates =>
      obtain ⟨_, _, _, _, _, _, _, _, heq, _⟩ := ownedUrls_cons hurls
      rw [heq] at hlast
      split at hlast
      · simp at *
      · exact absurd (Program.trace_done.1 hlast).2 (by simp)
      · exact absurd hlast refuse_ne_ok

theorem remoteBranchSha_none {branch : String}
    (h : (adapter.remoteBranchSha printing branch).Trace calls (.ok none)) :
    ∃ lookup ∈ calls, ∃ text, Printed adapter.repoRoot (lsRemoteArguments branch) text lookup ∧
      remoteHead printing branch text = .ok none := by
  obtain ⟨lookup, text, rest, rfl, hlookup, hrest⟩ := run_bind_ok h
  obtain ⟨found, hfound, hfetch⟩ := Program.trace_done_bind_ok.1 hrest
  cases found with
  | none => exact ⟨lookup, List.mem_cons_self, text, hlookup, hfound⟩
  | some sha =>
    obtain ⟨_, _, _, -, -, hlast⟩ := Program.trace_bind_ok.1 hfetch
    exact absurd (Program.trace_done.1 hlast).2 (by simp)

theorem findExistingPr_keeps {caseId branch baseCommit : String} {patch : PatchArtifact} :
    (adapter.terms printing).Keeps origin (adapter.findExistingPr printing caseId branch patch
      (PosixPath.parse adapter.patchPath) baseCommit) fun found final => Found branch final found := by
  refine .reads reads_execute findExistingPr_mild.quiet fun trace found htrace hcalls => ?_
  cases found with
  | none =>
    obtain ⟨listing, hlisting, raw, hprinted, hempty⟩ := findExistingPr_none htrace
    have hlisted := (hcalls listing hlisting).1.pulls branch raw [] hprinted hempty
    have htaken : (origin.pullsOf branch).take 100 = [] := List.forall₂_nil_left_iff.1 hlisted
    rcases List.take_eq_nil_iff.1 htaken with hzero | hnone
    · cases hzero
    · exact hnone
  | some url =>
    obtain ⟨listing, raw, entry, lookup, _, _, _, fetchHead, fetchOid, owned, rfl, hprinted, hone, hentry,
      -⟩ := findExistingPr_some htrace
    have hlisted := (hcalls listing List.mem_cons_self).1.pulls branch raw _ hprinted hone
    obtain ⟨pull, rest, ⟨_, hobject, hurl⟩, hrest, htaken⟩ := List.forall₂_cons_left_iff.1 hlisted
    obtain rfl := List.forall₂_nil_left_iff.1 hrest
    obtain ⟨-, -, -, -, -, -, hentryUrl, -⟩ := hentry
    cases hobject
    rw [hentryUrl] at hurl
    refine ⟨pull, ?_, (Json.str.inj (Option.some.inj hurl)).symm⟩
    have hlength := congrArg List.length htaken
    rw [List.length_take, List.length_singleton] at hlength
    rw [← htaken, List.take_of_length_le (by omega)]

theorem remoteBranchSha_keeps {branch : String} (kept : Origin → Prop) (hkept : kept origin) :
    (adapter.terms printing).Keeps origin (adapter.remoteBranchSha printing branch)
      fun head final => kept final ∧ (head = none → final.heads branch = none) := by
  refine .reads reads_execute remoteBranchSha_mild.quiet fun trace head htrace hcalls => ⟨hkept, ?_⟩
  rintro rfl
  obtain ⟨lookup, hlookup, text, hprinted, hnone⟩ := remoteBranchSha_none htrace
  exact ((hcalls lookup hlookup).1.head branch text none hprinted hnone).symm

/-! ### Writes -/

theorem runIn_keeps {cwd : String} {args : List String} {kept : Origin → Prop}
    (h : ∀ answer after, (adapter.terms printing).exec (.run args cwd 120) origin answer after →
      Once adapter.repository (.run args cwd 120) origin ∧ after.Single ∧ kept after) :
    (adapter.terms printing).Keeps origin (runIn cwd args) fun _ final => kept final := by
  have hcall : (adapter.terms printing).Keeps origin
      (Program.perform (CommandOp.run args cwd 120) : Shell CompletedProcess) fun _ final => kept final := by
    refine .perform fun answer after hexec => ?_
    obtain ⟨hsafe, hsingle, hkept⟩ := h answer after hexec
    exact ⟨hsafe, hsingle, fun _ _ => hkept⟩
  have hprocess : (adapter.terms printing).Keeps origin (Shell.subprocess args cwd 120)
      fun _ final => kept final :=
    hcall.bind fun _ _ hkept => .done fun _ _ => hkept
  refine hprocess.bind fun answer middle hkept => ?_
  dsimp only
  split
  · exact .throw
  · exact .pure hkept

theorem push_keeps {branch cwd : String} (hhead : origin.heads branch = none) :
    (adapter.terms printing).Keeps origin (runIn cwd (pushArguments branch))
      fun _ final => final.pulls = origin.pulls := by
  refine .assume fun hsingle => runIn_keeps fun answer after hexec => ?_
  have hpulls : after.pulls = origin.pulls := by
    rcases hexec.2 with rfl | hchanges
    · rfl
    · generalize hop : CommandOp.run (pushArguments branch) cwd 120 = op at hchanges
      cases hchanges with
      | push => rfl
      | create => simp [pushArguments, createArguments] at hop
  refine ⟨⟨fun other cwd timeout hop => ?_, ?_⟩, fun other => ?_, hpulls⟩
  · simp only [pushArguments, CommandOp.run.injEq, List.cons.injEq, and_true, true_and] at hop
    rwa [← hop.1]
  · intro baseBranch branch title body cwd timeout hop
    simp [pushArguments, createArguments] at hop
  · rw [Origin.pullsOf, hpulls]
    exact hsingle other

theorem create_keeps {baseBranch branch title body : String} (hnone : origin.pullsOf branch = []) :
    (adapter.terms printing).Keeps origin
      (adapter.run (createArguments adapter.repository baseBranch branch title body))
      fun _ _ => True := by
  refine .assume fun hsingle => runIn_keeps fun answer after hexec =>
    ⟨⟨?_, ?_⟩, fun other => ?_, trivial⟩
  · intro branch cwd timeout hop
    simp [pushArguments, createArguments] at hop
  · intro baseBranch' branch' title' body' cwd timeout hop
    simp only [createArguments, CommandOp.run.injEq, List.cons.injEq, true_and] at hop
    rwa [← hop.1.2.1]
  · rcases hexec.2 with rfl | hchanges
    · exact hsingle other
    generalize hop : CommandOp.run (createArguments adapter.repository baseBranch branch title body)
      adapter.repoRoot 120 = op at hchanges
    cases hchanges with
    | push => simp [pushArguments, createArguments] at hop
    | create baseBranch' branch' title' body' url =>
      simp only [createArguments, CommandOp.run.injEq, List.cons.injEq, true_and] at hop
      obtain rfl : branch = branch' := hop.1.2.1
      rw [Origin.pullsOf, List.filter_append, List.length_append]
      by_cases hother : branch = other
      · rw [← hother]
        have hlength : (origin.pulls.filter (·.branch = branch)).length = 0 := by
          rw [show origin.pulls.filter (·.branch = branch) = [] from hnone, List.length_nil]
        simp [hlength]
      · simpa [hother, Origin.pullsOf] using hsingle other

/-! ### Drafts -/

variable {caseId branch baseCommit : String} {patch : PatchArtifact}

theorem createOrReconcilePr_keeps (hnone : origin.pullsOf branch = []) :
    (adapter.terms printing).Keeps origin
      (adapter.createOrReconcilePr printing caseId branch patch baseCommit)
      fun url final => OnlyPull final branch url := by
  refine (create_keeps hnone).attempt_bind (fun output middle _ => ?_) fun error middle => ?_
  · have hvalid : (adapter.terms printing).Keeps middle
        (Shell.lift (adapter.validatePrUrl (strip output))) fun _ _ => True :=
      .done fun _ _ => trivial
    refine hvalid.bind fun _ middle _ => findExistingPr_keeps.bind fun existing final hfound => ?_
    split
    · exact .throw
    next hexisting =>
      rw [not_not.1 hexisting] at hfound
      exact .pure hfound
  · dsimp only
    split
    · exact .throw
    refine findExistingPr_keeps.bind fun existing final hfound => ?_
    cases existing with
    | none => exact .throw
    | some url => exact .pure hfound

theorem commitAndPush_keeps {targetRelative : PosixPath} (hhead : origin.heads branch = none) :
    (adapter.terms printing).Keeps origin
      (adapter.commitAndPush caseId branch patch targetRelative baseCommit)
      fun _ final => final.pulls = origin.pulls := by
  refine .reads_bind reads_execute (perform_mild rfl).quiet fun target =>
    .reads_bind reads_execute (perform_mild rfl).quiet fun resolved => ?_
  dsimp only
  split
  · exact .throw
  refine .reads_bind reads_execute (perform_mild rfl).quiet fun _ =>
    .reads_bind reads_execute (perform_mild rfl).quiet fun _ =>
    .reads_bind reads_execute (runIn_mild rfl).quiet fun _ =>
    .reads_bind reads_execute (runIn_mild rfl).quiet fun _ => ?_
  exact (push_keeps hhead).bind fun _ _ hpulls => .pure hpulls

/-- The branch is pushed where it has no head, and its pull request created where it has none. -/
theorem createFreshDraft_keeps {targetRelative : PosixPath} (hhead : origin.heads branch = none)
    (hnone : origin.pullsOf branch = []) :
    (adapter.terms printing).Keeps origin
      (adapter.createFreshDraft printing caseId branch patch targetRelative baseCommit)
      fun url final => OnlyPull final branch url := by
  refine .reads_bind reads_execute assertLocalSlotAvailable_mild.quiet fun _ =>
    .reads_bind reads_execute ?_ fun _ => ?_
  · refine (run_mild rfl).quiet.tryCatch fun error => ?_
    exact (suppress_uses cleanupIncompleteWorktree_quiet).bind fun _ => .done _
  refine .tryFinally reads_execute ?_ fun _ => suppress_uses cleanupWorktree_quiet
  refine (commitAndPush_keeps hhead).bind fun _ middle hpulls => createOrReconcilePr_keeps ?_
  rw [Origin.pullsOf, hpulls]
  exact hnone

theorem createRealDraft_keeps :
    (adapter.terms printing).Keeps origin (adapter.createRealDraft printing caseId branch patch)
      fun url final => OnlyPull final branch url := by
  refine .reads_bind reads_execute checkRequest_mild.quiet fun _ =>
    .reads_bind reads_execute checkRepository_mild.quiet fun baseCommit =>
    findExistingPr_keeps.bind fun existing middle hfound => ?_
  cases existing with
  | some url => exact .pure hfound
  | none =>
    refine (remoteBranchSha_keeps (·.pullsOf branch = []) hfound).bind fun remoteSha last hlast => ?_
    cases remoteSha with
    | none => exact createFreshDraft_keeps (hlast.2 rfl) hlast.1
    | some sha =>
      refine .reads_bind reads_execute commitIsOwned_mild.quiet fun owned => ?_
      dsimp only
      split
      · exact .throw
      · exact createOrReconcilePr_keeps hlast.1

/-- A reported draft is the one open pull request of its branch. -/
def Reported (branch : String) (artifact : PullRequestArtifact) (origin : Origin) : Prop :=
  artifact.integration.status = .succeeded →
    ∃ url, artifact.url = some url ∧ OnlyPull origin branch url

theorem bundled_keeps {status : IntegrationStatus} {message : String} (hstatus : status ≠ .succeeded) :
    (adapter.terms printing).Keeps origin (adapter.bundled caseId branch patch status message)
      (Reported branch) := by
  refine .reads reads_execute bundled_mild.quiet fun trace artifact htrace _ hsucceeded => ?_
  exact absurd ((bundled_ok htrace).1.symm.trans hsucceeded) hstatus

theorem createDraft_keeps :
    (adapter.terms printing).Keeps origin (adapter.createDraft printing caseId patch)
      (Reported (caseBranch caseId)) := by
  unfold createDraft
  dsimp only
  split
  · exact bundled_keeps (by simp)
  refine createRealDraft_keeps.attempt_bind (fun url middle honly => ?_) fun error middle => ?_
  · exact .pure fun _ => ⟨url, rfl, honly⟩
  · dsimp only
    split
    · exact .throw
    · exact bundled_keeps (by simp)

/-! ### Sessions -/

/-- A draft for a case and a patch. -/
def requested (printing : Printing) (adapter : GitHubDraftPRAdapter) (request : String × PatchArtifact) :
    Shell PullRequestArtifact :=
  adapter.createDraft printing request.1 request.2

theorem executes_grows {op : CommandOp} {before after : Origin} {answer : Except CommandError op.Reply}
    (hsafe : Once adapter.repository op before) (hexec : adapter.Executes printing op before answer after) :
    before.Grows after := by
  rcases hexec.2 with rfl | hchanges
  · exact ⟨fun _ _ => id, List.prefix_rfl⟩
  cases hchanges with
  | push branch head cwd timeout =>
    have hnone := hsafe.push branch cwd timeout rfl
    refine ⟨fun other head hhead => ?_, List.prefix_rfl⟩
    have hne : other ≠ branch := by
      rintro rfl
      rw [hnone] at hhead
      cases hhead
    show Function.update before.heads branch _ other = some head
    rwa [Function.update_of_ne hne]
  | create baseBranch branch title body url => exact ⟨fun _ _ => id, List.prefix_append _ _⟩

/-- The one pull request of a branch stays the only one. -/
theorem executes_onlyPull {op : CommandOp} {before after : Origin}
    {answer : Except CommandError op.Reply} {url : String} (hsafe : Once adapter.repository op before)
    (hexec : adapter.Executes printing op before answer after) (honly : OnlyPull before branch url) :
    OnlyPull after branch url := by
  rcases hexec.2 with rfl | hchanges
  · exact honly
  cases hchanges with
  | push => exact honly
  | create baseBranch other title body _ cwd timeout =>
    obtain ⟨pull, hpulls, hurl⟩ := honly
    have hne : other ≠ branch := by
      rintro rfl
      rw [hsafe.create baseBranch other title body cwd timeout rfl] at hpulls
      cases hpulls
    refine ⟨pull, ?_, hurl⟩
    rw [Origin.pullsOf, List.filter_append, ← hpulls]
    simp [hne, Origin.pullsOf]

/-- Retries never duplicate or overwrite. However often drafts are asked for, whatever of their
commands fails with or without its effect, and wherever a call is cut off: a branch is pushed only while
it has no head and a pull request created only while its branch has none; no head ever moves, no pull
request is lost, no branch ever has two; and every draft reported is the one open pull request of its
branch to the end. -/
theorem drafts_once {final : Origin}
    {performed : List (Performed CommandOp CommandOp.Reply CommandError Origin)}
    {results : List ((String × PatchArtifact) × Except CommandError PullRequestArtifact)}
    (hsession : Session (adapter.Executes printing) (adapter.requested printing) origin performed results
      final)
    (horigin : origin.Single) :
    (∀ call ∈ performed, Once adapter.repository call.op call.before) ∧
      (performed.map (·.before) ++ [final]).Pairwise Origin.Grows ∧
      (∀ passed ∈ performed.map (·.before) ++ [final], passed.Single) ∧
      ∀ request artifact, (request, .ok artifact) ∈ results →
        artifact.integration.status = .succeeded →
        ∃ url, artifact.url = some url ∧ OnlyPull final (caseBranch request.1) url := by
  have hkeeps : ∀ request origin, (adapter.terms printing).Keeps origin (adapter.requested printing request)
      (Reported (caseBranch request.1)) := fun request origin => createDraft_keeps
  obtain ⟨hfinal, hcalls, hresults⟩ := Alone.session_sound hkeeps
    (fun request artifact op before answer after _ hsafe hexec hreported hsucceeded => by
      obtain ⟨url, hurl, honly⟩ := hreported hsucceeded
      exact ⟨url, hurl, executes_onlyPull hsafe hexec honly⟩) hsession horigin
  have hgrows := hsession.performs.pairwise Origin.Grows (fun _ => ⟨fun _ _ => id, List.prefix_rfl⟩)
    (fun hfirst hsecond => ⟨fun branch head hhead => hsecond.1 branch head (hfirst.1 branch head hhead),
      hfirst.2.trans hsecond.2⟩)
    fun call hcall after hexec => executes_grows (hcalls call hcall).1 hexec
  refine ⟨fun call hcall => (hcalls call hcall).1, hgrows.1, fun passed hpassed => ?_, hresults⟩
  rcases List.mem_append.1 hpassed with hpassed | hpassed
  · obtain ⟨call, hcall, rfl⟩ := List.mem_map.1 hpassed
    exact (hcalls call hcall).2
  · rw [List.mem_singleton.1 hpassed]
    exact hfinal

section

/-- A repository without branches. -/
def bareOrigin : Origin := ⟨fun _ => none, []⟩

def plainAdapter : GitHubDraftPRAdapter :=
  { enabled := true, repository := "a/b", repoRoot := "/a", baseBranch := "main", patchPath := "m.sql"
    runtimeDir := "/r" }

def plainPrinting : Printing :=
  ⟨fun _ => "", fun _ => "", fun _ => "", fun _ => "", fun _ _ => "", fun _ _ => ""⟩

def plainPatch : PatchArtifact := ⟨"m.sql", "select 1", sha256Hexdigest (encode "select 1")⟩

def baseTip : String := "0123456789012345678901234567890123456789"

def printed (args : List String) (text : String) : CommandCall :=
  ⟨.run args "/a" 120, .ok { returncode := 0, stdout := encode text }⟩

def silent (cwd : String) (args : List String) : CommandCall :=
  ⟨.run args cwd 120, .ok { returncode := 0, stdout := [] }⟩

/-- The calls of the first draft up to its push. -/
def callsToPush : List CommandCall :=
  [⟨.pathExists "/a/.git", .ok true⟩, ⟨.which "gh", .ok (some "gh")⟩, ⟨.which "git", .ok (some "git")⟩,
    ⟨.makeDirectory "/r/worktrees", .ok ()⟩, silent "/a" ["gh", "auth", "status"],
    printed ["gh", "repo", "view", "--json", "nameWithOwner", "--jq", ".nameWithOwner"] "a/b",
    printed remoteUrlArguments "https://github.com/a/b", printed remotePushUrlArguments "git@github.com:a/b",
    silent "/a" ["git", "check-ref-format", "--branch", "main"],
    silent "/a" (fetchArguments "refs/heads/main"),
    printed ["git", "rev-parse", "--verify", "FETCH_HEAD^\x7bcommit\x7d"] baseTip,
    silent "/a" (listArguments "a/b" "datarescue/d"), silent "/a" (lsRemoteArguments "datarescue/d"),
    silent "/a" (lsRemoteArguments "datarescue/d"),
    ⟨.run ["git", "rev-parse", "--verify", "refs/heads/datarescue/d"] "/a" 30,
      .ok { returncode := 1, stdout := [] }⟩,
    ⟨.pathExists "/r/worktrees/d", .ok false⟩,
    silent "/a" ["git", "worktree", "add", "-b", "datarescue/d", "/r/worktrees/d", baseTip],
    ⟨.resolvePath "/r/worktrees/d/m.sql", .ok "/r/worktrees/d/m.sql"⟩,
    ⟨.resolvePath "/r/worktrees/d", .ok "/r/worktrees/d"⟩, ⟨.makeDirectory "/r/worktrees/d", .ok ()⟩,
    ⟨.writeText "/r/worktrees/d/m.sql" "select 1", .ok ()⟩,
    silent "/r/worktrees/d" ["git", "add", "--", "m.sql"],
    silent "/r/worktrees/d" ["git", "commit", "-m", commitMessage "d" plainPatch.sha256 baseTip]]

/-- The push had its effect and timed out; the process died. -/
def pushCall : CommandCall :=
  ⟨.run (pushArguments "datarescue/d") "/r/worktrees/d" 120, .error .timeoutExpired⟩

def pushedOrigin : Origin := { bareOrigin with
  heads := Function.update bareOrigin.heads "datarescue/d" (some baseTip) }

theorem shows_of_other {op : CommandOp} {answer : Except CommandError op.Reply}
    (h : ∀ branch, ¬adapter.IsLook branch op) : adapter.Shows printing ⟨op, answer⟩ origin := by
  constructor
  · rintro branch text head ⟨completed, heq, -⟩
    cases heq
    exact absurd ⟨_, _, .inr rfl⟩ (h branch)
  · rintro branch text candidates ⟨completed, heq, -⟩
    cases heq
    exact absurd ⟨_, _, .inl rfl⟩ (h branch)

theorem printed_silent {cwd cwd' text : String} {args args' : List String}
    (h : Printed cwd' args' text (silent cwd args)) : text = "" := by
  obtain ⟨completed, heq, -, htext⟩ := h
  cases heq
  have hempty : decodeOutput [] = .ok "" := by decide +kernel
  rw [hempty] at htext
  exact (Except.ok.inj htext).symm

theorem shows_silent {cwd : String} {args : List String} :
    adapter.Shows printing (silent cwd args) bareOrigin := by
  constructor
  · intro branch text head hprinted hhead
    rw [printed_silent hprinted] at hhead
    exact (Except.ok.inj hhead).symm
  · intro branch text candidates hprinted hcandidates
    have hnone : listedCandidates "" = .ok [] := by decide +kernel
    rw [printed_silent hprinted, hnone] at hcandidates
    rw [← Except.ok.inj hcandidates]
    exact .nil

theorem shows_callsToPush : ∀ call ∈ callsToPush, plainAdapter.Shows plainPrinting call bareOrigin := by
  intro call hcall
  simp only [callsToPush, List.mem_cons, List.not_mem_nil, or_false] at hcall
  rcases hcall with rfl | rfl | rfl | rfl | rfl | rfl | rfl | rfl | rfl | rfl | rfl | rfl | rfl | rfl | rfl |
    rfl | rfl | rfl | rfl | rfl | rfl | rfl | rfl
  all_goals first
    | exact shows_silent
    | exact shows_of_other (by simp [IsLook, listArguments, lsRemoteArguments, remoteUrlArguments,
        remotePushUrlArguments])

theorem begins_callsToPush :
    (plainAdapter.createDraft plainPrinting "d" plainPatch).begins (callsToPush ++ [pushCall]) = true := by
  decide +kernel

/-- A draft that was cut off after its push. -/
theorem drafts_once_interrupted : ∃ performed,
    Session (plainAdapter.Executes plainPrinting) (plainAdapter.requested plainPrinting) bareOrigin
      performed [] pushedOrigin ∧
    pushedOrigin.heads "datarescue/d" = some baseTip ∧ performed.length = 24 ∧
    ∀ call ∈ performed, Once "a/b" call.op call.before := by
  have hcalls : Performs (plainAdapter.Executes plainPrinting) bareOrigin
      (callsToPush.map fun call => ⟨call.1, call.2, bareOrigin⟩) bareOrigin :=
    .of_unchanged fun call hcall => ⟨shows_callsToPush call hcall, .inl rfl⟩
  have hpush : plainAdapter.Executes plainPrinting pushCall.1 bareOrigin pushCall.2 pushedOrigin := by
    refine ⟨shows_of_other ?_, .inr (.push "datarescue/d" baseTip "/r/worktrees/d" 120 bareOrigin)⟩
    simp [pushCall, IsLook, pushArguments, listArguments, lsRemoteArguments]
  obtain ⟨performed, htrace, hperforms⟩ : ∃ performed,
      performed.map (fun call => (⟨call.op, call.answer⟩ : CommandCall)) = callsToPush ++ [pushCall] ∧
        Performs (plainAdapter.Executes plainPrinting) bareOrigin performed pushedOrigin := by
    refine ⟨_, ?_, hcalls.append (.cons hpush (.nil _))⟩
    rw [List.map_append, List.map_map]
    simp [Function.comp_def]
  have hlength := congrArg List.length htrace
  rw [List.length_map] at hlength
  have hran : Ran (plainAdapter.Executes plainPrinting)
      (plainAdapter.requested plainPrinting ("d", plainPatch)) bareOrigin performed none pushedOrigin :=
    .of_begins begins_callsToPush htrace hperforms
  have hsession := Session.cons hran (.nil _)
  rw [List.append_nil] at hsession
  have hsingle : bareOrigin.Single := fun branch => Nat.zero_le 1
  refine ⟨performed, hsession, ?_, hlength, (drafts_once hsession hsingle).1⟩
  simp [pushedOrigin]

end

end GitHubDraftPRAdapter

end DataRescue
