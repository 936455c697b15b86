import DataRescue.Remediation.GitHub
import DataRescue.Python.Raising

/-!
# What a reported draft rests on

A draft is reported as opened only by `_find_existing_pr`: its listing is the last one of the run, and
what follows it shows the one entry listed to be a draft of this case (`findExistingPr_some`). The
commands may answer anything, so each of the three ways to a draft ends in such a look
(`createRealDraft_ok`).
-/

namespace DataRescue

open Python Concurrency

/-- The command succeeded and printed this text. -/
def Printed (cwd : String) (args : List String) (text : String) (call : CommandCall) : Prop :=
  ∃ completed, call = ⟨.run args cwd 120, .ok completed⟩ ∧ completed.returncode = 0 ∧
    decodeOutput completed.stdout = .ok text

namespace GitHubDraftPRAdapter

/-! ### What the commands show -/

section

variable (adapter : GitHubDraftPRAdapter)

/-- The URLs are there, and each is one of the allowed repository. -/
def AllowedUrls (urls : List String) : Prop :=
  urls ≠ [] ∧ ∀ url ∈ urls, ∃ repository, githubRepositoryFromRemoteUrl (strip url) =
    some (some repository) ∧ casefold repository = casefold adapter.repository

/-- The commands before the first look: the repository is the allowed one, all URLs of the origin are
its URLs, and the base branch was fetched and is at this commit. -/
def ShowsRepository (baseCommit : String) (calls : List CommandCall) : Prop :=
  ∃ auth view name fetchUrls fetchText pushUrls pushText check fetch tip tipText,
    calls = [auth, view, fetchUrls, pushUrls, check, fetch, tip] ∧
    Printed adapter.repoRoot ["gh", "repo", "view", "--json", "nameWithOwner", "--jq",
      ".nameWithOwner"] name view ∧ casefold (strip name) = casefold adapter.repository ∧
    Printed adapter.repoRoot remoteUrlArguments fetchText fetchUrls ∧
    adapter.AllowedUrls (splitlines fetchText) ∧
    Printed adapter.repoRoot remotePushUrlArguments pushText pushUrls ∧
    adapter.AllowedUrls (splitlines pushText) ∧
    (∃ text, Printed adapter.repoRoot (fetchArguments ("refs/heads/" ++ adapter.baseBranch)) text
      fetch) ∧
    Printed adapter.repoRoot ["git", "rev-parse", "--verify", "FETCH_HEAD^\x7bcommit\x7d"] tipText tip ∧
    strip tipText = baseCommit

/-- The subject of the message names the case, and trailers, if there are any, the case, the patch and
the parent. -/
def NamesCase (caseId : String) (patch : PatchArtifact) (parent : String) (lines : List String) :
    Prop :=
  lines.head? = some (commitSubject caseId) ∧
    ((∃ line ∈ lines.drop 1, startsWith line "DataRescue-" = true) →
      trailers "DataRescue-Case: " lines = [caseId] ∧
      trailers "DataRescue-Patch-SHA256: " lines = [patch.sha256] ∧
      trailers "DataRescue-Base-Commit: " lines = [parent])

/-- The commit has one parent, which is an ancestor of the base commit; it changes the target and
nothing else, and holds the patch there; its message names the case. -/
def ShowsOwned (commit caseId : String) (patch : PatchArtifact) (baseCommit : String)
    (calls : List CommandCall) : Prop :=
  ∃ message messageText parents parentsText self parent ancestor range rangeText diff diffText content,
    calls = [message, parents, ancestor, range, diff, content] ∧
    Printed adapter.repoRoot (messageArguments commit) messageText message ∧
    NamesCase caseId patch parent (splitlines messageText) ∧
    Printed adapter.repoRoot (parentsArguments commit) parentsText parents ∧
    words parentsText = [self, parent] ∧
    (∃ text, Printed adapter.repoRoot (ancestorArguments parent baseCommit) text ancestor) ∧
    Printed adapter.repoRoot (rangeArguments parent commit) rangeText range ∧
    splitlines rangeText = [commit] ∧
    Printed adapter.repoRoot (diffArguments parent commit) diffText diff ∧
    splitlines diffText = [(PosixPath.parse adapter.patchPath).asPosix] ∧
    Printed adapter.repoRoot
      (contentArguments commit (PosixPath.parse adapter.patchPath).asPosix) patch.content content

/-- The entry is a draft of the branch in the allowed repository, on the configured base. -/
def DraftEntry (branch url headOid : String) (entry : List (String × Json)) : Prop :=
  getField entry "headRefName" = some (.str branch) ∧
  getField entry "baseRefName" = some (.str adapter.baseBranch) ∧
  (∃ login, nestedField entry "headRepositoryOwner" "login" = some (.str login) ∧
    casefold login = casefold (String.ofList (partition '/' adapter.repository.toList).1)) ∧
  (∃ name, nestedField entry "headRepository" "nameWithOwner" = some (.str name) ∧
    casefold name = casefold adapter.repository) ∧
  getField entry "isCrossRepository" = some (.bool false) ∧
  getField entry "isDraft" = some (.bool true) ∧
  getField entry "url" = some (.str url) ∧ getField entry "headRefOid" = some (.str headOid) ∧
  adapter.validatePrUrl url = .ok ()

end

variable {printing : Printing} {adapter : GitHubDraftPRAdapter} {calls : List CommandCall}

/-- A listing with one entry, a draft at this URL; the branch is at its head, and the head is a commit
of this case. -/
def ShowsDraft (printing : Printing) (adapter : GitHubDraftPRAdapter) (caseId branch : String)
    (patch : PatchArtifact) (baseCommit url : String) (calls : List CommandCall) : Prop :=
  ∃ listing raw entry lookup lookupText head headOid fetchHead fetchOid owned,
    calls = listing :: lookup :: fetchHead :: fetchOid :: owned ∧
    Printed adapter.repoRoot (listArguments adapter.repository branch) raw listing ∧
    listedCandidates raw = .ok [.obj entry] ∧ adapter.DraftEntry branch url headOid entry ∧
    Printed adapter.repoRoot (lsRemoteArguments branch) lookupText lookup ∧
    remoteHead printing branch lookupText = .ok (some head) ∧ casefold headOid = casefold head ∧
    (∃ text, Printed adapter.repoRoot (fetchArguments head) text fetchHead) ∧
    (∃ text, Printed adapter.repoRoot (fetchArguments headOid) text fetchOid) ∧
    adapter.ShowsOwned headOid caseId patch baseCommit owned

/-! ### Commands -/

theorem subprocess_ok {args : List String} {cwd : String} {timeout : Nat} {returncode : Int}
    {text : String}
    (h : (Shell.subprocess args cwd timeout).Trace calls (.ok (returncode, text))) :
    ∃ completed, calls = [⟨.run args cwd timeout, .ok completed⟩] ∧
      completed.returncode = returncode ∧ decodeOutput completed.stdout = .ok text := by
  obtain ⟨first, second, completed, rfl, hfirst, hsecond⟩ := Program.trace_bind_ok.1 h
  obtain rfl := Program.trace_perform.1 hfirst
  obtain ⟨rfl, hresult⟩ := Program.trace_done.1 hsecond
  obtain ⟨stdout, hstdout, hrest⟩ := bind_eq_ok.1 hresult.symm
  obtain ⟨stderr, -, hpair⟩ := bind_eq_ok.1 hrest
  cases hpair
  exact ⟨completed, rfl, rfl, hstdout⟩

theorem runIn_ok {cwd : String} {args : List String} {text : String}
    (h : (runIn cwd args).Trace calls (.ok text)) :
    ∃ call, calls = [call] ∧ Printed cwd args text call := by
  obtain ⟨first, second, ⟨returncode, stdout⟩, rfl, hfirst, hsecond⟩ := Program.trace_bind_ok.1 h
  obtain ⟨completed, rfl, hcode, hstdout⟩ := subprocess_ok hfirst
  dsimp only at hsecond
  split at hsecond
  · exact absurd (Program.trace_done.1 hsecond).2 (by simp)
  next hzero =>
    obtain ⟨rfl, heq⟩ := Program.trace_done.1 hsecond
    cases heq
    exact ⟨_, rfl, completed, rfl, hcode.trans (not_not.1 hzero), hstdout⟩

theorem run_bind_ok {α : Type} {args : List String} {next : String → Shell α} {value : α}
    (h : (adapter.run args >>= next).Trace calls (.ok value)) :
    ∃ call text rest, calls = call :: rest ∧ Printed adapter.repoRoot args text call ∧
      (next text).Trace rest (.ok value) := by
  obtain ⟨first, second, text, rfl, hfirst, hsecond⟩ := Program.trace_bind_ok.1 h
  obtain ⟨call, rfl, hcall⟩ := runIn_ok hfirst
  exact ⟨call, text, second, rfl, hcall, hsecond⟩

theorem refuse_ne_ok {α : Type} {message : String} {value : α} :
    ¬(Shell.refuse message : Shell α).Trace calls (.ok value) := fun h =>
  absurd (Program.trace_done.1 h).2 (by simp)

/-! ### The repository -/

theorem checkOriginUrls_ok {operation : String} {urls : List String}
    (h : adapter.checkOriginUrls operation urls = .ok ()) : adapter.AllowedUrls urls := by
  unfold checkOriginUrls at h
  split at h
  · exact absurd h (by simp)
  next hne =>
    refine ⟨hne, fun url hurl => ?_⟩
    have hchecked := forM_ok.1 h url hurl
    split at hchecked
    · exact absurd hchecked (by simp)
    next resolved hresolved =>
      split at hchecked
      · exact absurd hchecked (by simp)
      next hallowed =>
        obtain ⟨repository, rfl, hfold⟩ := Option.map_eq_some_iff.1 (not_not.1 hallowed)
        exact ⟨repository, hresolved, hfold⟩

theorem checkRepository_ok {baseCommit : String}
    (h : (adapter.checkRepository printing).Trace calls (.ok baseCommit)) :
    adapter.ShowsRepository baseCommit calls := by
  obtain ⟨auth, _, _, rfl, -, h⟩ := run_bind_ok h
  obtain ⟨view, name, _, rfl, hview, h⟩ := run_bind_ok h
  dsimp only at h
  split at h
  · exact absurd h refuse_ne_ok
  next hname =>
    obtain ⟨urls, base, _, rfl, hurls, hbase⟩ := Program.trace_bind_ok.1 h
    obtain ⟨fetchUrls, fetchText, _, rfl, hfetchUrls, hurls⟩ := run_bind_ok hurls
    obtain ⟨pushUrls, pushText, _, rfl, hpushUrls, hurls⟩ := run_bind_ok hurls
    obtain ⟨rfl, hchecks⟩ := Program.trace_done.1 hurls
    obtain ⟨_, hfetchAllowed, hpushAllowed⟩ := bind_eq_ok.1 hchecks.symm
    obtain ⟨check, _, _, rfl, -, hbase⟩ := run_bind_ok hbase
    obtain ⟨fetch, _, _, rfl, hfetch, hbase⟩ := run_bind_ok hbase
    obtain ⟨tip, tipText, _, rfl, htip, hbase⟩ := run_bind_ok hbase
    dsimp only at hbase
    split at hbase
    · exact absurd hbase refuse_ne_ok
    · obtain ⟨rfl, heq⟩ := Program.trace_done.1 hbase
      exact ⟨auth, view, name, fetchUrls, fetchText, pushUrls, pushText, check, fetch, tip, tipText,
        rfl, hview, not_not.1 hname, hfetchUrls, checkOriginUrls_ok hfetchAllowed, hpushUrls,
        checkOriginUrls_ok hpushAllowed, ⟨_, hfetch⟩, htip, (Except.ok.inj heq).symm⟩

/-! ### The head commit -/

theorem recordedBase_some {caseId : String} {patch : PatchArtifact} {parent base : String}
    {lines : List String} (hsubject : lines.head? = some (commitSubject caseId))
    (h : recordedBase caseId patch parent lines = some base) :
    base = parent ∧ NamesCase caseId patch parent lines := by
  unfold recordedBase at h
  split at h
  next htrailers =>
    split at h
    · exact absurd h (by simp)
    next hnames =>
      simp only [not_or, not_not] at hnames
      exact ⟨(Option.some.inj h).symm, hsubject, fun _ => hnames⟩
  next hnone =>
    refine ⟨(Option.some.inj h).symm, hsubject, fun ⟨line, hline, hstarts⟩ => ?_⟩
    exact absurd (List.any_eq_true.2 ⟨line, hline, hstarts⟩) hnone

theorem isAncestor_true {ancestor commit : String}
    (h : (adapter.isAncestor ancestor commit).Trace calls (.ok true)) :
    ∃ call text, calls = [call] ∧
      Printed adapter.repoRoot (ancestorArguments ancestor commit) text call := by
  rcases Program.trace_tryCatch.1 h with ⟨value, -, hrun⟩ | ⟨_, _, error, rfl, -, hhandler⟩
  · obtain ⟨call, text, rest, rfl, hcall, hrest⟩ := run_bind_ok hrun
    obtain ⟨rfl, -⟩ := Program.trace_done.1 hrest
    exact ⟨call, text, rfl, hcall⟩
  · split at hhandler <;> exact absurd (Program.trace_done.1 hhandler).2 (by simp)

theorem commitIsOwned_true {commit caseId baseCommit : String} {patch : PatchArtifact}
    (h : (adapter.commitIsOwned commit caseId patch (PosixPath.parse adapter.patchPath)
      baseCommit).Trace calls (.ok true)) :
    adapter.ShowsOwned commit caseId patch baseCommit calls := by
  have hno : ∀ {calls : List CommandCall},
      ¬(pure false : Shell Bool).Trace calls (.ok true) := fun h =>
    absurd (Program.trace_done.1 h).2 (by simp)
  obtain ⟨message, messageText, _, rfl, hmessage, h⟩ := run_bind_ok h
  dsimp only at h
  split at h
  · exact absurd h hno
  next hsubject =>
    obtain ⟨parents, parentsText, _, rfl, hparents, h⟩ := run_bind_ok h
    split at h
    next self parent hwords =>
      split at h
      · exact absurd h hno
      next base hbase =>
        obtain ⟨rfl, hnames⟩ := recordedBase_some (not_not.1 hsubject) hbase
        obtain ⟨first, rest, isAncestor, rfl, hfirst, hchanges⟩ := Program.trace_bind_ok.1 h
        cases isAncestor with
        | false => exact absurd hchanges hno
        | true =>
          obtain ⟨ancestor, ancestorText, rfl, hancestor⟩ := isAncestor_true hfirst
          obtain ⟨range, rangeText, _, rfl, hrange, h⟩ := run_bind_ok hchanges
          split at h
          · exact absurd h hno
          next hcommit =>
            obtain ⟨diff, diffText, _, rfl, hdiff, h⟩ := run_bind_ok h
            split at h
            · exact absurd h hno
            next htarget =>
              obtain ⟨content, contentText, _, rfl, hcontent, h⟩ := run_bind_ok h
              obtain ⟨rfl, heq⟩ := Program.trace_done.1 h
              obtain rfl : contentText = patch.content := by simpa using heq
              exact ⟨message, messageText, parents, parentsText, self, base, ancestor, range,
                rangeText, diff, diffText, content, rfl, hmessage, hnames, hparents, hwords,
                ⟨ancestorText, hancestor⟩, hrange, not_not.1 hcommit, hdiff, not_not.1 htarget,
                hcontent⟩
    · exact absurd h hno

/-! ### The listed pull request -/

theorem foldsTo_iff {value : Option Json} {expected : String} :
    foldsTo value expected = true ↔
      ∃ text, value = some (.str text) ∧ casefold text = casefold expected := by
  constructor
  · intro h
    unfold foldsTo at h
    split at h
    next text => exact ⟨text, rfl, by simpa using h⟩
    · exact absurd h (by simp)
  · rintro ⟨text, rfl, hfold⟩
    simpa [foldsTo] using hfold

theorem checkedCandidate_ok {branch head url headOid : String} {candidate : Json}
    (h : adapter.checkedCandidate branch head candidate = .ok (url, headOid)) :
    ∃ entry, candidate = .obj entry ∧ adapter.DraftEntry branch url headOid entry ∧
      casefold headOid = casefold head := by
  unfold checkedCandidate at h
  split at h
  next entry =>
    dsimp only at h
    split at h
    · exact absurd h (by simp)
    next hentry =>
      simp only [not_or, not_not, Bool.not_eq_false, foldsTo_iff] at hentry
      obtain ⟨hbranch, hbase, howner, hrepository, hcross, hdraft⟩ := hentry
      split at h
      next url' headOid' hurl hheadOid =>
        split at h
        · exact absurd h (by simp)
        next hhead =>
          obtain ⟨_, hvalid, hpair⟩ := bind_eq_ok.1 h
          cases hpair
          exact ⟨entry, rfl, ⟨hbranch, hbase, howner, hrepository, hcross, hdraft, hurl, hheadOid,
            hvalid⟩, not_not.1 hhead⟩
      · exact absurd h (by simp)
  · exact absurd h (by simp)

theorem fetchRemoteCommit_ok {commit : String}
    (h : (adapter.fetchRemoteCommit commit).Trace calls (.ok ())) :
    ∃ call text, calls = [call] ∧ Printed adapter.repoRoot (fetchArguments commit) text call := by
  unfold fetchRemoteCommit at h
  split at h
  · exact absurd h refuse_ne_ok
  · obtain ⟨call, text, _, rfl, hcall, hrest⟩ := run_bind_ok h
    obtain ⟨rfl, -⟩ := Program.trace_done.1 hrest
    exact ⟨call, text, rfl, hcall⟩

theorem ownedUrls_cons {caseId branch baseCommit head : String} {patch : PatchArtifact}
    {candidate : Json} {candidates : List Json} {urls : List String}
    (h : (adapter.ownedUrls caseId branch patch (PosixPath.parse adapter.patchPath) baseCommit head
      (candidate :: candidates)).Trace calls (.ok urls)) :
    ∃ entry url headOid fetch owned rest others, candidate = .obj entry ∧ urls = url :: others ∧
      calls = fetch :: (owned ++ rest) ∧ adapter.DraftEntry branch url headOid entry ∧
      casefold headOid = casefold head ∧
      (∃ text, Printed adapter.repoRoot (fetchArguments headOid) text fetch) ∧
      adapter.ShowsOwned headOid caseId patch baseCommit owned ∧
      (adapter.ownedUrls caseId branch patch (PosixPath.parse adapter.patchPath) baseCommit head
        candidates).Trace rest (.ok others) := by
  rw [ownedUrls] at h
  obtain ⟨⟨url, headOid⟩, hchecked, hcommands⟩ := Program.trace_done_bind_ok.1 h
  obtain ⟨entry, rfl, hentry, hhead⟩ := checkedCandidate_ok hchecked
  obtain ⟨first, second, _, rfl, hfetch, hsecond⟩ := Program.trace_bind_ok.1 hcommands
  obtain ⟨fetch, text, rfl, hprinted⟩ := fetchRemoteCommit_ok hfetch
  obtain ⟨owned, rest, isOwned, rfl, howned, hrest⟩ := Program.trace_bind_ok.1 hsecond
  cases isOwned with
  | false => exact absurd hrest refuse_ne_ok
  | true =>
    obtain ⟨rest, last, others, rfl, hothers, hlast⟩ := Program.trace_bind_ok.1 hrest
    obtain ⟨rfl, heq⟩ := Program.trace_done.1 hlast
    refine ⟨entry, url, headOid, fetch, owned, rest, others, rfl, Except.ok.inj heq, ?_, hentry, hhead,
      ⟨text, hprinted⟩, commitIsOwned_true howned, hothers⟩
    rw [List.append_nil, List.singleton_append]

theorem remoteBranchSha_some {branch head : String}
    (h : (adapter.remoteBranchSha printing branch).Trace calls (.ok (some head))) :
    ∃ lookup lookupText fetch, calls = [lookup, fetch] ∧
      Printed adapter.repoRoot (lsRemoteArguments branch) lookupText lookup ∧
      remoteHead printing branch lookupText = .ok (some head) ∧
      ∃ text, Printed adapter.repoRoot (fetchArguments head) text fetch := by
  obtain ⟨lookup, lookupText, rest, rfl, hlookup, hrest⟩ := run_bind_ok h
  obtain ⟨found, hfound, hfetch⟩ := Program.trace_done_bind_ok.1 hrest
  cases found with
  | none => exact absurd (Program.trace_done.1 hfetch).2 (by simp)
  | some sha =>
    obtain ⟨first, second, _, rfl, hfirst, hsecond⟩ := Program.trace_bind_ok.1 hfetch
    obtain ⟨fetch, text, rfl, hprinted⟩ := fetchRemoteCommit_ok hfirst
    obtain ⟨rfl, heq⟩ := Program.trace_done.1 hsecond
    cases heq
    exact ⟨lookup, lookupText, fetch, rfl, hlookup, hfound, text, hprinted⟩

/-- A pull request is found only as the one entry of a listing, a draft whose head is owned. -/
theorem findExistingPr_some {caseId branch baseCommit url : String} {patch : PatchArtifact}
    (h : (adapter.findExistingPr printing caseId branch patch (PosixPath.parse adapter.patchPath)
      baseCommit).Trace calls (.ok (some url))) :
    adapter.ShowsDraft printing caseId branch patch baseCommit url calls := by
  obtain ⟨listing, raw, rest, rfl, hlisting, hrest⟩ := run_bind_ok h
  obtain ⟨candidates, hcandidates, hlook⟩ := Program.trace_done_bind_ok.1 hrest
  obtain ⟨first, second, found, rfl, hlookup, hfound⟩ := Program.trace_bind_ok.1 hlook
  cases found with
  | none =>
    dsimp only at hfound
    split at hfound
    · exact absurd hfound refuse_ne_ok
    · exact absurd (Program.trace_done.1 hfound).2 (by simp)
  | some head =>
    obtain ⟨lookup, lookupText, fetchHead, rfl, hlookup, hhead, hfetchHead⟩ :=
      remoteBranchSha_some hlookup
    obtain ⟨owned, last, urls, rfl, hurls, hlast⟩ := Program.trace_bind_ok.1 hfound
    have hone : urls = [url] ∧ last = [] := by
      split at hlast
      · exact absurd (Program.trace_done.1 hlast).2 (by simp)
      · obtain ⟨rfl, heq⟩ := Program.trace_done.1 hlast
        cases heq
        exact ⟨rfl, rfl⟩
      · exact absurd hlast refuse_ne_ok
    obtain ⟨rfl, rfl⟩ := hone
    cases candidates with
    | nil => exact absurd (Program.trace_done.1 hurls).2 (by simp)
    | cons candidate candidates =>
      obtain ⟨entry, _, headOid, fetchOid, owned, rest, others, rfl, heq, rfl, hentry, hfold, hfetchOid,
        howned, hothers⟩ := ownedUrls_cons hurls
      cases heq
      have hnone : candidates = [] ∧ rest = [] := by
        cases candidates with
        | nil => exact ⟨rfl, (Program.trace_done.1 hothers).1⟩
        | cons _ _ =>
          obtain ⟨_, _, _, _, _, _, _, _, hne, _⟩ := ownedUrls_cons hothers
          exact absurd hne (by simp)
      obtain ⟨rfl, rfl⟩ := hnone
      refine ⟨listing, raw, entry, lookup, lookupText, head, headOid, fetchHead, fetchOid, owned, ?_,
        hlisting, hcandidates, hentry, hlookup, hhead, hfold, hfetchHead, hfetchOid, howned⟩
      simp

/-! ### The ways to a draft -/

theorem createOrReconcilePr_ok {caseId branch baseCommit url : String} {patch : PatchArtifact}
    (h : (adapter.createOrReconcilePr printing caseId branch patch baseCommit).Trace calls (.ok url)) :
    ∃ create look, calls = create ++ look ∧
      adapter.ShowsDraft printing caseId branch patch baseCommit url look := by
  obtain ⟨create, rest, created, rfl, -, hrest⟩ := Program.trace_attempt_bind.1 h
  cases created with
  | error error =>
    dsimp only at hrest
    split at hrest
    · exact absurd (Program.trace_done.1 hrest).2 (by simp)
    · obtain ⟨look, last, found, rfl, hlook, hlast⟩ := Program.trace_bind_ok.1 hrest
      cases found with
      | none => exact absurd (Program.trace_done.1 hlast).2 (by simp)
      | some existing =>
        obtain ⟨rfl, heq⟩ := Program.trace_done.1 hlast
        cases heq
        exact ⟨create, look, by rw [List.append_nil], findExistingPr_some hlook⟩
  | ok output =>
    obtain ⟨_, -, hchecked⟩ := Program.trace_done_bind_ok.1 hrest
    obtain ⟨look, last, found, rfl, hlook, hlast⟩ := Program.trace_bind_ok.1 hchecked
    split at hlast
    · exact absurd hlast refuse_ne_ok
    next hfound =>
      obtain ⟨rfl, heq⟩ := Program.trace_done.1 hlast
      cases heq
      rw [not_not.1 hfound] at hlook
      exact ⟨create, look, by rw [List.append_nil], findExistingPr_some hlook⟩

/-- A command that lists the open pull requests of the branch, or looks its head up. -/
def IsLook (adapter : GitHubDraftPRAdapter) (branch : String) (op : CommandOp) : Prop :=
  ∃ cwd timeout, op = .run (listArguments adapter.repository branch) cwd timeout ∨
    op = .run (lsRemoteArguments branch) cwd timeout

theorem suppress_uses {allowed : CommandOp → Prop} {program : Shell Unit} (h : program.Uses allowed) :
    (Shell.suppress program).Uses allowed := by
  refine h.tryCatch fun error => ?_
  split <;> exact .done _

theorem perform_uses {allowed : CommandOp → Prop} {op : CommandOp} (h : allowed op) :
    (Program.perform op : Shell op.Reply).Uses allowed := .call h fun _ => .done _

theorem subprocess_uses {allowed : CommandOp → Prop} {args : List String} {cwd : String}
    {timeout : Nat} (h : allowed (.run args cwd timeout)) :
    (Shell.subprocess args cwd timeout).Uses allowed :=
  (perform_uses h).bind fun _ => .done _

theorem bestEffortRun_uses {allowed : CommandOp → Prop} {args : List String}
    (h : allowed (.run args adapter.repoRoot 30)) : (adapter.bestEffortRun args).Uses allowed :=
  suppress_uses ((subprocess_uses h).bind fun _ => .done _)

theorem cleanupWorktree_uses {allowed : CommandOp → Prop} {worktree : PosixPath} {branch : String}
    (hremove : allowed (.run ["git", "worktree", "remove", "--force", worktree.asPosix]
      adapter.repoRoot 30))
    (hbranch : allowed (.run ["git", "branch", "-D", branch] adapter.repoRoot 30))
    (hexists : ∀ path, allowed (.pathExists path)) (htree : ∀ path, allowed (.removeTree path)) :
    (adapter.cleanupWorktree worktree branch).Uses allowed := by
  refine (bestEffortRun_uses hremove).bind fun _ => (bestEffortRun_uses hbranch).bind fun _ => ?_
  refine Program.Uses.tryCatch ?_ fun error => ?_
  · refine (perform_uses (hexists _)).bind fun found => ?_
    split
    · exact perform_uses (htree _)
    · exact .done _
  · split <;> exact .done _

theorem cleanupWorktree_noLook {worktree : PosixPath} {branch : String} :
    (adapter.cleanupWorktree worktree branch).Uses fun op => ¬adapter.IsLook branch op := by
  refine cleanupWorktree_uses ?_ ?_ (fun _ => ?_) fun _ => ?_ <;>
    simp [IsLook, listArguments, lsRemoteArguments]

theorem createFreshDraft_ok {caseId branch baseCommit url : String} {patch : PatchArtifact}
    {targetRelative : PosixPath}
    (h : (adapter.createFreshDraft printing caseId branch patch targetRelative baseCommit).Trace calls
      (.ok url)) :
    ∃ before look after, calls = before ++ look ++ after ∧
      adapter.ShowsDraft printing caseId branch patch baseCommit url look ∧
      ∀ call ∈ after, ¬adapter.IsLook branch call.1 := by
  obtain ⟨slot, rest, _, rfl, -, hrest⟩ := Program.trace_bind_ok.1 h
  obtain ⟨added, rest, _, rfl, -, hrest⟩ := Program.trace_bind_ok.1 hrest
  obtain ⟨opened, cleanup, rfl, hopened, hcleanup⟩ := Program.trace_tryFinally_ok.1 hrest
  obtain ⟨pushed, rest, _, rfl, -, hrest⟩ := Program.trace_bind_ok.1 hopened
  obtain ⟨create, look, rfl, hlook⟩ := createOrReconcilePr_ok hrest
  refine ⟨slot ++ added ++ pushed ++ create, look, cleanup, by simp, hlook, ?_⟩
  exact (suppress_uses cleanupWorktree_noLook).trace hcleanup

/-- Every way to a draft ends in a look that shows it, on the base commit that was fetched. -/
theorem createRealDraft_ok {caseId branch url : String} {patch : PatchArtifact}
    (h : (adapter.createRealDraft printing caseId branch patch).Trace calls (.ok url)) :
    ∃ request repository baseCommit before look after,
      calls = request ++ repository ++ before ++ look ++ after ∧
      adapter.ShowsRepository baseCommit repository ∧
      adapter.ShowsDraft printing caseId branch patch baseCommit url look ∧
      ∀ call ∈ after, ¬adapter.IsLook branch call.1 := by
  obtain ⟨request, rest, _, rfl, -, hrest⟩ := Program.trace_bind_ok.1 h
  obtain ⟨repository, rest, baseCommit, rfl, hrepository, hrest⟩ := Program.trace_bind_ok.1 hrest
  obtain ⟨first, rest, existing, rfl, hfirst, hrest⟩ := Program.trace_bind_ok.1 hrest
  suffices hlooks : ∃ before look after, first ++ rest = before ++ look ++ after ∧
      adapter.ShowsDraft printing caseId branch patch baseCommit url look ∧
      ∀ call ∈ after, ¬adapter.IsLook branch call.1 by
    obtain ⟨before, look, after, heq, hlook, hafter⟩ := hlooks
    refine ⟨request, repository, baseCommit, before, look, after, ?_, checkRepository_ok hrepository,
      hlook, hafter⟩
    simp only [heq, List.append_assoc]
  cases existing with
  | some existing =>
    obtain ⟨rfl, heq⟩ := Program.trace_done.1 hrest
    cases heq
    exact ⟨[], first, [], by simp, findExistingPr_some hfirst, by simp⟩
  | none =>
    obtain ⟨lookup, rest, remoteSha, rfl, -, hrest⟩ := Program.trace_bind_ok.1 hrest
    cases remoteSha with
    | some sha =>
      obtain ⟨owned, rest, isOwned, rfl, -, hrest⟩ := Program.trace_bind_ok.1 hrest
      cases isOwned with
      | false => exact absurd hrest refuse_ne_ok
      | true =>
        obtain ⟨create, look, rfl, hlook⟩ := createOrReconcilePr_ok hrest
        exact ⟨first ++ lookup ++ owned ++ create, look, [], by simp, hlook, by simp⟩
    | none =>
      obtain ⟨before, look, after, rfl, hlook, hafter⟩ := createFreshDraft_ok hrest
      exact ⟨first ++ lookup ++ before, look, after, by simp, hlook, hafter⟩

theorem bundled_ok {caseId branch message : String} {patch : PatchArtifact}
    {status : IntegrationStatus} {artifact : PullRequestArtifact}
    (h : (adapter.bundled caseId branch patch status message).Trace calls (.ok artifact)) :
    artifact.integration.status = status ∧ artifact.url = none := by
  obtain ⟨_, _, bundle, -, -, hrest⟩ := Program.trace_bind_ok.1 h
  obtain ⟨-, heq⟩ := Program.trace_done.1 hrest
  rw [← Except.ok.inj heq.symm]
  exact ⟨rfl, rfl⟩

theorem createDraft_ok {caseId : String} {patch : PatchArtifact} {artifact : PullRequestArtifact}
    (h : (adapter.createDraft printing caseId patch).Trace calls (.ok artifact)) :
    (artifact.integration.status = .succeeded ∧ ∃ url, artifact.url = some url ∧
      (adapter.createRealDraft printing caseId (caseBranch caseId) patch).Trace calls (.ok url)) ∨
    artifact.integration.status ≠ .succeeded ∧ artifact.url = none := by
  unfold createDraft at h
  split at h
  · obtain ⟨hstatus, hurl⟩ := bundled_ok h
    exact .inr ⟨by simp [hstatus], hurl⟩
  · obtain ⟨first, second, opened, rfl, hfirst, hsecond⟩ := Program.trace_attempt_bind.1 h
    cases opened with
    | error error =>
      dsimp only at hsecond
      split at hsecond
      · exact absurd (Program.trace_done.1 hsecond).2 (by simp)
      · obtain ⟨hstatus, hurl⟩ := bundled_ok hsecond
        exact .inr ⟨by simp [hstatus], hurl⟩
    | ok url =>
      obtain ⟨rfl, heq⟩ := Program.trace_done.1 hsecond
      cases heq
      exact .inl ⟨rfl, url, rfl, by rwa [List.append_nil]⟩

/-- Success is never reported without proof. In every run that ends in `SUCCEEDED`, the repository
and the URLs of the origin were the allowed ones, and the last look at the branch showed a single open
pull request, the draft that is reported, whose head is the commit of this case. No other result has a
URL. -/
theorem createDraft_proved (printing : Printing) (adapter : GitHubDraftPRAdapter) (caseId : String)
    (patch : PatchArtifact) :
    (∀ calls artifact, (adapter.createDraft printing caseId patch).Trace calls (.ok artifact) →
      artifact.integration.status = .succeeded →
      ∃ url request repository baseCommit before look after, artifact.url = some url ∧
        calls = request ++ repository ++ before ++ look ++ after ∧
        adapter.ShowsRepository baseCommit repository ∧
        adapter.ShowsDraft printing caseId (caseBranch caseId) patch baseCommit url look ∧
        ∀ call ∈ after, ¬adapter.IsLook (caseBranch caseId) call.1) ∧
    ∀ calls artifact, (adapter.createDraft printing caseId patch).Trace calls (.ok artifact) →
      artifact.integration.status ≠ .succeeded → artifact.url = none := by
  constructor
  · intro calls artifact h hsucceeded
    rcases createDraft_ok h with ⟨-, url, hurl, hopened⟩ | ⟨hstatus, -⟩
    · obtain ⟨request, repository, baseCommit, before, look, after, hcalls, hrepository, hlook,
        hafter⟩ := createRealDraft_ok hopened
      exact ⟨url, request, repository, baseCommit, before, look, after, hurl, hcalls, hrepository,
        hlook, hafter⟩
    · exact absurd hsucceeded hstatus
  · intro calls artifact h hstatus
    rcases createDraft_ok h with ⟨hsucceeded, -⟩ | ⟨-, hurl⟩
    · exact absurd hsucceeded hstatus
    · exact hurl

end GitHubDraftPRAdapter

end DataRescue
