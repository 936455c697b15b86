import DataRescue.Http.Client
import DataRescue.Python.Sha256
import DataRescue.Remediation.Commands
import DataRescue.Remediation.RemoteUrl

/-!
# Draft pull requests

`GitHubDraftPRAdapter` of `packages/remediation/github.py`. A draft is reported as opened only after the
open pull requests of the branch were listed and the head commit of the one found was inspected. What
the remote repository already holds is reconciled before anything is written.
-/

namespace DataRescue

open Python Concurrency

structure GitHubDraftPRAdapter where
  enabled : Bool
  repository : String
  repoRoot : String
  baseBranch : String
  patchPath : String
  runtimeDir : String
  deriving DecidableEq

/-! ### Names and texts -/

/-- The pattern `[^a-z0-9-]+` replaced by `-`; `inRun` says that the current run is replaced already. -/
def dashed (inRun : Bool) : List Char → List Char
  | [] => []
  | c :: rest =>
    if ('a' ≤ c && c ≤ 'z') || ('0' ≤ c && c ≤ '9') || c == '-' then c :: dashed false rest
    else if inRun then dashed true rest
    else '-' :: dashed true rest

/-- `_slug` -/
def slug (value : String) : String :=
  String.ofList ((stripWhere (· == '-') (dashed false (casefold value).toList)).take 64)

example : slug "DR-Retry: 2" = "dr-retry-2" ∧ slug "--é" = "" := by decide +kernel

/-- `re.fullmatch(r"[0-9a-fA-F]{40,64}", commit)` -/
def isCommitId (commit : String) : Bool :=
  40 ≤ commit.length && commit.length ≤ 64 && commit.toList.all isHexDigit

def commitSubject (caseId : String) : String := s!"fix(data): recover schema drift for {caseId}"

/-- `_commit_message` -/
def commitMessage (caseId patchSha256 baseCommit : String) : String :=
  commitSubject caseId ++ "\n\n" ++ s!"DataRescue-Case: {caseId}\n" ++
    s!"DataRescue-Patch-SHA256: {patchSha256}\n" ++ s!"DataRescue-Base-Commit: {baseCommit}"

/-- `_pr_body` -/
def prBody (caseId patchSha256 : String) : String :=
  "## DataRescue evidence-gated repair\n\n" ++
    "- Case: `" ++ caseId ++ "`\n" ++
    "- Patch SHA-256: `" ++ patchSha256 ++ "`\n" ++
    "- Deterministic policy: passed\n" ++
    "- Human merge: required\n" ++
    "- Incident: remains active until post-deploy verification\n\n" ++
    "This PR was opened only after isolated execution, reconciliation, and dbt checks."

/-- `directory / name`, of names without slashes. -/
def Python.PosixPath.join (directory : PosixPath) (names : List String) : PosixPath :=
  { directory with parts := directory.parts ++ names.filter (· ≠ "") }

/-- `parent in path.parents` -/
def Python.PosixPath.isParentOf (parent path : PosixPath) : Bool :=
  parent.root = path.root && parent.parts.isPrefixOf path.parts &&
    parent.parts.length < path.parts.length

/-- A worktree that `git worktree list --porcelain -z` prints, in the order of its fields. -/
abbrev WorktreeRecord := List (String × String)

/-- `record.get(key)`: a later field replaces an earlier one. -/
def WorktreeRecord.field (record : WorktreeRecord) (key : String) : Option String :=
  record.reverse.lookup key

def worktreeRecordsFrom (current : WorktreeRecord) : List String → List WorktreeRecord
  | [] => if current = [] then [] else [current]
  | field :: fields =>
    if field = "" then
      if current = [] then worktreeRecordsFrom [] fields
      else current :: worktreeRecordsFrom [] fields
    else
      let (key, value) := partition ' ' field.toList
      worktreeRecordsFrom (current ++ [(String.ofList key, String.ofList (value.getD []))]) fields

/-- `_worktree_records` -/
def worktreeRecords (payload : String) : List WorktreeRecord :=
  worktreeRecordsFrom [] (split '\x00' payload)

/-- The part of a commit message line after a trailer's name. -/
def trailers (name : String) (lines : List String) : List String :=
  (lines.filter (startsWith · name)).map fun line => String.ofList (line.toList.drop name.length)

/-! ### Arguments of the commands -/

def remoteUrlArguments : List String := ["git", "remote", "get-url", "--all", "origin"]

def remotePushUrlArguments : List String := ["git", "remote", "get-url", "--push", "--all", "origin"]

def lsRemoteArguments (branch : String) : List String :=
  ["git", "ls-remote", "--heads", "origin", "refs/heads/" ++ branch]

def fetchArguments (commit : String) : List String := ["git", "fetch", "--no-tags", "origin", commit]

def messageArguments (commit : String) : List String := ["git", "show", "-s", "--format=%B", commit]

def parentsArguments (commit : String) : List String :=
  ["git", "rev-list", "--parents", "-n", "1", commit]

def ancestorArguments (ancestor commit : String) : List String :=
  ["git", "merge-base", "--is-ancestor", ancestor, commit]

def rangeArguments (base commit : String) : List String :=
  ["git", "rev-list", "--reverse", base ++ ".." ++ commit]

def diffArguments (base commit : String) : List String :=
  ["git", "diff", "--no-ext-diff", "--no-renames", "--name-only", base, commit]

def contentArguments (commit path : String) : List String := ["git", "show", commit ++ ":" ++ path]

def pushArguments (branch : String) : List String := ["git", "push", "--set-upstream", "origin", branch]

def listArguments (repository branch : String) : List String :=
  ["gh", "pr", "list", "--repo", repository, "--state", "open", "--head", branch, "--json",
    "url,headRefName,headRefOid,baseRefName,headRepositoryOwner,headRepository,isCrossRepository,isDraft",
    "--limit", "100"]

def createArguments (repository baseBranch branch title body : String) : List String :=
  ["gh", "pr", "create", "--repo", repository, "--draft", "--base", baseBranch, "--head", branch,
    "--title", title, "--body", body]

namespace GitHubDraftPRAdapter

open Shell (refuse lift)

variable (printing : Printing) (adapter : GitHubDraftPRAdapter)

/-! ### Running -/

/-- `_run` in a directory. -/
def runIn (cwd : String) (args : List String) : Shell String := do
  let (returncode, stdout) ← Shell.subprocess args cwd 120
  if returncode ≠ 0 then Shell.throw .calledProcessError else pure stdout

/-- `_run` -/
def run (args : List String) : Shell String := runIn adapter.repoRoot args

/-- `_run_unchecked` -/
def runUnchecked (args : List String) : Shell (Int × String) :=
  Shell.subprocess args adapter.repoRoot 30

/-- `_best_effort_run` -/
def bestEffortRun (args : List String) : Shell Unit :=
  Shell.suppress do
    let _ ← adapter.runUnchecked args
    pure ()

/-! ### The remote repository -/

/-- The check of the URLs of one group. -/
def checkOriginUrls (operation : String) (urls : List String) : Except CommandError Unit :=
  if urls = [] then .error (.valueError s!"Git origin has no {operation} URL")
  else urls.forM fun url =>
    match githubRepositoryFromRemoteUrl (strip url) with
    | none => .error (.libraryValueError "ValueError")
    | some resolved =>
      if resolved.map casefold ≠ some (casefold adapter.repository) then
        .error (.valueError
          s!"Git origin {operation} URL does not match the allowed repository")
      else .ok ()

/-- `_validate_origin_urls` -/
def validateOriginUrls : Shell Unit := do
  let fetchOutput ← adapter.run remoteUrlArguments
  let pushOutput ← adapter.run remotePushUrlArguments
  lift do
    adapter.checkOriginUrls "fetch" (splitlines fetchOutput)
    adapter.checkOriginUrls "push" (splitlines pushOutput)

/-- `_fetch_remote_base` -/
def fetchRemoteBase : Shell String := do
  let _ ← adapter.run ["git", "check-ref-format", "--branch", adapter.baseBranch]
  let _ ← adapter.run (fetchArguments ("refs/heads/" ++ adapter.baseBranch))
  let output ← adapter.run ["git", "rev-parse", "--verify", "FETCH_HEAD^\x7bcommit\x7d"]
  let commit := strip output
  if !isCommitId commit then refuse "Origin base branch returned an invalid commit id"
  else pure commit

/-- `_fetch_remote_commit` -/
def fetchRemoteCommit (commit : String) : Shell Unit := do
  if !isCommitId commit then refuse "GitHub returned an invalid commit id"
  else
    let _ ← adapter.run (fetchArguments commit)
    pure ()

/-- The head that `git ls-remote` prints for a branch. -/
def remoteHead (branch output : String) : Except CommandError (Option String) :=
  match (((splitlines output).filter fun row => strip row ≠ "").map words) with
  | [] => .ok none
  | [[sha, ref]] =>
    if ref ≠ "refs/heads/" ++ branch then
      let shown := printing.repr (.str branch)
      .error (.valueError s!"Unexpected remote branch lookup result for {shown}")
    else if !isCommitId sha then
      .error (.valueError "Remote branch lookup returned an invalid commit id")
    else .ok (some sha)
  | _ =>
    let shown := printing.repr (.str branch)
    .error (.valueError s!"Unexpected remote branch lookup result for {shown}")

/-- `_remote_branch_sha` -/
def remoteBranchSha (branch : String) : Shell (Option String) := do
  let output ← adapter.run (lsRemoteArguments branch)
  let head ← lift (remoteHead printing branch output)
  match head with
  | none => pure none
  | some sha =>
    adapter.fetchRemoteCommit sha
    pure (some sha)

/-- `_validate_pr_url` -/
def validatePrUrl (url : String) : Except CommandError Unit :=
  if url = "" then .error (.valueError "GitHub PR creation returned no URL")
  else match urlsplit url with
    | none => .error (.libraryValueError "ValueError")
    | some parsed =>
      let parts := (parsed.path.splitOn '/').filter (· ≠ [])
      let matched : Bool :=
        match parts, partition '/' adapter.repository.toList with
        | [owner, name, kind, number], (expectedOwner, some expectedName) =>
          parsed.scheme == "https" && parsed.netloc.flatMap casefoldChar == "github.com".toList &&
            owner.flatMap casefoldChar == expectedOwner.flatMap casefoldChar &&
            name.flatMap casefoldChar == expectedName.flatMap casefoldChar &&
            kind == "pull".toList && isdigit number
        | _, _ => false
      if matched then .ok ()
      else .error (.valueError "GitHub PR URL does not match the allowed repository")

/-! ### Ownership of a commit -/

/-- The base commit that the message of a commit names: that of its trailers, or its parent when it has
no trailers. `none` when the message is not one of this case, patch and parent. -/
def recordedBase (caseId : String) (patch : PatchArtifact) (parent : String) (lines : List String) :
    Option String :=
  if (lines.drop 1).any (startsWith · "DataRescue-") then
    if trailers "DataRescue-Case: " lines ≠ [caseId] ∨
        trailers "DataRescue-Patch-SHA256: " lines ≠ [patch.sha256] ∨
        trailers "DataRescue-Base-Commit: " lines ≠ [parent] then none
    else some parent
  else some parent

/-- `git merge-base --is-ancestor`, whose failure means no. -/
def isAncestor (ancestor commit : String) : Shell Bool :=
  (do let _ ← adapter.run (ancestorArguments ancestor commit); pure true).tryCatch fun error =>
    if error = CommandError.calledProcessError then pure false else Shell.throw error

/-- What a commit changes against its recorded base. -/
def changesOnlyTarget (commit : String) (patch : PatchArtifact) (targetRelative : PosixPath)
    (base : String) : Shell Bool := do
  let range ← adapter.run (rangeArguments base commit)
  if splitlines range ≠ [commit] then pure false
  else
    let changed ← adapter.run (diffArguments base commit)
    if splitlines changed ≠ [targetRelative.asPosix] then pure false
    else
      let content ← adapter.run (contentArguments commit targetRelative.asPosix)
      pure (content = patch.content)

/-- `_commit_is_owned` -/
def commitIsOwned (commit caseId : String) (patch : PatchArtifact) (targetRelative : PosixPath)
    (currentBaseCommit : String) : Shell Bool := do
  let message ← adapter.run (messageArguments commit)
  let messageLines := splitlines message
  if messageLines.head? ≠ some (commitSubject caseId) then pure false
  else
    let output ← adapter.run (parentsArguments commit)
    match words output with
    | [_, parent] =>
      match recordedBase caseId patch parent messageLines with
      | none => pure false
      | some base =>
        let ancestor ← adapter.isAncestor base currentBaseCommit
        if !ancestor then pure false
        else adapter.changesOnlyTarget commit patch targetRelative base
    | _ => pure false

/-! ### Open pull requests -/

/-- The listed pull requests. -/
def listedCandidates (raw : String) : Except CommandError (List Json) :=
  match loads (if raw = "" then "[]" else raw) with
  | .ok (.arr candidates) => .ok candidates
  | .ok _ => .error (.valueError "GitHub PR lookup returned an invalid payload")
  | .error .decode => .error (.valueError "GitHub PR lookup returned invalid JSON")
  | .error .digits => .error (.libraryValueError "ValueError")

/-- A field of an object that is a field of the entry. -/
def nestedField (entry : List (String × Json)) (name key : String) : Option Json :=
  match getField entry name with
  | some (.obj payload) => getField payload key
  | _ => none

/-- A text that equals another one after case folding. -/
def foldsTo (value : Option Json) (expected : String) : Bool :=
  match value with
  | some (.str value) => casefold value = casefold expected
  | _ => false

/-- The URL and the head of an entry that is a draft of this branch in the allowed repository. -/
def checkedCandidate (branch head : String) (candidate : Json) :
    Except CommandError (String × String) :=
  match candidate with
  | .obj entry =>
    let expectedOwner := String.ofList (partition '/' adapter.repository.toList).1
    if getField entry "headRefName" ≠ some (.str branch) ∨
        getField entry "baseRefName" ≠ some (.str adapter.baseBranch) ∨
        foldsTo (nestedField entry "headRepositoryOwner" "login") expectedOwner = false ∨
        foldsTo (nestedField entry "headRepository" "nameWithOwner") adapter.repository = false ∨
        getField entry "isCrossRepository" ≠ some (.bool false) ∨
        getField entry "isDraft" ≠ some (.bool true) then
      .error (.valueError "GitHub PR lookup returned an unexpected repository/head")
    else match getField entry "url", getField entry "headRefOid" with
      | some (.str url), some (.str headOid) =>
        if casefold headOid ≠ casefold head then
          .error (.valueError "GitHub PR head does not match the allowed origin branch")
        else do
          adapter.validatePrUrl url
          pure (url, headOid)
      | _, _ => .error (.valueError "GitHub PR lookup omitted its URL or head commit")
  | _ => .error (.valueError "GitHub PR lookup returned an invalid entry")

/-- The loop over the entries: the URLs of the drafts, every one of whose heads is owned. -/
def ownedUrls (caseId branch : String) (patch : PatchArtifact) (targetRelative : PosixPath)
    (currentBaseCommit head : String) : List Json → Shell (List String)
  | [] => pure []
  | candidate :: candidates => do
    let (url, headOid) ← lift (adapter.checkedCandidate branch head candidate)
    adapter.fetchRemoteCommit headOid
    let owned ← adapter.commitIsOwned headOid caseId patch targetRelative currentBaseCommit
    if !owned then refuse "Existing GitHub PR head is not owned by this DataRescue case"
    else
      let urls ← ownedUrls caseId branch patch targetRelative currentBaseCommit head candidates
      pure (url :: urls)

/-- `_find_existing_pr` -/
def findExistingPr (caseId branch : String) (patch : PatchArtifact) (targetRelative : PosixPath)
    (currentBaseCommit : String) : Shell (Option String) := do
  let raw ← adapter.run (listArguments adapter.repository branch)
  let candidates ← lift (listedCandidates raw)
  let head ← adapter.remoteBranchSha printing branch
  match head with
  | none =>
    if candidates ≠ [] then refuse "GitHub PR head branch is missing from the allowed repository"
    else pure none
  | some head =>
    let urls ← adapter.ownedUrls caseId branch patch targetRelative currentBaseCommit head candidates
    match urls with
    | [] => pure none
    | [url] => pure (some url)
    | _ => refuse "Multiple open PRs exist for the same DataRescue branch"

def prTitle (caseId : String) : String := s!"DataRescue: evidence-gated recovery for {caseId}"

/-- `_create_or_reconcile_pr` -/
def createOrReconcilePr (caseId branch : String) (patch : PatchArtifact) (currentBaseCommit : String) :
    Shell String := do
  let find := adapter.findExistingPr printing caseId branch patch (PosixPath.parse adapter.patchPath)
    currentBaseCommit
  let created ← (adapter.run (createArguments adapter.repository adapter.baseBranch branch
    (prTitle caseId) (prBody caseId patch.sha256))).attempt
  match created with
  | .error error =>
    if !error.commandFailure then Shell.throw error
    else match ← find with
      | some existing => pure existing
      | none => Shell.throw error
  | .ok output =>
    let output := strip output
    lift (adapter.validatePrUrl output)
    let existing ← find
    if existing ≠ some output then refuse "Created GitHub PR could not be safely reconciled"
    else pure output

/-! ### The worktree -/

def worktree (caseId : String) : PosixPath :=
  (PosixPath.parse adapter.runtimeDir).join ["worktrees", slug caseId]

/-- `_local_branch_sha` -/
def localBranchSha (branch : String) : Shell (Option String) := do
  let (returncode, stdout) ←
    adapter.runUnchecked ["git", "rev-parse", "--verify", "refs/heads/" ++ branch]
  if returncode ≠ 0 then pure none
  else if !isCommitId (strip stdout) then refuse "Local branch lookup returned an invalid commit id"
  else pure (some (strip stdout))

/-- `_assert_local_slot_available` -/
def assertLocalSlotAvailable (branch : String) (worktree : PosixPath) : Shell Unit := do
  let shown := printing.repr (.str branch)
  let message := s!"Local branch/worktree {shown} already exists; refusing to delete unknown state"
  let sha ← adapter.localBranchSha branch
  if sha ≠ none then refuse message
  else
    let exists' ← Shell.pathExists worktree.asPosix
    if exists' then refuse message else pure ()

/-- `_cleanup_worktree` -/
def cleanupWorktree (worktree : PosixPath) (branch : String) : Shell Unit := do
  adapter.bestEffortRun ["git", "worktree", "remove", "--force", worktree.asPosix]
  adapter.bestEffortRun ["git", "branch", "-D", branch]
  Program.tryCatch
    (do
      let exists' ← Shell.pathExists worktree.asPosix
      if exists' then Shell.removeTree worktree.asPosix else pure ())
    fun error => match error with
      | .osError _ => pure ()
      | error => Shell.throw error

/-- A registered worktree is the one this attempt added. -/
def ownsWorktree (expectedPath expectedBranch baseCommit : String) : List WorktreeRecord → Shell Bool
  | [] => pure false
  | record :: records => do
    let here ← match record.field "worktree" with
      | none => pure false
      | some path => do
        let resolved ← Shell.resolvePath path
        pure (PosixPath.parse resolved = PosixPath.parse expectedPath &&
          record.field "branch" = some expectedBranch &&
          casefold ((record.field "HEAD").getD "") = casefold baseCommit)
    if here then pure true else ownsWorktree expectedPath expectedBranch baseCommit records

/-- `_cleanup_incomplete_worktree` -/
def cleanupIncompleteWorktree (worktree : PosixPath) (branch baseCommit : String) : Shell Unit := do
  let expectedPath ← Shell.resolvePath worktree.asPosix
  let payload ← adapter.run ["git", "worktree", "list", "--porcelain", "-z"]
  let owned ← ownsWorktree expectedPath ("refs/heads/" ++ branch) baseCommit (worktreeRecords payload)
  if !owned then pure ()
  else
    let sha ← adapter.localBranchSha branch
    if sha ≠ some baseCommit then pure () else adapter.cleanupWorktree worktree branch

/-- Commit the patch in the worktree and push the branch. -/
def commitAndPush (caseId branch : String) (patch : PatchArtifact) (targetRelative : PosixPath)
    (baseCommit : String) : Shell Unit := do
  let worktree := adapter.worktree caseId
  let target ← Shell.resolvePath (worktree.join targetRelative.parts).asPosix
  let resolvedWorktree ← Shell.resolvePath worktree.asPosix
  let target := PosixPath.parse target
  if !(PosixPath.parse resolvedWorktree).isParentOf target then
    refuse "Resolved patch path escaped the worktree"
  else
    Shell.makeDirectory { target with parts := target.parts.dropLast }.asPosix
    Shell.writeText target.asPosix patch.content
    let _ ← runIn worktree.asPosix ["git", "add", "--", targetRelative.asPosix]
    let _ ← runIn worktree.asPosix
      ["git", "commit", "-m", commitMessage caseId patch.sha256 baseCommit]
    let _ ← runIn worktree.asPosix (pushArguments branch)
    pure ()

/-- The draft of a branch that the remote repository does not hold yet. -/
def createFreshDraft (caseId branch : String) (patch : PatchArtifact) (targetRelative : PosixPath)
    (baseCommit : String) : Shell String := do
  let worktree := adapter.worktree caseId
  adapter.assertLocalSlotAvailable printing branch worktree
  let _ ← (adapter.run ["git", "worktree", "add", "-b", branch, worktree.asPosix,
    baseCommit]).tryCatch fun error => do
      -- the command may have had its effect before it timed out
      Shell.suppress (adapter.cleanupIncompleteWorktree worktree branch baseCommit)
      Shell.throw error
  Program.tryFinally
    (do
      adapter.commitAndPush caseId branch patch targetRelative baseCommit
      adapter.createOrReconcilePr printing caseId branch patch baseCommit)
    fun _ => Shell.suppress (adapter.cleanupWorktree worktree branch)

/-! ### Drafts -/

/-- The checks of the configuration and of the patch. -/
def checkRequest (caseId : String) (patch : PatchArtifact) : Shell Unit := do
  let gitDirectory ← Shell.pathExists ((PosixPath.parse adapter.repoRoot).join [".git"]).asPosix
  if !gitDirectory then
    let root := adapter.repoRoot
    refuse s!"Not a git repository: {root}"
  else
    let gh ← Shell.which "gh"
    let git ← if gh = none then pure none else Shell.which "git"
    if git = none then refuse "git and gh are required for real draft PR creation"
    else
      let targetRelative := PosixPath.parse adapter.patchPath
      if targetRelative.isAbsolute || targetRelative.parts.contains ".." then
        refuse "GitHub patch path must be a safe repository-relative path"
      else if slug caseId = "" then
        refuse "Case id must contain at least one safe branch character"
      else if sha256Hexdigest (encode patch.content) ≠ patch.sha256 then
        refuse "Patch SHA-256 does not match its content"
      else
        Shell.makeDirectory
          ((PosixPath.parse adapter.runtimeDir).join ["worktrees"]).asPosix

/-- Authorization, the allowlist and the base commit. -/
def checkRepository : Shell String := do
  let _ ← adapter.run ["gh", "auth", "status"]
  let output ← adapter.run
    ["gh", "repo", "view", "--json", "nameWithOwner", "--jq", ".nameWithOwner"]
  let remoteName := strip output
  if casefold remoteName ≠ casefold adapter.repository then
    let shown := printing.repr (.str remoteName)
    refuse s!"GitHub allowlist mismatch: {shown}"
  else
    adapter.validateOriginUrls
    adapter.fetchRemoteBase

/-- `_create_real_draft` -/
def createRealDraft (caseId branch : String) (patch : PatchArtifact) : Shell String := do
  let targetRelative := PosixPath.parse adapter.patchPath
  adapter.checkRequest caseId patch
  let baseCommit ← adapter.checkRepository printing
  let existing ← adapter.findExistingPr printing caseId branch patch targetRelative baseCommit
  match existing with
  | some url => pure url
  | none =>
    let remoteSha ← adapter.remoteBranchSha printing branch
    match remoteSha with
    | some sha =>
      let owned ← adapter.commitIsOwned sha caseId patch targetRelative baseCommit
      if !owned then
        let shown := printing.repr (.str branch)
        refuse s!"Remote branch {shown} exists but is not owned by this DataRescue case"
      else adapter.createOrReconcilePr printing caseId branch patch baseCommit
    | none => adapter.createFreshDraft printing caseId branch patch targetRelative baseCommit

/-- The manifest of a bundle, as `json.dumps` writes it with sorted keys and an indent. -/
def manifest (caseId branch : String) (patch : PatchArtifact) : String :=
  let entry := fun (key, value) =>
    "  " ++ String.ofList (quote key) ++ ": " ++ String.ofList (quote value)
  "\x7b\n" ++ ",\n".intercalate ([("base", adapter.baseBranch), ("branch", branch),
    ("case_id", caseId), ("patch_sha256", patch.sha256),
    ("reason", "external GitHub writes are disabled or unavailable"),
    ("repository", adapter.repository), ("status", "NOT_RUN"),
    ("target_path", adapter.patchPath)].map entry) ++ "\n\x7d\n"

/-- `_write_bundle` -/
def writeBundle (caseId branch : String) (patch : PatchArtifact) : Shell String := do
  let directory := (PosixPath.parse adapter.runtimeDir).join ["pr-bundles", slug caseId]
  Shell.makeDirectory directory.asPosix
  Shell.writeText (directory.join ["payments_fct.sql"]).asPosix patch.content
  let path := (directory.join ["manifest.json"]).asPosix
  Shell.writeText path (adapter.manifest caseId branch patch)
  pure path

def details : List (String × Json) :=
  [("repository", .str adapter.repository), ("requires_human_merge", .bool true)]

/-- A draft that was not opened, with its bundle. -/
def bundled (caseId branch : String) (patch : PatchArtifact) (status : IntegrationStatus)
    (message : String) : Shell PullRequestArtifact := do
  let bundle ← adapter.writeBundle caseId branch patch
  pure
    { branch := some branch
      bundlePath := some bundle
      integration :=
        { status, operation := "github_create_draft_pr", message, evidenceRefs := [bundle]
          details := adapter.details } }

def caseBranch (caseId : String) : String := "datarescue/" ++ slug caseId

/-- `create_draft` -/
def createDraft (caseId : String) (patch : PatchArtifact) : Shell PullRequestArtifact := do
  let branch := caseBranch caseId
  if !adapter.enabled then
    adapter.bundled caseId branch patch .notRun
      "GitHub write access is disabled; a reviewable local PR bundle was written"
  else
    let opened ← (adapter.createRealDraft printing caseId branch patch).attempt
    match opened with
    | .error error =>
      if !error.draftFailure then Shell.throw error
      else
        let name := error.typeName
        adapter.bundled caseId branch patch .failed
          s!"Draft PR creation failed; local bundle retained ({name})"
    | .ok url =>
      pure
        { branch := some branch
          url := some url
          integration :=
            { status := .succeeded
              operation := "github_create_draft_pr"
              message := "Real draft PR created; incident remains active pending human merge"
              resourceId := some url
              evidenceRefs := [url]
              details := adapter.details } }

end GitHubDraftPRAdapter

end DataRescue
