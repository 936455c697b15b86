import DataRescue.Workflow.Footprint

/-!
# Live evidence

What a recomputation of the evidence has checked when it returns: `Recomputed` reads the checks off
its calls, one after the other. No field of the request but the commit takes part in it.
-/

namespace DataRescue

open Python Concurrency

/-- The answers a recomputation decides on. -/
structure Findings where
  repo : String
  originOutput : List UInt8
  tipOutput : List UInt8
  requestedOutput : List UInt8
  contextResult : McpContextResult
  checkout : String
  execution : CandidateExecution

/-- The calls that execute the proposal at the verified commit. -/
def executionCalls (caseId : String) (proposal : CandidateProposal) (context : ContextBundle)
    (found : Findings) : List (Exchange Op Op.Reply Exn) :=
  [⟨.adapter (.bindToCheckout found.checkout found.repo), .ok ()⟩,
    ⟨.adapter (.producesLiveEvidence (.boundTo found.checkout)), .ok true⟩,
    ⟨.adapter (.execute (.boundTo found.checkout) caseId proposal context), .ok found.execution⟩]

/-- A call of the git helper and its output. -/
def gitCall (repo : String) (arguments : List String) (timeout : Nat) (output : List UInt8) :
    Exchange Op Op.Reply Exn :=
  ⟨.adapter (.git repo arguments true timeout), .ok output⟩

namespace Service

variable (service : Service)

/-- Fetch the base branch. -/
def fetchArguments : List String :=
  ["fetch", "--quiet", "--no-tags", "origin",
    s!"+refs/heads/{service.settings.githubBaseBranch}:{service.trustedBaseRef}"]

/-- The calls that find the tip of the base branch, in their order. -/
def tipCalls (mergedCommitSha : String) (fetched : List UInt8) (found : Findings) :
    List (Exchange Op Op.Reply Exn) :=
  [gitCall found.repo ["remote", "get-url", "origin"] 30 found.originOutput,
    gitCall found.repo service.fetchArguments 60 fetched,
    gitCall found.repo ["rev-parse", "--verify", service.trustedBaseRef ++ "^\x7bcommit\x7d"] 30
      found.tipOutput,
    gitCall found.repo ["rev-parse", "--verify", mergedCommitSha ++ "^\x7bcommit\x7d"] 30
      found.requestedOutput]

/-- The origin of the checkout is the configured repository. -/
def TrustedOrigin (originOutput : List UInt8) : Prop :=
  ∃ url origin, decodeUtf8 originOutput = some url ∧
    githubRepositoryFromRemoteUrl (strip url) = some (some origin) ∧
    casefold origin = casefold (strip service.settings.githubRepository)

end Service

/-- The proposal a verification executes again. -/
def reproposal (selected : CandidateAssessment) : CandidateProposal where
  id := selected.id
  sourceField := selected.sourceField
  targetAlias := selected.targetAlias
  rationale := selected.rationale
  semanticEvidence := selected.evidenceRefs

/-- A commit id that git printed. -/
def PrintedCommit (output : List UInt8) (commit : String) : Prop :=
  ∃ text, decodeAscii output = some text ∧ strip text = commit

/-- The tip of the base branch, and the requested commit. -/
structure VerifiedTip (service : Service) (verifiedCommit : String) (found : Findings) : Prop where
  origin : service.TrustedOrigin found.originOutput
  tip : PrintedCommit found.tipOutput verifiedCommit
  full : canonicalCommit verifiedCommit = true
  requested : ∃ requestedCommit, PrintedCommit found.requestedOutput requestedCommit ∧
    canonicalCommit requestedCommit = true ∧ casefold requestedCommit = casefold verifiedCommit

/-- What a recomputation of the evidence for a case has checked, by these calls. -/
structure Recomputed (service : Service) (case : CaseSnapshot) (mergedCommitSha : String)
    (evidence : DeploymentEvidence) (calls : List (Exchange Op Op.Reply Exn))
    (selected : CandidateAssessment) (patch : PatchArtifact) (fetched : List UInt8)
    (found : Findings) : Prop where
  chosen : case.selectedCandidate = some selected
  stored : case.patch = some patch
  made : (⟨.adapter (.producesLiveEvidence .configured), .ok true⟩ ::
    service.tipCalls mergedCommitSha fetched found ++
    [gitCall found.repo
        ["show", s!"{evidence.verifiedCommit}:{(PosixPath.parse patch.path).asPosix}"] 30
        (encode patch.content),
      ⟨.adapter (.fetchContext case.assetUrn), .ok found.contextResult⟩] ++
    executionCalls case.id (reproposal selected)
      (service.contextBundle case.assetUrn found.contextResult) found).Sublist calls
  verifiedTip : VerifiedTip service evidence.verifiedCommit found
  configuredPath : PosixPath.parse patch.path = PosixPath.parse service.settings.githubPatchPath
  sha256 : service.sha256 (encode patch.content) = casefold patch.sha256
  fresh : (service.contextBundle case.assetUrn found.contextResult).source = "DATAHUB_MCP" ∧
    found.contextResult.integration.status = .succeeded
  evidence : evidence =
    { semanticVerdict := found.execution.semanticVerdict
      reconciliation := found.execution.reconciliation
      build := found.execution.build
      lineageCurrent := (service.contextBundle case.assetUrn found.contextResult).lineageCurrent
      verifiedCommit := evidence.verifiedCommit
      evidenceMode := "LIVE_RECOMPUTED" }

section

variable {service : Service} {calls : List (Exchange Op Op.Reply Exn)} {α : Type}
  {repo checkout caseId : String} {case : CaseSnapshot}

/-! ### The traces of the parts -/

theorem trace_adapter {op : AdapterOp} {result : Except Exn op.Reply} :
    (Flow.adapter op).Trace calls result ↔ calls = [⟨.adapter op, result⟩] := Program.trace_perform

theorem trace_throw {error : Exn} {value : α} :
    ¬(Program.throw error : Flow α).Trace calls (.ok value) := by
  rw [Program.throw, Program.trace_done]
  rintro ⟨-, h⟩
  cases h

theorem trace_pure {value result : α} :
    (pure value : Flow α).Trace calls (.ok result) ↔ calls = [] ∧ value = result := by
  rw [Program.pure_eq, Program.trace_done, Except.ok.injEq, eq_comm (a := result)]

theorem trace_git {arguments : List String} {timeout : Nat} {output : List UInt8} :
    (git repo arguments timeout).Trace calls (.ok output) ↔
      calls = [gitCall repo arguments timeout output] := by
  rw [git, Program.trace_tryCatch]
  constructor
  · rintro (⟨value, hvalue, htrace⟩ | ⟨_, _, _, -, -, hraised⟩)
    · obtain rfl := Except.ok.inj hvalue
      exact trace_adapter.1 htrace
    · exact absurd hraised trace_throw
  · exact fun h => .inl ⟨output, rfl, trace_adapter.2 h⟩

theorem trace_refuseIf {condition : Bool} {message : String} {result : Unit} :
    (refuseIf condition message).Trace calls (.ok result) ↔ calls = [] ∧ condition = false := by
  rw [refuseIf]
  by_cases hcondition : condition = true
  · rw [if_pos hcondition]
    simp [trace_throw, hcondition]
  · rw [if_neg hcondition, trace_pure]
    simp [hcondition]

theorem trace_decoded {text : Option String} {message decodedText : String} :
    (decoded text message).Trace calls (.ok decodedText) ↔ calls = [] ∧ text = some decodedText := by
  cases text with
  | none => simp [decoded, trace_throw]
  | some text => simp [decoded, trace_pure]

theorem trace_refuseIf_bind {condition : Bool} {message : String} {next : Flow α} {value : α} :
    (do refuseIf condition message; next : Flow α).Trace calls (.ok value) ↔
      condition = false ∧ next.Trace calls (.ok value) := by
  simp only [Program.trace_bind_ok, trace_refuseIf]
  constructor
  · rintro ⟨_, _, _, rfl, ⟨rfl, hcondition⟩, hnext⟩
    exact ⟨hcondition, hnext⟩
  · rintro ⟨hcondition, hnext⟩
    exact ⟨[], calls, (), rfl, ⟨rfl, hcondition⟩, hnext⟩

theorem trace_decoded_bind {text : Option String} {message : String} {next : String → Flow α}
    {value : α} :
    (decoded text message >>= next).Trace calls (.ok value) ↔
      ∃ decodedText, text = some decodedText ∧ (next decodedText).Trace calls (.ok value) := by
  simp only [Program.trace_bind_ok, trace_decoded]
  constructor
  · rintro ⟨_, _, decodedText, rfl, ⟨rfl, htext⟩, hnext⟩
    exact ⟨decodedText, htext, hnext⟩
  · rintro ⟨decodedText, htext, hnext⟩
    exact ⟨[], calls, decodedText, rfl, ⟨rfl, htext⟩, hnext⟩

theorem trace_git_bind {arguments : List String} {timeout : Nat} {next : List UInt8 → Flow α}
    {value : α} :
    (git repo arguments timeout >>= next).Trace calls (.ok value) ↔
      ∃ output rest, calls = gitCall repo arguments timeout output :: rest ∧
        (next output).Trace rest (.ok value) := by
  simp only [Program.trace_bind_ok, trace_git]
  constructor
  · rintro ⟨_, rest, output, rfl, rfl, hnext⟩
    exact ⟨output, rest, rfl, hnext⟩
  · rintro ⟨output, rest, rfl, hnext⟩
    exact ⟨_, rest, output, rfl, rfl, hnext⟩

theorem trace_adapter_bind {op : AdapterOp} {next : op.Reply → Flow α} {value : α} :
    (Flow.adapter op >>= next).Trace calls (.ok value) ↔
      ∃ reply rest, calls = ⟨.adapter op, .ok reply⟩ :: rest ∧
        (next reply).Trace rest (.ok value) := by
  simp only [Program.trace_bind_ok, trace_adapter]
  constructor
  · rintro ⟨_, rest, reply, rfl, rfl, hnext⟩
    exact ⟨reply, rest, rfl, hnext⟩
  · rintro ⟨reply, rest, rfl, hnext⟩
    exact ⟨_, rest, reply, rfl, rfl, hnext⟩

theorem trace_revParse {revision commit : String}
    (h : (Service.revParse repo revision).Trace calls (.ok commit)) :
    ∃ output, calls = [gitCall repo ["rev-parse", "--verify", revision ++ "^\x7bcommit\x7d"] 30
      output] ∧ PrintedCommit output commit := by
  rw [Service.revParse, trace_git_bind] at h
  obtain ⟨output, rest, rfl, h⟩ := h
  rw [trace_decoded_bind] at h
  obtain ⟨text, htext, h⟩ := h
  obtain ⟨rfl, hcommit⟩ := trace_pure.1 h
  exact ⟨output, rfl, text, htext, hcommit⟩

theorem trace_checkOrigin {result : Unit} (h : (service.checkOrigin repo).Trace calls (.ok result)) :
    ∃ output, calls = [gitCall repo ["remote", "get-url", "origin"] 30 output] ∧
      service.TrustedOrigin output := by
  rw [Service.checkOrigin, trace_git_bind] at h
  obtain ⟨output, rest, rfl, h⟩ := h
  rw [trace_decoded_bind] at h
  obtain ⟨url, hurl, h⟩ := h
  cases hrepository : githubRepositoryFromRemoteUrl (strip url) with
  | none =>
    rw [hrepository] at h
    exact absurd h trace_throw
  | some repository =>
    rw [hrepository] at h
    obtain ⟨rfl, hsame⟩ := trace_refuseIf.1 h
    have hsame : repository.map casefold = some (casefold (strip service.settings.githubRepository)) := by
      simpa using hsame
    obtain ⟨origin, rfl, hfold⟩ := Option.map_eq_some_iff.1 hsame
    exact ⟨output, rfl, url, origin, hurl, hrepository, hfold⟩

theorem trace_verifiedBaseTip {mergedCommitSha verifiedCommit : String}
    (h : (service.verifiedBaseTip repo mergedCommitSha).Trace calls (.ok verifiedCommit)) :
    ∃ originOutput fetched tipOutput requestedOutput, ∀ found : Findings, found.repo = repo →
      found.originOutput = originOutput → found.tipOutput = tipOutput →
      found.requestedOutput = requestedOutput →
      (service.tipCalls mergedCommitSha fetched found).Sublist calls ∧
        VerifiedTip service verifiedCommit found := by
  rw [Service.verifiedBaseTip, trace_git_bind] at h
  obtain ⟨_, rest, rfl, h⟩ := h
  replace h := Program.trace_bind_ok.1 h
  obtain ⟨first, second, _, rfl, horigin, h⟩ := h
  obtain ⟨originOutput, rfl, htrusted⟩ := trace_checkOrigin horigin
  replace h := trace_git_bind.1 h
  obtain ⟨fetched, rest, rfl, h⟩ := h
  replace h := trace_git_bind.1 h
  obtain ⟨_, rest, rfl, h⟩ := h
  replace h := Program.trace_bind_ok.1 h
  obtain ⟨first, second, tip, rfl, htip, h⟩ := h
  obtain ⟨tipOutput, rfl, hprinted⟩ := trace_revParse htip
  replace h := Program.trace_bind_ok.1 h
  obtain ⟨first, second, requested, rfl, hrequested, h⟩ := h
  obtain ⟨requestedOutput, rfl, hprinted'⟩ := trace_revParse hrequested
  replace h := trace_refuseIf_bind.1 h
  obtain ⟨hcanonical, h⟩ := h
  replace h := trace_refuseIf_bind.1 h
  obtain ⟨hsame, h⟩ := h
  replace h := trace_pure.1 h
  obtain ⟨rfl, rfl⟩ := h
  have hcanonical : canonicalCommit tip = true ∧ canonicalCommit requested = true := by
    simpa using hcanonical
  have hsame : casefold requested = casefold tip := by simpa using hsame
  refine ⟨originOutput, fetched, tipOutput, requestedOutput, ?_⟩
  rintro found rfl rfl rfl rfl
  refine ⟨?_, htrusted, hprinted, hcanonical.1, requested, hprinted', hcanonical.2, hsame⟩
  -- the two calls in between only check that the references exist
  exact .cons _ (.cons_cons _ (.cons_cons _ (.cons _ (.cons_cons _ (.cons_cons _ (.refl _))))))

theorem trace_checkPatchPaths {storedPath : String} {result : Unit}
    (h : (service.checkPatchPaths storedPath).Trace calls (.ok result)) :
    calls = [] ∧ PosixPath.parse storedPath = PosixPath.parse service.settings.githubPatchPath := by
  replace h := trace_refuseIf_bind.1 h
  obtain ⟨-, h⟩ := h
  replace h := trace_refuseIf.1 h
  obtain ⟨rfl, hsame⟩ := h
  exact ⟨rfl, by simpa using hsame⟩

theorem trace_checkMergedPatch {verifiedCommit : String} {patch : PatchArtifact} {result : Unit}
    (h : (service.checkMergedPatch repo verifiedCommit patch).Trace calls (.ok result)) :
    calls = [gitCall repo ["show", s!"{verifiedCommit}:{(PosixPath.parse patch.path).asPosix}"] 30
      (encode patch.content)] ∧ service.sha256 (encode patch.content) = casefold patch.sha256 := by
  replace h := trace_refuseIf_bind.1 h
  obtain ⟨hstored, h⟩ := h
  replace h := trace_git_bind.1 h
  obtain ⟨merged, rest, rfl, h⟩ := h
  replace h := trace_refuseIf.1 h
  obtain ⟨rfl, hmerged⟩ := h
  have hsame : merged = encode patch.content := by
    simp only [Bool.or_eq_false_iff, decide_eq_false_iff_not, not_not, ne_eq] at hmerged
    exact hmerged.2
  exact ⟨by rw [hsame], by simpa using hstored⟩

theorem trace_context {assetUrn : String} {context : ContextBundle}
    (h : (service.context assetUrn).Trace calls (.ok context)) :
    ∃ result, calls = [⟨.adapter (.fetchContext assetUrn), .ok result⟩] ∧
      context = service.contextBundle assetUrn result := by
  replace h := trace_adapter_bind.1 h
  obtain ⟨result, rest, rfl, h⟩ := h
  replace h := trace_pure.1 h
  obtain ⟨rfl, rfl⟩ := h
  exact ⟨result, rfl, rfl⟩

theorem trace_executeVerified {proposal : CandidateProposal} {context : ContextBundle}
    {execution : CandidateExecution}
    (h : (Service.executeVerified repo checkout caseId proposal context).Trace calls
      (.ok execution)) :
    ∀ found : Findings, found.repo = repo → found.checkout = checkout →
      found.execution = execution → (executionCalls caseId proposal context found).Sublist calls := by
  replace h := trace_adapter_bind.1 h
  obtain ⟨binder, rest, rfl, h⟩ := h
  replace h := trace_refuseIf_bind.1 h
  obtain ⟨-, h⟩ := h
  replace h := trace_adapter_bind.1 h
  obtain ⟨_, rest, rfl, h⟩ := h
  replace h := trace_adapter_bind.1 h
  obtain ⟨live, rest, rfl, h⟩ := h
  replace h := trace_refuseIf_bind.1 h
  obtain ⟨hlive, h⟩ := h
  rw [Flow.exceptException, Program.trace_tryCatch] at h
  have hlive : live = true := by simpa using hlive
  rcases h with ⟨value, hvalue, htrace⟩ | ⟨_, _, error, -, -, hraised⟩
  · obtain rfl := Except.ok.inj hvalue
    rw [trace_adapter.1 htrace, hlive]
    rintro found rfl rfl rfl
    exact .cons _ (.refl _)
  · split_ifs at hraised
    · exact absurd hraised trace_throw
    · exact absurd hraised trace_throw

theorem trace_executeInCheckout {verifiedCommit : String} {proposal : CandidateProposal}
    {context : ContextBundle} {execution : CandidateExecution}
    (h : (service.executeInCheckout repo caseId verifiedCommit proposal context).Trace calls
      (.ok execution)) :
    ∃ checkout, ∀ found : Findings, found.repo = repo → found.checkout = checkout →
      found.execution = execution → (executionCalls caseId proposal context found).Sublist calls := by
  replace h := trace_adapter_bind.1 h
  obtain ⟨_, rest, rfl, h⟩ := h
  replace h := trace_adapter_bind.1 h
  obtain ⟨root, rest, rfl, h⟩ := h
  replace h := Program.trace_tryFinally_ok.1 h
  obtain ⟨inside, removal, rfl, h, -⟩ := h
  replace h := trace_git_bind.1 h
  obtain ⟨_, rest, rfl, h⟩ := h
  replace h := Program.trace_tryFinally_ok.1 h
  obtain ⟨executed, cleanup, rfl, h, -⟩ := h
  refine ⟨root ++ "/checkout", fun found hrepo hcheckout hexecution => ?_⟩
  have hsublist := trace_executeVerified h found hrepo hcheckout hexecution
  exact .cons _ (.cons _ ((List.Sublist.cons _ (hsublist.trans
    (List.sublist_append_left _ _))).trans (List.sublist_append_left _ _)))

/-! ### The whole recomputation -/

theorem trace_livePostDeployEvidence {mergedCommitSha : String} {evidence : DeploymentEvidence}
    (h : (service.livePostDeployEvidence case mergedCommitSha).Trace calls (.ok evidence)) :
    ∃ selected patch fetched found, Recomputed service case mergedCommitSha evidence
      (⟨.adapter (.producesLiveEvidence .configured), .ok true⟩ :: calls) selected patch fetched
      found := by
  rw [Service.livePostDeployEvidence] at h
  split at h
  · exact absurd h trace_throw
  · exact absurd h trace_throw
  next selected patch hselected hpatch =>
    replace h := trace_adapter_bind.1 h
    obtain ⟨repo, rest, rfl, h⟩ := h
    replace h := Program.trace_bind_ok.1 h
    obtain ⟨first, second, _, rfl, hpaths, h⟩ := h
    obtain ⟨rfl, hpath⟩ := trace_checkPatchPaths hpaths
    replace h := Program.trace_bind_ok.1 h
    obtain ⟨tipped, second, verifiedCommit, rfl, htip, h⟩ := h
    obtain ⟨originOutput, fetched, tipOutput, requestedOutput, htips⟩ := trace_verifiedBaseTip htip
    replace h := Program.trace_bind_ok.1 h
    obtain ⟨first, second, _, rfl, hmerged, h⟩ := h
    obtain ⟨rfl, hsha256⟩ := trace_checkMergedPatch hmerged
    replace h := Program.trace_bind_ok.1 h
    obtain ⟨first, second, context, rfl, hcontext, h⟩ := h
    obtain ⟨contextResult, rfl, rfl⟩ := trace_context hcontext
    replace h := trace_refuseIf_bind.1 h
    obtain ⟨hfresh, h⟩ := h
    replace h := Program.trace_bind_ok.1 h
    obtain ⟨executed, second, execution, rfl, hexecution, h⟩ := h
    obtain ⟨checkout, hexecutes⟩ := trace_executeInCheckout hexecution
    replace h := trace_pure.1 h
    obtain ⟨rfl, rfl⟩ := h
    let found : Findings := ⟨repo, originOutput, tipOutput, requestedOutput, contextResult, checkout,
      execution⟩
    obtain ⟨htipCalls, hverified⟩ := htips found rfl rfl rfl rfl
    have hexecuted := hexecutes found rfl rfl rfl
    have hfresh : (service.contextBundle case.assetUrn contextResult).source = "DATAHUB_MCP" ∧
        (service.contextBundle case.assetUrn contextResult).integration.status = .succeeded := by
      simpa using hfresh
    refine ⟨selected, patch, fetched, found, hselected, hpatch, ?_, hverified, hpath, hsha256, ?_, rfl⟩
    · simp only [List.append_assoc, List.cons_append, List.nil_append, List.append_nil]
      exact .cons_cons _ (.cons _ (htipCalls.append (.cons_cons _ (.cons_cons _ hexecuted))))
    · refine ⟨hfresh.1, ?_⟩
      have hsource := hfresh.1
      simp only [Service.contextBundle] at hsource
      split_ifs at hsource with hsucceeded
      · exact hsucceeded
      · simp at hsource
      · simp at hsource

/-- Evidence for a live incident is recomputed. -/
theorem trace_deploymentEvidence {request : VerifyDeploymentRequest} {evidence : DeploymentEvidence}
    (h : (service.deploymentEvidence case request).Trace calls (.ok evidence)) :
    (service.settings.postgres = true ∧ ∃ selected patch fetched found,
      Recomputed service case request.mergedCommitSha evidence calls selected patch fetched found) ∨
      (service.settings.postgres = false ∧ case.liveIncident = false) := by
  rw [Service.deploymentEvidence] at h
  by_cases hpostgres : service.settings.postgres = true
  · rw [if_pos hpostgres] at h
    replace h := trace_adapter_bind.1 h
    obtain ⟨live, rest, rfl, h⟩ := h
    replace h := trace_refuseIf_bind.1 h
    obtain ⟨hlive, h⟩ := h
    have hlive : live = true := by simpa using hlive
    rw [hlive]
    exact .inl ⟨hpostgres, trace_livePostDeployEvidence h⟩
  · rw [if_neg hpostgres] at h
    replace h := trace_refuseIf_bind.1 h
    obtain ⟨hlive, -⟩ := h
    exact .inr ⟨by simpa using hpostgres, hlive⟩

/-- In postgres mode only the commit of a request is read. -/
theorem verifyDeployment_congr {request request' : VerifyDeploymentRequest}
    (hpostgres : service.settings.postgres = true)
    (hcommit : request.mergedCommitSha = request'.mergedCommitSha) :
    service.verifyDeployment caseId request = service.verifyDeployment caseId request' := by
  have hevidence : ∀ case, service.deploymentEvidence case request =
      service.deploymentEvidence case request' := by
    intro case
    rw [Service.deploymentEvidence, Service.deploymentEvidence, if_pos hpostgres, if_pos hpostgres,
      hcommit]
  simp only [Service.verifyDeployment, Service.verifyDeploymentLocked, hevidence]

end

end DataRescue
