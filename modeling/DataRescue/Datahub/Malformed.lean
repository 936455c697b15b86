import DataRescue.Datahub.MalformedIncidents
import DataRescue.Datahub.MalformedResults
import DataRescue.Remediation.MalformedProposals

/-!
# Malformed answers

The adapters catch a fixed list of exceptions, and nearly every access to a decoded value is guarded by
a check of its type. An operation answers in every run but those in which the remote side sent what is
not checked (`answers_iff`).
-/

namespace DataRescue

open Python Concurrency

def Reported (result : IntegrationResult) : Prop :=
  result.status = .succeeded ∨ result.status = .failed

/-- The run returned a result that says `SUCCEEDED` or `FAILED`. -/
def Answers {α : Type} (integration : α → IntegrationResult) (ended : Except AdapterError α) : Prop :=
  ∃ result, ended = .ok result ∧ Reported (integration result)

/-- A run answers unless the remote side sends what an operation does not check. For each operation,
the runs that raise are those with such a response. -/
theorem answers_iff (printing : Printing) (graphQL : DataHubGraphQLAdapter) (mcp : DataHubMCPAdapter)
    (generator : CandidateGenerator) (assetUrn caseId : String) (calls : List HttpCall) :
    (∀ gmsUrl description ended, graphQL.configuredUrl = some gmsUrl → Remote calls →
      (graphQL.raiseIncident printing assetUrn caseId description).Trace calls ended →
        (Answers id ended ↔
          ¬∃ body, Http.Posted calls body ∧ DataHubGraphQLAdapter.MalformedReply body)) ∧
    (∀ gmsUrl incidentUrn ended, graphQL.configuredUrl = some gmsUrl → Remote calls →
      (graphQL.resolveIncident printing incidentUrn).Trace calls ended →
        (Answers id ended ↔
          ¬∃ body, Http.Posted calls body ∧ (DataHubGraphQLAdapter.MalformedReply body ∨
            ∃ data, DataHubGraphQLAdapter.graphQLData printing body = .ok data ∧
              DataHubGraphQLAdapter.MalformedStatus data))) ∧
    (∀ url ended, DataHubMCPAdapter.given mcp.endpoint = some url → Remote calls →
      (mcp.fetchContext printing assetUrn).Trace calls ended →
        (Answers DataHubMCPAdapter.MCPContextResult.integration ended ↔
          ¬DataHubMCPAdapter.AsksUnreadable printing mcp (DataHubMCPAdapter.contextCalls assetUrn)
            calls)) ∧
    (∀ url report degraded ended, DataHubMCPAdapter.given mcp.endpoint = some url → Remote calls →
      (mcp.writeEvidenceReport printing assetUrn caseId report degraded).Trace calls ended →
        (Answers id ended ↔
          ¬DataHubMCPAdapter.SavesUnreadable printing mcp
            (mcp.saveCall assetUrn caseId (printing.dumps report) degraded) assetUrn
            (printing.dumps report) calls)) ∧
    (∀ apiKey event context ended, generator.configuredKey = some apiKey → Remote calls →
      (generator.propose printing event context).Trace calls ended →
        ((∃ result, ended = .ok result ∧ (result.integration.status = .succeeded ∨
            result.integration.status = .failed ∧
              result.candidates = CandidateGenerator.deterministicCandidates event context)) ↔
          ¬∃ body, Http.Posted calls body ∧ ∀ fields, body ≠ .obj fields)) := by
  refine ⟨?_, ?_, ?_, ?_, ?_⟩
  · intro gmsUrl description ended hgmsUrl hremote h
    rw [DataHubGraphQLAdapter.raiseIncident, hgmsUrl] at h
    obtain ⟨body, hbody, hanswers⟩ := Http.reported_answered Reported h
      (fun _ => .inl rfl) fun _ => .inr rfl
    exact hanswers.trans
      (not_congr (DataHubGraphQLAdapter.raiseAndReadBack_uncaught hgmsUrl hremote hbody))
  · intro gmsUrl incidentUrn ended hgmsUrl hremote h
    rw [DataHubGraphQLAdapter.resolveIncident, hgmsUrl] at h
    obtain ⟨body, hbody, hanswers⟩ := Http.reported_answered Reported h
      (fun _ => .inl rfl) fun _ => .inr rfl
    exact hanswers.trans
      (not_congr (DataHubGraphQLAdapter.resolveAndReadBack_uncaught hgmsUrl hremote hbody))
  · intro url ended hurl hremote h
    rw [DataHubMCPAdapter.fetchContext, hurl] at h
    obtain ⟨body, hbody, hanswers⟩ := Http.reported_answered (fun result => Reported result.integration) h
      (fun _ => .inl rfl) fun _ => .inr rfl
    exact hanswers.trans (not_congr (DataHubMCPAdapter.readContext_uncaught hurl hremote hbody))
  · intro url report degraded ended hurl hremote h
    rw [DataHubMCPAdapter.writeEvidenceReport, hurl] at h
    obtain ⟨body, hbody, hanswers⟩ := Http.reported_answered Reported h
      (fun _ => .inl rfl) fun _ => .inr rfl
    exact hanswers.trans (not_congr (DataHubMCPAdapter.saveAndReadBack_uncaught hurl hremote hbody))
  · intro apiKey event context ended hkey hremote h
    rw [CandidateGenerator.propose, hkey] at h
    obtain ⟨body, hbody, hanswers⟩ := Http.reported_answered
      (fun result => result.integration.status = .succeeded ∨ result.integration.status = .failed ∧
        result.candidates = CandidateGenerator.deterministicCandidates event context) h
      (fun _ => .inl rfl) fun _ => .inr ⟨rfl, rfl⟩
    exact hanswers.trans
      (not_congr (CandidateGenerator.openaiCandidates_uncaught hremote hbody))

/-- A GMS that is configured, without a token. -/
def someGms : DataHubGraphQLAdapter where
  gmsUrl := some "http://gms"
  readbackAttempts_pos := by decide
  readbackDelaySeconds_nonneg := by norm_num

/-- The answer `[]` to the mutation of `resolve_incident`. -/
def listReply : List HttpCall :=
  [⟨.post "http://gms/api/graphql" [("Content-Type", "application/json")]
      (.obj [("query", .str DataHubGraphQLAdapter.resolveMutation),
        ("variables", DataHubGraphQLAdapter.resolveVariables "urn:li:incident:1")]),
    .ok { status := 200, text := "[]" }⟩]

theorem listReply_raises (printing : Printing) :
    (someGms.resolveIncident printing "urn:li:incident:1").Trace listReply
      (.error (.attributeError "'list' object has no attribute 'get'")) := by
  have hloads : loads "[]" = .ok (.arr []) := by decide +kernel
  have hbody (url : String) : Http.jsonBody printing url { status := 200, text := "[]" } =
      .ok (.arr []) := by
    simp [Http.jsonBody, Http.raiseForStatus, Http.decode, hloads, Except.mapError, bind, Except.bind]
  have hexecute : (someGms.execute printing DataHubGraphQLAdapter.resolveMutation
      (DataHubGraphQLAdapter.resolveVariables "urn:li:incident:1")).Trace listReply
      (.error (.attributeError "'list' object has no attribute 'get'")) := by
    refine Http.trace_request.2 ⟨.ok { status := 200, text := "[]" }, rfl, ?_⟩
    simp only [Except.bind, hbody]
    rfl
  have hmutation : (someGms.resolveAndReadBack printing "urn:li:incident:1").Trace listReply
      (.error (.attributeError "'list' object has no attribute 'get'")) :=
    Program.trace_bind_error.2 (.inl hexecute)
  unfold DataHubGraphQLAdapter.resolveIncident
  have hconfigured : someGms.configuredUrl = some "http://gms" := by decide
  rw [hconfigured]
  refine Program.trace_tryCatch.2 (.inr ⟨listReply, [], _, (List.append_nil _).symm,
    Program.trace_bind_error.2 (.inl hmutation), ?_⟩)
  exact Program.trace_done.2 ⟨rfl, rfl⟩

/-- The answer `[]` to the mutation of `resolve_incident` raises. -/
theorem answers_counterexample :
    ¬∀ (printing : Printing) (calls : List HttpCall), Remote calls →
      (∀ (graphQL : DataHubGraphQLAdapter) (assetUrn caseId description : String) ended,
        graphQL.configuredUrl ≠ none →
        (graphQL.raiseIncident printing assetUrn caseId description).Trace calls ended →
          Answers id ended) ∧
      (∀ (graphQL : DataHubGraphQLAdapter) (incidentUrn : String) ended,
        graphQL.configuredUrl ≠ none →
        (graphQL.resolveIncident printing incidentUrn).Trace calls ended → Answers id ended) ∧
      (∀ (mcp : DataHubMCPAdapter) (assetUrn : String) ended,
        DataHubMCPAdapter.given mcp.endpoint ≠ none →
        (mcp.fetchContext printing assetUrn).Trace calls ended →
          Answers DataHubMCPAdapter.MCPContextResult.integration ended) ∧
      (∀ (mcp : DataHubMCPAdapter) (assetUrn caseId : String) report degraded ended,
        DataHubMCPAdapter.given mcp.endpoint ≠ none →
        (mcp.writeEvidenceReport printing assetUrn caseId report degraded).Trace calls ended →
          Answers id ended) ∧
      ∀ (generator : CandidateGenerator) event context ended, generator.configuredKey ≠ none →
        (generator.propose printing event context).Trace calls ended →
          ∃ result, ended = .ok result ∧ (result.integration.status = .succeeded ∨
            result.integration.status = .failed ∧
              result.candidates = CandidateGenerator.deterministicCandidates event context) := by
  intro h
  let printing : Printing :=
    ⟨fun _ => "", fun _ => "", fun _ => "", fun _ => "", fun _ _ => "", fun _ _ => ""⟩
  have hremote : Remote listReply := by
    intro op error hmem
    cases List.mem_singleton.1 hmem
  obtain ⟨-, hresolve, -⟩ := h printing listReply hremote
  obtain ⟨result, hresult, -⟩ :=
    hresolve someGms "urn:li:incident:1" _ (by decide) (listReply_raises printing)
  cases hresult

end DataRescue

