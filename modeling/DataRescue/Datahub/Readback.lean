import DataRescue.Datahub.DocumentReadback
import DataRescue.Datahub.IncidentReadback

/-!
# Read-backs

A write to DataHub that is reported as done was read back. The runs are those of any answers, so stale
reads and failed requests may come before the one that shows what was written.
-/

namespace DataRescue

open Python Concurrency

/-- `SUCCEEDED` is an exact read-back, in every run of the three writes, and no run reads back more
often than it may. What is not a read-back of the report is the session that saves it. -/
theorem succeeded_readBack (printing : Printing) (graphQL : DataHubGraphQLAdapter)
    (mcp : DataHubMCPAdapter) (assetUrn caseId : String) (calls : List HttpCall) :
    (∀ description result,
      (graphQL.raiseIncident printing assetUrn caseId description).Trace calls result →
        (∀ integration, result = .ok integration → integration.status = .succeeded →
          ∃ incidentUrn, integration.resourceId = some incidentUrn ∧
            startsWith incidentUrn "urn:li:incident:" = true ∧
            graphQL.Confirmed printing DataHubGraphQLAdapter.raiseMutation
              (DataHubGraphQLAdapter.raiseVariables assetUrn caseId description)
              (fun data => DataHubGraphQLAdapter.findUrn ((getField data "raiseIncident").getD .null) =
                some incidentUrn) incidentUrn
              (fun info => DataHubGraphQLAdapter.HasState info "ACTIVE" ∧
                DataHubGraphQLAdapter.HasTitle info (DataHubGraphQLAdapter.incidentTitle caseId) ∧
                DataHubGraphQLAdapter.HasEntity info assetUrn) calls) ∧
          calls.countP (DataHubGraphQLAdapter.isReadback ·.1) ≤ graphQL.readbackAttempts) ∧
    (∀ incidentUrn result, (graphQL.resolveIncident printing incidentUrn).Trace calls result →
        (∀ integration, result = .ok integration → integration.status = .succeeded →
          startsWith incidentUrn "urn:li:incident:" = true ∧
            graphQL.Confirmed printing DataHubGraphQLAdapter.resolveMutation
              (DataHubGraphQLAdapter.resolveVariables incidentUrn)
              (fun data => DataHubGraphQLAdapter.isFalseOrNone (getField data "updateIncidentStatus") =
                .ok false) incidentUrn
              (fun info => DataHubGraphQLAdapter.HasState info "RESOLVED") calls) ∧
          calls.countP (DataHubGraphQLAdapter.isReadback ·.1) ≤ graphQL.readbackAttempts) ∧
    (∀ report degraded result,
      (mcp.writeEvidenceReport printing assetUrn caseId report degraded).Trace calls result →
        (∀ integration, result = .ok integration → integration.status = .succeeded →
          ∃ documentUrn, integration.resourceId = some documentUrn ∧
            mcp.SavedAndShown printing assetUrn caseId (printing.dumps report) degraded documentUrn
              calls) ∧
          ∃ saving reading, calls = saving ++ reading ∧ saving.length ≤ 3 ∧
            reading.countP (DataHubMCPAdapter.isReadback ·.1) ≤ mcp.readbackAttempts) := by
  refine ⟨fun description result h => ⟨?_, DataHubGraphQLAdapter.raiseIncident_atMost _ _ h⟩,
    fun incidentUrn result h => ⟨?_, DataHubGraphQLAdapter.resolveIncident_atMost _ _ h⟩,
    fun report degraded result h => ⟨?_, DataHubMCPAdapter.writeEvidenceReport_readbacks h⟩⟩
  · rintro integration rfl hsucceeded
    exact DataHubGraphQLAdapter.raiseIncident_ok h hsucceeded
  · rintro integration rfl hsucceeded
    exact DataHubGraphQLAdapter.resolveIncident_ok h hsucceeded
  · rintro integration rfl hsucceeded
    exact DataHubMCPAdapter.writeEvidenceReport_ok h hsucceeded

end DataRescue
