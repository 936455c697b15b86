import DataRescue.Datahub.GraphQL
import DataRescue.Datahub.Mcp
import DataRescue.Http.Runs

/-!
# Read-backs of incidents

An incident that is reported as raised or resolved was read back: an attempt of a read-back ends well
only when its response shows what was asked for (`readIncidentInfoOnce_ok`).
-/

namespace DataRescue

open Python Concurrency

namespace DataHubGraphQLAdapter

/-- The `incidentInfo` has this state. -/
def HasState (info : Fields) (state : String) : Prop :=
  ∃ status, getField info "status" = some (.obj status) ∧ getField status "state" = some (.str state)

/-- The `incidentInfo` has this title. -/
def HasTitle (info : Fields) (title : String) : Prop := getField info "title" = some (.str title)

/-- The `incidentInfo` is about this asset. -/
def HasEntity (info : Fields) (assetUrn : String) : Prop :=
  ∃ entities, getField info "entities" = some (.arr entities) ∧ .str assetUrn ∈ entities

/-- A request for the `incidentInfo` of an incident, and a response with this one. -/
def ShowsIncident (gmsUrl incidentUrn : String) (info : Fields) (call : HttpCall) : Prop :=
  ∃ headers response body,
    call = ⟨.get (incidentInfoUrl gmsUrl incidentUrn) headers, .ok response⟩ ∧
      Http.Decoded response (.obj body) ∧ getField body "value" = some (.obj info)

variable (printing : Printing)

/-- A GraphQL request, and a response with this data and without errors. -/
def AnswersQuery (gmsUrl query : String) (queryVariables : Json) (data : Fields) (call : HttpCall) :
    Prop :=
  ∃ headers response body,
    call = ⟨.post s!"{gmsUrl}/api/graphql" headers
      (.obj [("query", .str query), ("variables", queryVariables)]), .ok response⟩ ∧
      Http.Decoded response body ∧ graphQLData printing body = .ok data

variable {printing} {adapter : DataHubGraphQLAdapter}

theorem readbackInfo_ok {body : Json} {info : Fields} (h : readbackInfo body = .ok info) :
    ∃ fields, body = .obj fields ∧ getField fields "value" = some (.obj info) := by
  cases body with
  | obj fields =>
    simp only [readbackInfo] at h
    split at h
    next info' hvalue =>
      cases h
      exact ⟨fields, rfl, hvalue⟩
    next => exact absurd h (by simp)
  | _ => exact absurd h (by simp [readbackInfo])

theorem linkedTo_iff {info : Fields} {assetUrn : String} :
    linkedTo (getField info "entities") assetUrn = true ↔ HasEntity info assetUrn := by
  unfold linkedTo
  split
  next entities hentities =>
    rw [List.contains_iff_mem]
    exact ⟨fun h => ⟨entities, hentities, h⟩, fun ⟨_, heq, h⟩ => by cases hentities ▸ heq; exact h⟩
  next hentities =>
    exact ⟨fun h => absurd h (by simp), fun ⟨entities, heq, _⟩ => absurd heq (hentities entities)⟩

theorem validateIncidentInfo_ok {info : Fields}
    {expectedState expectedAssetUrn expectedTitle : Option String} {state : String}
    (h : validateIncidentInfo printing info expectedState expectedAssetUrn expectedTitle = .ok state) :
    (∀ expected, expectedState = some expected → HasState info expected) ∧
      (∀ expected, expectedTitle = some expected → HasTitle info expected) ∧
      ∀ expected, expectedAssetUrn = some expected → HasEntity info expected := by
  rw [validateIncidentInfo] at h
  split at h
  next status hstatus =>
    split at h
    next shown hshown =>
      split at h
      · exact absurd h (by simp)
      next hstate =>
        split at h
        · exact absurd h (by simp)
        next htitle =>
          split at h
          · exact absurd h (by simp)
          next hentity =>
            refine ⟨?_, ?_, ?_⟩
            · rintro expected rfl
              have heq : shown = expected := by simpa using hstate
              exact ⟨status, hstatus, heq ▸ hshown⟩
            · rintro expected rfl
              simpa [HasTitle] using htitle
            · rintro expected rfl
              exact linkedTo_iff.1 (by simpa using hentity)
    next => exact absurd h (by simp)
  next => exact absurd h (by simp)

theorem readIncidentInfoOnce_ok {gmsUrl incidentUrn : String}
    {expectedState expectedAssetUrn expectedTitle : Option String} {calls : List HttpCall}
    {info : Fields}
    (h : (adapter.readIncidentInfoOnce printing gmsUrl incidentUrn expectedState expectedAssetUrn
      expectedTitle).Trace calls (.ok info)) :
    ∃ call, calls = [call] ∧ ShowsIncident gmsUrl incidentUrn info call ∧
      (∀ expected, expectedState = some expected → HasState info expected) ∧
      (∀ expected, expectedTitle = some expected → HasTitle info expected) ∧
      ∀ expected, expectedAssetUrn = some expected → HasEntity info expected := by
  obtain ⟨response, rfl, hread⟩ := Http.trace_request_ok.1 h
  obtain ⟨body, hbody, hread⟩ := bind_eq_ok.1 hread
  obtain ⟨shown, hshown, hread⟩ := bind_eq_ok.1 hread
  obtain ⟨state, hvalid, heq⟩ := bind_eq_ok.1 hread
  cases heq
  obtain ⟨fields, rfl, hvalue⟩ := readbackInfo_ok hshown
  exact ⟨_, rfl, ⟨_, response, fields, rfl, Http.jsonBody_ok.1 hbody, hvalue⟩,
    validateIncidentInfo_ok hvalid⟩

theorem readIncidentInfo_ok {incidentUrn : String}
    {expectedState expectedAssetUrn expectedTitle : Option String} {calls : List HttpCall}
    {info : Fields}
    (h : (adapter.readIncidentInfo printing incidentUrn expectedState expectedAssetUrn
      expectedTitle).Trace calls (.ok info)) :
    ∃ gmsUrl call, adapter.configuredUrl = some gmsUrl ∧ call ∈ calls ∧
      ShowsIncident gmsUrl incidentUrn info call ∧
      (∀ expected, expectedState = some expected → HasState info expected) ∧
      (∀ expected, expectedTitle = some expected → HasTitle info expected) ∧
      ∀ expected, expectedAssetUrn = some expected → HasEntity info expected := by
  rw [readIncidentInfo] at h
  split at h
  next => exact absurd (Program.trace_done.1 h).2 (by simp)
  next gmsUrl hgmsUrl =>
    split at h
    · exact absurd (Program.trace_done.1 h).2 (by simp)
    · obtain ⟨before, last, rfl, hlast⟩ := Http.retry_ok h
      obtain ⟨call, rfl, hshows⟩ := readIncidentInfoOnce_ok hlast
      exact ⟨gmsUrl, call, hgmsUrl, by simp, hshows⟩

theorem execute_ok {query : String} {queryVariables : Json} {calls : List HttpCall} {data : Fields}
    (h : (adapter.execute printing query queryVariables).Trace calls (.ok data)) :
    ∃ gmsUrl call, adapter.configuredUrl = some gmsUrl ∧ calls = [call] ∧
      AnswersQuery printing gmsUrl query queryVariables data call := by
  rw [execute] at h
  split at h
  next => exact absurd (Program.trace_done.1 h).2 (by simp)
  next gmsUrl hgmsUrl =>
    obtain ⟨response, rfl, hread⟩ := Http.trace_request_ok.1 h
    obtain ⟨body, hbody, hdata⟩ := bind_eq_ok.1 hread
    exact ⟨gmsUrl, _, hgmsUrl, rfl, _, response, body, rfl, Http.jsonBody_ok.1 hbody, hdata⟩

/-! ### The number of read-backs -/

/-- A request of an `incidentInfo`. -/
def isReadback : HttpOp → Bool
  | .get .. => true
  | _ => false

theorem execute_uses {query : String} {queryVariables : Json} :
    (adapter.execute printing query queryVariables).Uses fun op => isReadback op = false := by
  rw [execute]
  split
  · exact .done _
  · exact .call rfl fun answer => by cases answer <;> exact .done _

theorem readIncidentInfo_atMost {incidentUrn : String}
    {expectedState expectedAssetUrn expectedTitle : Option String} :
    (adapter.readIncidentInfo printing incidentUrn expectedState expectedAssetUrn
      expectedTitle).AtMost isReadback adapter.readbackAttempts := by
  rw [readIncidentInfo]
  split
  · exact Program.atMost_done
  · split
    · exact Program.atMost_done
    · refine Http.retry_atMost ?_ rfl _ _
      exact Program.AtMost.bind_uses Program.atMost_perform fun _ => .done _

/-! ### Incidents raised and resolved -/

variable (printing adapter) in
/-- The first call was a mutation with an accepted answer, and a later one a read-back of the incident
that shows what was asked for. -/
def Confirmed (query : String) (queryVariables : Json) (accepted : Fields → Prop)
    (incidentUrn : String) (shown : Fields → Prop) (calls : List HttpCall) : Prop :=
  ∃ gmsUrl data info mutation rest, adapter.configuredUrl = some gmsUrl ∧ calls = mutation :: rest ∧
    AnswersQuery printing gmsUrl query queryVariables data mutation ∧ accepted data ∧
    ∃ call ∈ rest, ShowsIncident gmsUrl incidentUrn info call ∧ shown info

theorem raiseAndReadBack_ok {assetUrn caseId description incidentUrn : String} {calls : List HttpCall}
    (h : (adapter.raiseAndReadBack printing assetUrn caseId description).Trace calls
      (.ok incidentUrn)) :
    startsWith incidentUrn "urn:li:incident:" = true ∧
      Confirmed printing adapter raiseMutation (raiseVariables assetUrn caseId description)
        (fun data => findUrn ((getField data "raiseIncident").getD .null) = some incidentUrn) incidentUrn
        (fun info => HasState info "ACTIVE" ∧ HasTitle info (incidentTitle caseId) ∧
          HasEntity info assetUrn) calls := by
  obtain ⟨first, second, data, rfl, hfirst, hsecond⟩ := Program.trace_bind_ok.1 h
  obtain ⟨gmsUrl, mutation, hgmsUrl, rfl, hmutation⟩ := execute_ok hfirst
  split at hsecond
  next => exact absurd (Program.trace_done.1 hsecond).2 (by simp)
  next resourceId hfound =>
    split at hsecond
    · exact absurd (Program.trace_done.1 hsecond).2 (by simp)
    next hurn =>
      obtain ⟨reading, _, info, rfl, hreading, hdone⟩ := Program.trace_bind_ok.1 hsecond
      obtain ⟨rfl, heq⟩ := Program.trace_done.1 hdone
      cases heq
      obtain ⟨gmsUrl', call, hgmsUrl', hcall, hshows, hstate, htitle, hentity⟩ :=
        readIncidentInfo_ok hreading
      obtain rfl : gmsUrl = gmsUrl' := Option.some.inj (hgmsUrl.symm.trans hgmsUrl')
      refine ⟨by simpa using hurn, gmsUrl, data, info, mutation, _, hgmsUrl, rfl, hmutation, hfound, call,
        by simp [hcall], hshows, hstate _ rfl, htitle _ rfl, hentity _ rfl⟩

theorem resolveAndReadBack_ok {incidentUrn : String} {calls : List HttpCall}
    (h : (adapter.resolveAndReadBack printing incidentUrn).Trace calls (.ok ())) :
    startsWith incidentUrn "urn:li:incident:" = true ∧
      Confirmed printing adapter resolveMutation (resolveVariables incidentUrn)
        (fun data => isFalseOrNone (getField data "updateIncidentStatus") = .ok false) incidentUrn
        (fun info => HasState info "RESOLVED") calls := by
  rw [resolveAndReadBack] at h
  split at h
  · exact absurd (Program.trace_done.1 h).2 (by simp)
  next hurn =>
    obtain ⟨first, second, data, rfl, hfirst, hsecond⟩ := Program.trace_bind_ok.1 h
    obtain ⟨gmsUrl, mutation, hgmsUrl, rfl, hmutation⟩ := execute_ok hfirst
    obtain ⟨_, reading, refused, rfl, hrefused, hreading⟩ := Program.trace_bind_ok.1 hsecond
    obtain ⟨rfl, hstatus⟩ := Http.trace_lift.1 hrefused
    split at hreading
    · exact absurd (Program.trace_done.1 hreading).2 (by simp)
    next haccepted =>
      obtain ⟨reading, _, info, rfl, hreading, hdone⟩ := Program.trace_bind_ok.1 hreading
      obtain ⟨gmsUrl', call, hgmsUrl', hcall, hshows, hstate, -⟩ := readIncidentInfo_ok hreading
      obtain rfl : gmsUrl = gmsUrl' := Option.some.inj (hgmsUrl.symm.trans hgmsUrl')
      rw [Bool.not_eq_true] at haccepted
      rw [haccepted] at hstatus
      exact ⟨by simpa using hurn, gmsUrl, data, info, mutation, _, hgmsUrl, rfl, hmutation, hstatus.symm,
        call, by simp [hcall], hshows, hstate _ rfl⟩

theorem raiseIncident_ok {assetUrn caseId description : String} {calls : List HttpCall}
    {result : IntegrationResult}
    (h : (adapter.raiseIncident printing assetUrn caseId description).Trace calls (.ok result))
    (hsucceeded : result.status = .succeeded) :
    ∃ incidentUrn, result.resourceId = some incidentUrn ∧
      startsWith incidentUrn "urn:li:incident:" = true ∧
      Confirmed printing adapter raiseMutation (raiseVariables assetUrn caseId description)
        (fun data => findUrn ((getField data "raiseIncident").getD .null) = some incidentUrn) incidentUrn
        (fun info => HasState info "ACTIVE" ∧ HasTitle info (incidentTitle caseId) ∧
          HasEntity info assetUrn) calls := by
  rw [raiseIncident] at h
  split at h
  next =>
    obtain ⟨-, heq⟩ := Program.trace_done.1 h
    cases heq
    exact absurd hsucceeded (by simp [notConfigured])
  next =>
    rcases Http.reported_ok h with ⟨incidentUrn, rfl, hreading⟩ | ⟨error, rfl⟩
    · exact ⟨incidentUrn, rfl, raiseAndReadBack_ok hreading⟩
    · exact absurd hsucceeded (by simp)

theorem resolveIncident_ok {incidentUrn : String} {calls : List HttpCall} {result : IntegrationResult}
    (h : (adapter.resolveIncident printing incidentUrn).Trace calls (.ok result))
    (hsucceeded : result.status = .succeeded) :
    startsWith incidentUrn "urn:li:incident:" = true ∧
      Confirmed printing adapter resolveMutation (resolveVariables incidentUrn)
        (fun data => isFalseOrNone (getField data "updateIncidentStatus") = .ok false) incidentUrn
        (fun info => HasState info "RESOLVED") calls := by
  rw [resolveIncident] at h
  split at h
  next =>
    obtain ⟨-, heq⟩ := Program.trace_done.1 h
    cases heq
    exact absurd hsucceeded (by simp [notConfigured])
  next =>
    rcases Http.reported_ok h with ⟨_, rfl, hreading⟩ | ⟨error, rfl⟩
    · exact resolveAndReadBack_ok hreading
    · exact absurd hsucceeded (by simp)

theorem raiseIncident_atMost {assetUrn caseId description : String} :
    (adapter.raiseIncident printing assetUrn caseId description).AtMost isReadback
      adapter.readbackAttempts := by
  rw [raiseIncident]
  split
  · exact Program.atMost_done
  · refine Http.reported_atMost (Program.Uses.bind_atMost execute_uses fun data => ?_)
    split
    · exact Program.atMost_done
    · split
      · exact Program.atMost_done
      · exact readIncidentInfo_atMost.bind_uses fun _ => .done _

theorem resolveIncident_atMost {incidentUrn : String} :
    (adapter.resolveIncident printing incidentUrn).AtMost isReadback adapter.readbackAttempts := by
  rw [resolveIncident]
  split
  · exact Program.atMost_done
  · refine Http.reported_atMost ?_
    rw [resolveAndReadBack]
    split
    · exact Program.atMost_done
    · refine Program.Uses.bind_atMost execute_uses fun data => ?_
      refine Program.Uses.bind_atMost (.done _) fun refused => ?_
      split
      · exact Program.atMost_done
      · exact readIncidentInfo_atMost.bind_uses fun _ => .done _

end DataHubGraphQLAdapter

end DataRescue
