import DataRescue.Http.Client

/-!
# DataHub incidents

`DataHubGraphQLAdapter` of `packages/datahub/graphql.py`: an incident is raised or resolved by a GraphQL
mutation, and read back from the `incidentInfo` aspect until it shows what was asked for. A reply of the
mutation is walked as the source walks it, so a body of the wrong shape raises what Python raises.
-/

namespace DataRescue

open Python Concurrency

/-- The adapter after its constructor. -/
structure DataHubGraphQLAdapter where
  gmsUrl : Option String
  token : Option String := none
  readbackAttempts : Nat := 5
  readbackDelaySeconds : ℚ := 1 / 5
  readbackAttempts_pos : 1 ≤ readbackAttempts
  readbackDelaySeconds_nonneg : 0 ≤ readbackDelaySeconds

namespace DataHubGraphQLAdapter

/-! ### Replies -/

mutual

/-- `_find_urn` -/
def findUrn : Json → Option String
  | .str value => if startsWith value "urn:" then some value else none
  | .obj fields =>
    match ["urn", "incidentUrn", "id"].findSome? fun key =>
        match getField fields key with
        | some (.str candidate) => if startsWith candidate "urn:" then some candidate else none
        | _ => none with
    | some candidate => some candidate
    | none => findUrnValues fields
  | .arr items => findUrnItems items
  | _ => none

def findUrnValues : List (String × Json) → Option String
  | [] => none
  | (_, nested) :: rest =>
    match findUrn nested with
    | some candidate => some candidate
    | none => findUrnValues rest

def findUrnItems : List Json → Option String
  | [] => none
  | nested :: rest =>
    match findUrn nested with
    | some candidate => some candidate
    | none => findUrnItems rest

end

/-- `value in {False, None}`: a list or an object cannot be hashed, and zero is equal to `False`. -/
def isFalseOrNone : Option Json → Except AdapterError Bool
  | none | some .null => .ok true
  | some (.bool value) => .ok !value
  | some (.int value) => .ok (value = 0)
  | some (.float value) => .ok (value.eq (.finite 0))
  | some (.str _) => .ok false
  | some (.arr items) => .error (.typeError s!"unhashable type: '{(Json.arr items).typeName}'")
  | some (.obj fields) => .error (.typeError s!"unhashable type: '{(Json.obj fields).typeName}'")

variable (printing : Printing)

/-- The message of one GraphQL error. -/
def errorMessage (item : Json) : String :=
  match item with
  | .obj fields => printing.str ((getField fields "message").getD item)
  | item => printing.str item

/-- The `data` of a reply. -/
def dataObject (body : List (String × Json)) : Except AdapterError (List (String × Json)) :=
  match getField body "data" with
  | some (.obj data) => .ok data
  | _ => .error (.graphQLError "GraphQL response has no data object")

/-- The part of `_execute` after the response is decoded. -/
def graphQLData : Json → Except AdapterError (List (String × Json))
  | .obj body => do
    match getField body "errors" with
    | some errors =>
      if errors.truthy then
        let items ← iterate errors
        throw (.graphQLError ("; ".intercalate (items.map (errorMessage printing))))
    | none => pure ()
    dataObject body
  | body => .error (.attributeError s!"'{body.typeName}' object has no attribute 'get'")

/-- `entities`, as a list that has the asset. -/
def linkedTo (entities : Option Json) (assetUrn : String) : Bool :=
  match entities with
  | some (.arr entities) => entities.contains (.str assetUrn)
  | _ => false

/-- `_validate_incident_info` -/
def validateIncidentInfo (info : List (String × Json))
    (expectedState expectedAssetUrn expectedTitle : Option String) : Except AdapterError String :=
  match getField info "status" with
  | some (.obj status) =>
    match getField status "state" with
    | some (.str state) =>
      if expectedState.any (state ≠ ·) then
        let shown := printing.repr (.str state)
        let expected := printing.repr ((expectedState.map Json.str).getD .null)
        .error (.graphQLError s!"incidentInfo state {shown} does not match {expected}")
      else if expectedTitle.any fun expected => getField info "title" ≠ some (.str expected) then
        .error (.graphQLError "incidentInfo title does not match the requested incident")
      else if expectedAssetUrn.any fun expected => !linkedTo (getField info "entities") expected then
        .error (.graphQLError "incidentInfo is not linked to the requested DataHub asset")
      else .ok state
    | _ => .error (.graphQLError "incidentInfo has no persisted status state")
  | _ => .error (.graphQLError "incidentInfo has no persisted status state")

/-- The `incidentInfo` of a read-back reply. -/
def readbackInfo : Json → Except AdapterError (List (String × Json))
  | .obj body =>
    match getField body "value" with
    | some (.obj info) => .ok info
    | _ => .error (.graphQLError "incidentInfo read-back returned no value object")
  | _ => .error (.graphQLError "incidentInfo read-back returned no value object")

/-! ### Requests -/

/-- `except (httpx.HTTPError, DataHubGraphQLError, ValueError)` -/
def catches : AdapterError → Bool
  | .httpError _ | .graphQLError _ | .valueError _ => true
  | _ => false

variable (adapter : DataHubGraphQLAdapter)

/-- `if not self.gms_url`, with the URL. -/
def configuredUrl : Option String :=
  match adapter.gmsUrl with
  | some gmsUrl => if gmsUrl ≠ "" then some gmsUrl else none
  | none => none

/-- `_execute` -/
def execute (query : String) (queryVariables : Json) : Http (List (String × Json)) := do
  match adapter.configuredUrl with
  | none => Http.throw (.graphQLError "DataHub GMS is not configured")
  | some gmsUrl =>
    let url := s!"{gmsUrl}/api/graphql"
    let response ← Http.post url (("Content-Type", "application/json") :: bearer adapter.token)
      (.obj [("query", .str query), ("variables", queryVariables)])
    Http.lift do
      let body ← Http.jsonBody printing url response
      graphQLData printing body

def incidentInfoUrl (gmsUrl incidentUrn : String) : String :=
  s!"{gmsUrl}/openapi/v3/entity/incident/{quoteUrl incidentUrn}/incidentInfo"

/-- One attempt of a read-back. -/
def readIncidentInfoOnce (gmsUrl incidentUrn : String)
    (expectedState expectedAssetUrn expectedTitle : Option String) : Http (List (String × Json)) := do
  let url := incidentInfoUrl gmsUrl incidentUrn
  let response ← Http.get url (bearer adapter.token)
  Http.lift do
    let body ← Http.jsonBody printing url response
    let info ← readbackInfo body
    let _ ← validateIncidentInfo printing info expectedState expectedAssetUrn expectedTitle
    pure info

/-- `_read_incident_info` -/
def readIncidentInfo (incidentUrn : String)
    (expectedState expectedAssetUrn expectedTitle : Option String) : Http (List (String × Json)) := do
  match adapter.configuredUrl with
  | none => Http.throw (.graphQLError "DataHub GMS is not configured")
  | some gmsUrl =>
    if !startsWith incidentUrn "urn:li:incident:" then
      Http.throw (.graphQLError "Incident read-back requires an incident URN")
    else
      Http.retry adapter.readbackDelaySeconds catches
        (adapter.readIncidentInfoOnce printing gmsUrl incidentUrn expectedState expectedAssetUrn
          expectedTitle)
        (fun lastError => .graphQLError
          s!"incident mutation was not confirmed by DataHub incidentInfo read-back after {adapter.readbackAttempts} attempt(s): {lastErrorText lastError}")
        adapter.readbackAttempts none

def notConfigured (operation : String) : IntegrationResult where
  status := .notConfigured
  operation := operation
  message := "DATARESCUE_DATAHUB_GMS_URL is not configured; no remote write was claimed"

def raiseMutation : String := "
        mutation RaiseIncident($input: RaiseIncidentInput!) \x7b
          raiseIncident(input: $input)
        \x7d
        "

def resolveMutation : String := "
        mutation ResolveIncident($urn: String!, $input: IncidentStatusInput!) \x7b
          updateIncidentStatus(urn: $urn, input: $input)
        \x7d
        "

def incidentTitle (caseId : String) : String := s!"DataRescue schema drift {caseId}"

def raiseVariables (assetUrn caseId description : String) : Json :=
  .obj [("input", .obj [("resourceUrn", .str assetUrn), ("type", .str "DATA_SCHEMA"),
    ("title", .str (incidentTitle caseId)), ("description", .str description)])]

def resolveVariables (incidentUrn : String) : Json :=
  .obj [("urn", .str incidentUrn), ("input", .obj [("state", .str "RESOLVED"),
    ("message", .str "DataRescue post-deploy evidence gates passed.")])]

/-- The mutation and the read-back of `raise_incident`, with the URN they agree on. -/
def raiseAndReadBack (assetUrn caseId description : String) : Http String := do
  let data ← adapter.execute printing raiseMutation (raiseVariables assetUrn caseId description)
  match findUrn ((getField data "raiseIncident").getD .null) with
  | none => Http.throw (.graphQLError "raiseIncident returned no valid incident URN")
  | some resourceId =>
    if !startsWith resourceId "urn:li:incident:" then
      Http.throw (.graphQLError "raiseIncident returned no valid incident URN")
    else
      let _ ← adapter.readIncidentInfo printing resourceId (some "ACTIVE") (some assetUrn)
        (some (incidentTitle caseId))
      pure resourceId

/-- `raise_incident` -/
def raiseIncident (assetUrn caseId description : String) : Http IntegrationResult :=
  match adapter.configuredUrl with
  | none => pure (notConfigured "raise_incident")
  | some _ =>
    Program.tryCatch (do
      let resourceId ← adapter.raiseAndReadBack printing assetUrn caseId description
      pure
        { status := .succeeded
          operation := "raise_incident"
          message := "DataHub incident raised and left active"
          resourceId := some resourceId
          evidenceRefs := [resourceId]
          details := [("readback_verified", .bool true), ("remote_state", .str "ACTIVE")] })
    fun error =>
      if catches error then
        pure
          { status := .failed
            operation := "raise_incident"
            message := s!"DataHub incident creation failed: {error.text}"
            details := [("asset_urn", .str assetUrn)] }
      else Http.throw error

/-- The mutation and the read-back of `resolve_incident`. -/
def resolveAndReadBack (incidentUrn : String) : Http Unit := do
  if !startsWith incidentUrn "urn:li:incident:" then
    Http.throw (.graphQLError "Incident resolution requires an incident URN")
  else
    let data ← adapter.execute printing resolveMutation (resolveVariables incidentUrn)
    let refused ← Http.lift (isFalseOrNone (getField data "updateIncidentStatus"))
    if refused then
      Http.throw (.graphQLError "updateIncidentStatus did not confirm success")
    else
      let _ ← adapter.readIncidentInfo printing incidentUrn (some "RESOLVED") none none
      pure ()

/-- `resolve_incident` -/
def resolveIncident (incidentUrn : String) : Http IntegrationResult :=
  match adapter.configuredUrl with
  | none => pure (notConfigured "resolve_incident")
  | some _ =>
    Program.tryCatch (do
      adapter.resolveAndReadBack printing incidentUrn
      pure
        { status := .succeeded
          operation := "resolve_incident"
          message := "DataHub incident resolved after post-deploy verification"
          resourceId := some incidentUrn
          evidenceRefs := [incidentUrn]
          details := [("readback_verified", .bool true), ("remote_state", .str "RESOLVED")] })
    fun error =>
      if catches error then
        pure
          { status := .failed
            operation := "resolve_incident"
            message := s!"DataHub incident resolution failed: {error.text}"
            resourceId := some incidentUrn }
      else Http.throw error

end DataHubGraphQLAdapter

end DataRescue
