import DataRescue.Datahub.Mcp

/-!
# DataHub sessions

`DataHubMCPAdapter`, second part: the calls. `fetch_context` asks for an asset in one session, and
`write_evidence_report` saves a document and reads it back, over the GMS where one is configured and
over MCP otherwise.
-/

namespace DataRescue

open Python Concurrency

/-- The adapter after its constructor. -/
structure DataHubMCPAdapter where
  endpoint : Option String
  token : Option String := none
  writeTool : String := "save_document"
  gmsUrl : Option String := none
  gmsToken : Option String := none
  readbackAttempts : Nat := 5
  readbackDelaySeconds : ℚ := 1 / 5
  readbackAttempts_pos : 1 ≤ readbackAttempts
  readbackDelaySeconds_nonneg : 0 ≤ readbackDelaySeconds

namespace DataHubMCPAdapter

def entityTool : String := "get_entities"
def schemaTool : String := "list_schema_fields"
def lineageTool : String := "get_lineage"
def documentContentTool : String := "grep_documents"

variable (printing : Printing) (adapter : DataHubMCPAdapter)

/-- `if not value`, with the value. -/
def given (value : Option String) : Option String :=
  match value with
  | some value => if value ≠ "" then some value else none
  | none => none

/-- A tool and its arguments. -/
abbrev ToolCall := String × Json

def toolRequest (callId : Nat) (tool : ToolCall) : Json :=
  .obj [("jsonrpc", .str "2.0"), ("id", .int callId), ("method", .str "tools/call"),
    ("params", .obj [("name", .str tool.1), ("arguments", tool.2)])]

def initializeRequest : Json :=
  .obj [("jsonrpc", .str "2.0"), ("id", .int 1), ("method", .str "initialize"),
    ("params", .obj [("protocolVersion", .str "2025-06-18"), ("capabilities", .obj []),
      ("clientInfo", .obj [("name", .str "datarescue"), ("version", .str "0.1.0")])])]

def initializedNotification : Json :=
  .obj [("jsonrpc", .str "2.0"), ("method", .str "notifications/initialized")]

/-- The result in the response to a tool request. -/
def toolReply (url : String) (callId : Nat) (response : HttpResponse) : Except AdapterError Json := do
  Http.raiseForStatus printing url response
  let body ← rpcBody printing response callId
  toolResult printing body

/-- The requests of the tools, in order, from a request id on. -/
def requestTools (url : String) (headers : List (String × String)) :
    Nat → List ToolCall → Http (List Json)
  | _, [] => pure []
  | callId, tool :: calls => do
    let response ← Http.post url headers (toolRequest callId tool)
    let result ← Http.lift (toolReply printing url callId response)
    let results ← requestTools url headers (callId + 1) calls
    pure (result :: results)

/-- What an `initialize` answer must be: no error, and a result of the right shape. -/
def initialized (url : String) (response : HttpResponse) : Except AdapterError String := do
  Http.raiseForStatus printing url response
  let body ← rpcBody printing response 1
  match getField body "error" with
  | some error => if error.truthy then refuse (printing.str error) else pure ()
  | none => pure ()
  validatedInitializeResult printing (getField body "result")

def openingHeaders : List (String × String) :=
  [("Accept", "application/json, text/event-stream"), ("Content-Type", "application/json")] ++
    bearer adapter.token

/-- The headers after an `initialize` response with this protocol. -/
def sessionHeaders (negotiatedProtocol : String) (response : HttpResponse) : List (String × String) :=
  adapter.openingHeaders ++ [("MCP-Protocol-Version", negotiatedProtocol)] ++
    match given response.sessionId with
    | some session => [("MCP-Session-Id", session)]
    | none => []

/-- `_call_tools` -/
def callTools (calls : List ToolCall) : Http (List Json) := do
  match given adapter.endpoint with
  | none => Http.throw (.valueError "DataHub MCP endpoint is not configured")
  | some url =>
    if calls = [] then pure []
    else
      let response ← Http.post url adapter.openingHeaders initializeRequest
      let negotiatedProtocol ← Http.lift (initialized printing url response)
      let headers := adapter.sessionHeaders negotiatedProtocol response
      let notification ← Http.post url headers initializedNotification
      Http.lift (Http.raiseForStatus printing url notification)
      requestTools printing url headers 2 calls

/-- `except (httpx.HTTPError, ValueError, KeyError, json.JSONDecodeError)` -/
def catches : AdapterError → Bool
  | .httpError _ | .valueError _ | .keyError _ => true
  | _ => false

def notConfigured (operation : String) : IntegrationResult where
  status := .notConfigured
  operation := operation
  message := "DATARESCUE_DATAHUB_MCP_URL is not configured; no remote operation was claimed"

/-! ### Reading a document back -/

/-- `except (httpx.HTTPError, ValueError, json.JSONDecodeError)` -/
def catchesGms : AdapterError → Bool
  | .httpError _ | .valueError _ => true
  | _ => false

def documentInfoUrl (gmsUrl documentUrn : String) : String :=
  s!"{gmsUrl}/openapi/v3/entity/document/{quoteUrl documentUrn}/documentInfo"

/-- The `documentInfo` of a read-back reply. -/
def documentInfo (body : Json) : Except AdapterError Fields := do
  let body ← requireObject (some body) "documentInfo read-back returned no value object"
  requireObject (getField body "value") "documentInfo read-back returned no value object"

/-- One attempt of a read-back over the GMS. -/
def readGmsDocumentInfoOnce (gmsUrl documentUrn title assetUrn : String) (content : Option String) :
    Http Fields := do
  let url := documentInfoUrl gmsUrl documentUrn
  let response ← Http.get url (bearer adapter.gmsToken)
  Http.lift do
    let body ← Http.jsonBody printing url response
    let info ← documentInfo body
    validateGmsDocumentInfo info title assetUrn content
    pure info

/-- `_read_gms_document_info` -/
def readGmsDocumentInfo (documentUrn title assetUrn : String) (content : Option String) :
    Http Fields :=
  match given adapter.gmsUrl with
  | none => Http.throw (.valueError "DataHub GMS is not configured for document read-back")
  | some gmsUrl =>
    if !startsWith documentUrn "urn:li:document:" then
      Http.throw (.valueError "Document read-back requires a document URN")
    else
      Http.retry adapter.readbackDelaySeconds catchesGms
        (adapter.readGmsDocumentInfoOnce printing gmsUrl documentUrn title assetUrn content)
        (fun lastError => .valueError
          s!"documentInfo was not confirmed by direct DataHub read-back after {adapter.readbackAttempts} attempt(s): {lastErrorText lastError}")
        adapter.readbackAttempts none

/-- `_validate_document_readback` -/
def validateDocumentReadback (contentSearch assetEntity : Fields)
    (documentUrn title content assetUrn : String) : Except AdapterError Unit := do
  if !Json.isNumber (getField contentSearch "documents_with_matches") 1 then
    refuse "grep_documents did not find the exact saved document content"
  else if !Json.isNumber (getField contentSearch "total_matches") 1 then
    refuse "grep_documents returned an ambiguous document content match"
  else match getField contentSearch "results" with
    | some (.arr [result]) =>
      match result with
      | .obj result =>
        if !Json.isText (getField result "urn") documentUrn then
          refuse "grep_documents returned a different or missing document URN"
        else if !Json.isText (getField result "title") title then
          refuse "saved document title does not match the requested evidence"
        else if !Json.isNumber (getField result "total_matches") 1 then
          refuse "saved document content match count is not exact"
        else match getField result "matches" with
          | some (.arr [excerpt]) =>
            match excerpt with
            | .obj excerpt =>
              if !Json.isNumber (getField excerpt "position") 0 ∨
                  !Json.isText (getField excerpt "excerpt") content then
                refuse "saved document content does not match the requested evidence"
              else if !Json.isText (getField assetEntity "urn") assetUrn then
                refuse "get_entities returned a different or missing asset URN"
              else
                let linked ← documentContext assetEntity
                if documentUrn ∉ linked then
                  refuse "saved document is not linked to the requested DataHub asset"
                else pure ()
            | _ => refuse "saved document content does not match the requested evidence"
          | _ => refuse "saved document has no exact content match"
      | _ => refuse "grep_documents returned a different or missing document URN"
    | _ => refuse "grep_documents returned an invalid result set"

/-- The two questions of a read-back over MCP. -/
def readbackCalls (documentUrn content assetUrn : String) : List ToolCall :=
  [(documentContentTool, .obj [("urns", .arr [.str documentUrn]),
      ("pattern", .str ("^" ++ escapePattern content ++ "$")), ("context_chars", .int 0),
      ("max_matches_per_doc", .int 1), ("start_offset", .int 0)]),
    (entityTool, .obj [("urns", .str assetUrn)])]

/-- One attempt of a read-back over MCP. -/
def readDocumentOnce (documentUrn title content assetUrn : String) : Http Unit := do
  let results ← adapter.callTools printing (readbackCalls documentUrn content assetUrn)
  Http.lift do
    match results with
    | [contentResult, assetResult] =>
      let contentSearch ← toolPayload printing contentResult
      let assetEntity ← toolPayload printing assetResult
      validateDocumentReadback contentSearch assetEntity documentUrn title content assetUrn
    | _ => throw (.valueError "not enough values to unpack")

/-- `_verify_document_readback` -/
def verifyDocumentReadback (documentUrn title content assetUrn : String) : Http Unit :=
  match given adapter.gmsUrl with
  | some _ => do
    let _ ← adapter.readGmsDocumentInfo printing documentUrn title assetUrn (some content)
    pure ()
  | none =>
    Http.retry adapter.readbackDelaySeconds catches
      (adapter.readDocumentOnce printing documentUrn title content assetUrn)
      (fun lastError => .valueError
        s!"save_document was not confirmed by an exact DataHub read-back after {adapter.readbackAttempts} attempt(s): {lastErrorText lastError}")
      adapter.readbackAttempts none

/-- `_validated_document_result` -/
def validatedDocumentResult (payload : Fields) : Except AdapterError String :=
  if getField payload "success" ≠ some (.bool true) then
    match getField payload "message" with
    | some (.str message) =>
      if message ≠ "" then refuse s!"save_document did not confirm success: {message}"
      else refuse "save_document did not confirm success"
    | _ => refuse "save_document did not confirm success"
  else match getField payload "urn" with
    | some (.str urn) =>
      if startsWith urn "urn:li:document:" then .ok urn
      else refuse "save_document did not return a valid document URN"
    | _ => refuse "save_document did not return a valid document URN"

/-! ### Operations -/

/-- `_lineage_arguments` -/
def lineageArguments (assetUrn : String) (maxHops : Nat) : Json :=
  .obj [("urn", .str assetUrn), ("upstream", .bool false), ("max_hops", .int maxHops),
    ("max_results", .int 100), ("offset", .int 0)]

/-- The questions of `fetch_context`. -/
def contextCalls (assetUrn : String) : List ToolCall :=
  [(entityTool, .obj [("urns", .str assetUrn)]),
    (schemaTool, .obj [("urn", .str assetUrn), ("limit", .int 100), ("offset", .int 0)]),
    (lineageTool, lineageArguments assetUrn 4)] ++
  if assetUrn = canonicalAssetUrn then
    canonicalDirectLineageEdges.map fun edge => (lineageTool, lineageArguments edge.1 1)
  else []

/-- The payloads of the results, in order; the first one that has none raises. -/
def payloads (results : List Json) : Except AdapterError (List Fields) :=
  results.mapM (toolPayload printing)

/-- The answers, normalised. -/
def contextOf (assetUrn : String) (answers : List Fields) (canonicalDocumentInfo : Option Fields) :
    Except AdapterError NormalizedContext :=
  match answers with
  | entity :: schema :: lineage :: directs =>
    normalizeContext assetUrn entity schema lineage
      (if assetUrn = canonicalAssetUrn then
        some ((canonicalDirectLineageEdges.map Prod.fst).zip directs) else none)
      canonicalDocumentInfo
  | _ => .error (.valueError "list index out of range")

/-- The body of `fetch_context`'s `try`. -/
def readContext (assetUrn : String) : Http NormalizedContext := do
  let results ← adapter.callTools printing (contextCalls assetUrn)
  let answers ← Http.lift (payloads printing results)
  let canonicalDocumentInfo ←
    if assetUrn = canonicalAssetUrn ∧ (given adapter.gmsUrl).isSome then
      some <$> adapter.readGmsDocumentInfo printing canonicalContextDocumentUrn
        canonicalContextDocumentTitle assetUrn none
    else pure none
  Http.lift (contextOf assetUrn answers canonicalDocumentInfo)

structure MCPContextResult where
  integration : IntegrationResult
  context : Option NormalizedContext := none
  deriving DecidableEq

def contextTools : Json := .arr [.str entityTool, .str schemaTool, .str lineageTool]

/-- `fetch_context` -/
def fetchContext (assetUrn : String) : Http MCPContextResult :=
  match given adapter.endpoint with
  | none => pure { integration := notConfigured "mcp_fetch_context" }
  | some _ =>
    Program.tryCatch (do
      let context ← adapter.readContext printing assetUrn
      pure
        { integration :=
            { status := .succeeded
              operation := "mcp_fetch_context"
              message :=
                "Schema, lineage, glossary and ownership context retrieved from DataHub MCP"
              resourceId := some assetUrn
              evidenceRefs :=
                uniqueStrings (assetUrn :: (context.lineageUrns ++ context.contextDocuments))
              details := [("tools", contextTools),
                ("schema_field_count", .int context.schemaFields.length),
                ("lineage_entity_count", .int context.lineageUrns.length)] }
          context := some context })
    fun error =>
      if catches error then
        pure
          { integration :=
              { status := .failed
                operation := "mcp_fetch_context"
                message := s!"DataHub MCP context retrieval failed: {error.text}"
                details := [("asset_urn", .str assetUrn), ("tools", contextTools)] } }
      else Http.throw error

def reportTitle (caseId : String) : String := s!"DataRescue evidence report {caseId}"

/-- The question that saves a report. -/
def saveCall (assetUrn caseId content : String) (degraded : Bool) : ToolCall :=
  (adapter.writeTool,
    .obj [("document_type", .str "Analysis"), ("title", .str (reportTitle caseId)),
      ("content", .str content),
      ("topics", .arr [.str "datarescue", .str (if degraded then "degraded" else "patch-validated")]),
      ("related_assets", .arr [.str assetUrn])])

/-- The body of `write_evidence_report`'s `try`. -/
def saveAndReadBack (assetUrn caseId content : String) (degraded : Bool) : Http String := do
  let results ← adapter.callTools printing [adapter.saveCall assetUrn caseId content degraded]
  let documentUrn ← Http.lift do
    let payload ← toolPayload printing (results.headD .null)
    validatedDocumentResult payload
  adapter.verifyDocumentReadback printing documentUrn (reportTitle caseId) content assetUrn
  pure documentUrn

/-- `write_evidence_report` -/
def writeEvidenceReport (assetUrn caseId : String) (report : Json) (degraded : Bool) :
    Http IntegrationResult :=
  match given adapter.endpoint with
  | none => pure (notConfigured "mcp_write_evidence")
  | some _ =>
    Program.tryCatch (do
      let documentUrn ← adapter.saveAndReadBack printing assetUrn caseId (printing.dumps report)
        degraded
      pure
        { status := .succeeded
          operation := "mcp_write_evidence"
          message :=
            if degraded then "Evidence report and degraded marker written to DataHub"
            else "Validated-patch evidence report written to DataHub"
          resourceId := some documentUrn
          evidenceRefs := [documentUrn, assetUrn]
          details := [("tool", .str adapter.writeTool), ("degraded", .bool degraded),
            ("readback_verified", .bool true)] })
    fun error =>
      if catches error then
        pure
          { status := .failed
            operation := "mcp_write_evidence"
            message := s!"DataHub MCP evidence write failed: {error.text}"
            details := [("asset_urn", .str assetUrn), ("tool", .str adapter.writeTool)] }
      else Http.throw error

end DataHubMCPAdapter

end DataRescue
