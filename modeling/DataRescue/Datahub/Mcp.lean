import DataRescue.Api.Config
import DataRescue.Http.Client
import DataRescue.Python.Lines

/-!
# DataHub context over MCP

`DataHubMCPAdapter` of `packages/datahub/mcp.py`, first part: the JSON-RPC session, the payload of a tool
result, and `_normalize_context`, which checks the four answers about an asset and makes the context of
a case from them. Every check is the source's, in its order, with its exception.
-/

namespace DataRescue

open Python Concurrency

abbrev Fields := List (String × Json)

def canonicalContextDocumentUrn : String := "urn:li:document:datarescue-net-revenue-contract"
def canonicalContextDocumentTitle : String := "DataRescue Net Revenue Contract"
def canonicalOwnerUrn : String := "urn:li:corpuser:finance-data"
def canonicalOwnerDisplayName : String := "Finance Data"
def canonicalGlossaryTermUrn : String := "urn:li:glossaryTerm:NetRevenue"
def canonicalDbtSourceUrn : String :=
  "urn:li:dataset:(urn:li:dataPlatform:dbt,datarescue.raw.payments_raw,PROD)"
def canonicalDbtStagingUrn : String :=
  "urn:li:dataset:(urn:li:dataPlatform:dbt,datarescue.analytics.stg_payments,PROD)"
def canonicalPhysicalStagingUrn : String :=
  "urn:li:dataset:(urn:li:dataPlatform:postgres,datarescue.analytics.stg_payments,PROD)"
def canonicalDbtMartUrn : String :=
  "urn:li:dataset:(urn:li:dataPlatform:dbt,datarescue.analytics.fct_revenue,PROD)"

def canonicalRequiredLineageUrns : List String :=
  [canonicalAssetUrn, canonicalDbtSourceUrn, canonicalDbtStagingUrn, canonicalPhysicalStagingUrn,
    canonicalDbtMartUrn]

def canonicalDirectLineageEdges : List (String × String) :=
  [(canonicalAssetUrn, canonicalDbtSourceUrn), (canonicalDbtSourceUrn, canonicalDbtStagingUrn),
    (canonicalDbtStagingUrn, canonicalPhysicalStagingUrn),
    (canonicalPhysicalStagingUrn, canonicalDbtMartUrn)]

def canonicalAllowedParallelLineageEdges : List (String × String) :=
  [(canonicalAssetUrn, canonicalPhysicalStagingUrn)]

def mcpProtocolVersion : String := "2025-06-18"

namespace DataHubMCPAdapter

variable (printing : Printing)

/-- `raise ValueError(message)` -/
def refuse {α : Type} (message : String) : Except AdapterError α := .error (.valueError message)

/-- `isinstance(value, dict)` -/
def requireObject (value : Option Json) (message : String) : Except AdapterError Fields :=
  match value with
  | some (.obj fields) => .ok fields
  | _ => refuse message

/-- `isinstance(value, list)` -/
def requireArray (value : Option Json) (message : String) : Except AdapterError (List Json) :=
  match value with
  | some (.arr items) => .ok items
  | _ => refuse message

/-- `_unique_strings` -/
def uniqueStrings (values : List String) : List String := (values.filter (· ≠ "")).eraseDups

theorem mem_uniqueStrings {values : List String} {value : String} :
    value ∈ uniqueStrings values ↔ value ∈ values ∧ value ≠ "" := by
  rw [uniqueStrings, List.mem_eraseDups, List.mem_filter, decide_eq_true_eq]

/-- `_nested_string` -/
def nestedString : Json → List String → Option String
  | .str value, [] => if strip value ≠ "" then some (strip value) else none
  | .obj fields, key :: path => nestedString ((getField fields key).getD .null) path
  | _, _ => none

/-- `_plain_int`, with the number. -/
def plainInt : Option Json → Option Nat
  | some (.int value) => if 0 ≤ value then some value.toNat else none
  | _ => none

/-! ### JSON-RPC -/

/-- `_sse_data_frames` on the lines of a payload, with the data lines of the current event. -/
def dataFrames (dataLines : List String) : List String → List String
  | [] => if dataLines = [] then [] else ["\n".intercalate dataLines]
  | line :: rest =>
    if line = "" then
      if dataLines = [] then dataFrames [] rest
      else "\n".intercalate dataLines :: dataFrames [] rest
    else if startsWith line "data:" then
      let value := line.toList.drop 5
      let value := if value.head? = some ' ' then value.drop 1 else value
      dataFrames (dataLines ++ [String.ofList value]) rest
    else dataFrames dataLines rest

def sseDataFrames (payload : String) : List String := dataFrames [] (splitlines payload)

/-- `_validated_rpc_response` -/
def validatedRpcResponse (body : Fields) (requestId : Nat) : Except AdapterError Fields :=
  if !Json.isText (getField body "jsonrpc") "2.0" then
    refuse "MCP response has an invalid JSON-RPC version"
  else if !Json.isNumber (getField body "id") requestId then
    let responseId := printing.repr ((getField body "id").getD .null)
    refuse s!"MCP response id {responseId} does not match request id {requestId}"
  else if getField body "result" = none ∧ getField body "error" = none then
    refuse "MCP JSON-RPC response has neither result nor error"
  else .ok body

/-- The first event that answers a request. -/
def eventBody (requestId : Nat) : List String → Except AdapterError Fields
  | [] => refuse s!"MCP event stream contained no response for request id {requestId}"
  | eventData :: rest => do
    match ← Http.decode printing eventData with
    | .obj parsed =>
      if Json.isNumber (getField parsed "id") requestId then
        validatedRpcResponse printing parsed requestId
      else eventBody requestId rest
    | _ => eventBody requestId rest

/-- `_rpc_body` -/
def rpcBody (response : HttpResponse) (requestId : Nat) : Except AdapterError Fields :=
  if containsText (casefold response.contentType) "text/event-stream" then
    eventBody printing requestId (sseDataFrames response.text)
  else do
    let body ← requireObject (some (← Http.decode printing response.text))
      "MCP response is not an object"
    validatedRpcResponse printing body requestId

/-- `_validated_initialize_result` -/
def validatedInitializeResult (result : Option Json) : Except AdapterError String := do
  let result ← requireObject result "MCP initialize returned no result object"
  if !Json.isText (getField result "protocolVersion") mcpProtocolVersion then
    let version := printing.repr ((getField result "protocolVersion").getD .null)
    refuse s!"MCP negotiated unsupported protocol version {version}; expected {mcpProtocolVersion}"
  else
    let _ ← requireObject (getField result "capabilities")
      "MCP initialize returned no capabilities object"
    let serverInfo ← requireObject (getField result "serverInfo")
      "MCP initialize returned no serverInfo object"
    match getField serverInfo "name" with
    | some (.str name) =>
      if strip name = "" then refuse "MCP initialize returned invalid serverInfo.name"
      else .ok mcpProtocolVersion
    | _ => refuse "MCP initialize returned invalid serverInfo.name"

/-- The result of one answer of the session: no error, and a result. -/
def toolResult (body : Fields) : Except AdapterError Json :=
  match getField body "error" with
  | some error =>
    if error.truthy then refuse (printing.str error)
    else match getField body "result" with
      | some result => .ok result
      | none => refuse "MCP JSON-RPC response returned no result"
  | none =>
    match getField body "result" with
    | some result => .ok result
    | none => refuse "MCP JSON-RPC response returned no result"

/-! ### Tool payloads -/

/-- The first item of a content list that is a text of a JSON object. -/
def contentPayload : List Json → Except AdapterError Fields
  | [] => refuse "MCP tool returned no structured object"
  | .obj item :: rest =>
    if Json.isText (getField item "type") "text" then
      match getField item "text" with
      | some (.str text) =>
        match loads text with
        | .ok (.obj parsed) => .ok parsed
        | .ok _ | .error .decode => contentPayload rest
        | .error .digits => .error (.valueError (printing.loadsError .digits text))
      | _ => contentPayload rest
    else contentPayload rest
  | _ :: rest => contentPayload rest

/-- `_tool_payload` -/
def toolPayload : Json → Except AdapterError Fields
  | .obj result =>
    if ((getField result "isError").getD .null).truthy then refuse "MCP tool reported an error"
    else match getField result "structuredContent" with
      | some (.obj structured) =>
        let wrapped := match getField result "_meta" with
          | some (.obj metaFields) => match getField metaFields "fastmcp" with
            | some (.obj fastmcp) => getField fastmcp "wrap_result" = some (.bool true)
            | _ => false
          | _ => false
        if wrapped || (!structured.isEmpty && structured.all fun field => field.1 = "result") then
          requireObject (getField structured "result") "MCP structured result is not an object"
        else .ok structured
      | _ => do
        let content ← match getField result "content" with
          | some content => iterate content
          | none => pure []
        contentPayload printing content
  | _ => refuse "MCP tool result is not an object"

/-! ### The context of an asset -/

/-- `_validated_schema_fields` -/
def validatedSchemaFields (assetUrn : String) (payload : Fields) : Except AdapterError (List Json) := do
  if !Json.isText (getField payload "urn") assetUrn then
    refuse "list_schema_fields returned a different or missing asset URN"
  else
    let fields ← requireArray (getField payload "fields") "list_schema_fields returned no fields array"
    if fields = [] then refuse "list_schema_fields returned no schema fields"
    else if fields.any fun field => match field with
        | .obj field => match getField field "fieldPath" with
          | some (.str path) => strip path = ""
          | _ => true
        | _ => true then
      refuse "list_schema_fields returned an invalid field"
    else
      match plainInt (getField payload "returned"), plainInt (getField payload "totalFields"),
          plainInt (getField payload "remainingCount") with
      | some returned, some total, some remaining =>
        if returned ≠ fields.length ∨ total < returned ∨ remaining ≠ total - returned then
          refuse "list_schema_fields returned inconsistent pagination metadata"
        else if remaining ≠ 0 then refuse "list_schema_fields returned a partial schema"
        else .ok fields
      | _, _, _ => refuse "list_schema_fields returned inconsistent pagination metadata"

/-- One search result of a lineage answer. -/
def lineageResult (result : Json) : Except AdapterError (String × Nat) := do
  let result ← requireObject (some result) "get_lineage returned an invalid search result"
  let entity ← requireObject (getField result "entity") "get_lineage search result has no entity"
  match getField entity "urn" with
  | some (.str urn) =>
    if !startsWith urn "urn:li:" then refuse "get_lineage search result has no valid entity URN"
    else match plainInt (getField result "degree") with
      | some (degree + 1) => .ok (urn, degree + 1)
      | _ => refuse "get_lineage search result has no valid positive degree"
  | _ => refuse "get_lineage search result has no valid entity URN"

/-- `_validated_lineage_results` -/
def validatedLineageResults (payload : Fields) : Except AdapterError (List (String × Nat)) := do
  let downstreams ← requireObject (getField payload "downstreams")
    "get_lineage returned no downstream lineage object"
  let results ← requireArray (getField downstreams "searchResults")
    "get_lineage returned no downstream searchResults array"
  if results = [] then refuse "get_lineage returned no downstream lineage"
  else if getField downstreams "hasMore" = some (.bool true) ∨
      getField downstreams "truncatedDueToTokenBudget" = some (.bool true) then
    refuse "get_lineage returned a partial lineage graph"
  else if plainInt (getField downstreams "total") ≠ some results.length ∨
      plainInt (getField downstreams "returned") ≠ some results.length then
    refuse "get_lineage returned incomplete or invalid result metadata"
  else results.mapM lineageResult

/-- `_validated_lineage_urns` -/
def validatedLineageUrns (assetUrn : String) (payload : Fields) : Except AdapterError (List String) := do
  let results ← validatedLineageResults payload
  pure (uniqueStrings (assetUrn :: results.map Prod.fst))

/-- One turn of the loop of `_canonical_topology_current`, on the answer about a source. -/
def edgeCurrent (sourceUrn targetUrn : String) (results : List (String × Nat)) : Bool :=
  let canonicalResults := results.filter fun result => canonicalRequiredLineageUrns.contains result.1
  let allowedTargets := targetUrn ::
    (canonicalAllowedParallelLineageEdges.filter (·.1 = sourceUrn)).map Prod.snd
  canonicalResults.contains (targetUrn, 1) &&
    canonicalResults.all fun result => result.2 = 1 && allowedTargets.contains result.1

/-- The loop of `_canonical_topology_current`: it ends at the first edge that is not current. -/
def edgesCurrent (directLineages : List (String × Fields)) :
    List (String × String) → Except AdapterError Bool
  | [] => .ok true
  | (sourceUrn, targetUrn) :: edges => do
    match directLineages.lookup sourceUrn with
    | none => .error (.keyError sourceUrn)
    | some payload =>
      let results ← validatedLineageResults payload
      if edgeCurrent sourceUrn targetUrn results then edgesCurrent directLineages edges
      else pure false

/-- `_canonical_topology_current` -/
def canonicalTopologyCurrent (directLineages : Option (List (String × Fields))) :
    Except AdapterError Bool :=
  match directLineages with
  | none => .ok false
  | some directLineages =>
    let sources := canonicalDirectLineageEdges.map Prod.fst
    let keys := directLineages.map Prod.fst
    if (∀ key ∈ keys, key ∈ sources) ∧ ∀ source ∈ sources, source ∈ keys then
      edgesCurrent directLineages canonicalDirectLineageEdges
    else .ok false

/-- The definition and the URN of one glossary association. -/
def glossaryTerm (association : Json) : Except AdapterError (Option String × String) := do
  let association ← requireObject (some association)
    "get_entities returned an invalid glossary association"
  let term ← requireObject (getField association "term")
    "get_entities returned an invalid glossary association"
  match getField term "urn" with
  | some (.str urn) =>
    if !startsWith urn "urn:li:glossaryTerm:" then
      refuse "get_entities returned an invalid glossary term URN"
    else match getField term "properties" with
      | none | some .null => .ok (none, urn)
      | some (.obj properties) =>
        .ok (nestedString (.obj properties) ["description"], urn)
      | some _ => refuse "get_entities returned invalid glossary term properties"
  | _ => refuse "get_entities returned an invalid glossary term URN"

/-- `_glossary_context` -/
def glossaryContext (entity : Fields) : Except AdapterError (Option String × List String) :=
  match getField entity "glossaryTerms" with
  | none | some .null => .ok (none, [])
  | some glossary => do
    let glossary ← requireObject (some glossary) "get_entities returned invalid glossary terms"
    let terms ← requireArray (getField glossary "terms") "get_entities returned invalid glossary terms"
    let terms ← terms.mapM glossaryTerm
    let definition := "\n\n".intercalate (uniqueStrings (terms.filterMap Prod.fst))
    pure (if definition ≠ "" then some definition else none, uniqueStrings (terms.map Prod.snd))

/-- `_canonical_glossary_definition` -/
def canonicalGlossaryDefinition (entity : Fields) : Option String :=
  match getField entity "glossaryTerms" with
  | some (.obj glossary) => match getField glossary "terms" with
    | some (.arr terms) => terms.findSome? fun association => match association with
      | .obj association => match getField association "term" with
        | some (.obj term) =>
          if Json.isText (getField term "urn") canonicalGlossaryTermUrn then
            nestedString (.obj term) ["properties", "description"]
          else none
        | _ => none
      | _ => none
    | _ => none
  | _ => none

/-- The name of one owner. -/
def ownerName (owner : Fields) : Option String :=
  ([["editableProperties", "displayName"], ["properties", "displayName"], ["info", "displayName"],
      ["properties", "email"], ["name"], ["urn"]]).findSome? fun path => nestedString (.obj owner) path

/-- The loop of `_owner_context`. -/
def firstOwner : List Json → Except AdapterError (Option String)
  | [] => .ok none
  | association :: rest => do
    let association ← requireObject (some association)
      "get_entities returned an invalid owner association"
    let owner ← requireObject (getField association "owner")
      "get_entities returned an invalid owner association"
    match ownerName owner with
    | some name => pure (some name)
    | none => firstOwner rest

/-- `_owner_context` -/
def ownerContext (entity : Fields) : Except AdapterError (Option String) :=
  match getField entity "ownership" with
  | none | some .null => .ok none
  | some ownership => do
    let ownership ← requireObject (some ownership) "get_entities returned invalid ownership"
    let owners ← requireArray (getField ownership "owners") "get_entities returned invalid ownership"
    firstOwner owners

/-- `_canonical_owner_verified` -/
def canonicalOwnerVerified (entity : Fields) : Bool :=
  match getField entity "ownership" with
  | some (.obj ownership) => match getField ownership "owners" with
    | some (.arr owners) => owners.any fun association => match association with
      | .obj association => match getField association "owner" with
        | some (.obj owner) =>
          Json.isText (getField owner "urn") canonicalOwnerUrn &&
            ([["editableProperties", "displayName"], ["properties", "displayName"],
              ["info", "displayName"]].findSome? fun path => nestedString (.obj owner) path) =
              some canonicalOwnerDisplayName
        | _ => false
      | _ => false
    | _ => false
  | _ => false

/-- The URN of one related document. -/
def documentUrn (document : Json) : Except AdapterError String := do
  let document ← requireObject (some document) "get_entities returned an invalid related document"
  match getField document "urn" with
  | some (.str urn) =>
    if startsWith urn "urn:li:document:" then .ok urn
    else refuse "get_entities returned an invalid document URN"
  | _ => refuse "get_entities returned an invalid document URN"

/-- `_document_context` -/
def documentContext (entity : Fields) : Except AdapterError (List String) :=
  match getField entity "relatedDocuments" with
  | none | some .null => .ok []
  | some related => do
    let related ← requireObject (some related) "get_entities returned invalid related documents"
    let documents ← requireArray (getField related "documents")
      "get_entities returned invalid related documents"
    let urns ← documents.mapM documentUrn
    pure (uniqueStrings urns)

/-- `_validate_gms_document_info` -/
def validateGmsDocumentInfo (info : Fields) (title assetUrn : String) (content : Option String) :
    Except AdapterError Unit := do
  if !Json.isText (getField info "title") title then
    refuse "saved document title does not match the requested evidence"
  else
    if let some content := content then
      match getField info "contents" with
      | some (.obj contents) =>
        if !Json.isText (getField contents "text") content then
          refuse "saved document content does not match the requested evidence"
      | _ => refuse "saved document content does not match the requested evidence"
    let relatedAssets ← requireArray (getField info "relatedAssets")
      "saved document has no relatedAssets array"
    if relatedAssets.any fun association => match association with
        | .obj association => Json.isText (getField association "asset") assetUrn
        | _ => false then
      pure ()
    else refuse "saved document is not linked to the requested DataHub asset"

/-- What `_normalize_context` returns. -/
structure NormalizedContext where
  assetUrn : String
  schemaFields : List Json
  glossaryDefinition : Option String
  owner : Option String
  lineageUrns : List String
  contextDocuments : List String
  lineageCurrent : Bool
  deriving DecidableEq

/-- What the canonical asset must show beyond the answers: its definition, with its documents. -/
def canonicalContext (assetUrn : String) (entity : Fields) (documentUrns : List String)
    (canonicalDocumentInfo : Option Fields) : Except AdapterError (String × List String) := do
  let documentUrns ← match canonicalDocumentInfo with
    | some info => do
      validateGmsDocumentInfo info canonicalContextDocumentTitle assetUrn none
      pure (uniqueStrings (documentUrns ++ [canonicalContextDocumentUrn]))
    | none => pure documentUrns
  if !canonicalOwnerVerified entity then
    refuse "canonical DataRescue asset owner does not match the exact contract"
  else match canonicalGlossaryDefinition entity with
    | none => refuse "canonical DataRescue NetRevenue glossary contract is unavailable"
    | some definition =>
      if canonicalContextDocumentUrn ∉ documentUrns then
        refuse "canonical DataRescue context document is unavailable"
      else .ok (definition, documentUrns)

/-- `_normalize_context` -/
def normalizeContext (assetUrn : String) (entity schema lineage : Fields)
    (directLineages : Option (List (String × Fields))) (canonicalDocumentInfo : Option Fields) :
    Except AdapterError NormalizedContext := do
  if ((getField entity "error").getD .null).truthy then
    refuse s!"get_entities failed for {assetUrn}"
  else if !Json.isText (getField entity "urn") assetUrn then
    refuse "get_entities returned a different or missing asset URN"
  else
    let schemaFields ← validatedSchemaFields assetUrn schema
    let lineageUrns ← validatedLineageUrns assetUrn lineage
    let (glossaryDefinition, glossaryUrns) ← glossaryContext entity
    let owner ← ownerContext entity
    let documentUrns ← documentContext entity
    if assetUrn = canonicalAssetUrn then
      let (definition, documentUrns) ← canonicalContext assetUrn entity documentUrns
        canonicalDocumentInfo
      let topologyCurrent ← canonicalTopologyCurrent directLineages
      pure
        { assetUrn, schemaFields, lineageUrns
          glossaryDefinition := some definition
          owner := some canonicalOwnerDisplayName
          contextDocuments := uniqueStrings (glossaryUrns ++ documentUrns)
          lineageCurrent :=
            canonicalRequiredLineageUrns.all (lineageUrns.contains ·) && topologyCurrent }
    else
      pure
        { assetUrn, schemaFields, glossaryDefinition, owner, lineageUrns
          contextDocuments := uniqueStrings (glossaryUrns ++ documentUrns)
          lineageCurrent := true }

end DataHubMCPAdapter

end DataRescue
