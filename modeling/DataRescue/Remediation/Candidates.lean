import DataRescue.Api.SchemaEvent
import DataRescue.Http.Client
import DataRescue.Python.Sha256
import DataRescue.Remediation.SqlSafety

/-!
# Candidate proposals

`packages/remediation/candidates.py`: a language model proposes which column replaces the lost one. Its
answer is untyped JSON, walked as the source walks it, and every proposal is checked against the schema
and the fetched context; when that raises, proposals made from the schema alone take its place.
-/

namespace DataRescue

open Python Concurrency

structure CandidateGenerationResult where
  candidates : List CandidateProposal
  integration : IntegrationResult
  deriving DecidableEq

/-- The generator after its constructor. -/
structure CandidateGenerator where
  apiKey : Option String := none
  model : String := "gpt-5.6-terra"
  baseUrl : String := "https://api.openai.com/v1"
  replayMode : Bool := true

namespace CandidateGenerator

/-! ### Proposals from the schema -/

/-- `_candidate_id` -/
def candidateId (sourceField : String) (index : Nat) : String :=
  let digest := sha256Hexdigest (encode s!"{index}:{sourceField}")
  s!"candidate-{sourceField}-{String.ofList (digest.toList.take 8)}"

def rationale (field : String) : String :=
  if field = "gross_amount" then
    "Candidate compiles but conflicts with recognized net revenue semantics"
  else if field = "net_amount" then
    "Matches the glossary definition of recognized net settled revenue"
  else "Schema-compatible candidate requiring deterministic evidence validation"

/-- The names of the current fields, the preferred ones first. -/
def orderedFields (event : SchemaChangeEvent) : List String :=
  let names := event.afterFields.map SchemaField.name
  let preferred := ["gross_amount", "net_amount"].filter (names.contains ·)
  preferred ++ sortBy id (names.eraseDups.filter fun name =>
    !preferred.contains name && name ≠ "payment_id")

/-- `_deterministic_candidates` -/
def deterministicCandidates (event : SchemaChangeEvent) (context : ContextBundle) :
    List CandidateProposal :=
  let evidence :=
    if context.contextDocuments = [] then ["urn:li:glossaryTerm:NetRevenue"]
    else context.contextDocuments
  (orderedFields event).zipIdx.map fun (field, index) =>
    { id := candidateId field index
      sourceField := field
      targetAlias := "revenue"
      rationale := rationale field
      semanticEvidence := evidence }

/-! ### The answer of the model -/

/-- The first text of a list of contents. -/
def contentText (contents : List Json) : Option String :=
  contents.findSome? fun content => match content with
    | .obj fields => match getField fields "text" with
      | some (.str text) => some text
      | _ => none
    | _ => none

/-- The loop of `_response_output_text`. -/
def outputText : List Json → Except AdapterError String
  | [] => .error (.valueError "Responses API returned no structured output text")
  | .obj item :: rest => do
    let contents ← match getField item "content" with
      | some contents => iterate contents
      | none => pure []
    match contentText contents with
    | some text => pure text
    | none => outputText rest
  | _ :: rest => outputText rest

/-- `_response_output_text` -/
def responseOutputText : Json → Except AdapterError String
  | .obj body =>
    match getField body "output_text" with
    | some (.str text) => .ok text
    | _ => do
      let items ← match getField body "output" with
        | some output => iterate output
        | none => pure []
      outputText items
  | body => .error (.attributeError s!"'{body.typeName}' object has no attribute 'get'")

variable (printing : Printing)

/-- `str(error)` -/
def safetyText : SqlSafetyError → String
  | .unsafeIdentifier label value =>
    let shown := printing.repr (.str value)
    s!"Unsafe {label}: {shown}"
  | .unsafeRelation value =>
    let shown := printing.repr (.str value)
    s!"Unsafe relation: {shown}"
  | .aliasNotRevenue => "The v1 remediation renderer only permits target_alias='revenue'"
  | .ambiguousModel =>
    "The staging model does not contain one unambiguous allowlisted revenue default"
  | .patchMadeNoChange => "The staging model patch made no change"
  | .commentOrStatement => "Comments and multiple statements are not allowed"
  | .shapeMismatch => "Candidate SQL does not match the read-only allowlisted shape"

/-- A `SQLSafetyError` is a `ValueError`. -/
def checked {α : Type} (result : Except SqlSafetyError α) : Except AdapterError α :=
  result.mapError fun error => .valueError (safetyText printing error)

/-- One turn of the loop of `_openai_candidates`. -/
def proposal (event : SchemaChangeEvent) (context : ContextBundle) (raw : Json) (index : Nat) :
    Except AdapterError CandidateProposal := do
  let sourceField ← subscript raw "source_field"
  let sourceField ← checked printing (requireIdentifier (printing.toText sourceField) "source field")
  let targetAlias ← subscript raw "target_alias"
  let targetAlias ← checked printing (requireRevenueAlias (printing.toText targetAlias))
  if sourceField ∉ event.afterFields.map SchemaField.name then
    let shown := printing.repr (.str sourceField)
    .error (.valueError s!"Candidate field {shown} is absent from current schema")
  else
    let evidence ← subscript raw "semantic_evidence"
    let evidence ← iterate evidence
    let evidenceRefs := evidence.map printing.toText
    let allowed := event.entityUrn :: (context.lineageUrns ++ context.contextDocuments)
    let hallucinated := sortBy id (evidenceRefs.eraseDups.filter (!allowed.contains ·))
    if hallucinated ≠ [] then
      .error (.valueError
        ("Candidate cited evidence absent from the fetched context: " ++ ", ".intercalate hallucinated))
    else
      let rationale ← subscript raw "rationale"
      pure
        { id := candidateId sourceField index
          sourceField := sourceField
          targetAlias := targetAlias
          rationale := printing.toText rationale
          semanticEvidence := evidenceRefs }

/-- The proposals in a decoded body. -/
def proposals (event : SchemaChangeEvent) (context : ContextBundle) (body : Json) :
    Except AdapterError (List CandidateProposal) := do
  let text ← responseOutputText body
  let parsed ← Http.decode printing text
  let raws ← subscript parsed "candidates"
  let raws ← iterate raws
  raws.zipIdx.mapM fun (raw, index) => proposal printing event context raw index

/-! ### The question -/

def optionalText : Option String → Json
  | some value => .str value
  | none => .null

def texts (values : List String) : Json := .arr (values.map Json.str)

def fieldDump (field : SchemaField) : Json :=
  .obj [("name", .str field.name), ("data_type", .str field.dataType), ("nullable", .bool field.nullable)]

/-- `event.model_dump(mode="json")` -/
def eventDump (event : SchemaChangeEvent) : Json :=
  .obj [("event_id", optionalText event.eventId), ("entity_urn", .str event.entityUrn),
    ("before_fields", .arr (event.beforeFields.map fieldDump)),
    ("after_fields", .arr (event.afterFields.map fieldDump)),
    ("observed_at", .str (printing.datetime event.observedAt)), ("source", .str event.source)]

def integrationDump (integration : IntegrationResult) : Json :=
  .obj [("status", .str integration.status.value), ("operation", .str integration.operation),
    ("message", .str integration.message), ("resource_id", optionalText integration.resourceId),
    ("evidence_refs", texts integration.evidenceRefs), ("details", .obj integration.details)]

/-- `context.model_dump(mode="json")` -/
def contextDump (context : ContextBundle) : Json :=
  .obj [("asset_urn", .str context.assetUrn),
    ("glossary_definition", optionalText context.glossaryDefinition),
    ("owner", optionalText context.owner), ("lineage_urns", texts context.lineageUrns),
    ("context_documents", texts context.contextDocuments),
    ("lineage_current", .bool context.lineageCurrent), ("source", .str context.source),
    ("integration", integrationDump context.integration)]

/-- The shape the answer must have. -/
def answerSchema : Json :=
  let text : Json := .obj [("type", .str "string")]
  let item : Json := .obj [("type", .str "object"),
    ("properties", .obj [("source_field", text), ("target_alias", text), ("rationale", text),
      ("semantic_evidence", .obj [("type", .str "array"), ("items", text)])]),
    ("required", texts ["source_field", "target_alias", "rationale", "semantic_evidence"]),
    ("additionalProperties", .bool false)]
  .obj [("type", .str "object"),
    ("properties", .obj [("candidates", .obj [("type", .str "array"), ("minItems", .int 1),
      ("maxItems", .int 5), ("items", item)])]),
    ("required", texts ["candidates"]), ("additionalProperties", .bool false)]

def prompt (event : SchemaChangeEvent) (context : ContextBundle) : Json :=
  .obj [("instruction", .str ("Propose identifier-only source-to-alias mappings for a broken dbt model. " ++
      "Do not emit SQL. Cite only supplied evidence identifiers. The candidates " ++
      "will be executed and accepted or rejected by deterministic gates.")),
    ("schema_change", eventDump printing event), ("context", contextDump context)]

variable (generator : CandidateGenerator)

def question (event : SchemaChangeEvent) (context : ContextBundle) : Json :=
  .obj [("model", .str generator.model), ("reasoning", .obj [("effort", .str "medium")]),
    ("input", .str (printing.dumps (prompt printing event context))),
    ("text", .obj [("format", .obj [("type", .str "json_schema"),
      ("name", .str "datarescue_candidates"), ("strict", .bool true), ("schema", answerSchema)])])]

/-- `_openai_candidates`, its proposals. -/
def openaiCandidates (apiKey : String) (event : SchemaChangeEvent) (context : ContextBundle) :
    Http (List CandidateProposal) := do
  let url := s!"{generator.baseUrl}/responses"
  let response ← Http.post url
    [("Authorization", s!"Bearer {apiKey}"), ("Content-Type", "application/json")]
    (generator.question printing event context)
  Http.lift do
    let body ← Http.jsonBody printing url response
    proposals printing event context body

/-! ### Generation -/

/-- `except (httpx.HTTPError, KeyError, TypeError, ValueError, json.JSONDecodeError)` -/
def catches : AdapterError → Bool
  | .httpError _ | .keyError _ | .typeError _ | .valueError _ => true
  | _ => false

/-- `if not self.api_key`, with the key. -/
def configuredKey : Option String :=
  match generator.apiKey with
  | some apiKey => if apiKey ≠ "" then some apiKey else none
  | none => none

/-- What is proposed without a model. -/
def recorded (event : SchemaChangeEvent) (context : ContextBundle) : CandidateGenerationResult where
  candidates := deterministicCandidates event context
  integration :=
    { status := if generator.replayMode then .recordedReplay else .notConfigured
      operation := "candidate_generation"
      message :=
        if generator.replayMode then
          "Recorded replay candidates loaded; deterministic policy still owns the decision"
        else "OPENAI_API_KEY is not configured; deterministic candidates used"
      evidenceRefs :=
        if generator.replayMode then ["artifact://replay/candidate-proposals.json"] else []
      details := [("model", .null), ("decision_authority", .str "deterministic_policy")] }

/-- `propose` -/
def propose (event : SchemaChangeEvent) (context : ContextBundle) : Http CandidateGenerationResult :=
  match generator.configuredKey with
  | none => pure (generator.recorded event context)
  | some apiKey =>
    let details : List (String × Json) :=
      [("model", .str generator.model), ("decision_authority", .str "deterministic_policy")]
    Program.tryCatch (do
      let candidates ← generator.openaiCandidates printing apiKey event context
      pure
        { candidates := candidates
          integration :=
            { status := .succeeded
              operation := "candidate_generation"
              message :=
                "OpenAI proposed structured mappings; no acceptance decision was delegated"
              details := details } })
    fun error =>
      if catches error then
        pure
          { candidates := deterministicCandidates event context
            integration :=
              { status := .failed
                operation := "candidate_generation"
                message :=
                  s!"OpenAI candidate generation failed; safe deterministic fallback used: {error.text}"
                details := details } }
      else Http.throw error

end CandidateGenerator

end DataRescue
