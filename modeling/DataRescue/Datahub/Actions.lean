import DataRescue.Http.Client
import DataRescue.Workflow.Ingest

/-!
# The MCL consumer

`packages/datahub/actions.py`: a metadata change log is filtered, turned into a schema event and handed to
a sink, which is the service itself or the API over HTTP. The allowlist is checked in the sink alone, after
the event has been built, and the models of an event bound its texts. Hence a log for an asset outside the
allowlist is skipped exactly when its texts are within these bounds (`outOfScope_skipped`); any other one is
a failure, and is delivered again. Pydantic also refuses a text with a lone surrogate, which a JSON
escape can write; a `String` has none, so the payloads here have no such text.
-/

namespace DataRescue

open Python Concurrency

inductive MclActionStatus where
  | enqueued | skipped | failed
  deriving DecidableEq, Repr

structure MclActionResult where
  status : MclActionStatus
  reason : String
  caseId : Option String := none
  deduplicated : Option Bool := none
  deriving DecidableEq

/-- The texts and conversions of the standard library and of pydantic. A validation error names the model
and, for each field that fails, the field and the kind of the failure. -/
structure MclHost where
  printing : Printing
  validationText : String → List (String × String) → String
  /-- `json.dumps(payload, sort_keys=True, separators=(",", ":"), default=str)` -/
  dumpsSorted : Json → String
  /-- `datetime.fromtimestamp(value / 1000, tz=UTC)`, or nothing if it is out of range. -/
  fromTimestamp : Json → Option Timestamp
  /-- The value of a field of type `bool`. -/
  coerceBool : Json → Option Bool
  sha256 : List UInt8 → String

abbrev Mapping := List (String × Json)

/-- `bool(value)`, of a value that may be absent. -/
def present : Option Json → Bool
  | some value => value.truthy
  | none => false

/-- `first or second` -/
def orElse (first second : Option Json) : Option Json := if present first then first else second

/-! ### The event of a payload -/

namespace MclHost

variable (host : MclHost)

/-- `content_type not in {None, "application/json"}` -/
def checkContentType : Option Json → Except AdapterError Unit
  | none | some .null => .ok ()
  | some (.arr _) => .error (.typeError "unhashable type: 'list'")
  | some (.obj _) => .error (.typeError "unhashable type: 'dict'")
  | some contentType =>
    if contentType = .str "application/json" then .ok ()
    else
      let shown := host.printing.toText contentType
      .error (.valueError s!"Unsupported aspect content type: {shown}")

/-- The value inside of a generic aspect, any other value as it is. -/
def unwrap (value : Option Json) : Except AdapterError (Option Json) :=
  match value with
  | some (.obj fields) =>
    match getField fields "value" with
    | some inner => do
      host.checkContentType (getField fields "contentType")
      pure (some inner)
    | none => .ok value
  | value => .ok value

/-- `_object` -/
def object (value : Option Json) : Except AdapterError Mapping := do
  let value ← host.unwrap value
  let value ← match value with
    | some (.str text) =>
      ((loads text).mapError fun error =>
        AdapterError.valueError (host.printing.loadsError error text)).map some
    | value => pure value
  match value with
  | some (.obj fields) => pure fields
  | _ => .error (.valueError "Aspect value is not an object")

/-- `_nested_type` -/
def nestedType : Option Json → Option String
  | some (.str value) => some value
  | some (.obj fields) =>
    match getField fields "type" with
    | some (.str nested) => some nested
    | _ => none
  | _ => none

/-- `raw.get("nativeDataType") or _nested_type(raw.get("type")) or "unknown"`, as a text. -/
def dataType (raw : Mapping) : String :=
  match getField raw "nativeDataType" with
  | some native =>
    if native.truthy then host.printing.toText native else nestedOrUnknown raw
  | none => nestedOrUnknown raw
where
  nestedOrUnknown (raw : Mapping) : String :=
    match nestedType (getField raw "type") with
    | some nested => if nested = "" then "unknown" else nested
    | none => "unknown"

/-- `bool(raw.get("nullable", True))` -/
def nullable (raw : Mapping) : Bool :=
  match getField raw "nullable" with
  | some value => value.truthy
  | none => true

/-- The issues of a text field with bounds on its length. -/
def lengthIssues (field : String) (minimum maximum : Nat) (value : String) : List (String × String) :=
  if value.length < minimum then [(field, "string_too_short")]
  else if maximum < value.length then [(field, "string_too_long")]
  else []

/-- `SchemaField(name=name, data_type=data_type, nullable=nullable)` -/
def schemaField (name dataType : String) (nullable : Bool) : Except AdapterError SchemaField :=
  if h : (1 ≤ name.length ∧ name.length ≤ 255) ∧ dataType.length ≤ 128 then
    .ok { name, dataType, nullable, name_length := h.1, dataType_length := h.2 }
  else
    .error (.valueError (host.validationText "SchemaField"
      (lengthIssues "name" 1 255 name ++ lengthIssues "data_type" 0 128 dataType)))

/-- `raw.get("fieldPath") or raw.get("name")` -/
def fieldName (raw : Mapping) : Option Json := orElse (getField raw "fieldPath") (getField raw "name")

/-- One turn of the loop of `_schema_fields`. -/
def field : Json → Except AdapterError SchemaField
  | .obj raw =>
    match fieldName raw with
    | some (.str name) =>
      if name = "" then .error (.valueError "schemaMetadata field has no fieldPath")
      else host.schemaField name (host.dataType raw) (nullable raw)
    | _ => .error (.valueError "schemaMetadata field has no fieldPath")
  | _ => .error (.valueError "schemaMetadata field is not an object")

/-- `_schema_fields` -/
def schemaFields (aspect : Mapping) : Except AdapterError (List SchemaField) :=
  match getField aspect "fields" with
  | some (.arr raws) => raws.mapM host.field
  | _ => .error (.valueError "schemaMetadata has no fields array")

/-- `_mcl_event_id` -/
def eventId (payload : Mapping) : String :=
  match orElse (getField payload "eventId") (getField payload "id") with
  | some (.str supplied) => if supplied = "" then derived else supplied
  | _ => derived
where
  derived : String := "mcl-" ++ host.sha256 (encode (host.dumpsSorted (.obj payload)))

/-- `_from_millis` -/
def fromMillis : Option Json → Option Timestamp
  | some (.int value) => host.fromTimestamp (.int value)
  | some (.float value) => host.fromTimestamp (.float value)
  | some (.bool value) => host.fromTimestamp (.bool value)
  | _ => none

/-- The time in a field of an object of the payload. -/
def timeIn (payload : Mapping) (object key : String) : Option Timestamp :=
  match getField payload object with
  | some (.obj fields) => host.fromMillis (getField fields key)
  | _ => none

/-- `_observed_at` -/
def observedAt (now : Timestamp) (payload : Mapping) : Timestamp :=
  ((host.timeIn payload "created" "time").or
    (host.timeIn payload "systemMetadata" "lastObserved")).getD now

/-- `payload["entityUrn"]` -/
def entityUrn (payload : Mapping) : Except AdapterError String :=
  match getField payload "entityUrn" with
  | some value => .ok (host.printing.toText value)
  | none => .error (.keyError "entityUrn")

theorem source_length : "DATAHUB_MCL".length ≤ 64 := by decide

/-- `SchemaChangeEvent(…, source="DATAHUB_MCL")` -/
def validated (eventId entityUrn : String) (beforeFields afterFields : List SchemaField)
    (observedAt : Timestamp) : Except AdapterError SchemaChangeEvent :=
  if h : 1 ≤ entityUrn.length ∧ entityUrn.length ≤ 2048 then
    .ok { eventId := some eventId, entityUrn, beforeFields, afterFields, observedAt,
          entityUrn_length := h, source_length := source_length }
  else
    .error (.valueError (host.validationText "SchemaChangeEvent"
      (lengthIssues "entity_urn" 1 2048 entityUrn)))

/-- The event of a payload whose previous aspect is there. -/
def schemaEvent (now : Timestamp) (payload : Mapping) (previousRaw : Json) :
    Except AdapterError SchemaChangeEvent := do
  let previous ← host.object (some previousRaw)
  let current ← host.object (orElse (getField payload "aspect") (getField payload "aspectValue"))
  let entityUrn ← host.entityUrn payload
  let beforeFields ← host.schemaFields previous
  let afterFields ← host.schemaFields current
  host.validated (host.eventId payload) entityUrn beforeFields afterFields (host.observedAt now payload)

end MclHost

/-- `_same_schema` -/
def sameSchema (before after : List SchemaField) : Bool := sortFields before = sortFields after

/-! ### Sinks -/

/-- What a sink raises, by the clause of `handle` that catches it. -/
inductive SinkError where
  /-- A `PermissionError`. -/
  | outOfScope (message : String)
  | httpStatusError (statusCode : Nat)
  | requestError (typeName : String)
  /-- A `KeyError`, `TypeError` or `ValueError`. -/
  | invalid (text : String)
  | uncaught (exception : Exn)

/-- `getattr(response, "case", None)`, its `id`, and `getattr(response, "deduplicated", None)`. -/
structure SinkResponse where
  caseId : Option String
  deduplicated : Option Bool

abbrev EventSink := SchemaChangeEvent → Flow (Except SinkError SinkResponse)

namespace MclHost

variable (host : MclHost)

/-- The clause that catches an exception of the service. -/
def caught : Exn → SinkError
  | .assetNotAllowed message => .outOfScope message
  | .store (.invalidStateTransition message) | .store (.valueError message) | .valueError message =>
    .invalid message
  | .sqlSafety error => .invalid (CandidateGenerator.safetyText host.printing error)
  | .external kind typeName =>
    if typeName = "PermissionError" then .outOfScope typeName else .uncaught (.external kind typeName)
  | error => .uncaught error

/-- `WorkflowService.ingest` as a sink. -/
def ingestSink (service : Service) : EventSink := fun event => do
  match ← (service.ingest event).attempt with
  | .ok response =>
    pure (.ok { caseId := some response.case.id, deduplicated := some response.deduplicated })
  | .error error => pure (.error (host.caught error))

end MclHost

/-! ### The API and its client -/

/-- A response of the API, its body as `response.json()` reads it. -/
structure ApiResponse where
  statusCode : Nat
  /-- The header `x-datarescue-error`. -/
  errorHeader : Option String := none
  body : Except LoadsError Json

def ApiResponse.detail (statusCode : Nat) (detail : String) (errorHeader : Option String := none) :
    ApiResponse where
  statusCode := statusCode
  errorHeader := errorHeader
  body := .ok (.obj [("detail", .str detail)])

/-- `POST /api/v1/events/schema-change`. Of the case in the body only the id is kept, which is all that
the client reads. -/
def schemaChange (host : MclHost) (service : Service) (event : SchemaChangeEvent) : Flow ApiResponse := do
  match ← (service.ingest event).attempt with
  | .ok response =>
    pure
      { statusCode := 202
        body := .ok (.obj [("case", .obj [("id", .str response.case.id)]),
          ("deduplicated", .bool response.deduplicated)]) }
  | .error (.assetNotAllowed message) => pure (.detail 403 message (some "ASSET_OUTSIDE_ALLOWLIST"))
  | .error (.store (.eventConflict eventId caseId)) =>
    let shown := host.printing.repr (.str eventId)
    pure (.detail 409 s!"Event id {shown} is already bound to different content in case {caseId}")
  | .error (.exit typeName) => .throw (.exit typeName)
  -- The server answers with a plain text.
  | .error _ => pure { statusCode := 500, body := .error .decode }

namespace MclHost

variable (host : MclHost)

/-- `_is_api_allowlist_rejection` -/
def isApiAllowlistRejection (response : ApiResponse) : Except SinkError Bool :=
  if response.statusCode ≠ 403 ∨ response.errorHeader ≠ some "ASSET_OUTSIDE_ALLOWLIST" then .ok false
  else
    match response.body with
    | .error .decode => .ok false
    | .error .digits => .error (.invalid (host.printing.loadsError .digits ""))
    | .ok (.obj body) =>
      match getField body "detail" with
      | some (.str detail) =>
        .ok (startsWith detail "Asset is outside the configured remediation allowlist")
      | _ => .ok false
    | .ok _ => .ok false

/-- `_HTTPWorkflowResponse` and the fields of it that the result of the action takes. -/
def workflowResponse : Json → Except SinkError SinkResponse
  | .obj body =>
    match (getField body "case").getD (.obj []) with
    | .obj case => do
      let deduplicated ← match getField body "deduplicated" with
        | none | some .null => pure none
        | some value =>
          match host.coerceBool value with
          | some flag => pure (some flag)
          -- The result is built outside of the `try` statement.
          | none => .error (.uncaught (.external .other "ValidationError"))
      let caseId := match getField case "id" with
        | none | some .null => none
        | some value => some (host.printing.toText value)
      pure { caseId, deduplicated }
    | _ => .error (.uncaught (.external .other "AttributeError"))
  | _ => .error (.uncaught (.external .other "AttributeError"))

/-- `HTTPEventSink.__call__` after the response. -/
def readResponse (response : ApiResponse) : Except SinkError SinkResponse := do
  let rejected ← host.isApiAllowlistRejection response
  if rejected then
    .error (.outOfScope "DataRescue API rejected an asset outside its allowlist")
  else if response.statusCode < 200 ∨ 300 ≤ response.statusCode then
    .error (.httpStatusError response.statusCode)
  else
    match response.body with
    | .error error => .error (.invalid (host.printing.loadsError error ""))
    | .ok body => host.workflowResponse body

/-- `HTTPEventSink` against the API of a service. -/
def httpSink (service : Service) : EventSink := fun event => do
  let response ← schemaChange host service event
  pure (host.readResponse response)

/-! ### The watcher -/

/-- `DataHubSchemaMCLWatcher.handle` after its filters. -/
def deliver (sink : EventSink) (now : Timestamp) (payload : Mapping) (previousRaw : Json) :
    Flow MclActionResult :=
  match host.schemaEvent now payload previousRaw with
  | .error error => rejected error.text
  | .ok event =>
    if sameSchema event.beforeFields event.afterFields then
      pure { status := .skipped, reason := "schemaMetadata event contains no field-level change" }
    else do
      match ← sink event with
      | .ok response =>
        pure { status := .enqueued, reason := "Schema transition accepted by the idempotent workflow",
               caseId := response.caseId, deduplicated := response.deduplicated }
      | .error (.outOfScope _) =>
        pure { status := .skipped, reason := "Asset is outside the remediation allowlist" }
      | .error (.httpStatusError statusCode) =>
        pure { status := .failed,
               reason := s!"DataRescue API rejected the schema event with HTTP {statusCode}" }
      | .error (.requestError typeName) =>
        pure { status := .failed, reason := s!"DataRescue API delivery failed: {typeName}" }
      | .error (.invalid text) => rejected text
      | .error (.uncaught exception) => .throw exception
where
  rejected (text : String) : Flow MclActionResult :=
    pure { status := .failed, reason := s!"Invalid schemaMetadata MCL: {text}" }

/-- `DataHubSchemaMCLWatcher.handle` -/
def handle (sink : EventSink) (now : Timestamp) (payload : Json) : Flow MclActionResult :=
  match payload with
  | .obj fields =>
    let eventType := orElse (getField fields "event_type") (getField fields "eventType")
    if present eventType ∧ eventType ≠ some (.str "MetadataChangeLogEvent_v1") then
      let shown := host.printing.toText (eventType.getD .null)
      pure { status := .skipped, reason := s!"Unsupported event type: {shown}" }
    else if getField fields "entityType" ≠ some (.str "dataset") then
      pure { status := .skipped, reason := "Only dataset events are in scope" }
    else if getField fields "aspectName" ≠ some (.str "schemaMetadata") then
      pure { status := .skipped, reason := "Only schemaMetadata changes are in scope" }
    else
      match getField fields "previousAspectValue" with
      | none | some .null =>
        pure { status := .skipped, reason := "Initial ingestion has no previous schema and is not drift" }
      | some previousRaw => host.deliver sink now fields previousRaw
  | _ => pure { status := .failed, reason := "MCL payload is not a JSON object" }

end MclHost

/-! ### The action -/

/-- What a conversion method of an event returns. -/
inductive Converted where
  | mapping (fields : Mapping)
  | bytes (content : List UInt8)
  | text (value : String)
  | other

/-- The `event` member of an envelope: a mapping, or an object with the methods that it has. -/
inductive ActionEvent where
  | mapping (fields : Mapping)
  | object (toObj asJson : Option Converted)

namespace MclHost

variable (host : MclHost)

/-- What a serialized event says, if it is a mapping. -/
def parsedMapping (text : String) : Except AdapterError (Option Mapping) :=
  match loads text with
  | .ok (.obj fields) => .ok (some fields)
  | .ok _ => .ok none
  | .error error => .error (.valueError (host.printing.loadsError error text))

def convertedMapping : Option Converted → Except AdapterError (Option Mapping)
  | some (.mapping fields) => .ok (some fields)
  | some (.bytes content) =>
    match decodeUtf8 content with
    | some text => host.parsedMapping text
    | none => .error (.valueError "UnicodeDecodeError")
  | some (.text value) => host.parsedMapping value
  | some .other | none => .ok none

/-- `_event_payload` -/
def eventPayload : ActionEvent → Except AdapterError Mapping
  | .mapping fields => .ok fields
  | .object toObj asJson => do
    match ← host.convertedMapping toObj with
    | some fields => pure fields
    | none =>
      match ← host.convertedMapping asJson with
      | some fields => pure fields
      | none => .error (.valueError "Action event cannot be normalized to a mapping")

/-- `DataRescueSchemaAction.act` -/
def act (sink : EventSink) (now : Timestamp) (event : ActionEvent) : Flow Bool :=
  match host.eventPayload event with
  | .error error => .throw (.valueError error.text)
  | .ok payload => do
    let result ← host.handle sink now (.obj payload)
    if result.status = .failed then .throw (.valueError result.reason) else pure true

end MclHost


/-! ### Schema transitions -/

/-- A value that is an aspect, or wraps one as an object or as a JSON text. -/
inductive HoldsAspect : Json → Mapping → Prop
  | object {aspect : Mapping} (hvalue : getField aspect "value" = none) :
      HoldsAspect (.obj aspect) aspect
  | text {content : String} {aspect : Mapping} (hloads : loads content = .ok (.obj aspect)) :
      HoldsAspect (.str content) aspect
  | wrapped {outer aspect : Mapping} (hvalue : getField outer "value" = some (.obj aspect))
      (htype : getField outer "contentType" ∈ [none, some .null, some (.str "application/json")]) :
      HoldsAspect (.obj outer) aspect
  | wrappedText {outer aspect : Mapping} {content : String}
      (hvalue : getField outer "value" = some (.str content))
      (htype : getField outer "contentType" ∈ [none, some .null, some (.str "application/json")])
      (hloads : loads content = .ok (.obj aspect)) : HoldsAspect (.obj outer) aspect

/-- An array of objects that have a field path. -/
structure SchemaAspect (aspect : Mapping) (rows : List Mapping) : Prop where
  fields : getField aspect "fields" = some (.arr (rows.map .obj))
  names : ∀ row ∈ rows, ∃ name, MclHost.fieldName row = some (.str name) ∧ name ≠ ""

/-- A metadata change log of a schema, with well-formed fields before and after. -/
structure SchemaTransition (payload : Mapping) (before after : List Mapping) : Prop where
  eventType : present (orElse (getField payload "event_type") (getField payload "eventType")) = true →
    orElse (getField payload "event_type") (getField payload "eventType") =
      some (.str "MetadataChangeLogEvent_v1")
  entityType : getField payload "entityType" = some (.str "dataset")
  aspectName : getField payload "aspectName" = some (.str "schemaMetadata")
  previous : ∃ raw aspect, getField payload "previousAspectValue" = some raw ∧
    HoldsAspect raw aspect ∧ SchemaAspect aspect before
  current : ∃ raw aspect,
    orElse (getField payload "aspect") (getField payload "aspectValue") = some raw ∧
      HoldsAspect raw aspect ∧ SchemaAspect aspect after

namespace MclHost

variable (host : MclHost)

/-- The name and the type of a field are within the bounds of `SchemaField`. -/
def FieldFits (row : Mapping) : Prop :=
  (∀ name, fieldName row = some (.str name) → name.length ≤ 255) ∧ (host.dataType row).length ≤ 128

/-- The texts of a transition are within the bounds of the models. -/
structure Fits (entityUrn : String) (before after : List Mapping) : Prop where
  entityUrn : 1 ≤ entityUrn.length ∧ entityUrn.length ≤ 2048
  before : ∀ row ∈ before, host.FieldFits row
  after : ∀ row ∈ after, host.FieldFits row

theorem checkContentType_ok {contentType : Option Json}
    (h : contentType ∈ [none, some .null, some (.str "application/json")]) :
    host.checkContentType contentType = .ok () := by
  simp only [List.mem_cons, List.not_mem_nil, or_false] at h
  obtain rfl | rfl | rfl := h
  · rfl
  · rfl
  · simp only [checkContentType, ↓reduceIte]

theorem object_ok {value : Json} {aspect : Mapping} (h : HoldsAspect value aspect) :
    host.object (some value) = .ok aspect := by
  unfold object
  rw [bind_eq_ok]
  cases h with
  | object hvalue => exact ⟨some (.obj aspect), by simp only [unwrap, hvalue], rfl⟩
  | text hloads =>
    refine ⟨some (.str _), rfl, ?_⟩
    simp only [hloads]
    rfl
  | wrapped hvalue htype =>
    refine ⟨some (.obj aspect), ?_, rfl⟩
    simp only [unwrap, hvalue, host.checkContentType_ok htype]
    rfl
  | @wrappedText _ _ content hvalue htype hloads =>
    refine ⟨some (.str content), ?_, ?_⟩
    · simp only [unwrap, hvalue, host.checkContentType_ok htype]
      rfl
    · simp only [hloads]
      rfl

theorem field_returns {row : Mapping} {name : String} (hname : fieldName row = some (.str name))
    (hne : name ≠ "") : (∃ field, host.field (.obj row) = .ok field) ↔ host.FieldFits row := by
  have hlength : 1 ≤ name.length := by
    rcases Nat.eq_zero_or_pos name.length with h | h
    · exact absurd (String.length_eq_zero_iff.1 h) hne
    · exact h
  simp only [field, hname, if_neg hne]
  unfold schemaField FieldFits
  split
  next h =>
    refine iff_of_true ⟨_, rfl⟩ ⟨fun other hother => ?_, h.2⟩
    obtain rfl : name = other := Json.str.inj (Option.some.inj (hname.symm.trans hother))
    exact h.1.2
  next h =>
    refine iff_of_false ?_ ?_
    · intro hfield
      obtain ⟨_, hfield⟩ := hfield
      cases hfield
    · intro hfits
      exact h ⟨⟨hlength, hfits.1 name hname⟩, hfits.2⟩

theorem schemaFields_returns {aspect : Mapping} {rows : List Mapping} (h : SchemaAspect aspect rows) :
    (∃ fields, host.schemaFields aspect = .ok fields) ↔ ∀ row ∈ rows, host.FieldFits row := by
  have hmapM : host.schemaFields aspect = (rows.map Json.obj).mapM host.field := by
    simp only [schemaFields, h.fields]
  have hrow : ∀ row ∈ rows, ((∃ field, host.field (.obj row) = .ok field) ↔ host.FieldFits row) := by
    intro row hmem
    obtain ⟨name, hname, hne⟩ := h.names row hmem
    exact host.field_returns hname hne
  rw [hmapM, mapM_returns, List.forall_mem_map]
  exact forall₂_congr hrow

theorem schemaEvent_returns {now : Timestamp} {payload previous : Mapping} {before after : List Mapping}
    {raw current value : Json} {aspect : Mapping}
    (hprevious : HoldsAspect raw previous) (hbefore : SchemaAspect previous before)
    (hcurrent : orElse (getField payload "aspect") (getField payload "aspectValue") = some current)
    (haspect : HoldsAspect current aspect) (hafter : SchemaAspect aspect after)
    (hurn : getField payload "entityUrn" = some value) :
    (∃ event, host.schemaEvent now payload raw = .ok event ∧
      event.entityUrn = host.printing.toText value) ↔
        host.Fits (host.printing.toText value) before after := by
  have hentity : host.entityUrn payload = .ok (host.printing.toText value) := by
    simp only [entityUrn, hurn]
  unfold schemaEvent
  simp only [host.object_ok hprevious, hcurrent, host.object_ok haspect, hentity, bind, Except.bind]
  constructor
  · rintro ⟨event, hevent, -⟩
    obtain ⟨beforeFields, hbeforeFields, hevent⟩ := bind_eq_ok.1 hevent
    obtain ⟨afterFields, hafterFields, hevent⟩ := bind_eq_ok.1 hevent
    refine ⟨?_, (host.schemaFields_returns hbefore).1 ⟨_, hbeforeFields⟩,
      (host.schemaFields_returns hafter).1 ⟨_, hafterFields⟩⟩
    unfold validated at hevent
    split at hevent
    next h => exact h
    next => cases hevent
  · rintro ⟨hlength, hfitsBefore, hfitsAfter⟩
    obtain ⟨beforeFields, hbeforeFields⟩ := (host.schemaFields_returns hbefore).2 hfitsBefore
    obtain ⟨afterFields, hafterFields⟩ := (host.schemaFields_returns hafter).2 hfitsAfter
    simp only [hbeforeFields, hafterFields, validated, dif_pos hlength]
    exact ⟨_, rfl, rfl⟩

/-! ### Assets outside of the allowlist -/

/-- Both sinks report an event of an asset outside the allowlist as out of scope, and call nothing. -/
def RejectsOutOfScope (service : Service) (sink : EventSink) : Prop :=
  ∀ event, event.entityUrn ∉ service.settings.allowedAssetUrns →
    ∃ message, sink event = pure (.error (.outOfScope message))

theorem ingestSink_rejects (service : Service) : RejectsOutOfScope service (host.ingestSink service) := by
  intro event hallow
  unfold ingestSink Service.ingest
  rw [if_pos hallow]
  exact ⟨_, rfl⟩

theorem startsWith_append (start rest : String) : startsWith (start ++ rest) start = true := by
  unfold startsWith
  rw [List.isPrefixOf_iff_prefix, String.toList_append]
  exact List.prefix_append _ _

/-- The API labels the rejection, and its client reads the label back. -/
theorem httpSink_rejects (service : Service) : RejectsOutOfScope service (host.httpSink service) := by
  intro event hallow
  let start := "Asset is outside the configured remediation allowlist"
  let message := s!"Asset is outside the configured remediation allowlist: {event.entityUrn}"
  have hingest : (service.ingest event).attempt =
      (pure (.error (.assetNotAllowed message)) : Flow (Except Exn SchemaChangeResponse)) := by
    unfold Service.ingest
    rw [if_pos hallow]
    rfl
  have hmessage : message = start ++ (": " ++ event.entityUrn) := by
    show "Asset is outside the configured remediation allowlist: " ++ event.entityUrn = _
    have hstart : "Asset is outside the configured remediation allowlist: " = start ++ ": " := rfl
    rw [hstart, String.append_assoc]
  have hrejected : host.isApiAllowlistRejection
      (.detail 403 message (some "ASSET_OUTSIDE_ALLOWLIST")) = .ok true := by
    have hstarts : startsWith message start = true := by
      rw [hmessage]
      exact startsWith_append _ _
    unfold isApiAllowlistRejection
    simp only [ApiResponse.detail, ne_eq, not_true_eq_false, or_self, ↓reduceIte, getField,
      List.lookup_cons, beq_self_eq_true]
    exact congrArg Except.ok hstarts
  refine ⟨"DataRescue API rejected an asset outside its allowlist", ?_⟩
  have hresponse : schemaChange host service event =
      pure (.detail 403 message (some "ASSET_OUTSIDE_ALLOWLIST")) := by
    unfold schemaChange
    rw [hingest]
    rfl
  unfold httpSink
  have hread : host.readResponse (.detail 403 message (some "ASSET_OUTSIDE_ALLOWLIST")) =
      .error (.outOfScope "DataRescue API rejected an asset outside its allowlist") := by
    unfold readResponse
    rw [hrejected]
    rfl
  rw [hresponse, ← hread]
  rfl

theorem handle_deliver {sink : EventSink} {now : Timestamp} {payload : Mapping}
    {before after : List Mapping} (h : SchemaTransition payload before after) {raw : Json}
    (hraw : getField payload "previousAspectValue" = some raw) {aspect : Mapping}
    (haspect : HoldsAspect raw aspect) :
    host.handle sink now (.obj payload) = host.deliver sink now payload raw := by
  have htype : ¬(present (orElse (getField payload "event_type") (getField payload "eventType")) ∧
      orElse (getField payload "event_type") (getField payload "eventType") ≠
        some (.str "MetadataChangeLogEvent_v1")) := fun hother => hother.2 (h.eventType hother.1)
  have hnull : raw ≠ .null := by
    rintro rfl
    cases haspect
  unfold handle
  simp only [if_neg htype, h.entityType, h.aspectName, hraw, ne_eq, not_true_eq_false, ↓reduceIte]

theorem deliver_rejected {service : Service} {sink : EventSink}
    (hsink : RejectsOutOfScope service sink) {now : Timestamp} {payload : Mapping} {raw : Json}
    {event : SchemaChangeEvent} (hevent : host.schemaEvent now payload raw = .ok event)
    (hallow : event.entityUrn ∉ service.settings.allowedAssetUrns) :
    ∃ reason, host.deliver sink now payload raw = pure { status := .skipped, reason } := by
  unfold deliver
  simp only [hevent]
  split
  · exact ⟨_, rfl⟩
  · obtain ⟨message, hmessage⟩ := hsink event hallow
    rw [hmessage]
    exact ⟨_, rfl⟩

theorem handle_unfit {sink : EventSink} {now : Timestamp} {payload : Mapping}
    {before after : List Mapping} (h : SchemaTransition payload before after) {value : Json}
    (hurn : getField payload "entityUrn" = some value)
    (hunfit : ¬host.Fits (host.printing.toText value) before after) :
    ∃ reason, host.handle sink now (.obj payload) = pure { status := .failed, reason } := by
  obtain ⟨raw, previous, hraw, hprevious, hbefore⟩ := h.previous
  obtain ⟨current, aspect, hcurrent, haspect, hafter⟩ := h.current
  rw [host.handle_deliver h hraw hprevious]
  unfold deliver
  cases hevent : host.schemaEvent now payload raw with
  | error error => exact ⟨_, rfl⟩
  | ok event =>
    refine absurd ((host.schemaEvent_returns hprevious hbefore hcurrent haspect hafter hurn).1
      ⟨event, hevent, ?_⟩) hunfit
    obtain ⟨_, -, hrest⟩ := bind_eq_ok.1 hevent
    obtain ⟨_, -, hrest⟩ := bind_eq_ok.1 hrest
    obtain ⟨entityUrn, hentity, hrest⟩ := bind_eq_ok.1 hrest
    obtain ⟨_, -, hrest⟩ := bind_eq_ok.1 hrest
    obtain ⟨_, -, hrest⟩ := bind_eq_ok.1 hrest
    have hvalue : entityUrn = host.printing.toText value := by
      rw [MclHost.entityUrn, hurn] at hentity
      exact (Except.ok.inj hentity).symm
    unfold validated at hrest
    split at hrest
    next =>
      obtain rfl := Except.ok.inj hrest
      exact hvalue
    next => cases hrest

theorem act_of_handle {sink : EventSink} {now : Timestamp} {event : ActionEvent} {payload : Mapping}
    (hpayload : host.eventPayload event = .ok payload) {result : MclActionResult}
    (h : host.handle sink now (.obj payload) = pure result) (hstatus : result.status ≠ .failed) :
    host.act sink now event = pure true := by
  unfold act
  rw [hpayload]
  simp only [h]
  show (if result.status = .failed then _ else _) = _
  rw [if_neg hstatus]

/-- A schema transition of an asset outside of the allowlist, without lone surrogates in its texts, is
acknowledged when these fit the models, over the service and over its API, and fails otherwise. -/
theorem outOfScope_skipped (service : Service) (now : Timestamp) (payload : Mapping)
    (before after : List Mapping) (value : Json) (h : SchemaTransition payload before after)
    (hurn : getField payload "entityUrn" = some value)
    (hallow : host.printing.toText value ∉ service.settings.allowedAssetUrns) :
    ∀ sink ∈ [host.ingestSink service, host.httpSink service],
      ((∃ reason, host.handle sink now (.obj payload) = pure { status := .skipped, reason }) ∧
        ∀ event, host.eventPayload event = .ok payload → host.act sink now event = pure true) ↔
      host.Fits (host.printing.toText value) before after := by
  intro sink hsink
  have hrejects : RejectsOutOfScope service sink := by
    simp only [List.mem_cons, List.not_mem_nil, or_false] at hsink
    obtain rfl | rfl := hsink
    · exact host.ingestSink_rejects service
    · exact host.httpSink_rejects service
  constructor
  · rintro ⟨⟨reason, hskipped⟩, -⟩
    by_contra hunfit
    obtain ⟨reason', hfailed⟩ := @handle_unfit host sink now _ _ _ h _ hurn hunfit
    cases hskipped.symm.trans hfailed
  · intro hfits
    obtain ⟨raw, previous, hraw, hprevious, hbefore⟩ := h.previous
    obtain ⟨current, aspect, hcurrent, haspect, hafter⟩ := h.current
    obtain ⟨event, hevent, hentity⟩ :=
      (@schemaEvent_returns host now _ _ _ _ _ _ _ _ hprevious hbefore hcurrent haspect hafter hurn).2
        hfits
    rw [← hentity] at hallow
    obtain ⟨reason, hskipped⟩ := host.deliver_rejected hrejects hevent hallow
    rw [← host.handle_deliver h hraw hprevious] at hskipped
    exact ⟨⟨reason, hskipped⟩, fun event hpayload =>
      host.act_of_handle hpayload hskipped (fun hstatus => nomatch hstatus)⟩

/-! ### A long column name -/

def plainMclHost : MclHost where
  printing := ⟨fun _ => "", fun _ => "", fun _ => "", fun _ => "", fun _ _ => "", fun _ _ => ""⟩
  validationText := fun _ _ => ""
  dumpsSorted := fun _ => ""
  fromTimestamp := fun _ => none
  coerceBool := fun _ => none
  sha256 := fun _ => ""

def defaultService : Service where
  sha256 := fun _ => ""

/-- A column of another dataset is renamed. -/
def renamedColumn (name : String) : Mapping :=
  [("entityType", .str "dataset"), ("aspectName", .str "schemaMetadata"),
    ("entityUrn", .str "urn:li:dataset:other"),
    ("previousAspectValue", .obj [("fields", .arr [.obj [("fieldPath", .str "id")]])]),
    ("aspect", .obj [("fields", .arr [.obj [("fieldPath", .str name)]])])]

theorem renamedColumn_transition {name : String} (hname : name ≠ "") :
    SchemaTransition (renamedColumn name) [[("fieldPath", .str "id")]] [[("fieldPath", .str name)]] := by
  have hschema : ∀ name : String, name ≠ "" →
      SchemaAspect [("fields", .arr [.obj [("fieldPath", .str name)]])] [[("fieldPath", .str name)]] := by
    intro name hname
    refine ⟨rfl, fun row hrow => ⟨name, ?_, hname⟩⟩
    obtain rfl := List.mem_singleton.1 hrow
    simp [fieldName, orElse, present, getField, Json.truthy, hname]
  refine ⟨fun htype => ?_, rfl, rfl, ?_, ?_⟩
  · have hfirst : getField (renamedColumn name) "event_type" = none := rfl
    have hsecond : getField (renamedColumn name) "eventType" = none := rfl
    rw [hfirst, hsecond] at htype
    exact absurd htype (by decide)
  · exact ⟨_, _, rfl, .object rfl, hschema "id" (by decide)⟩
  · exact ⟨_, _, rfl, .object rfl, hschema name hname⟩

theorem renamedColumn_fits :
    plainMclHost.Fits "urn:li:dataset:other" [[("fieldPath", .str "id")]]
      [[("fieldPath", .str "total")]] := by
  refine ⟨by decide +kernel, ?_, ?_⟩
  all_goals
    intro row hrow
    obtain rfl := List.mem_singleton.1 hrow
    refine ⟨fun name hname => ?_, by decide +kernel⟩
    simp [fieldName, orElse, present, getField, Json.truthy] at hname
    subst hname
    decide +kernel

theorem outOfScope_skipped_renamed :
    (∃ reason, plainMclHost.handle (plainMclHost.ingestSink defaultService) 0
      (.obj (renamedColumn "total")) = pure { status := .skipped, reason }) ∧
    ∃ reason, plainMclHost.handle (plainMclHost.httpSink defaultService) 0
      (.obj (renamedColumn "total")) = pure { status := .skipped, reason } := by
  have h := outOfScope_skipped plainMclHost defaultService 0 (renamedColumn "total") _ _
    (.str "urn:li:dataset:other") (renamedColumn_transition (by decide)) rfl (by decide +kernel)
  exact ⟨((h _ (by simp)).2 renamedColumn_fits).1, ((h _ (by simp)).2 renamedColumn_fits).1⟩

/-- A column name of 256 characters. -/
def longName : String := String.ofList (List.replicate 256 'a')

theorem longName_length : longName.length = 256 := by
  delta longName
  rw [String.length_ofList, List.length_replicate]

/-- A column of another dataset gets a name of 256 characters: the log is a failure. -/
theorem outOfScope_counterexample :
    ¬∀ (payload : Mapping) (before after : List Mapping) (value : Json),
      SchemaTransition payload before after → getField payload "entityUrn" = some value →
      plainMclHost.printing.toText value ∉ defaultService.settings.allowedAssetUrns →
      ∃ reason, plainMclHost.handle (plainMclHost.ingestSink defaultService) 0 (.obj payload) =
        pure { status := .skipped, reason } := by
  intro h
  have hne : longName ≠ "" := by
    intro hempty
    have hlength := longName_length
    rw [hempty] at hlength
    exact absurd hlength (by decide)
  have htransition := @renamedColumn_transition longName hne
  have hunfit : ¬plainMclHost.Fits "urn:li:dataset:other" [[("fieldPath", .str "id")]]
      [[("fieldPath", .str longName)]] := by
    intro hfits
    obtain ⟨hname, -⟩ := hfits.after _ List.mem_cons_self
    have hfield : fieldName [("fieldPath", .str longName)] = some (.str longName) := by
      simp [fieldName, orElse, present, getField, Json.truthy, hne]
    have hbound := hname longName hfield
    rw [longName_length] at hbound
    omega
  obtain ⟨reason, hskipped⟩ := h (renamedColumn longName) _ _ (.str "urn:li:dataset:other") htransition
    rfl (by decide +kernel)
  obtain ⟨reason', hfailed⟩ := @handle_unfit plainMclHost
    (plainMclHost.ingestSink defaultService) 0 _ _ _ htransition (.str "urn:li:dataset:other") rfl hunfit
  cases hskipped.symm.trans hfailed

end MclHost

end DataRescue
