import DataRescue.Datahub.Mcp
import DataRescue.Python.Paths

/-!
# Seeding the semantic context

`scripts/seed_datahub_context.py`: `seed_context` brings the aspects that the connected demo needs into the
catalog, each through a test of the aspect as it is and a rewrite when the test fails, and verifies the
result. An aspect store that answers from what was written is a `Catalog`; what is not an aspect is the
`Graph` around it.
-/

namespace DataRescue

open Python

/-- The aspects of `_aspect_classes`. -/
inductive AspectName
  | corpUserInfo | documentInfo | documentSettings | editableDatasetProperties | glossaryTermInfo
  | glossaryTerms | institutionalMemory | ownership | subTypes | upstreamLineage
  deriving DecidableEq

def AspectName.text : AspectName → String
  | .corpUserInfo => "corpUserInfo"
  | .documentInfo => "documentInfo"
  | .documentSettings => "documentSettings"
  | .editableDatasetProperties => "editableDatasetProperties"
  | .glossaryTermInfo => "glossaryTermInfo"
  | .glossaryTerms => "glossaryTerms"
  | .institutionalMemory => "institutionalMemory"
  | .ownership => "ownership"
  | .subTypes => "subTypes"
  | .upstreamLineage => "upstreamLineage"

structure SemanticContextSpec where
  sourceUrn : String
  dbtSourceUrn : String
  stagingUrn : String
  stagingTargetUrn : String
  martUrn : String
  termUrn : String
  ownerUrn : String
  termDefinition : String
  assetDescription : String
  documentUrl : String
  documentDescription : String
  sharedDocumentUrn : String
  contextDocumentUrn : String
  contextDocumentTitle : String
  contextDocumentContent : String

namespace SemanticSeed

inductive SeedError
  | verificationError (message : String)
  | runtimeError (message : String)
  | raised (error : AdapterError)
  deriving DecidableEq

/-- `except (RuntimeError, ValueError)`, with the text. -/
def SeedError.caught : SeedError → Option String
  | .verificationError message | .runtimeError message | .raised (.valueError message) => some message
  | .raised _ => none

/-- The aspects of the entities, and the entities there are: one with an aspect exists. -/
structure Catalog where
  aspects : String → AspectName → Option Fields
  entities : String → Bool
  exists_of_aspect : ∀ urn name, aspects urn name ≠ none → entities urn = true

/-- `store.get_aspect(urn, name) or {}` -/
def Catalog.current (catalog : Catalog) (urn : String) (name : AspectName) : Fields :=
  (catalog.aspects urn name).getD []

/-- `emit_aspect`: what is read next is what was written. -/
def Catalog.emit (catalog : Catalog) (urn : String) (name : AspectName) (value : Fields) : Catalog where
  aspects other otherName :=
    if other = urn ∧ otherName = name then some value else catalog.aspects other otherName
  entities other := other = urn || catalog.entities other
  exists_of_aspect := by
    intro other otherName h
    by_cases hurn : other = urn
    · simp [hurn]
    · rw [if_neg fun hsame => hurn hsame.1] at h
      simp [catalog.exists_of_aspect other otherName h]

/-- What answers besides the aspects: the connection test, and the search for related documents. -/
structure Graph where
  connection : Except SeedError Unit
  relatedDocuments : Catalog → String → Except SeedError (List Fields)

/-- A run: the catalog, the aspects emitted and the list of changes. -/
structure Seeding where
  catalog : Catalog
  emitted : List (String × AspectName × Fields) := []
  changed : List String := []

def Seeding.emit (seeding : Seeding) (urn : String) (name : AspectName) (value : Fields) : Seeding :=
  { catalog := seeding.catalog.emit urn name value
    emitted := seeding.emitted ++ [(urn, name, value)]
    changed := seeding.changed ++ [urn ++ ":" ++ name.text] }

/-! ### Contracts -/

/-- `==` with a text or a truth value, the scalars of the contracts. -/
def equals (actual : Option Json) : Json → Bool
  | .bool value => Json.isNumber actual (if value then 1 else 0)
  | expected => actual = some expected

mutual
def containsValue (actual : Option Json) : Json → Bool
  | .obj expected =>
    match actual with
    | some (.obj fields) => contains fields expected
    | _ => false
  | expected => equals actual expected

/-- `_contains` -/
def contains (actual : Fields) : Fields → Bool
  | [] => true
  | (key, expected) :: rest => containsValue (getField actual key) expected && contains actual rest
end

mutual
def mergeValue (current : Option Json) : Json → Json
  | .obj required =>
    match current with
    | some (.obj fields) => .obj (mergeRequired fields required)
    | _ => .obj required
  | required => required

/-- `_merge_required` -/
def mergeRequired (current : Fields) : Fields → Fields
  | [] => current
  | (key, required) :: rest =>
    mergeRequired (setField current key (mergeValue (getField current key) required)) rest
end

/-! ### Updates -/

/-- What an update makes of an aspect: nothing when its test holds. -/
abbrev Update := Fields → Except AdapterError (Option Fields)

/-- An aspect and its update, for a stamp. -/
structure Ensure where
  urn : String
  name : AspectName
  update : Json → Update

/-- `item.get(...)` -/
def mapping : Json → Except AdapterError Fields
  | .obj fields => .ok fields
  | value => .error (.attributeError s!"'{value.typeName}' object has no attribute 'get'")

/-- The values of a list field, `[]` by default. -/
def listField (fields : Fields) (key : String) : Except AdapterError (List Json) :=
  iterate ((getField fields key).getD (.arr []))

/-- The loop over the entries: the first with the identity is replaced, unless it has what is expected, and
without one an entry is added. -/
def upsert (identityKey identity : String) (expected : Fields) (replace : Fields → Fields)
    (added : Fields) : List Json → Except AdapterError (Option (List Json))
  | [] => .ok (some [.obj added])
  | item :: rest => do
    let fields ← mapping item
    if !Json.isText (getField fields identityKey) identity then
      let entries ← upsert identityKey identity expected replace added rest
      pure (entries.map (item :: ·))
    else if contains fields expected then pure none
    else pure (some (.obj (replace fields) :: rest))

/-- `_ensure_object_aspect` -/
def ensureObjectAspect (urn : String) (name : AspectName) (required : Fields) : Ensure where
  urn
  name
  update _ current :=
    if contains current required then .ok none else .ok (some (mergeRequired current required))

/-- `_ensure_list_aspect` -/
def ensureListAspect (urn : String) (name : AspectName) (listKey : String) (expected : Fields)
    (identityKey identity stampKey : String) : Ensure where
  urn
  name
  update stamp current := do
    let items ← listField current listKey
    let entries ← upsert identityKey identity expected (mergeRequired · expected) expected items
    pure (entries.map fun entries =>
      setField (setField current listKey (.arr entries)) stampKey stamp)

/-- `_ensure_subtype` -/
def ensureSubtype (documentUrn subtype : String) : Ensure where
  urn := documentUrn
  name := .subTypes
  update _ current := do
    let typeNames ← listField current "typeNames"
    if .str subtype ∈ typeNames then pure none
    else pure (some (setField current "typeNames" (.arr (typeNames ++ [.str subtype]))))

/-- `_ensure_document_settings` -/
def ensureDocumentSettings (documentUrn : String) : Ensure where
  urn := documentUrn
  name := .documentSettings
  update stamp current :=
    if getField current "showInGlobalContext" = some (.bool true) then .ok none
    else .ok (some (setField (setField current "showInGlobalContext" (.bool true)) "lastModified" stamp))

section Spec

variable (spec : SemanticContextSpec)

def termInfo : Fields :=
  [("definition", .str spec.termDefinition), ("termSource", .str "INTERNAL"),
    ("name", .str "NetRevenue"), ("customProperties", .obj [("managedBy", .str "DataRescue")])]

def ownerInfo : Fields :=
  [("active", .bool true), ("displayName", .str "Finance Data"), ("title", .str "Finance Data Owner"),
    ("email", .str "finance-data@example.invalid"), ("system", .bool false)]

def ownerEntry : Fields := [("owner", .str spec.ownerUrn), ("type", .str "DATAOWNER")]

def termEntry : Fields := [("urn", .str spec.termUrn), ("actor", .str spec.ownerUrn)]

def documentEntry : Fields :=
  [("url", .str spec.documentUrl), ("description", .str spec.documentDescription)]

def assetLink : Fields := [("asset", .str spec.sourceUrn)]

def contextDocumentInfo : Fields :=
  [("title", .str spec.contextDocumentTitle), ("source", .obj [("sourceType", .str "NATIVE")]),
    ("status", .obj [("state", .str "PUBLISHED")]),
    ("contents", .obj [("text", .str spec.contextDocumentContent)]),
    ("parentDocument", .obj [("document", .str spec.sharedDocumentUrn)])]

/-- `_ensure_description` -/
def ensureDescription : Ensure where
  urn := spec.sourceUrn
  name := .editableDatasetProperties
  update stamp current :=
    if getField current "description" = some (.str spec.assetDescription) then .ok none
    else .ok (some (setField (setField (setDefault current "created" stamp) "lastModified" stamp)
      "description" (.str spec.assetDescription)))

def ensureOwner (urn : String) : Ensure :=
  ensureListAspect urn .ownership "owners" (ownerEntry spec) "owner" spec.ownerUrn "lastModified"

def ensureTermAttachment (urn : String) : Ensure :=
  ensureListAspect urn .glossaryTerms "terms" (termEntry spec) "urn" spec.termUrn "auditStamp"

/-- The rewritten element of a document. -/
def restampElement (stamp : Json) (element : Fields) : Fields :=
  let createStamp :=
    match getField element "createStamp" with
    | some value => if value.truthy then value else stamp
    | none => stamp
  setField (setField (overlay element (documentEntry spec)) "createStamp" createStamp) "updateStamp" stamp

/-- `_ensure_document` -/
def ensureDocument : Ensure where
  urn := spec.sourceUrn
  name := .institutionalMemory
  update stamp current := do
    let elements ← listField current "elements"
    let added := documentEntry spec ++ [("createStamp", stamp), ("updateStamp", stamp)]
    let entries ←
      upsert "url" spec.documentUrl (documentEntry spec) (restampElement spec stamp) added elements
    pure (entries.map fun entries => setField current "elements" (.arr entries))

/-- `any(_contains(item, asset_link) for item in related_assets)` -/
def linked : List Json → Except AdapterError Bool
  | [] => .ok false
  | item :: rest => do
    let fields ← mapping item
    if contains fields (assetLink spec) then pure true else linked rest

/-- `_ensure_context_document_info` -/
def ensureContextDocumentInfo : Ensure where
  urn := spec.contextDocumentUrn
  name := .documentInfo
  update stamp current := do
    let relatedAssets ← listField current "relatedAssets"
    let hasAssetLink ← linked spec relatedAssets
    if contains current (contextDocumentInfo spec) && hasAssetLink then pure none
    else
      let relatedAssets :=
        if hasAssetLink then relatedAssets else relatedAssets ++ [.obj (assetLink spec)]
      let updated := overlay current (contextDocumentInfo spec)
      let updated := setDefault updated "customProperties" (.obj [])
      let updated := setDefault updated "created" stamp
      let updated := setField updated "lastModified" stamp
      pure (some (setField updated "relatedAssets" (.arr relatedAssets)))

/-- The `documentInfo` of a shared folder that does not exist yet. -/
def createSharedDocument : Ensure where
  urn := spec.sharedDocumentUrn
  name := .documentInfo
  update stamp _ := .ok (some
    [("title", .str "Shared"), ("source", .obj [("sourceType", .str "NATIVE")]),
      ("status", .obj [("state", .str "PUBLISHED")]),
      ("contents", .obj [("text", .str "Contains shared documents authored through DataHub agents.")]),
      ("created", stamp), ("lastModified", stamp)])

/-! ### Verification -/

def mismatch (label : String) : String := label ++ " is missing or does not match the exact contract"

def missingEntry (label : String) : String := label ++ " is missing or does not match the exact URN"

/-- `_require_fields` -/
def requireFields (actual : Option Fields) (expected : Fields) (label : String) : List String :=
  match actual with
  | some fields => if contains fields expected then [] else [mismatch label]
  | none => [mismatch label]

/-- `actual.get(list_key, []) if actual else []` -/
def listValue (actual : Option Fields) (listKey : String) : Json :=
  match actual with
  | some fields => if fields = [] then .arr [] else (getField fields listKey).getD (.arr [])
  | none => .arr []

/-- `isinstance(item, Mapping) and _contains(item, expected)` -/
def matchesEntry (expected : Fields) : Json → Bool
  | .obj fields => contains fields expected
  | _ => false

/-- `_require_list_entry` of an object. -/
def requireListEntry (actual : Option Fields) (listKey : String) (expected : Fields) (label : String) :
    Except SeedError (List String) := do
  let values ← (iterate (listValue actual listKey)).mapError .raised
  pure (if values.any (matchesEntry expected) then [] else [missingEntry label])

/-- `expected in values` of a text. -/
def textIn (expected : String) : Json → Except SeedError Bool
  | .arr items => .ok (decide (.str expected ∈ items))
  | .obj fields => .ok (fields.any fun field => field.1 = expected)
  | .str value => .ok (containsText value expected)
  | value => .error (.raised (.typeError s!"argument of type '{value.typeName}' is not iterable"))

/-- `_require_list_entry` of a text. -/
def requireTextEntry (actual : Option Fields) (listKey expected label : String) :
    Except SeedError (List String) := do
  let found ← textIn expected (listValue actual listKey)
  pure (if found then [] else [missingEntry label])

def datasetUrns : List String :=
  [spec.sourceUrn, spec.dbtSourceUrn, spec.stagingUrn, spec.stagingTargetUrn, spec.martUrn]

/-- The datasets without an entity. -/
def missingDatasets (catalog : Catalog) : List String :=
  (datasetUrns spec).filter fun urn => !catalog.entities urn

/-- The downstream dataset, the upstream entry and the label of each lineage check. -/
def lineageChecks : List (String × Fields × String) :=
  [(spec.dbtSourceUrn, [("dataset", .str spec.sourceUrn), ("type", .str "COPY")],
      "physical-source-to-dbt-source lineage"),
    (spec.stagingUrn, [("dataset", .str spec.dbtSourceUrn), ("type", .str "TRANSFORMED")],
      "dbt-source-to-staging lineage"),
    (spec.stagingTargetUrn, [("dataset", .str spec.stagingUrn), ("type", .str "COPY")],
      "dbt-staging-to-materialized-staging lineage"),
    (spec.martUrn, [("dataset", .str spec.stagingTargetUrn), ("type", .str "TRANSFORMED")],
      "materialized-staging-to-mart lineage")]

/-- `_check_dbt_lineage` -/
def checkDbtLineage (catalog : Catalog) : Except SeedError (List String) := do
  let errors ← (lineageChecks spec).mapM fun check =>
    requireListEntry (catalog.aspects check.1 .upstreamLineage) "upstreams" check.2.1 check.2.2
  pure errors.flatten

/-- Whether a related document is the context document. -/
def isContextDocument (item : Fields) : Bool :=
  Json.isText (getField item "urn") spec.contextDocumentUrn &&
    match getField item "info" with
    | some (.obj info) => Json.isText (getField info "title") spec.contextDocumentTitle
    | _ => false

/-- `_check_related_datahub_document` -/
def checkRelatedDocument (graph : Graph) (catalog : Catalog) : Except SeedError (List String) := do
  let parent := if catalog.entities spec.sharedDocumentUrn then []
    else ["shared document parent is missing: " ++ spec.sharedDocumentUrn]
  let document := if catalog.entities spec.contextDocumentUrn then []
    else ["context document is missing: " ++ spec.contextDocumentUrn]
  let documentInfo := catalog.aspects spec.contextDocumentUrn .documentInfo
  let info := requireFields documentInfo (contextDocumentInfo spec) "DataRescue context document"
  let link ← requireListEntry documentInfo "relatedAssets" (assetLink spec)
    "context-document dataset relationship"
  let settings := requireFields (catalog.aspects spec.contextDocumentUrn .documentSettings)
    [("showInGlobalContext", .bool true)] "context-document global visibility"
  let subtype ← requireTextEntry (catalog.aspects spec.contextDocumentUrn .subTypes) "typeNames"
    "Context" "context-document subtype"
  let owner ← requireListEntry (catalog.aspects spec.contextDocumentUrn .ownership) "owners"
    (ownerEntry spec) "context-document owner"
  let term ← requireListEntry (catalog.aspects spec.contextDocumentUrn .glossaryTerms) "terms"
    (termEntry spec) "context-document glossary term"
  let related ← match graph.relatedDocuments catalog spec.sourceUrn with
    | .ok documents => pure (if documents.any (isContextDocument spec) then []
        else ["dataset does not expose the deterministic context document"])
    | .error error =>
      match error.caught with
      | some message => pure ["dataset related-document lookup failed: " ++ message]
      | none => throw error
  pure (parent ++ document ++ info ++ link ++ settings ++ subtype ++ owner ++ term ++ related)

/-- `verify_context` without its result. -/
def verifyContext (graph : Graph) (catalog : Catalog) : Except SeedError Unit := do
  let missing := (missingDatasets spec catalog).map ("missing ingested dataset: " ++ ·)
  let term := requireFields (catalog.aspects spec.termUrn .glossaryTermInfo)
    [("definition", .str spec.termDefinition), ("termSource", .str "INTERNAL"),
      ("name", .str "NetRevenue")] "NetRevenue glossary definition"
  let owner := requireFields (catalog.aspects spec.ownerUrn .corpUserInfo)
    [("active", .bool true), ("displayName", .str "Finance Data"),
      ("title", .str "Finance Data Owner")] "Finance Data owner"
  let description := requireFields (catalog.aspects spec.sourceUrn .editableDatasetProperties)
    [("description", .str spec.assetDescription)] "source description"
  let ownerEntries ← requireListEntry (catalog.aspects spec.sourceUrn .ownership) "owners"
    (ownerEntry spec) "source owner attachment"
  let termEntries ← requireListEntry (catalog.aspects spec.sourceUrn .glossaryTerms) "terms"
    (termEntry spec) "source glossary attachment"
  let elements ← requireListEntry (catalog.aspects spec.sourceUrn .institutionalMemory) "elements"
    (documentEntry spec) "source documentation context"
  let related ← checkRelatedDocument spec graph catalog
  let lineage ← checkDbtLineage spec catalog
  let errors := missing ++ term ++ owner ++ description ++ ownerEntries ++ termEntries ++ elements ++
    related ++ lineage
  if errors = [] then pure ()
  else throw (.verificationError
    ("DataHub semantic-context verification failed:\n- " ++ "\n- ".intercalate errors))

/-! ### The run -/

/-- What a run has done so far, and how it ended. -/
abbrev Outcome (α : Type) := Except SeedError α × Seeding

/-- Get the aspect, and emit it when its update says so. -/
def ensure (stamp : Json) (step : Ensure) (seeding : Seeding) : Outcome Unit :=
  match step.update stamp (seeding.catalog.current step.urn step.name) with
  | .error error => (.error (.raised error), seeding)
  | .ok none => (.ok (), seeding)
  | .ok (some value) => (.ok (), seeding.emit step.urn step.name value)

def ensureAll (stamp : Json) : List Ensure → Seeding → Outcome Unit
  | [], seeding => (.ok (), seeding)
  | step :: steps, seeding =>
    match ensure stamp step seeding with
    | (.error error, after) => (.error error, after)
    | (.ok (), after) => ensureAll stamp steps after

/-- The aspects up to the related document. -/
def sourceSteps : List Ensure :=
  [ensureObjectAspect spec.termUrn .glossaryTermInfo (termInfo spec),
    ensureObjectAspect spec.ownerUrn .corpUserInfo ownerInfo,
    ensureDescription spec, ensureOwner spec spec.sourceUrn, ensureTermAttachment spec spec.sourceUrn,
    ensureDocument spec]

/-- `_ensure_shared_document_parent`, of a folder that does not exist. -/
def folderSteps : List Ensure :=
  [createSharedDocument spec, ensureSubtype spec.sharedDocumentUrn "Folder",
    ensureDocumentSettings spec.sharedDocumentUrn]

/-- The aspects of the related document. -/
def documentSteps : List Ensure :=
  [ensureContextDocumentInfo spec, ensureSubtype spec.contextDocumentUrn "Context",
    ensureDocumentSettings spec.contextDocumentUrn, ensureOwner spec spec.contextDocumentUrn,
    ensureTermAttachment spec spec.contextDocumentUrn]

/-- `_ensure_shared_document_parent` -/
def ensureSharedDocumentParent (stamp : Json) (seeding : Seeding) : Outcome Unit :=
  if seeding.catalog.entities spec.sharedDocumentUrn then (.ok (), seeding)
  else ensureAll stamp (folderSteps spec) seeding

/-- The checks before anything is written. -/
def precheck (graph : Graph) (catalog : Catalog) : Except SeedError Unit := do
  graph.connection
  if missingDatasets spec catalog ≠ [] then
    throw (.verificationError
      ("Run the PostgreSQL and dbt ingestion before semantic seeding; missing:\n- " ++
        "\n- ".intercalate (missingDatasets spec catalog)))
  let lineageErrors ← checkDbtLineage spec catalog
  if lineageErrors ≠ [] then
    throw (.verificationError
      ("DataHub dbt-lineage verification failed:\n- " ++ "\n- ".intercalate lineageErrors))

/-- The stamp of a run. -/
def stampOf (nowMs : Int) : Json := .obj [("time", .int nowMs), ("actor", .str spec.ownerUrn)]

/-- Everything that is written, in order. -/
def ensureContext (stamp : Json) (seeding : Seeding) : Outcome Unit :=
  match ensureAll stamp (sourceSteps spec) seeding with
  | (.error error, after) => (.error error, after)
  | (.ok (), after) =>
    match ensureSharedDocumentParent spec stamp after with
    | (.error error, after) => (.error error, after)
    | (.ok (), after) => ensureAll stamp (documentSteps spec) after

/-- `seed_context` -/
def seedContext (graph : Graph) (nowMs : Int) (catalog : Catalog) : Outcome (List String) :=
  match precheck spec graph catalog with
  | .error error => (.error error, { catalog })
  | .ok () =>
    match ensureContext spec (stampOf spec nowMs) { catalog } with
    | (.error error, after) => (.error error, after)
    | (.ok (), after) =>
      match verifyContext spec graph after.catalog with
      | .error error => (.error error, after)
      | .ok () => (.ok after.changed, after)

end Spec

end SemanticSeed

end DataRescue
