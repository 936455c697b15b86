import DataRescue.Api.Projection
import DataRescue.Api.SchemaEvent

/-!
# Event store

`EventStore` of `apps/api/store.py`: an append-only table whose sequence numbers are `1, 2, …` and
whose two unique indexes are fields of `Store`, so a table that violates them cannot be built. Every
method is one transaction. A reset is a row too; the rows after the last reset are the visible ones.
-/

namespace DataRescue

open Python

/-- The exceptions the store raises. -/
inductive StoreError where
  | caseNotFound (caseId : String)
  | duplicateEvent (caseId : String)
  | eventConflict (eventId caseId : String)
  | invalidStateTransition (message : String)
  | valueError (message : String)
  | integrityError
  deriving DecidableEq, Repr

/-- A row of the `events` table. -/
structure Row where
  sequence : Nat
  eventId : String
  caseId : String
  state : Option CaseState
  body : EventBody
  dedupKey : Option String
  resetScope : Nat
  createdAt : Timestamp
  deriving DecidableEq

namespace Row

def eventType (row : Row) : EventType := row.body.eventType

/-- `_row_to_event` -/
def event (row : Row) : CaseEvent where
  sequence := row.sequence
  eventId := row.eventId
  caseId := row.caseId
  state := row.state
  body := row.body
  createdAt := row.createdAt

/-- The rows may share the index on event ids. -/
def idApart (first second : Row) : Prop :=
  ¬(first.eventId = second.eventId ∧ first.resetScope = second.resetScope)

/-- The rows may share the partial index on dedup keys. -/
def keyApart (first second : Row) : Prop :=
  ¬(first.dedupKey ≠ none ∧ first.dedupKey = second.dedupKey ∧
    first.resetScope = second.resetScope)

instance : DecidableRel idApart := fun _ _ => by unfold idApart; infer_instance

instance : DecidableRel keyApart := fun _ _ => by unfold keyApart; infer_instance

end Row

/-- `_same_event_payload`: detection payloads are compared after normalisation. -/
def sameEventPayload (existing incoming : EventBody) : Bool :=
  existing = incoming ||
    match existing, incoming with
    | .schemaChangeDetected first firstUrn, .schemaChangeDetected second secondUrn =>
      sameSchemaChange first second && firstUrn == secondUrn
    | _, _ => false

/-- The event table. -/
structure Store where
  rows : List Row
  sequences : rows.map Row.sequence = List.range' 1 rows.length
  ux_events_id_scope : rows.Pairwise Row.idApart
  ux_events_dedup_scope : rows.Pairwise Row.keyApart

namespace Store

@[ext] theorem ext {first second : Store} (h : first.rows = second.rows) : first = second := by
  cases first; cases second; simp_all

instance : DecidableEq Store := fun first second =>
  decidable_of_iff (first.rows = second.rows) ⟨ext, fun h => h ▸ rfl⟩

def empty : Store := ⟨[], rfl, .nil, .nil⟩

/-- `_current_scope`: the sequence number of the last reset. -/
def currentScope (store : Store) : Nat :=
  ((store.rows.filter (·.eventType = .systemReset)).map Row.sequence).max?.getD 0

/-- The rows of a case after a reset. -/
def caseRows (store : Store) (caseId : String) (scope : Nat) : List Row :=
  store.rows.filter fun row => row.caseId = caseId ∧ scope < row.sequence

/-- `_current_state` -/
def currentState (store : Store) (caseId : String) (scope : Nat) : Option CaseState :=
  ((store.caseRows caseId scope).filterMap Row.state).getLast?

def rowForEventId (store : Store) (eventId : String) (scope : Nat) : Option Row :=
  store.rows.find? fun row => row.eventId = eventId ∧ row.resetScope = scope

def rowForDedup (store : Store) (dedupKey : String) (scope : Nat) : Option Row :=
  store.rows.find? fun row => row.dedupKey = some dedupKey ∧ row.resetScope = scope

/-- `_stored_event_matches` -/
def storedEventMatches (existing : Row) (caseId : String) (state : CaseState) (body : EventBody)
    (dedupKey : Option String) : Bool :=
  existing.caseId = caseId ∧ existing.eventType = body.eventType ∧ existing.state = some state ∧
    existing.dedupKey = dedupKey ∧ sameEventPayload existing.body body = true

/-- Insert a row with the next sequence number; `none` is an `IntegrityError`. -/
def insert (store : Store) (eventId caseId : String) (state : Option CaseState) (body : EventBody)
    (dedupKey : Option String) (scope : Nat) (createdAt : Timestamp) : Option Store :=
  let row : Row :=
    { sequence := store.rows.length + 1, eventId, caseId, state, body, dedupKey,
      resetScope := scope, createdAt }
  if h : (∀ other ∈ store.rows, other.idApart row) ∧ (∀ other ∈ store.rows, other.keyApart row) then
    some
      { rows := store.rows ++ [row]
        sequences := by
          rw [List.map_append, store.sequences, List.length_append, List.length_singleton,
            List.range'_concat, Nat.one_mul, Nat.add_comm 1]
          rfl
        ux_events_id_scope := List.pairwise_append.2
          ⟨store.ux_events_id_scope, List.pairwise_singleton .., by simpa using h.1⟩
        ux_events_dedup_scope := List.pairwise_append.2
          ⟨store.ux_events_dedup_scope, List.pairwise_singleton .., by simpa using h.2⟩ }
  else none

/-- What a second use of an event id raises. -/
def eventIdInUse (existing : Row) (eventId caseId : String) (state : CaseState) (body : EventBody)
    (dedupKey : Option String) : StoreError :=
  if storedEventMatches existing caseId state body dedupKey then .duplicateEvent existing.caseId
  else .eventConflict eventId existing.caseId

/-- `event_id or str(uuid.uuid4())` -/
def chosenEventId (eventId : Option String) (fresh : String) : String :=
  match eventId with
  | some eventId => if eventId ≠ "" then eventId else fresh
  | none => fresh

/-- `append`, with the generated id and the time as arguments. -/
def append (store : Store) (fresh : String) (now : Timestamp) (caseId : String) (state : CaseState)
    (body : EventBody) (dedupKey eventId : Option String) : Except StoreError (CaseEvent × Store) :=
  let eventId := chosenEventId eventId fresh
  let scope := store.currentScope
  match store.rowForEventId eventId scope with
  | some existing => .error (eventIdInUse existing eventId caseId state body dedupKey)
  | none =>
    match dedupKey.bind (store.rowForDedup · scope) with
    | some existing => .error (.duplicateEvent existing.caseId)
    | none =>
      let current := store.currentState caseId scope
      if body.eventType = .schemaChangeDetected ∧ current ≠ none then
        .error (.invalidStateTransition
          s!"Case id {caseId} is already assigned to another schema event")
      else match validateTransition current state with
        | .error message => .error (.invalidStateTransition message)
        | .ok () =>
          match store.insert eventId caseId (some state) body dedupKey scope now with
          | some inserted =>
            .ok ({ sequence := store.rows.length + 1, eventId, caseId, state := some state, body,
                   createdAt := now }, inserted)
          | none =>
            -- The re-read after an integrity error.
            match store.rowForEventId eventId scope with
            | some existing => .error (eventIdInUse existing eventId caseId state body dedupKey)
            | none =>
              match dedupKey.bind (store.rowForDedup · scope) with
              | some existing => .error (.duplicateEvent existing.caseId)
              | none => .error .integrityError

/-- `find_case_for_event_id` -/
def findCaseForEventId (store : Store) (eventId caseId : String) (state : CaseState)
    (body : EventBody) (dedupKey : Option String) : Except StoreError (Option String) :=
  match store.rowForEventId eventId store.currentScope with
  | none => .ok none
  | some existing =>
    if storedEventMatches existing caseId state body dedupKey then .ok (some existing.caseId)
    else .error (.eventConflict eventId existing.caseId)

/-- `reset` -/
def reset (store : Store) (fresh : String) (now : Timestamp) (reason : String) :
    Except StoreError (Nat × Store) :=
  match store.insert fresh "__system__" none (.systemReset reason) none store.currentScope now with
  | some inserted => .ok (store.rows.length + 1, inserted)
  | none => .error .integrityError

/-- `find_case_for_dedup` -/
def findCaseForDedup (store : Store) (dedupKey : String) : Option String :=
  (store.rowForDedup dedupKey store.currentScope).map Row.caseId

/-- `case_id_exists` -/
def caseIdExists (store : Store) (caseId : String) : Bool :=
  !(store.caseRows caseId store.currentScope).isEmpty

/-- `events_for_case` -/
def eventsForCase (store : Store) (caseId : String) (afterSequence : Nat) : List CaseEvent :=
  ((store.caseRows caseId store.currentScope).filter (afterSequence < ·.sequence)).map Row.event

/-- `all_active_events` -/
def allActiveEvents (store : Store) : List CaseEvent :=
  (store.rows.filter fun row => store.currentScope < row.sequence ∧ row.caseId ≠ "__system__").map
    Row.event

/-- `raw_event_count` -/
def rawEventCount (store : Store) : Nat := store.rows.length

def projectionError : StoreError :=
  .valueError "Case projection must begin with SCHEMA_CHANGE_DETECTED"

/-- `project_case` with its exception. -/
def project (events : List CaseEvent) : Except StoreError CaseSnapshot :=
  match projectCase events with
  | some snapshot => .ok snapshot
  | none => .error projectionError

/-- `get_case` -/
def getCase (store : Store) (caseId : String) : Except StoreError CaseSnapshot :=
  match store.eventsForCase caseId 0 with
  | [] => .error (.caseNotFound caseId)
  | first :: rest => project (first :: rest)

/-- The keys of the `grouped` dictionary, in insertion order. -/
def activeCaseIds (store : Store) : List String :=
  (store.allActiveEvents.map CaseEvent.caseId).eraseDups

/-- `list_cases`, the most recently updated first. -/
def listCases (store : Store) : Except StoreError (List CaseSnapshot) := do
  let snapshots ← store.activeCaseIds.mapM fun caseId =>
    project (store.allActiveEvents.filter (·.caseId = caseId))
  pure (snapshots.insertionSort fun first second => second.updatedAt ≤ first.updatedAt)

/-- `contained_asset` -/
def containedAsset (store : Store) (assetUrn : String) : Except StoreError (Option CaseSnapshot) := do
  let cases ← store.listCases
  pure (cases.find? fun case => case.assetUrn = assetUrn ∧ case.state = .contained)

/-- `blocked_asset` -/
def blockedAsset (store : Store) (assetUrn : String) : Except StoreError (Option CaseSnapshot) := do
  let cases ← store.listCases
  pure (cases.find? fun case => case.assetUrn = assetUrn ∧ case.state ≠ .resolved)

end Store

end DataRescue
