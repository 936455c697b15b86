import DataRescue.Workflow.Advance

/-!
# Ingesting a schema event

`ingest` of `apps/api/workflow.py`: the unlocked duplicate check, the locked one, the allocation of a
case id and the advance of the new case. `reset` takes the same lock.
-/

namespace DataRescue

open Python Concurrency

/-- `_detection_payload` -/
def detectionPayload (event : SchemaChangeEvent) (caseId : String) : EventBody :=
  .schemaChangeDetected event ("urn:li:dataRescueIncident:" ++ caseId)

/-- `DR-` and a prefix of the upper-case digest. -/
def caseIdOfWidth (dedupKey : String) (width : Nat) : String :=
  String.ofList ('D' :: 'R' :: '-' :: (dedupKey.toList.take width).map Char.toUpper)

/-- `case_id_from_dedup` -/
def caseIdFromDedup (dedupKey : String) : String := caseIdOfWidth dedupKey 8

/-- `range(16, len(digest) + 1, 8)` -/
def wideWidths (dedupKey : String) : List Nat :=
  (List.range ((dedupKey.length - 8) / 8)).map fun i => 16 + 8 * i

/-- `with self._worker_lock: body` -/
def withWorkerLock {α : Type} (body : Flow α) : Flow α := do
  Flow.memory .acquire
  body.tryFinally fun _ => Flow.memory .release

namespace Service

variable (service : Service)

/-- The store check every use of an event id goes through. -/
def checkEventId (event : SchemaChangeEvent) (dedupKey caseId : String) : Flow (Option String) :=
  match event.eventId with
  | none => pure none
  | some eventId => Flow.store
      (.findCaseForEventId eventId caseId .detected (detectionPayload event caseId) (some dedupKey))

/-- `_deduplicated_response`: the case, unless it is no longer visible. -/
def deduplicatedResponse (event : SchemaChangeEvent) (dedupKey caseId : String) :
    Flow (Option SchemaChangeResponse) := do
  let _ ← checkEventId event dedupKey caseId
  match ← (Flow.store (.getCase caseId)).attempt with
  | .ok case => pure (some { case, deduplicated := true })
  | .error (.store (.caseNotFound _)) => pure none
  | .error error => Program.throw error

/-- `SchemaChangeResponse(case=self.store.get_case(case_id), deduplicated=…)` -/
def respond (caseId : String) (deduplicated : Bool) : Flow SchemaChangeResponse := do
  let case ← Flow.store (.getCase caseId)
  pure { case, deduplicated }

/-- Try the wider ids in turn. -/
def widenedCaseId (dedupKey : String) : List Nat → Flow String
  | [] => Program.throw (.runtimeError "Could not allocate a collision-safe case id")
  | width :: widths => do
    let candidate := caseIdOfWidth dedupKey width
    if candidate = caseIdFromDedup dedupKey then widenedCaseId dedupKey widths
    else
      let occupied ← Flow.store (.caseIdExists candidate)
      if !occupied then pure candidate else widenedCaseId dedupKey widths

/-- `_available_case_id` -/
def availableCaseId (dedupKey : String) : Flow String := do
  match ← Flow.store (.findCaseForDedup dedupKey) with
  | some existing => pure existing
  | none =>
    let preferred := caseIdFromDedup dedupKey
    let occupied ← Flow.store (.caseIdExists preferred)
    if !occupied then pure preferred else widenedCaseId dedupKey (wideWidths dedupKey)

/-- The durable failure record of an advance that raised. -/
def recordFailure (caseId : String) (error : Exn) : Flow Unit := do
  let current ← Flow.store (.getCase caseId)
  if current.state = .resolved ∨ current.state = .contained ∨ current.state = .failed then pure ()
  else
    let _ ← Flow.store (.append caseId .failed
      (.failed (some error.typeName) "Workflow execution failed; inspect server logs for details"
        none) none none)
    pure ()

/-- `_advance_safely_locked`: the advance completed if it, or its failure record, returned. -/
def advanceSafelyLocked (caseId : String) (event : SchemaChangeEvent) : Flow Unit := do
  Flow.memory (.activate caseId)
  (Flow.exceptException (service.advance caseId event) (recordFailure caseId)).tryFinally
    fun result => Flow.memory (.deactivate caseId result.isOk)

/-- The loop that writes the detection event; `remaining` attempts are left. -/
def detectionLoop (event : SchemaChangeEvent) (dedupKey : String) :
    Nat → String → Flow SchemaChangeResponse
  | 0, caseId => do
    service.advanceSafelyLocked caseId event
    respond caseId false
  | remaining + 1, caseId => do
    match ← checkEventId event dedupKey caseId with
    | some duplicateCase => respond duplicateCase true
    | none =>
      match ← (Flow.store (.append caseId .detected (detectionPayload event caseId) (some dedupKey)
          event.eventId)).attempt with
      | .ok _ =>
        service.advanceSafelyLocked caseId event
        respond caseId false
      | .error (.store (.duplicateEvent owner)) => respond owner true
      | .error (.store (.invalidStateTransition message)) =>
        if remaining = 0 then Program.throw (.store (.invalidStateTransition message))
        else
          let caseId ← availableCaseId dedupKey
          detectionLoop event dedupKey remaining caseId
      | .error error => Program.throw error

/-- Allocate an id, write the detection event and advance the case. -/
def createCase (event : SchemaChangeEvent) (dedupKey : String) : Flow SchemaChangeResponse := do
  let caseId ← availableCaseId dedupKey
  service.detectionLoop event dedupKey 8 caseId

/-- The part of `ingest` under the worker lock. -/
def ingestLocked (event : SchemaChangeEvent) (dedupKey : String) : Flow SchemaChangeResponse := do
  match ← Flow.store (.findCaseForDedup dedupKey) with
  | none => service.createCase event dedupKey
  | some existing =>
    match ← deduplicatedResponse event dedupKey existing with
    | none => service.createCase event dedupKey
    | some duplicate =>
      if duplicate.case.state.ingestResumable then
        let owned : Bool ← Flow.memory (.owned existing)
        if !owned then service.advanceSafelyLocked existing event
        respond existing true
      else respond existing true

/-- `ingest` after the allowlist, for a given dedup key. -/
def ingestKeyed (event : SchemaChangeEvent) (dedupKey : String) : Flow SchemaChangeResponse := do
  let locked := withWorkerLock (service.ingestLocked event dedupKey)
  match ← Flow.store (.findCaseForDedup dedupKey) with
  | none => locked
  | some existing =>
    match ← deduplicatedResponse event dedupKey existing with
    | none => locked
    | some duplicate =>
      if !duplicate.case.state.ingestResumable then pure duplicate
      else
        let owned : Bool ← Flow.memory (.owned existing)
        if owned then pure duplicate else locked

/-- `ingest` -/
def ingest (event : SchemaChangeEvent) : Flow SchemaChangeResponse :=
  if event.entityUrn ∉ service.settings.allowedAssetUrns then
    .throw (.assetNotAllowed
      s!"Asset is outside the configured remediation allowlist: {event.entityUrn}")
  else service.ingestKeyed event (schemaEventDedupKey service.sha256 event)

end Service

/-- `reset` -/
def resetService (reason : String) : Flow Nat := withWorkerLock (Flow.store (.reset reason))

end DataRescue
