import DataRescue.Api.StoreIsolation
import DataRescue.Workflow.WorkerLock

/-!
# The database of a deployment

A deployment has one database and any number of processes. Whatever they do, the table is one that a
sequence of store transactions leaves behind (`Service.Reachable.store_run`), so that the laws of the
store are laws of every deployment: cases live by the state machine, and the lookups agree on the
current scope (`database_law`). In every scope the dedup keys and the cases correspond to each other,
one to one (`case_identity`).
-/

namespace DataRescue

open Python Concurrency

/-- The operations of an ingest. -/
inductive Op.DuringIngest (event : SchemaChangeEvent) (dedupKey : String) : Op → Prop
  | passive {op : Op} (h : op.passive = true) : DuringIngest event dedupKey op
  | detect (caseId : String) : DuringIngest event dedupKey
      (.store (.append caseId .detected (detectionPayload event caseId) (some dedupKey) event.eventId))
  | advance {caseId : String} {op : Op} (h : op.DuringAdvance caseId) :
      DuringIngest event dedupKey op
  | activate (caseId : String) : DuringIngest event dedupKey (.memory (.activate caseId))
  | deactivate (caseId : String) (completed : Bool) :
      DuringIngest event dedupKey (.memory (.deactivate caseId completed))

section

variable {service : Service} {environment : Environment} {pool : ServicePool} {caseId : String}
  {event : SchemaChangeEvent} {dedupKey : String}

/-! ### The footprint of an ingest -/

theorem respond_uses {deduplicated : Bool} :
    (Service.respond caseId deduplicated).Uses (Op.DuringIngest event dedupKey) :=
  .bind (uses_store (.passive rfl)) fun _ => uses_pure

theorem advanceSafelyLocked_uses :
    (service.advanceSafelyLocked caseId event).Uses (Op.DuringIngest event dedupKey) := by
  unfold Service.advanceSafelyLocked
  refine .bind (.call (.activate caseId) fun answer => .done answer) fun _ =>
    .tryFinally (uses_exceptException ?_ fun error => ?_)
      fun result => .call (.deactivate caseId _) fun answer => .done answer
  · exact advance_uses.mono fun _ h => .advance h
  · exact recordFailure_uses.mono fun _ h => .advance (.inl h)

theorem checkEventId_uses :
    (Service.checkEventId event dedupKey caseId).Uses (Op.DuringIngest event dedupKey) :=
  uses_checkEventId fun _ _ _ => .passive rfl

theorem availableCaseId_uses :
    (Service.availableCaseId dedupKey).Uses (Op.DuringIngest event dedupKey) :=
  uses_availableCaseId (.passive rfl) fun _ => .passive rfl

theorem detectionLoop_uses (remaining : Nat) (caseId : String) :
    (service.detectionLoop event dedupKey remaining caseId).Uses
      (Op.DuringIngest event dedupKey) := by
  induction remaining generalizing caseId with
  | zero => exact .bind advanceSafelyLocked_uses fun _ => respond_uses
  | succ remaining ih =>
    unfold Service.detectionLoop
    refine .bind checkEventId_uses fun duplicate => ?_
    cases duplicate with
    | some duplicateCase => exact respond_uses
    | none =>
      refine .bind (.attempt (uses_store (.detect caseId))) fun written => ?_
      split
      · exact .bind advanceSafelyLocked_uses fun _ => respond_uses
      · exact respond_uses
      · split_ifs
        · exact uses_throw
        · exact .bind availableCaseId_uses fun caseId => ih caseId
      · exact uses_throw

theorem createCase_uses :
    (service.createCase event dedupKey).Uses (Op.DuringIngest event dedupKey) :=
  .bind availableCaseId_uses fun caseId => detectionLoop_uses 8 caseId

theorem deduplicatedResponse_uses :
    (Service.deduplicatedResponse event dedupKey caseId).Uses (Op.DuringIngest event dedupKey) :=
  uses_deduplicatedResponse (fun _ _ _ => .passive rfl) (.passive rfl)

theorem ingestLocked_uses :
    (service.ingestLocked event dedupKey).Uses (Op.DuringIngest event dedupKey) := by
  unfold Service.ingestLocked
  refine .bind (uses_store (.passive rfl)) fun existing => ?_
  cases existing with
  | none => exact createCase_uses
  | some existing =>
    refine .bind deduplicatedResponse_uses fun duplicate => ?_
    cases duplicate with
    | none => exact createCase_uses
    | some duplicate =>
      dsimp only
      split_ifs
      · refine .bind (.call (.passive rfl) fun answer => .done answer) fun owned => ?_
        split_ifs
        · exact .bind advanceSafelyLocked_uses fun _ => respond_uses
        · exact respond_uses
      · exact respond_uses

theorem withWorkerLock_uses {α : Type} {allowed : Op → Prop} {body : Flow α}
    (h : body.Uses allowed) (hacquire : allowed (.memory .acquire))
    (hrelease : allowed (.memory .release)) : (withWorkerLock body).Uses allowed := by
  unfold withWorkerLock
  exact .bind (.call hacquire fun answer => .done answer) fun _ =>
    h.tryFinally fun _ => .call hrelease fun answer => .done answer

theorem ingestKeyed_uses :
    (service.ingestKeyed event dedupKey).Uses (Op.DuringIngest event dedupKey) := by
  have hlocked : (withWorkerLock (service.ingestLocked event dedupKey)).Uses
      (Op.DuringIngest event dedupKey) :=
    withWorkerLock_uses ingestLocked_uses (.passive rfl) (.passive rfl)
  unfold Service.ingestKeyed
  generalize withWorkerLock (service.ingestLocked event dedupKey) = locked at hlocked ⊢
  refine .bind (uses_store (.passive rfl)) fun existing => ?_
  cases existing with
  | none => exact hlocked
  | some existing =>
    refine .bind deduplicatedResponse_uses fun duplicate => ?_
    cases duplicate with
    | none => exact hlocked
    | some duplicate =>
      dsimp only
      split_ifs
      · exact uses_pure
      · refine .bind (.call (.passive rfl) fun answer => .done answer) fun owned => ?_
        split_ifs
        · exact uses_pure
        · exact hlocked

/-! ### What the calls append -/

/-- An append is no reset, and carries a dedup key exactly if it detects a drift. -/
def Op.Keyed : Op → Prop
  | .store (.append _ _ body dedupKey _) => body.eventType ≠ .systemReset ∧
    (dedupKey ≠ none ↔ body.eventType = .schemaChangeDetected)
  | _ => True

theorem Op.keyed_of_unkeyed {caseId : String} {state : CaseState} {body : EventBody}
    {dedupKey eventId : Option String} (hkey : dedupKey = none)
    (htype : body.eventType.duringAdvance = true ∨ body.eventType.duringVerification = true) :
    Op.Keyed (.store (.append caseId state body dedupKey eventId)) := by
  subst hkey
  refine ⟨fun hreset => ?_, fun h => absurd rfl h, fun hdetected => ?_⟩
  · rw [hreset] at htype
    rcases htype with htype | htype <;> cases htype
  · rw [hdetected] at htype
    rcases htype with htype | htype <;> cases htype

theorem Op.DuringAdvance.keyed {op : Op} (h : op.DuringAdvance caseId) : op.Keyed := by
  rcases h with h | ⟨_, _, rfl⟩ | ⟨_, rfl⟩
  · cases op with
    | store op =>
      cases op with
      | append id state body dedupKey eventId => exact Op.keyed_of_unkeyed h.2.1 (.inl h.2.2.2)
      | _ => trivial
    | memory op => trivial
    | adapter op => trivial
  · trivial
  · trivial

theorem Op.DuringIngest.keyed {op : Op} (h : op.DuringIngest event dedupKey) : op.Keyed := by
  cases h with
  | passive h =>
    cases op with
    | store op => cases op <;> trivial
    | memory op => trivial
    | adapter op => trivial
  | detect caseId =>
    exact ⟨by simp [detectionPayload, EventBody.eventType], fun _ => rfl,
      fun _ => Option.some_ne_none dedupKey⟩
  | advance h => exact h.keyed
  | activate caseId => trivial
  | deactivate caseId completed => trivial

theorem Op.DuringVerification.keyed {op : Op} (h : op.DuringVerification caseId) : op.Keyed := by
  cases op with
  | store op =>
    cases op with
    | append id state body dedupKey eventId => exact Op.keyed_of_unkeyed h.2.1 (.inr h.2.2.2)
    | _ => trivial
  | memory op => trivial
  | adapter op => trivial

theorem answer_uses {α : Type} {allowed : Op → Prop} {flow : Flow α} (respond : α → Response)
    (h : flow.Uses allowed) :
    (do let value ← flow; pure (respond value) : Flow Response).Uses allowed :=
  h.bind fun _ => uses_pure

theorem program_keyed (service : Service) (environment : Environment) :
    (service.system environment).Calls fun _ op => op.Keyed := by
  rintro ⟨process, command⟩ -
  show (service.program command).Uses Op.Keyed
  cases command with
  | ingest event =>
    refine answer_uses .ingested ?_
    rcases ingest_cases service event with ⟨-, heq⟩ | ⟨-, heq⟩
    · rw [heq]
      exact ingestKeyed_uses.mono fun _ h => h.keyed
    · rw [heq]
      exact uses_throw
  | verifyDeployment caseId request =>
    refine answer_uses .verified (withWorkerLock_uses ?_ trivial trivial)
    exact verifyDeploymentLocked_uses.mono fun _ h => h.keyed
  | reset reason =>
    refine answer_uses .reset (withWorkerLock_uses (uses_store ?_) trivial trivial)
    trivial

/-! ### The table -/

theorem exec_call {actor : Actor Call} {op : Op} {before after : World}
    {answer : Except Exn op.Reply} (hkeyed : op.Keyed)
    (hexec : op.exec environment actor before answer after) :
    after.store = before.store ∨ ∃ call : StoreCall, after.store = (call.exec before.store).2 := by
  cases op with
  | store op =>
    rcases hexec with ⟨fresh, now, -, -, rfl⟩ | ⟨-, -, rfl⟩
    · cases op with
      | append caseId state body dedupKey eventId =>
        refine .inr ⟨.append fresh now caseId state body dedupKey eventId hkeyed.1, ?_⟩
        simp only [StoreOp.run, StoreCall.exec, World.withStore_store]
        cases before.store.append fresh now caseId state body dedupKey eventId with
        | ok written => rfl
        | error error => rfl
      | reset reason =>
        refine .inr ⟨.reset fresh now reason, ?_⟩
        simp only [StoreOp.run, StoreCall.exec, World.withStore_store]
        cases before.store.reset fresh now reason with
        | ok written => rfl
        | error error => rfl
      | findCaseForDedup dedupKey => exact .inl rfl
      | findCaseForEventId eventId caseId state body dedupKey => exact .inl rfl
      | getCase caseId => exact .inl rfl
      | caseIdExists caseId => exact .inl rfl
    · exact .inl rfl
  | memory op =>
    obtain ⟨reply, memory, -, -, rfl⟩ := hexec
    exact .inl rfl
  | adapter op =>
    obtain ⟨-, rfl⟩ := hexec
    exact .inl rfl

theorem Service.Reachable.store_run (hreach : service.Reachable environment pool) :
    ∃ calls, pool.shared.store = Store.empty.after calls := by
  refine (System.Reachable.footprint
    (fun world : World => ∃ calls, world.store = Store.empty.after calls)
    (program_keyed service environment) ?_ ?_ ⟨[], rfl⟩ hreach).1
  · rintro actor op before answer after - hkeyed hexec ⟨calls, hcalls⟩
    rcases exec_call hkeyed hexec with hsame | ⟨call, hcall⟩
    · exact ⟨calls, hsame.trans hcalls⟩
    · refine ⟨calls ++ [call], ?_⟩
      rw [Store.after_concat, ← hcalls]
      exact hcall
  · rintro before killed after ⟨-, process, -, -, rfl⟩ hcalls
    exact hcalls

/-- The laws of the store are laws of every deployment. With any number of processes, interleaved
calls, crashes and restarts, every case lives by the state machine in each reset scope, and every
lookup ranges over the rows after the last reset. -/
theorem database_law (hreach : service.Reachable environment pool) :
    (∃ calls, pool.shared.store = Store.empty.after calls) ∧
      (∀ caseId scope, pool.shared.store.Lifecycle caseId scope) ∧ pool.shared.store.ScopeLaw := by
  obtain ⟨calls, hcalls⟩ := hreach.store_run
  refine ⟨⟨calls, hcalls⟩, ?_⟩
  rw [hcalls]
  exact ⟨(Store.lifecycle_law calls).1, Store.scopeLaw_after calls⟩

/-! ### Cases and dedup keys -/

/-- The rows of a table that detect a drift are those with a dedup key, and a scope has at most one of
them for each case. -/
structure Store.Identified (store : Store) : Prop where
  keyed : ∀ row ∈ store.rows, row.dedupKey ≠ none ↔ row.eventType = .schemaChangeDetected
  unique : ∀ row ∈ store.rows, ∀ other ∈ store.rows, row.eventType = .schemaChangeDetected →
    other.eventType = .schemaChangeDetected → row.caseId = other.caseId →
    row.resetScope = other.resetScope → row = other

theorem Store.Coherent.undetected {store : Store} (h : store.Coherent) {row : Row} {caseId : String}
    (hnone : store.currentState caseId store.currentScope = none) (hrow : row ∈ store.rows)
    (htype : row.eventType = .schemaChangeDetected) (hcase : row.caseId = caseId) :
    row.resetScope ≠ store.currentScope := by
  intro hscope
  have hreset : row.eventType ≠ .systemReset := by
    rw [htype]
    decide
  have hvisible := (h.scope row hrow hreset).1 hscope
  have hmem : row.event ∈ store.log caseId := Store.mem_log.2 ⟨row, hrow, hcase, hvisible, rfl⟩
  obtain ⟨state, hstate⟩ := Option.ne_none_iff_exists'.1 (h.state row hrow hreset)
  rw [Store.currentState_eq, List.getLast?_eq_none_iff] at hnone
  have hstates : state ∈ (store.log caseId).filterMap CaseEvent.state :=
    List.mem_filterMap.2 ⟨row.event, hmem, hstate⟩
  rw [hnone] at hstates
  cases hstates

theorem Store.Identified.append {store store' : Store} {fresh caseId : String} {now : Timestamp}
    {state : CaseState} {body : EventBody} {dedupKey eventId : Option String}
    (h : store.Identified) (hcoherent : store.Coherent)
    (hkeyed : dedupKey ≠ none ↔ body.eventType = .schemaChangeDetected)
    (haccepted : store.Accepted caseId state body dedupKey (Store.chosenEventId eventId fresh))
    (hextends : Store.Extends store
      (store.appended fresh now caseId state body dedupKey eventId) store') : store'.Identified := by
  refine ⟨fun row hrow => ?_, fun row hrow other hother htype htype' hcase hscope => ?_⟩
  · rcases hextends.mem.1 hrow with hold | rfl
    · exact h.keyed row hold
    · exact hkeyed
  · rcases hextends.mem.1 hrow with hold | rfl
    · rcases hextends.mem.1 hother with hold' | rfl
      · exact h.unique row hold other hold' htype htype' hcase hscope
      · exact absurd hscope (hcoherent.undetected (haccepted.detection htype') hold htype hcase)
    · rcases hextends.mem.1 hother with hold' | rfl
      · exact absurd hscope.symm
          (hcoherent.undetected (haccepted.detection htype) hold' htype' hcase.symm)
      · rfl

theorem Store.Identified.reset {store store' : Store} {fresh reason : String} {now : Timestamp}
    (h : store.Identified)
    (hextends : Store.Extends store (store.resetRow fresh now reason) store') :
    store'.Identified := by
  have hnot : (store.resetRow fresh now reason).eventType ≠ .schemaChangeDetected := by
    simp [Store.resetRow, Row.eventType, EventBody.eventType]
  refine ⟨fun row hrow => ?_, fun row hrow other hother htype htype' hcase hscope => ?_⟩
  · rcases hextends.mem.1 hrow with hold | rfl
    · exact h.keyed row hold
    · exact iff_of_false (fun hkey => hkey rfl) hnot
  · rcases hextends.mem.1 hrow with hold | rfl
    · rcases hextends.mem.1 hother with hold' | rfl
      · exact h.unique row hold other hold' htype htype' hcase hscope
      · exact absurd htype' hnot
    · exact absurd htype hnot

theorem Service.Reachable.identified (hreach : service.Reachable environment pool) :
    pool.shared.store.Coherent ∧ pool.shared.store.Identified := by
  refine (System.Reachable.footprint
    (fun world : World => world.store.Coherent ∧ world.store.Identified)
    (program_keyed service environment) ?_ ?_ ⟨Store.coherent_empty, by simp [Store.empty],
      by simp [Store.empty]⟩ hreach).1
  · rintro actor op before answer after - hkeyed hexec ⟨hcoherent, hidentified⟩
    by_cases hop : ∃ caseId state body dedupKey eventId,
        op = .store (.append caseId state body dedupKey eventId)
    · obtain ⟨caseId, state, body, dedupKey, eventId, rfl⟩ := hop
      obtain ⟨-, ⟨fresh, now, -, haccepted, hextends, -⟩ | ⟨_, _, _, -, -, -, hstore⟩ |
        ⟨-, -, hstore⟩⟩ := exec_append hexec
      · exact ⟨hcoherent.append hextends hkeyed.1 rfl (Option.some_ne_none state),
          hidentified.append hcoherent hkeyed.2 haccepted hextends⟩
      · exact hstore ▸ ⟨hcoherent, hidentified⟩
      · exact hstore ▸ ⟨hcoherent, hidentified⟩
    · rcases exec_other hexec (by simpa using hop) with hstore | ⟨fresh, now, reason, -, -, hextends⟩
      · exact hstore ▸ ⟨hcoherent, hidentified⟩
      · exact ⟨hcoherent.extends_reset hextends rfl rfl ⟨rfl, rfl⟩, hidentified.reset hextends⟩
  · rintro before killed after ⟨-, process, -, -, rfl⟩ h
    exact h

theorem Store.eq_of_dedupKey (store : Store) {row other : Row} (hrow : row ∈ store.rows)
    (hother : other ∈ store.rows) (hkey : row.dedupKey ≠ none)
    (hsame : row.dedupKey = other.dedupKey) (hscope : row.resetScope = other.resetScope) :
    row = other := by
  have hsymmetric : Std.Symm Row.keyApart := ⟨fun first second hapart hclash =>
    hapart ⟨hclash.2.1 ▸ hclash.1, hclash.2.1.symm, hclash.2.2.symm⟩⟩
  by_contra hne
  exact store.ux_events_dedup_scope.forall hrow hother hne ⟨hkey, hsame, hscope⟩

/-- Cases and dedup keys correspond to each other. In every run, with any number of processes, the
rows that detect a drift are exactly those with a dedup key, and in one reset scope two of them are
the same row as soon as they share their case or their key. -/
theorem case_identity (hreach : service.Reachable environment pool) :
    (∀ row ∈ pool.shared.store.rows,
      row.dedupKey ≠ none ↔ row.eventType = .schemaChangeDetected) ∧
    ∀ row ∈ pool.shared.store.rows, ∀ other ∈ pool.shared.store.rows,
      row.eventType = .schemaChangeDetected → other.eventType = .schemaChangeDetected →
      row.resetScope = other.resetScope →
      (row.caseId = other.caseId ∨ row.dedupKey = other.dedupKey) → row = other := by
  obtain ⟨-, hidentified⟩ := hreach.identified
  refine ⟨hidentified.keyed, fun row hrow other hother htype htype' hscope hsame => ?_⟩
  rcases hsame with hcase | hkey
  · exact hidentified.unique row hrow other hother htype htype' hcase hscope
  · exact pool.shared.store.eq_of_dedupKey hrow hother ((hidentified.keyed row hrow).2 htype) hkey
      hscope

/-- Anything may happen, in any number of processes. -/
def manyProcesses : Environment := { processes := fun _ => True }

theorem permits_manyProcesses : Service.Permits manyProcesses :=
  ⟨trivial, fun _ => trivial, fun _ _ => trivial⟩

/-- The table of an opened repair lives by the laws of the store. -/
theorem database_law_opened : ∃ pool, connectedService.Reachable manyProcesses pool ∧
    pool.shared.store.rows ≠ [] ∧ (∃ calls, pool.shared.store = Store.empty.after calls) ∧
    (∀ caseId scope, pool.shared.store.Lifecycle caseId scope) ∧ pool.shared.store.ScopeLaw := by
  have hrows : (connectedService.session [openingVisit] 0 {}).any (fun outcome =>
      outcome.2.store.rows ≠ []) = true := by decide +kernel
  obtain ⟨pool, hreach, -, hrows⟩ := Service.session_reaches permits_manyProcesses hrows
  exact ⟨pool, hreach, of_decide_eq_true hrows, database_law hreach⟩

/-- The one detection of an opened repair carries its key. -/
theorem case_identity_opened : ∃ pool, connectedService.Reachable manyProcesses pool ∧
    pool.shared.store.rows ≠ [] ∧ ∀ row ∈ pool.shared.store.rows,
      row.dedupKey ≠ none ↔ row.eventType = .schemaChangeDetected := by
  have hrows : (connectedService.session [openingVisit] 0 {}).any (fun outcome =>
      outcome.2.store.rows ≠ []) = true := by decide +kernel
  obtain ⟨pool, hreach, -, hrows⟩ := Service.session_reaches permits_manyProcesses hrows
  exact ⟨pool, hreach, of_decide_eq_true hrows, (case_identity hreach).1⟩

end

end DataRescue
