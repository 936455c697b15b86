import DataRescue.Api.StoreRuns
import Mathlib.Data.List.Find
import Mathlib.Order.Monotone.Basic

/-!
# Isolation of reset scopes

After a reset a store answers like an empty one. The two runs are related by a `Renaming`: the later
store numbers its rows from the reset on, and draws its own identifiers and times. The simulation is
`Isolated`: the later table is the old rows, none of them in the new scope, followed by the renamed rows
of the other table. Each call keeps it and returns the renamed result (`Isolated.exec`), so every
sequence of calls does.
-/

namespace DataRescue

/-- How two runs may differ: in the sequence numbers by a shift, and in the identifiers and times. -/
structure Renaming where
  shift : Nat
  id : String → String
  time : Timestamp → Timestamp
  id_injective : Function.Injective id
  id_empty : ∀ key, id key = "" ↔ key = ""
  time_strictMono : StrictMono time

variable (r : Renaming)

def Row.rename (row : Row) : Row :=
  { row with
    sequence := row.sequence + r.shift
    eventId := r.id row.eventId
    resetScope := row.resetScope + r.shift
    createdAt := r.time row.createdAt }

def CaseEvent.rename (event : CaseEvent) : CaseEvent :=
  { event with
    sequence := event.sequence + r.shift
    eventId := r.id event.eventId
    createdAt := r.time event.createdAt }

def CaseSnapshot.rename (snapshot : CaseSnapshot) : CaseSnapshot :=
  { snapshot with
    createdAt := r.time snapshot.createdAt
    updatedAt := r.time snapshot.updatedAt
    events := snapshot.events.map (CaseEvent.rename r) }

def StoreError.rename : StoreError → StoreError
  | .eventConflict eventId caseId => .eventConflict (r.id eventId) caseId
  | error => error

def StoreResult.rename : StoreResult → StoreResult
  | .event appended => .event (appended.rename r)
  | .sequence number => .sequence (number + r.shift)
  | .caseId owner => .caseId owner
  | .exists known => .exists known
  | .events visible => .events (visible.map (CaseEvent.rename r))
  | .count rows => .count (rows + r.shift)
  | .case snapshot => .case (snapshot.rename r)
  | .cases snapshots => .cases (snapshots.map (CaseSnapshot.rename r))
  | .found snapshot => .found (snapshot.map (CaseSnapshot.rename r))

/-- A renamed answer, returned or raised. -/
def renameAnswer {α β : Type} (f : α → β) : Except StoreError α → Except StoreError β
  | .ok answer => .ok (f answer)
  | .error error => .error (error.rename r)

/-- The same call in the other run: it draws the other identifiers and times, and names an event by its
other sequence number. -/
def StoreCall.rename : StoreCall → StoreCall
  | .append fresh now caseId state body dedupKey eventId eventType =>
    .append (r.id fresh) (r.time now) caseId state body dedupKey (eventId.map r.id) eventType
  | .reset fresh now reason => .reset (r.id fresh) (r.time now) reason
  | .findCaseForEventId eventId caseId state body dedupKey =>
    .findCaseForEventId (r.id eventId) caseId state body dedupKey
  | .findCaseForDedup dedupKey => .findCaseForDedup dedupKey
  | .caseIdExists caseId => .caseIdExists caseId
  | .eventsForCase caseId afterSequence => .eventsForCase caseId (afterSequence + r.shift)
  | .allActiveEvents => .allActiveEvents
  | .rawEventCount => .rawEventCount
  | .getCase caseId => .getCase caseId
  | .listCases => .listCases
  | .containedAsset assetUrn => .containedAsset assetUrn
  | .blockedAsset assetUrn => .blockedAsset assetUrn

@[simp] theorem Row.rename_event (row : Row) : (row.rename r).event = row.event.rename r := rfl

/-! ### Projections -/

theorem CaseSnapshot.rename_applyBody (snapshot : CaseSnapshot) (body : EventBody) :
    (snapshot.rename r).applyBody body = (snapshot.applyBody body).rename r := by
  cases body <;> rfl

theorem CaseSnapshot.rename_apply (snapshot : CaseSnapshot) (event : CaseEvent) :
    (snapshot.rename r).apply (event.rename r) = (snapshot.apply event).rename r := by
  unfold CaseSnapshot.apply
  rw [← CaseSnapshot.rename_applyBody]
  simp [CaseSnapshot.rename, CaseEvent.rename]

theorem projectCase_rename (events : List CaseEvent) :
    projectCase (events.map (CaseEvent.rename r)) =
      (projectCase events).map (CaseSnapshot.rename r) := by
  have hfold : ∀ (rest : List CaseEvent) (snapshot : CaseSnapshot),
      (rest.map (CaseEvent.rename r)).foldl .apply (snapshot.rename r) =
        (rest.foldl .apply snapshot).rename r := by
    intro rest
    induction rest with
    | nil => intro snapshot; rfl
    | cons event rest ih =>
      intro snapshot
      rw [List.map_cons, List.foldl_cons, List.foldl_cons, CaseSnapshot.rename_apply, ih]
  cases events with
  | nil => rfl
  | cons first rest =>
    have hbody : (first.rename r).body = first.body := rfl
    simp only [List.map_cons, projectCase, hbody]
    cases first.body with
    | schemaChangeDetected schemaChange incidentUrn =>
      exact congrArg some (hfold (first :: rest) (.start first schemaChange incidentUrn))
    | _ => rfl

namespace Store

theorem project_rename (events : List CaseEvent) :
    project (events.map (CaseEvent.rename r)) =
      renameAnswer r (CaseSnapshot.rename r) (project events) := by
  unfold project
  rw [projectCase_rename]
  cases projectCase events <;> rfl

theorem chosenEventId_rename (eventId : Option String) (fresh : String) :
    chosenEventId (eventId.map r.id) (r.id fresh) = r.id (chosenEventId eventId fresh) := by
  cases eventId with
  | none => rfl
  | some eventId =>
    simp only [Option.map_some, chosenEventId, ne_eq, r.id_empty]
    split <;> rfl

theorem eventIdInUse_rename (existing : Row) (eventId caseId : String) (state : CaseState)
    (body : EventBody) (dedupKey : Option String) :
    eventIdInUse (existing.rename r) (r.id eventId) caseId state body dedupKey =
      (eventIdInUse existing eventId caseId state body dedupKey).rename r := by
  have hmatches : storedEventMatches (existing.rename r) caseId state body dedupKey =
      storedEventMatches existing caseId state body dedupKey := rfl
  unfold eventIdInUse
  rw [hmatches]
  split <;> rfl

theorem mapM_renameAnswer {α β γ : Type} (f : α → Except StoreError β) (g : β → γ)
    (items : List α) :
    (items.mapM fun item => renameAnswer r g (f item)) =
      renameAnswer r (List.map g) (items.mapM f) := by
  induction items with
  | nil => rfl
  | cons item items ih =>
    rw [List.mapM_cons, List.mapM_cons, ih]
    cases f item with
    | error error => rfl
    | ok answer => cases items.mapM f <;> rfl

/-! ### The simulation -/

/-- The later store is some old rows, none of them visible, and the renamed rows of the other one. -/
structure Isolated (old : List Row) (base later : Store) : Prop where
  rows : later.rows = old ++ base.rows.map (Row.rename r)
  length : old.length = r.shift
  scope : ∀ row ∈ old, row.resetScope < r.shift
  sequence : ∀ row ∈ old, row.sequence ≤ r.shift
  reset : ∃ row ∈ old, row.eventType = .systemReset ∧ row.sequence = r.shift

namespace Isolated

variable {r} {old : List Row} {base later : Store} (h : Isolated r old base later)
include h

theorem filter {p q : Row → Bool} (hold : ∀ row ∈ old, p row = false)
    (hnew : ∀ row, p (row.rename r) = q row) :
    later.rows.filter p = (base.rows.filter q).map (Row.rename r) := by
  rw [h.rows, List.filter_append, List.filter_eq_nil_iff.2 fun row hrow => by simp [hold row hrow],
    List.nil_append, List.filter_map]
  exact congrArg _ (List.filter_congr fun row _ => hnew row)

theorem find? {p q : Row → Bool} (hold : ∀ row ∈ old, p row = false)
    (hnew : ∀ row, p (row.rename r) = q row) :
    later.rows.find? p = (base.rows.find? q).map (Row.rename r) := by
  rw [h.rows, List.find?_append, List.find?_eq_none.2 fun row hrow => by simp [hold row hrow],
    Option.none_or, List.find?_map]
  exact congrArg (fun q => (base.rows.find? q).map (Row.rename r)) (funext hnew)

theorem rows_length : later.rows.length = base.rows.length + r.shift := by
  simp [h.rows, h.length, Nat.add_comm]

theorem currentScope : later.currentScope = base.currentScope + r.shift := by
  refine currentScope_eq (.inr ?_) ?_
  · rcases currentScope_mem base with hzero | ⟨row, hrow, htype, hscope⟩
    · obtain ⟨row, hrow, htype, hsequence⟩ := h.reset
      exact ⟨row, by simp [h.rows, hrow], htype, by omega⟩
    · refine ⟨row.rename r, ?_, htype, congrArg (· + r.shift) hscope⟩
      simp only [h.rows, List.mem_append, List.mem_map]
      exact .inr ⟨row, hrow, rfl⟩
  · intro row hrow htype
    rw [h.rows, List.mem_append, List.mem_map] at hrow
    rcases hrow with hrow | ⟨other, hother, rfl⟩
    · exact (h.sequence row hrow).trans (Nat.le_add_left _ _)
    · exact Nat.add_le_add_right (sequence_le_currentScope hother htype) _

theorem rowForEventId (eventId : String) (scope : Nat) :
    later.rowForEventId (r.id eventId) (scope + r.shift) =
      (base.rowForEventId eventId scope).map (Row.rename r) := by
  refine h.find? (fun row hrow => ?_) fun row => ?_
  · have := h.scope row hrow
    simp only [decide_eq_false_iff_not, not_and]
    omega
  · simp [Row.rename, r.id_injective.eq_iff]

theorem rowForDedup (dedupKey : String) (scope : Nat) :
    later.rowForDedup dedupKey (scope + r.shift) =
      (base.rowForDedup dedupKey scope).map (Row.rename r) := by
  refine h.find? (fun row hrow => ?_) fun row => ?_
  · have := h.scope row hrow
    simp only [decide_eq_false_iff_not, not_and]
    omega
  · simp [Row.rename]

theorem caseRows (caseId : String) (scope : Nat) :
    later.caseRows caseId (scope + r.shift) = (base.caseRows caseId scope).map (Row.rename r) := by
  refine h.filter (fun row hrow => ?_) fun row => ?_
  · have := h.sequence row hrow
    simp only [decide_eq_false_iff_not, not_and]
    omega
  · simp [Row.rename]

theorem currentState (caseId : String) (scope : Nat) :
    later.currentState caseId (scope + r.shift) = base.currentState caseId scope := by
  rw [Store.currentState, Store.currentState, h.caseRows, List.filterMap_map]
  rfl

theorem eventsForCase (caseId : String) (afterSequence : Nat) :
    later.eventsForCase caseId (afterSequence + r.shift) =
      (base.eventsForCase caseId afterSequence).map (CaseEvent.rename r) := by
  rw [Store.eventsForCase, Store.eventsForCase, h.currentScope, h.caseRows, List.filter_map,
    List.map_map, List.map_map]
  refine congrArg₂ _ rfl (List.filter_congr fun row _ => ?_)
  simp [Row.rename]

theorem allActiveEvents :
    later.allActiveEvents = base.allActiveEvents.map (CaseEvent.rename r) := by
  have hrows : (later.rows.filter fun row =>
        base.currentScope + r.shift < row.sequence ∧ row.caseId ≠ "__system__") =
      (base.rows.filter fun row =>
        base.currentScope < row.sequence ∧ row.caseId ≠ "__system__").map (Row.rename r) := by
    refine h.filter (fun row hrow => ?_) fun row => ?_
    · have := h.sequence row hrow
      simp only [decide_eq_false_iff_not, not_and]
      omega
    · simp [Row.rename]
  rw [Store.allActiveEvents, Store.allActiveEvents, h.currentScope, hrows, List.map_map,
    List.map_map]
  rfl

theorem log (caseId : String) :
    later.log caseId = (base.log caseId).map (CaseEvent.rename r) := by
  rw [log_eq, log_eq, h.currentScope, h.caseRows, List.map_map, List.map_map]
  rfl

theorem getCase (caseId : String) :
    later.getCase caseId = renameAnswer r (CaseSnapshot.rename r) (base.getCase caseId) := by
  have hlog : later.eventsForCase caseId 0 = (base.eventsForCase caseId 0).map (CaseEvent.rename r) :=
    h.log caseId
  unfold Store.getCase
  rw [hlog]
  cases base.eventsForCase caseId 0 with
  | nil => rfl
  | cons first rest => exact project_rename r (first :: rest)

theorem insert (eventId caseId : String) (state : Option CaseState) (body : EventBody)
    (dedupKey : Option String) (scope : Nat) (now : Timestamp) :
    Option.Rel (Isolated r old) (base.insert eventId caseId state body dedupKey scope now)
      (later.insert (r.id eventId) caseId state body dedupKey (scope + r.shift) (r.time now)) := by
  let row : Row := ⟨base.rows.length + 1, eventId, caseId, state, body, dedupKey, scope, now⟩
  have hrow : (⟨later.rows.length + 1, r.id eventId, caseId, state, body, dedupKey,
      scope + r.shift, r.time now⟩ : Row) = row.rename r := by
    simp only [row, Row.rename, h.rows_length, Row.mk.injEq, and_true]
    omega
  have hapart : ((∀ other ∈ later.rows, other.idApart (row.rename r)) ∧
      ∀ other ∈ later.rows, other.keyApart (row.rename r)) ↔
      (∀ other ∈ base.rows, other.idApart row) ∧ ∀ other ∈ base.rows, other.keyApart row := by
    simp only [h.rows, List.mem_append, List.mem_map, or_imp, forall_and, forall_exists_index,
      and_imp, forall_apply_eq_imp_iff₂]
    have hold : ∀ other ∈ old, other.resetScope ≠ (row.rename r).resetScope := fun other hother =>
      Nat.ne_of_lt ((h.scope other hother).trans_le (Nat.le_add_left _ _))
    constructor
    · rintro ⟨⟨-, hid⟩, -, hkey⟩
      exact ⟨fun other hother hsame => hid other hother
          ⟨congrArg r.id hsame.1, congrArg (· + r.shift) hsame.2⟩,
        fun other hother hsame => hkey other hother
          ⟨hsame.1, hsame.2.1, congrArg (· + r.shift) hsame.2.2⟩⟩
    · rintro ⟨hid, hkey⟩
      exact ⟨⟨fun other hother hsame => hold other hother hsame.2,
          fun other hother hsame => hid other hother
            ⟨r.id_injective hsame.1, Nat.add_right_cancel hsame.2⟩⟩,
        fun other hother hsame => hold other hother hsame.2.2,
        fun other hother hsame => hkey other hother
          ⟨hsame.1, hsame.2.1, Nat.add_right_cancel hsame.2.2⟩⟩
  unfold Store.insert
  simp only [hrow, hapart]
  split
  · refine .some ⟨?_, h.length, h.scope, h.sequence, h.reset⟩
    simp [h.rows]
    rfl
  · exact .none

/-- The two stores answer a writing call alike. -/
inductive Alike {α β : Type} (r : Renaming) (old : List Row) (f : α → β) :
    Except StoreError (α × Store) → Except StoreError (β × Store) → Prop
  | ok {answer : α} {base later : Store} (h : Isolated r old base later) :
      Alike r old f (.ok (answer, base)) (.ok (f answer, later))
  | error (error : StoreError) : Alike r old f (.error error) (.error (error.rename r))

theorem append (fresh : String) (now : Timestamp) (caseId : String) (state : CaseState)
    (body : EventBody) (dedupKey eventId : Option String) :
    Alike r old (CaseEvent.rename r) (base.append fresh now caseId state body dedupKey eventId)
      (later.append (r.id fresh) (r.time now) caseId state body dedupKey (eventId.map r.id)) := by
  have hdedup : dedupKey.bind (later.rowForDedup · (base.currentScope + r.shift)) =
      (dedupKey.bind (base.rowForDedup · base.currentScope)).map (Row.rename r) := by
    cases dedupKey with
    | none => rfl
    | some dedupKey => exact h.rowForDedup dedupKey _
  unfold Store.append
  simp only [chosenEventId_rename, h.currentScope, h.rowForEventId, h.currentState, hdedup]
  cases base.rowForEventId (chosenEventId eventId fresh) base.currentScope with
  | some existing =>
    simp only [Option.map_some, eventIdInUse_rename]
    exact .error _
  | none =>
    cases dedupKey.bind (base.rowForDedup · base.currentScope) with
    | some existing => exact .error (.duplicateEvent existing.caseId)
    | none =>
      simp only [Option.map_none]
      split
      · exact .error (.invalidStateTransition _)
      · cases validateTransition (base.currentState caseId base.currentScope) state with
        | error message => exact .error (.invalidStateTransition message)
        | ok =>
          have hinsert := h.insert (chosenEventId eventId fresh) caseId (some state) body dedupKey
            base.currentScope now
          generalize base.insert _ _ _ _ _ _ _ = inserted, later.insert _ _ _ _ _ _ _ = inserted'
            at hinsert ⊢
          cases hinsert with
          | none => exact .error .integrityError
          | some hisolated =>
            simp only [h.rows_length, Nat.add_right_comm _ r.shift]
            exact .ok hisolated

theorem resetScope (fresh : String) (now : Timestamp) (reason : String) :
    Alike r old (· + r.shift) (base.reset fresh now reason)
      (later.reset (r.id fresh) (r.time now) reason) := by
  have hinsert := h.insert fresh "__system__" none (.systemReset reason) none base.currentScope now
  unfold Store.reset
  rw [h.currentScope]
  generalize base.insert _ _ _ _ _ _ _ = inserted, later.insert _ _ _ _ _ _ _ = inserted'
    at hinsert ⊢
  cases hinsert with
  | none => exact .error .integrityError
  | some hisolated =>
    simp only [h.rows_length, Nat.add_right_comm _ r.shift]
    exact .ok hisolated

theorem activeCaseIds : later.activeCaseIds = base.activeCaseIds := by
  rw [Store.activeCaseIds, Store.activeCaseIds, h.allActiveEvents, List.map_map]
  rfl

theorem listCases :
    later.listCases = renameAnswer r (List.map (CaseSnapshot.rename r)) base.listCases := by
  have hproject : ∀ caseId, project (later.allActiveEvents.filter (·.caseId = caseId)) =
      renameAnswer r (CaseSnapshot.rename r)
        (project (base.allActiveEvents.filter (·.caseId = caseId))) := fun caseId => by
    rw [h.allActiveEvents, List.filter_map, project_rename]
    rfl
  unfold Store.listCases
  simp only [hproject, h.activeCaseIds, mapM_renameAnswer]
  cases base.activeCaseIds.mapM fun caseId =>
      project (base.allActiveEvents.filter (·.caseId = caseId)) with
  | error error => rfl
  | ok snapshots =>
    refine congrArg Except.ok (List.map_insertionSort _ _ _ _ fun first _ second _ => ?_).symm
    exact r.time_strictMono.le_iff_le.symm

theorem findCase {p : CaseSnapshot → Bool} (hp : ∀ snapshot, p (snapshot.rename r) = p snapshot) :
    (do let cases ← later.listCases; pure (cases.find? p)) =
      renameAnswer r (Option.map (CaseSnapshot.rename r))
        (do let cases ← base.listCases; pure (cases.find? p)) := by
  rw [h.listCases]
  cases base.listCases with
  | error error => rfl
  | ok cases =>
    refine congrArg Except.ok ?_
    rw [List.find?_map]
    exact congrArg (fun p => (cases.find? p).map (CaseSnapshot.rename r)) (funext hp)

theorem findCaseForEventId (eventId caseId : String) (state : CaseState) (body : EventBody)
    (dedupKey : Option String) :
    later.findCaseForEventId (r.id eventId) caseId state body dedupKey =
      renameAnswer r id (base.findCaseForEventId eventId caseId state body dedupKey) := by
  unfold Store.findCaseForEventId
  rw [h.currentScope, h.rowForEventId]
  cases base.rowForEventId eventId base.currentScope with
  | none => rfl
  | some existing =>
    have hmatches : storedEventMatches (existing.rename r) caseId state body dedupKey =
        storedEventMatches existing caseId state body dedupKey := rfl
    simp only [Option.map_some, hmatches]
    split <;> rfl

theorem exec (call : StoreCall) :
    ((call.rename r).exec later).1 = renameAnswer r (StoreResult.rename r) (call.exec base).1 ∧
      Isolated r old (call.exec base).2 ((call.rename r).exec later).2 := by
  cases call with
  | append fresh now caseId state body dedupKey eventId htype =>
    have halike := h.append fresh now caseId state body dedupKey eventId
    simp only [StoreCall.rename, StoreCall.exec]
    generalize base.append _ _ _ _ _ _ _ = answer, later.append _ _ _ _ _ _ _ = answer' at halike ⊢
    cases halike with
    | ok hisolated => exact ⟨rfl, hisolated⟩
    | error error => exact ⟨rfl, h⟩
  | reset fresh now reason =>
    have halike := h.resetScope fresh now reason
    simp only [StoreCall.rename, StoreCall.exec]
    generalize base.reset _ _ _ = answer, later.reset _ _ _ = answer' at halike ⊢
    cases halike with
    | ok hisolated => exact ⟨rfl, hisolated⟩
    | error error => exact ⟨rfl, h⟩
  | findCaseForEventId eventId caseId state body dedupKey =>
    refine ⟨?_, h⟩
    simp only [StoreCall.rename, StoreCall.exec, h.findCaseForEventId]
    cases base.findCaseForEventId eventId caseId state body dedupKey <;> rfl
  | findCaseForDedup dedupKey =>
    refine ⟨?_, h⟩
    simp only [StoreCall.rename, StoreCall.exec, Store.findCaseForDedup, h.currentScope,
      h.rowForDedup, Option.map_map]
    rfl
  | caseIdExists caseId =>
    refine ⟨?_, h⟩
    simp only [StoreCall.rename, StoreCall.exec, Store.caseIdExists, h.currentScope, h.caseRows,
      List.isEmpty_map]
    rfl
  | eventsForCase caseId afterSequence =>
    refine ⟨?_, h⟩
    simp only [StoreCall.rename, StoreCall.exec, h.eventsForCase]
    rfl
  | allActiveEvents =>
    refine ⟨?_, h⟩
    simp only [StoreCall.rename, StoreCall.exec, h.allActiveEvents]
    rfl
  | rawEventCount =>
    refine ⟨?_, h⟩
    simp only [StoreCall.rename, StoreCall.exec, Store.rawEventCount, h.rows_length]
    rfl
  | getCase caseId =>
    refine ⟨?_, h⟩
    simp only [StoreCall.rename, StoreCall.exec, h.getCase]
    cases base.getCase caseId <;> rfl
  | listCases =>
    refine ⟨?_, h⟩
    simp only [StoreCall.rename, StoreCall.exec, h.listCases]
    cases base.listCases <;> rfl
  | containedAsset assetUrn =>
    refine ⟨?_, h⟩
    simp only [StoreCall.rename, StoreCall.exec, Store.containedAsset]
    rw [h.findCase fun _ => rfl]
    cases base.listCases <;> rfl
  | blockedAsset assetUrn =>
    refine ⟨?_, h⟩
    simp only [StoreCall.rename, StoreCall.exec, Store.blockedAsset]
    rw [h.findCase fun _ => rfl]
    cases base.listCases <;> rfl

theorem run (calls : List StoreCall) :
    later.results (calls.map (StoreCall.rename r)) =
        (base.results calls).map (renameAnswer r (StoreResult.rename r)) ∧
      Isolated r old (base.after calls) (later.after (calls.map (StoreCall.rename r))) := by
  induction calls generalizing base later with
  | nil => exact ⟨rfl, h⟩
  | cons call calls ih =>
    obtain ⟨hanswer, hisolated⟩ := h.exec call
    obtain ⟨hresults, hafter⟩ := ih hisolated
    exact ⟨by rw [List.map_cons, results, hanswer, hresults]; rfl, hafter⟩

end Isolated

/-! ### Reset scopes -/

variable {store store' : Store}

theorem reset_row_after (calls : List StoreCall) :
    ∀ row ∈ (empty.after calls).rows, row.eventType = .systemReset → row.resetScope < row.sequence := by
  have hstep : ∀ (store : Store) (row : Row) (store' : Store),
      (∀ other ∈ store.rows, other.eventType = .systemReset → other.resetScope < other.sequence) →
        Writable store row → Extends store row store' →
          ∀ other ∈ store'.rows, other.eventType = .systemReset → other.resetScope < other.sequence := by
    intro store row store' h hrow hextends other hother htype
    rcases hextends.mem.1 hother with hother | rfl
    · exact h other hother htype
    · cases hrow with
      | append haccepted happended => exact absurd htype happended
      | reset => exact hextends.currentScope_lt
  exact after_induction hstep (by simp [empty]) calls

/-- The rows after the last reset. -/
def visibleRows (store : Store) : List Row :=
  store.rows.filter fun row => store.currentScope < row.sequence

/-- Every lookup ranges over the rows after the last reset, whether it selects them by reset scope or by
sequence number. `__system__` is the case id of the resets, and `all_active_events` leaves it out. -/
structure ScopeLaw (store : Store) : Prop where
  agree : ∀ row ∈ store.rows,
    (row.resetScope = store.currentScope ↔ store.currentScope < row.sequence)
  rowForEventId : ∀ eventId, store.rowForEventId eventId store.currentScope =
    store.visibleRows.find? fun row => row.eventId = eventId
  rowForDedup : ∀ dedupKey, store.rowForDedup dedupKey store.currentScope =
    store.visibleRows.find? fun row => row.dedupKey = some dedupKey
  currentState : ∀ caseId, store.currentState caseId store.currentScope =
    ((store.visibleRows.filter fun row => row.caseId = caseId).filterMap Row.state).getLast?
  eventsForCase : ∀ caseId, store.eventsForCase caseId 0 =
    (store.visibleRows.filter fun row => row.caseId = caseId).map Row.event
  caseIdExists : ∀ caseId, store.caseIdExists caseId = true ↔
    ∃ row ∈ store.visibleRows, row.caseId = caseId
  allActiveEvents : store.allActiveEvents =
    (store.visibleRows.filter fun row => row.caseId ≠ "__system__").map Row.event
  listCases : ∃ caseIds : List String, caseIds.Nodup ∧
    (∀ caseId, caseId ∈ caseIds ↔
      caseId ≠ "__system__" ∧ ∃ row ∈ store.visibleRows, row.caseId = caseId) ∧
    ∀ cases, store.listCases = .ok cases ↔
      ∃ snapshots, List.Forall₂ (fun caseId snapshot => store.getCase caseId = .ok snapshot)
          caseIds snapshots ∧
        cases = snapshots.insertionSort fun first second => second.updatedAt ≤ first.updatedAt

theorem caseRows_eq_visible (caseId : String) :
    store.caseRows caseId store.currentScope =
      store.visibleRows.filter fun row => row.caseId = caseId := by
  simp [caseRows, visibleRows, List.filter_filter]

theorem exists_visible (caseId : String) :
    (∃ row ∈ store.visibleRows, row.caseId = caseId) ↔ store.log caseId ≠ [] := by
  rw [log_eq, caseRows_eq_visible]
  simp [List.filter_eq_nil_iff]

theorem nodup_eraseDups (keys : List String) : keys.eraseDups.Nodup := by
  induction hlength : keys.length using Nat.strong_induction_on generalizing keys with
  | _ length ih =>
    cases keys with
    | nil => simp
    | cons key keys =>
      rw [List.eraseDups_cons, List.nodup_cons, List.mem_eraseDups]
      refine ⟨by simp, ih _ ?_ _ rfl⟩
      rw [← hlength, List.length_cons]
      exact Nat.lt_succ_of_le (List.length_filter_le _ _)

theorem scopeLaw_after (calls : List StoreCall) : (empty.after calls).ScopeLaw := by
  have hcoherent := coherent_after calls
  have hreset := reset_row_after calls
  generalize empty.after calls = store at hcoherent hreset
  have hagree : ∀ row ∈ store.rows,
      (row.resetScope = store.currentScope ↔ store.currentScope < row.sequence) := by
    intro row hrow
    by_cases htype : row.eventType = .systemReset
    · have hsequence := sequence_le_currentScope hrow htype
      have hscope := hreset row hrow htype
      exact iff_of_false (by omega) (by omega)
    · exact hcoherent.scope row hrow htype
  have hfind : ∀ p : Row → Prop, ∀ [DecidablePred p],
      (store.rows.find? fun row => p row ∧ row.resetScope = store.currentScope) =
        store.visibleRows.find? fun row => p row := by
    intro p _
    rw [visibleRows, List.find?_filter]
    refine List.find?_congr fun row hrow => ?_
    simp [hagree row hrow, and_comm]
  exact
    { agree := hagree
      rowForEventId := fun eventId => hfind fun row => row.eventId = eventId
      rowForDedup := fun dedupKey => hfind fun row => row.dedupKey = some dedupKey
      currentState := fun caseId => by rw [Store.currentState, caseRows_eq_visible]
      eventsForCase := fun caseId => by rw [← caseRows_eq_visible]; exact log_eq store caseId
      caseIdExists := fun caseId => caseIdExists_iff.trans (exists_visible caseId).symm
      allActiveEvents := by simp [Store.allActiveEvents, visibleRows, List.filter_filter, and_comm]
      listCases := ⟨store.activeCaseIds, nodup_eraseDups _,
        fun caseId => by rw [mem_activeCaseIds, exists_visible], fun cases => listCases_ok⟩ }

theorem isolated_reset (hcoherent : store.Coherent) {fresh reason : String} {now : Timestamp}
    {sequence : Nat} (hreset : store.reset fresh now reason = .ok (sequence, store'))
    (hshift : r.shift = sequence) : Isolated r store'.rows empty store' := by
  obtain ⟨hextends, rfl⟩ := reset_ok hreset
  refine ⟨by simp [empty], by simp [hextends.rows, hshift], fun row hrow => ?_, fun row hrow => ?_,
    _, hextends.mem.2 (.inr rfl), rfl, hshift.symm⟩
  · have hscope := store.currentScope_le
    rcases hextends.mem.1 hrow with hrow | rfl
    · have hbounded := hcoherent.bounded row hrow
      omega
    · show store.currentScope < r.shift
      omega
  · have hbound := (sequence_bounds hrow).2
    simp only [hextends.rows, List.length_append, List.length_singleton] at hbound
    omega

theorem rows_after (store : Store) (calls : List StoreCall) :
    store.rows <+: (store.after calls).rows := by
  have hstep : ∀ (after : Store) (row : Row) (after' : Store), store.rows <+: after.rows →
      Writable after row → Extends after row after' → store.rows <+: after'.rows := by
    intro after row after' h _ hextends
    rw [hextends.rows]
    exact h.trans (List.prefix_append _ _)
  exact after_induction hstep (List.prefix_refl _) calls

/-- Reset scopes are coherent and isolating: in every run the lookups by scope and by sequence
number agree, and after a reset the store answers any calls as an empty one does, with every earlier row
still in place. -/
theorem reset_scopes (calls : List StoreCall) :
    (empty.after calls).ScopeLaw ∧
      ∀ fresh now reason sequence store',
        (empty.after calls).reset fresh now reason = .ok (sequence, store') →
        ∀ r : Renaming, r.shift = sequence → ∀ more : List StoreCall,
          store'.results (more.map (StoreCall.rename r)) =
              (empty.results more).map (renameAnswer r (StoreResult.rename r)) ∧
            (empty.after calls).rows <+: (store'.after (more.map (StoreCall.rename r))).rows := by
  refine ⟨scopeLaw_after calls, fun fresh now reason sequence store' hreset r hshift more => ?_⟩
  refine ⟨((isolated_reset r (coherent_after calls) hreset hshift).run more).1, ?_⟩
  refine List.IsPrefix.trans ?_ (rows_after store' _)
  rw [(reset_ok hreset).1.rows]
  exact List.prefix_append _ _

/-- A case that is named like the resets is active, and can be read, but is not listed. -/
theorem reset_scopes_counterexample :
    ¬∀ (calls : List StoreCall) (caseId : String) (cases : List CaseSnapshot),
      (∃ row ∈ (empty.after calls).visibleRows, row.caseId = caseId) →
      (empty.after calls).listCases = .ok cases →
        ∃ case ∈ cases, (empty.after calls).getCase caseId = .ok case := by
  intro h
  let calls : List StoreCall := [.append "event" 0 "__system__" .detected
    (.schemaChangeDetected
      { entityUrn := "asset", beforeFields := [], afterFields := [], observedAt := 0
        entityUrn_length := by decide, source_length := by decide } "incident") none none (by decide)]
  obtain ⟨case, hcase, -⟩ := h calls "__system__" [] (by decide +kernel) (by decide +kernel)
  cases hcase

end Store

end DataRescue
