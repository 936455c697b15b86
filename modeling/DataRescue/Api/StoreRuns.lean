import DataRescue.Api.CaseLog
import DataRescue.Python.Raising
import Mathlib.Data.List.Chain

/-!
# Runs of the store

The interface of `EventStore` as one type of calls, each a transaction, and the stores a sequence of
calls can reach. A call that raises leaves the table alone; one that does not adds at most one row, of
the two shapes of `Writable` (`exec_cases`), so an invariant of all runs is proved by one induction
(`after_induction`). Two invariants follow: the states of a case in a scope are a path of the state
machine (`Lifecycle`), and a case stream is rooted as long as no call `Misroots` one (`WellRooted`).
-/

namespace DataRescue

open CaseState

/-! ### Calls -/

/-- A call of the interface. An identifier or a time that a call draws is an argument of it; the type
`SYSTEM_RESET` is left to `reset`. -/
inductive StoreCall where
  | append (fresh : String) (now : Timestamp) (caseId : String) (state : CaseState)
      (body : EventBody) (dedupKey eventId : Option String)
      (eventType : body.eventType ≠ .systemReset)
  | reset (fresh : String) (now : Timestamp) (reason : String)
  | findCaseForEventId (eventId caseId : String) (state : CaseState) (body : EventBody)
      (dedupKey : Option String)
  | findCaseForDedup (dedupKey : String)
  | caseIdExists (caseId : String)
  | eventsForCase (caseId : String) (afterSequence : Nat)
  | allActiveEvents
  | rawEventCount
  | getCase (caseId : String)
  | listCases
  | containedAsset (assetUrn : String)
  | blockedAsset (assetUrn : String)

/-- What a call returns. -/
inductive StoreResult where
  | event (event : CaseEvent)
  | sequence (sequence : Nat)
  | caseId (caseId : Option String)
  | exists (known : Bool)
  | events (events : List CaseEvent)
  | count (count : Nat)
  | case (case : CaseSnapshot)
  | cases (cases : List CaseSnapshot)
  | found (case : Option CaseSnapshot)
  deriving DecidableEq

namespace StoreCall

/-- Run a call: what it returns or raises, and the table after it. -/
def exec (store : Store) : StoreCall → Except StoreError StoreResult × Store
  | .append fresh now caseId state body dedupKey eventId _ =>
    match store.append fresh now caseId state body dedupKey eventId with
    | .ok (event, after) => (.ok (.event event), after)
    | .error error => (.error error, store)
  | .reset fresh now reason =>
    match store.reset fresh now reason with
    | .ok (sequence, after) => (.ok (.sequence sequence), after)
    | .error error => (.error error, store)
  | .findCaseForEventId eventId caseId state body dedupKey =>
    ((store.findCaseForEventId eventId caseId state body dedupKey).map .caseId, store)
  | .findCaseForDedup dedupKey => (.ok (.caseId (store.findCaseForDedup dedupKey)), store)
  | .caseIdExists caseId => (.ok (.exists (store.caseIdExists caseId)), store)
  | .eventsForCase caseId afterSequence =>
    (.ok (.events (store.eventsForCase caseId afterSequence)), store)
  | .allActiveEvents => (.ok (.events store.allActiveEvents), store)
  | .rawEventCount => (.ok (.count store.rawEventCount), store)
  | .getCase caseId => ((store.getCase caseId).map .case, store)
  | .listCases => (store.listCases.map .cases, store)
  | .containedAsset assetUrn => ((store.containedAsset assetUrn).map .found, store)
  | .blockedAsset assetUrn => ((store.blockedAsset assetUrn).map .found, store)

end StoreCall

namespace Store

/-- The store after a sequence of calls. -/
def after (store : Store) (calls : List StoreCall) : Store :=
  calls.foldl (fun store call => (call.exec store).2) store

/-- What the calls return, in order. -/
def results (store : Store) : List StoreCall → List (Except StoreError StoreResult)
  | [] => []
  | call :: calls => (call.exec store).1 :: (call.exec store).2.results calls

@[simp] theorem after_cons (store : Store) (call : StoreCall) (calls : List StoreCall) :
    store.after (call :: calls) = (call.exec store).2.after calls := rfl

@[simp] theorem after_concat (store : Store) (calls : List StoreCall) (call : StoreCall) :
    store.after (calls ++ [call]) = (call.exec (store.after calls)).2 := by
  simp [after, List.foldl_append]

variable {store store' : Store} {row other : Row} {caseId : String} {call : StoreCall}

/-- The rows a call may add to a store. -/
inductive Writable (store : Store) : Row → Prop
  | append {fresh now caseId state body dedupKey eventId}
      (haccepted : Accepted store caseId state body dedupKey (chosenEventId eventId fresh))
      (htype : body.eventType ≠ .systemReset) :
      Writable store (store.appended fresh now caseId state body dedupKey eventId)
  | reset {fresh now reason} : Writable store (store.resetRow fresh now reason)

theorem exec_cases (store : Store) (call : StoreCall) :
    (call.exec store).2 = store ∨
      ∃ row, Writable store row ∧ Extends store row (call.exec store).2 := by
  cases call with
  | append fresh now caseId state body dedupKey eventId htype =>
    cases h : store.append fresh now caseId state body dedupKey eventId with
    | error error => exact .inl (by simp only [StoreCall.exec, h])
    | ok result =>
      obtain ⟨haccepted, hextends, -⟩ := append_ok.1 h
      exact .inr ⟨_, .append haccepted htype, by simpa only [StoreCall.exec, h] using hextends⟩
  | reset fresh now reason =>
    cases h : store.reset fresh now reason with
    | error error => exact .inl (by simp only [StoreCall.exec, h])
    | ok result =>
      exact .inr ⟨_, .reset, by simpa only [StoreCall.exec, h] using (reset_ok h).1⟩
  | _ => exact .inl rfl

theorem exec_error {error : StoreError} (h : (call.exec store).1 = .error error) :
    (call.exec store).2 = store := by
  cases call with
  | append fresh now caseId state body dedupKey eventId htype =>
    revert h
    simp only [StoreCall.exec]
    split
    · nofun
    · intro _; rfl
  | reset fresh now reason =>
    revert h
    simp only [StoreCall.exec]
    split
    · nofun
    · intro _; rfl
  | _ => rfl

theorem after_induction {invariant : Store → Prop}
    (hstep : ∀ store row store', invariant store → Writable store row → Extends store row store' →
      invariant store')
    (hstore : invariant store) (calls : List StoreCall) : invariant (store.after calls) := by
  induction calls generalizing store with
  | nil => exact hstore
  | cons call calls ih =>
    rw [after_cons]
    refine ih ?_
    rcases exec_cases store call with h | ⟨row, hrow, hextends⟩
    · rwa [h]
    · exact hstep store row _ hstore hrow hextends

theorem Coherent.step (h : store.Coherent) (hrow : Writable store row)
    (hextends : Extends store row store') : store'.Coherent := by
  cases hrow with
  | append haccepted htype => exact h.append hextends htype rfl nofun
  | reset => exact h.extends_reset hextends rfl rfl ⟨rfl, rfl⟩

theorem coherent_after (calls : List StoreCall) : (empty.after calls).Coherent :=
  after_induction (fun _ _ _ h hrow hextends => h.step hrow hextends) coherent_empty calls

/-! ### The life of a case -/

/-- A path of the state machine: it starts in `DETECTED`, and each step stays or is a transition. -/
structure Path (states : List CaseState) : Prop where
  head : ∀ state ∈ states.head?, state = .detected
  steps : states.IsChain fun current target => Transition (some current) target

theorem Path.nil : Path [] := ⟨by simp, .nil⟩

theorem Path.concat {states : List CaseState} {state : CaseState} (h : Path states)
    (hstate : Transition states.getLast? state) : Path (states ++ [state]) where
  head := by
    cases states with
    | nil => simpa [Transition] using hstate
    | cons first rest => simpa using h.head
  steps := by
    refine List.IsChain.append h.steps (.singleton _) fun current hcurrent target htarget => ?_
    obtain rfl : target = state := by simpa using htarget.symm
    rwa [Option.mem_def.1 hcurrent] at hstate

/-- The states of a repair that succeeds, in order. -/
def repairStages : List CaseState :=
  [.detected, .contextGathered, .candidatesReady, .validating, .patchReady, .prOpen, .deployed,
    .postDeployVerified, .resolved]

/-- The stages of a repair up to a state, that state included. -/
def stagesTo (state : CaseState) : List CaseState :=
  if state ∈ repairStages then repairStages.takeWhile (· ≠ state) ++ [state] else []

theorem stagesTo_transition {current target : CaseState} (h : target ∈ current.allowedTransitions) :
    stagesTo target = stagesTo current ++ [target] ∨ stagesTo target = [] := by
  cases current <;> simp only [allowedTransitions, List.mem_cons, List.not_mem_nil, or_false] at h <;>
    rcases h with rfl | rfl | rfl <;> decide

theorem Path.stages {states : List CaseState} {state : CaseState} (h : Path states)
    (hlast : states.getLast? = some state) : (stagesTo state).Sublist states := by
  induction states using List.reverseRecOn generalizing state with
  | nil => simp at hlast
  | append_singleton states last ih =>
    obtain rfl : last = state := by simpa using hlast
    rcases List.eq_nil_or_concat' states with rfl | ⟨before, current, rfl⟩
    · obtain rfl : last = .detected := h.head last (by simp)
      exact List.Sublist.refl [detected]
    · have hbefore : Path (before ++ [current]) :=
        ⟨fun state hstate => h.head state (by simpa using hstate), h.steps.left_of_append⟩
      have hpassed : (stagesTo current).Sublist (before ++ [current]) := ih hbefore (by simp)
      have hstep : Transition (some current) last :=
        (List.isChain_append.1 h.steps).2.2 current (by simp) last (by simp)
      rcases hstep with rfl | hstep
      · exact hpassed.trans (List.sublist_append_left _ _)
      · rcases stagesTo_transition hstep with hstages | hstages
        · rw [hstages]
          exact hpassed.append (.refl _)
        · rw [hstages]
          exact List.nil_sublist _

theorem Path.absorbing {before later : List CaseState} {state target : CaseState}
    (h : Path (before ++ state :: later)) (hclosed : state.closed) (htarget : target ∈ later) :
    target = state := by
  have hsteps : (state :: later).IsChain fun current target => Transition (some current) target :=
    h.steps.right_of_append
  clear h
  induction later generalizing state with
  | nil => simp at htarget
  | cons next later ih =>
    obtain rfl : next = state := (hsteps.rel_head? (by simp)).closed hclosed
    rcases List.mem_cons.1 htarget with rfl | htarget
    · rfl
    · exact ih hclosed htarget hsteps.tail

/-- The rows of a case in a reset scope. -/
def scopeRows (store : Store) (caseId : String) (scope : Nat) : List Row :=
  store.rows.filter fun row => row.caseId = caseId ∧ row.resetScope = scope

/-- The states of a case in a reset scope. -/
def states (store : Store) (caseId : String) (scope : Nat) : List CaseState :=
  (store.scopeRows caseId scope).filterMap Row.state

theorem Coherent.currentState (h : store.Coherent) (caseId : String) :
    store.currentState caseId store.currentScope =
      (store.states caseId store.currentScope).getLast? := by
  unfold Store.currentState states scopeRows caseRows
  rw [List.filterMap_filter, List.filterMap_filter]
  congr 1
  refine List.filterMap_congr fun row hrow => ?_
  by_cases htype : row.eventType = .systemReset
  · simp [(h.reset row hrow htype).1]
  · simp only [h.scope row hrow htype]

/-- The states of a case and a scope: in the current scope they are the states of its visible rows. -/
def Lawful (store : Store) : Prop :=
  store.Coherent ∧ ∀ caseId scope, Path (store.states caseId scope)

theorem Extends.states (h : Extends store row store') (caseId : String) (scope : Nat) :
    store'.states caseId scope = store.states caseId scope ++
      if row.caseId = caseId ∧ row.resetScope = scope then row.state.toList else [] := by
  unfold Store.states scopeRows
  rw [h.rows, List.filter_append, List.filterMap_append]
  by_cases hrow : row.caseId = caseId ∧ row.resetScope = scope
  · cases hstate : row.state <;> simp [hrow, hstate]
  · simp [hrow]

theorem Lawful.step (h : store.Lawful) (hrow : Writable store row)
    (hextends : Extends store row store') : store'.Lawful := by
  refine ⟨h.1.step hrow hextends, fun caseId scope => ?_⟩
  rw [hextends.states]
  split
  next hsame =>
    cases hrow with
    | append haccepted htype =>
      obtain ⟨rfl, rfl⟩ := hsame
      refine (h.2 _ _).concat ?_
      have htransition := haccepted.transition
      rwa [h.1.currentState] at htransition
    | reset => simpa [resetRow] using h.2 caseId scope
  next => simpa using h.2 caseId scope

theorem lawful_after (calls : List StoreCall) : (empty.after calls).Lawful :=
  after_induction (fun _ _ _ h hrow hextends => h.step hrow hextends)
    ⟨coherent_empty, fun _ _ => by simpa [states, scopeRows, empty] using Path.nil⟩ calls

theorem projectCase_state {events : List CaseEvent} {snapshot : CaseSnapshot}
    (h : projectCase events = some snapshot) :
    snapshot.state = ((events.filterMap CaseEvent.state).getLast?).getD .detected := by
  have hfold : ∀ (rest : List CaseEvent) (snapshot : CaseSnapshot),
      (rest.foldl .apply snapshot).state =
        ((rest.filterMap CaseEvent.state).getLast?).getD snapshot.state := by
    intro rest
    induction rest with
    | nil => simp
    | cons event rest ih =>
      intro snapshot
      rw [List.foldl_cons, ih, CaseSnapshot.apply_state, List.filterMap_cons]
      cases hstate : event.state with
      | none => rfl
      | some state => simp [List.getLast?_cons]
  cases events with
  | nil => simp [projectCase] at h
  | cons first rest =>
    cases hbody : first.body <;>
      simp only [projectCase, hbody, reduceCtorEq, Option.some.injEq] at h
    rw [← h, hfold]
    rfl

theorem Coherent.currentState_none (h : store.Coherent) (caseId : String) :
    store.currentState caseId store.currentScope = none ↔ store.log caseId = [] := by
  rw [currentState_eq, List.getLast?_eq_none_iff]
  refine ⟨fun hnone => ?_, fun hlog => by rw [hlog]; rfl⟩
  by_contra hlog
  obtain ⟨event, hevent⟩ := List.exists_mem_of_ne_nil _ hlog
  obtain ⟨row, hrow, -, hscope, rfl⟩ := mem_log.1 hevent
  have htype : row.eventType ≠ .systemReset := fun htype =>
    absurd (sequence_le_currentScope hrow htype) (Nat.not_le_of_lt hscope)
  exact h.state row hrow htype (List.filterMap_eq_nil_iff.1 hnone _ hevent)

/-- The projected state is the state an append checks its transition against. -/
theorem Coherent.projected (h : store.Coherent) {snapshot : CaseSnapshot}
    (hsnapshot : store.getCase caseId = .ok snapshot) :
    store.currentState caseId store.currentScope = some snapshot.state := by
  have hproject : projectCase (store.log caseId) = some snapshot := getCase_ok.1 hsnapshot
  have hlog : store.log caseId ≠ [] := fun hlog => by simp [hlog, projectCase] at hproject
  obtain ⟨state, hstate⟩ := Option.ne_none_iff_exists'.1 (mt (h.currentState_none caseId).1 hlog)
  rw [hstate, projectCase_state hproject, ← currentState_eq, hstate]
  rfl

/-- The life of a case in a reset scope. -/
structure Lifecycle (store : Store) (caseId : String) (scope : Nat) : Prop where
  path : Path (store.states caseId scope)
  absorbing : ∀ before row later, store.scopeRows caseId scope = before ++ row :: later →
    ∀ state, row.state = some state → state.closed →
      ∀ other ∈ later, ∀ target, other.state = some target → target = state
  stages : .resolved ∈ store.states caseId scope → repairStages.Sublist (store.states caseId scope)
  projected : scope = store.currentScope → ∀ snapshot, store.getCase caseId = .ok snapshot →
    store.currentState caseId scope = some snapshot.state

theorem Lawful.lifecycle (h : store.Lawful) (caseId : String) (scope : Nat) :
    store.Lifecycle caseId scope where
  path := h.2 caseId scope
  absorbing before row later hrows state hstate hclosed other hother target htarget := by
    have hpath := h.2 caseId scope
    rw [states, hrows, List.filterMap_append, List.filterMap_cons_some hstate] at hpath
    exact hpath.absorbing hclosed (List.mem_filterMap.2 ⟨other, hother, htarget⟩)
  stages hresolved := by
    have hpath := h.2 caseId scope
    obtain ⟨before, later, hstates⟩ := List.append_of_mem hresolved
    rw [hstates, List.append_cons] at hpath ⊢
    have hreached : Path (before ++ [.resolved]) :=
      ⟨fun state hstate => hpath.head state (by cases before <;> simp_all),
        hpath.steps.left_of_append⟩
    exact (hreached.stages List.getLast?_concat).trans (List.sublist_append_left _ _)
  projected hscope snapshot hsnapshot := hscope ▸ h.1.projected hsnapshot

/-- In every run every case lives by the state machine, in each reset scope, and a call that raises
leaves every row unchanged. -/
theorem lifecycle_law (calls : List StoreCall) :
    (∀ caseId scope, (empty.after calls).Lifecycle caseId scope) ∧
      ∀ call error, (StoreCall.exec (empty.after calls) call).1 = .error error →
        (StoreCall.exec (empty.after calls) call).2.rows = (empty.after calls).rows :=
  ⟨(lawful_after calls).lifecycle, fun _ _ h => congrArg Store.rows (exec_error h)⟩

/-! ### Rooted streams -/

/-- A stream starts with its one detection event. -/
def Rooted (events : List CaseEvent) : Prop :=
  ∃ first rest, events = first :: rest ∧ first.eventType = .schemaChangeDetected ∧
    ∀ event ∈ rest, event.eventType ≠ .schemaChangeDetected

/-- Every visible stream is rooted, and the reading methods do not raise: a case that has a stream has
a projection, and the lists of cases can be read. -/
structure WellRooted (store : Store) : Prop where
  rooted : ∀ caseId, store.log caseId ≠ [] → Rooted (store.log caseId)
  getCase : ∀ caseId, store.log caseId ≠ [] → ∃ snapshot, store.getCase caseId = .ok snapshot
  listCases : ∃ cases, store.listCases = .ok cases
  containedAsset : ∀ assetUrn, ∃ case, store.containedAsset assetUrn = .ok case
  blockedAsset : ∀ assetUrn, ∃ case, store.blockedAsset assetUrn = .ok case

/-- The calls that start the stream of a case with another event than its detection: in `DETECTED`, with
an event id and a dedup key the scope has not seen. -/
def Misroots (store : Store) : StoreCall → Prop
  | .append fresh _ caseId state body dedupKey eventId _ =>
    store.log caseId = [] ∧ state = .detected ∧ body.eventType ≠ .schemaChangeDetected ∧
      store.rowForEventId (chosenEventId eventId fresh) store.currentScope = none ∧
        dedupKey.bind (store.rowForDedup · store.currentScope) = none
  | _ => False

theorem rooted_exec (hcoherent : store.Coherent)
    (h : ∀ caseId, store.log caseId ≠ [] → Rooted (store.log caseId)) (hcall : ¬Misroots store call)
    (caseId : String) (hlog : (call.exec store).2.log caseId ≠ []) :
    Rooted ((call.exec store).2.log caseId) := by
  cases call with
  | append fresh now target state body dedupKey eventId htype =>
    cases happend : store.append fresh now target state body dedupKey eventId with
    | error error =>
      simp only [StoreCall.exec, happend] at hlog ⊢
      exact h caseId hlog
    | ok result =>
      obtain ⟨haccepted, hextends, -⟩ := append_ok.1 happend
      simp only [StoreCall.exec, happend] at hlog ⊢
      rw [hextends.log htype] at hlog ⊢
      split
      next hsame =>
        obtain rfl : target = caseId := hsame
        by_cases hfree : store.log target = []
        · have hnone := (hcoherent.currentState_none target).2 hfree
          have hdetected : state = .detected := by
            simpa [hnone, Transition] using haccepted.transition
          have hdetection : body.eventType = .schemaChangeDetected := by
            by_contra hbody
            exact hcall ⟨hfree, hdetected, hbody, rowForEventId_none.2 haccepted.eventId,
              dedup_none_iff.2 haccepted.dedupKey⟩
          rw [hfree, List.nil_append]
          exact ⟨_, [], rfl, hdetection, by simp⟩
        · obtain ⟨first, rest, hrest, hfirst, hothers⟩ := h target hfree
          refine ⟨first, rest ++ [_], by rw [hrest, List.cons_append], hfirst, fun event hevent => ?_⟩
          rcases List.mem_append.1 hevent with hevent | hevent
          · exact hothers event hevent
          · obtain rfl := List.mem_singleton.1 hevent
            exact fun hdetection =>
              hfree ((hcoherent.currentState_none target).1 (haccepted.detection hdetection))
      next hother =>
        rw [if_neg hother, List.append_nil] at hlog
        simpa using h caseId hlog
  | reset fresh now reason =>
    cases hreset : store.reset fresh now reason with
    | error error =>
      simp only [StoreCall.exec, hreset] at hlog ⊢
      exact h caseId hlog
    | ok result =>
      simp only [StoreCall.exec, hreset] at hlog
      exact absurd ((reset_ok hreset).1.log_reset rfl caseId) hlog
  | _ => exact h caseId hlog

/-- The events `list_cases` groups under a case id are its visible events. -/
theorem allActiveEvents_filter (hcase : caseId ≠ "__system__") :
    store.allActiveEvents.filter (·.caseId = caseId) = store.log caseId := by
  rw [log_eq, allActiveEvents, caseRows, List.filter_map, List.filter_filter]
  congr 1
  refine List.filter_congr fun row _ => ?_
  by_cases hrow : row.caseId = caseId <;> simp [Row.event, hrow, hcase]

theorem mem_activeCaseIds :
    caseId ∈ store.activeCaseIds ↔ caseId ≠ "__system__" ∧ store.log caseId ≠ [] := by
  simp only [activeCaseIds, List.mem_eraseDups, List.mem_map, allActiveEvents, List.mem_filter,
    decide_eq_true_eq]
  constructor
  · rintro ⟨_, ⟨row, ⟨hrow, hscope, hcase⟩, rfl⟩, rfl⟩
    exact ⟨hcase, List.ne_nil_of_mem (mem_log.2 ⟨row, hrow, rfl, hscope, rfl⟩)⟩
  · rintro ⟨hcase, hlog⟩
    obtain ⟨event, hevent⟩ := List.exists_mem_of_ne_nil _ hlog
    obtain ⟨row, hrow, rfl, hscope, -⟩ := mem_log.1 hevent
    exact ⟨row.event, ⟨row, ⟨hrow, hscope, hcase⟩, rfl⟩, rfl⟩

theorem listCases_ok {cases : List CaseSnapshot} :
    store.listCases = .ok cases ↔
      ∃ snapshots, List.Forall₂ (fun caseId snapshot => store.getCase caseId = .ok snapshot)
          store.activeCaseIds snapshots ∧
        cases = snapshots.insertionSort fun first second => second.updatedAt ≤ first.updatedAt := by
  have hproject : ∀ caseId ∈ store.activeCaseIds, ∀ snapshot,
      project (store.allActiveEvents.filter (·.caseId = caseId)) = .ok snapshot ↔
        store.getCase caseId = .ok snapshot := by
    intro caseId hcase snapshot
    rw [allActiveEvents_filter (mem_activeCaseIds.1 hcase).1, getCase_ok, snapshot?, project]
    cases projectCase (store.log caseId) <;> simp
  have hforall : ∀ snapshots : List CaseSnapshot,
      List.Forall₂ (fun caseId snapshot =>
          project (store.allActiveEvents.filter (·.caseId = caseId)) = .ok snapshot)
        store.activeCaseIds snapshots ↔
      List.Forall₂ (fun caseId snapshot => store.getCase caseId = .ok snapshot)
        store.activeCaseIds snapshots := fun snapshots => by
    simp only [List.forall₂_iff_get, List.get_eq_getElem]
    refine and_congr_right fun _ => forall₃_congr fun i hi hi' => ?_
    exact hproject _ (List.getElem_mem hi) _
  simp only [← hforall, ← Python.mapM_ok]
  unfold listCases
  cases store.activeCaseIds.mapM fun caseId =>
      project (store.allActiveEvents.filter (·.caseId = caseId)) <;>
    simp [bind, Except.bind, pure, Except.pure, eq_comm]

theorem wellRooted_of_rooted (h : ∀ caseId, store.log caseId ≠ [] → Rooted (store.log caseId)) :
    store.WellRooted := by
  have hgetCase : ∀ caseId, store.log caseId ≠ [] → ∃ snapshot, store.getCase caseId = .ok snapshot :=
    fun caseId hlog => by
      obtain ⟨first, rest, hrest, hfirst, -⟩ := h caseId hlog
      obtain ⟨snapshot, hsnapshot⟩ := Option.isSome_iff_exists.1
        (projectCase_isSome.2 ⟨first, rest, hrest, hfirst⟩)
      exact ⟨snapshot, getCase_ok.2 hsnapshot⟩
  obtain ⟨cases, hcases⟩ : ∃ cases, store.listCases = .ok cases := by
    have hforall : ∀ caseIds : List String, (∀ caseId ∈ caseIds, store.log caseId ≠ []) →
        ∃ snapshots, List.Forall₂ (fun caseId snapshot => store.getCase caseId = .ok snapshot)
          caseIds snapshots := by
      intro caseIds hcaseIds
      induction caseIds with
      | nil => exact ⟨[], .nil⟩
      | cons caseId caseIds ih =>
        obtain ⟨snapshot, hsnapshot⟩ := hgetCase caseId (hcaseIds caseId List.mem_cons_self)
        obtain ⟨snapshots, hsnapshots⟩ := ih fun other hother =>
          hcaseIds other (List.mem_cons_of_mem _ hother)
        exact ⟨snapshot :: snapshots, .cons hsnapshot hsnapshots⟩
    obtain ⟨snapshots, hsnapshots⟩ := hforall _ fun caseId hcase => (mem_activeCaseIds.1 hcase).2
    exact ⟨_, listCases_ok.2 ⟨snapshots, hsnapshots, rfl⟩⟩
  exact ⟨h, hgetCase, ⟨cases, hcases⟩,
    fun assetUrn => ⟨_, by simp only [containedAsset, hcases, bind, Except.bind]; rfl⟩,
    fun assetUrn => ⟨_, by simp only [blockedAsset, hcases, bind, Except.bind]; rfl⟩⟩

theorem not_wellRooted_of_misroots (hcoherent : store.Coherent) (hcall : Misroots store call) :
    ¬(call.exec store).2.WellRooted := by
  cases call with
  | append fresh now caseId state body dedupKey eventId htype =>
    obtain ⟨hfree, rfl, hbody, hid, hkey⟩ := hcall
    have hnone := (hcoherent.currentState_none caseId).2 hfree
    have haccepted : Accepted store caseId .detected body dedupKey (chosenEventId eventId fresh) :=
      ⟨rowForEventId_none.1 hid, dedup_none_iff.1 hkey, fun hdetection => absurd hdetection hbody,
        by rw [hnone]; rfl⟩
    obtain ⟨store', happend⟩ := haccepted.append now
    have hlog : store'.log caseId = [(store.appended fresh now caseId .detected body dedupKey
        eventId).event] := by
      rw [(append_ok.1 happend).2.1.log htype, hfree]
      exact if_pos rfl
    intro h
    simp only [StoreCall.exec, happend] at h
    obtain ⟨first, rest, hrest, hfirst, -⟩ := h.rooted caseId (by simp [hlog])
    rw [hlog] at hrest
    obtain ⟨rfl, -⟩ := List.cons.inj hrest
    exact hbody hfirst
  | _ => exact hcall.elim

/-- The streams are well rooted in every state of a run exactly when no call of it starts a stream
with another event than a detection. -/
theorem wellRooted_iff (calls : List StoreCall) :
    (∀ done, done <+: calls → (empty.after done).WellRooted) ↔
      ∀ done call, done ++ [call] <+: calls → ¬Misroots (empty.after done) call := by
  constructor
  · intro h done call hdone hcall
    have hnot := not_wellRooted_of_misroots (coherent_after done) hcall
    rw [← after_concat] at hnot
    exact hnot (h _ hdone)
  · intro h done hdone
    refine wellRooted_of_rooted ?_
    induction done using List.reverseRecOn with
    | nil => exact fun caseId hlog => absurd rfl hlog
    | append_singleton done call ih =>
      rw [after_concat]
      exact rooted_exec (coherent_after done) (ih ((List.prefix_append _ _).trans hdone))
        (h done call hdone)

/-- A stream that starts with another event cannot be projected, and no case can be listed: an
incident event is enough, since a new case is checked for its state only. -/
theorem wellRooted_counterexample :
    ¬∀ calls : List StoreCall, (empty.after calls).WellRooted := by
  intro h
  let calls : List StoreCall := [.append "event" 0 "case" .detected
    (.incidentRaised ⟨.succeeded, "raise_incident", "", none, [], []⟩) none none (by decide)]
  have herror : (empty.after calls).listCases = .error projectionError := by decide +kernel
  obtain ⟨cases, hcases⟩ := (h calls).listCases
  rw [herror] at hcases
  cases hcases

end Store

end DataRescue
