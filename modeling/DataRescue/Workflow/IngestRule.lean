import DataRescue.Workflow.Reading

/-!
# A proof rule for ingest

What a call of `ingest` can do, as one rule for every proof under the worker lock. `wp_ingestLocked`
leaves four cases of the locked part: it refuses, it finds the case of its key and has nothing to do,
it resumes that case, or it creates a case. `wp_ingest` adds the unlocked part, which refuses, reads
a duplicate, or falls through.
-/

namespace DataRescue

open Python Concurrency

/-- A look-up of the key is among the calls. -/
def Looked (dedupKey : String) (more : List (Performed Op Op.Reply Exn World)) : Prop :=
  ∃ performed ∈ more, performed.op = .store (.findCaseForDedup dedupKey)

/-- The worlds in which a call looked a key up. -/
def lookups (path : List (Performed Op Op.Reply Exn World)) : List World :=
  path.filterMap fun performed => match performed.op with
    | .store (.findCaseForDedup _) => some performed.before
    | _ => none

/-- The process has advanced the case, or is about to. -/
def World.Owned (world : World) (caseId : String) : Prop :=
  caseId ∈ (world.memory 0).activeCases ∨ caseId ∈ (world.memory 0).settledCases

instance (world : World) (caseId : String) : Decidable (world.Owned caseId) := by
  unfold World.Owned; infer_instance

/-- Why an ingest raises without having appended anything. -/
inductive Refusal (environment : Environment) (store : Store) (event : SchemaChangeEvent)
    (dedupKey : String) : Exn → Prop
  | failed {error : Exn} (h : environment.Failed error) : Refusal environment store event dedupKey error
  | conflict {caseId : String} {error : StoreError}
      (h : store.checkedEventId event dedupKey caseId = .error error) :
      Refusal environment store event dedupKey (.store error)
  | exhausted (hunbound : store.findCaseForDedup dedupKey = none)
      (h : ∀ width ∈ 8 :: wideWidths dedupKey, store.log (caseIdOfWidth dedupKey width) ≠ []) :
      Refusal environment store event dedupKey
        (.runtimeError "Could not allocate a collision-safe case id")

/-- The key is bound to a visible case, whose event id does not conflict. -/
structure Duplicate (store : Store) (event : SchemaChangeEvent) (dedupKey : String) (row : Row)
    (snapshot : CaseSnapshot) : Prop where
  bound : store.rowForDedup dedupKey store.currentScope = some row
  checked : ∃ found, store.checkedEventId event dedupKey row.caseId = .ok found
  snapshot : store.snapshot? row.caseId = some snapshot

/-- The key and the event id are unbound, and the case id is free. -/
structure Creatable (store : Store) (event : SchemaChangeEvent) (dedupKey caseId : String) :
    Prop where
  unbound : store.findCaseForDedup dedupKey = none
  width : IsCaseIdOf dedupKey caseId
  free : store.log caseId = []
  checked : store.checkedEventId event dedupKey caseId = .ok none

section

variable {service : Service} {environment : Environment} {known : World → Prop}
  {proof : Exclusive service environment known} {actor : Actor Call} {world : World}
  {path : List (Performed Op Op.Reply Exn World)} {event : SchemaChangeEvent}
  {dedupKey caseId : String} {store : Store} {row : Row}
  {post : Except Exn SchemaChangeResponse → List (Performed Op Op.Reply Exn World) → World → Prop}

theorem findCaseForDedup_none (h : store.findCaseForDedup dedupKey = none) :
    ∀ row ∈ store.rows, row.resetScope = store.currentScope → row.dedupKey ≠ some dedupKey :=
  Store.rowForDedup_none.1 (Option.map_eq_none_iff.1 h)

theorem Ledger.bound (h : Ledger service environment world)
    (hbound : world.store.rowForDedup dedupKey world.store.currentScope = some row) :
    world.store.log row.caseId ≠ [] := by
  obtain ⟨hrow, hkey, hscope⟩ := Store.rowForDedup_some hbound
  have htype : row.eventType ≠ .systemReset := by
    intro hreset
    rw [(h.coherent.reset row hrow hreset).2] at hkey
    cases hkey
  exact List.ne_nil_of_mem (Store.mem_log.2
    ⟨row, hrow, rfl, (h.coherent.scope row hrow htype).1 hscope, rfl⟩)

theorem exec_owned {world' : World} {answer : Except Exn Bool} (hprocess : actor.call.process = 0)
    (h : (Op.memory (.owned caseId)).exec environment actor world answer world') :
    answer = .ok (decide (world.Owned caseId)) ∧ world' = world := by
  have hsame : world' = world := by
    rcases exec_free rfl h with hsame | ⟨hop, -⟩
    · exact hsame
    · cases hop
  obtain ⟨owned, memory, rfl, ⟨rfl, -⟩, -⟩ := h
  rw [hprocess]
  exact ⟨congrArg Except.ok (Bool.decide_or ..).symm, hsame⟩

theorem Creatable.accepted (h : Creatable store event dedupKey caseId) {fresh : String}
    (hfresh : store.FreshId fresh) :
    store.Accepted caseId .detected (detectionPayload event caseId) (some dedupKey)
      (Store.chosenEventId event.eventId fresh) := by
  have hcurrent : store.currentState caseId store.currentScope = none := by
    simp [Store.currentState_eq, h.free]
  refine ⟨?_, fun key hkey => ?_, fun _ => hcurrent, by rw [hcurrent]; rfl⟩
  · have hchecked := h.checked
    unfold Store.checkedEventId at hchecked
    cases heventId : event.eventId with
    | none => exact fun row hrow _ => hfresh.2 row hrow
    | some eventId =>
      rw [heventId] at hchecked
      dsimp only [Store.chosenEventId]
      split_ifs
      · dsimp only [Store.findCaseForEventId] at hchecked
        split at hchecked
        next hnone => exact Store.rowForEventId_none.1 hnone
        next existing hsome =>
          split_ifs at hchecked
          cases hchecked
      · exact fun row hrow _ => hfresh.2 row hrow
  · obtain rfl := Option.some.inj hkey
    exact findCaseForDedup_none h.unbound

theorem checkedEventId_free (hledger : Ledger service environment world)
    (hfree : world.store.log caseId = []) {found : Option String}
    (h : world.store.checkedEventId event dedupKey caseId = .ok found) : found = none := by
  unfold Store.checkedEventId at h
  split at h
  · exact (Except.ok.inj h).symm
  next eventId heventId =>
    unfold Store.findCaseForEventId at h
    split at h
    · exact (Except.ok.inj h).symm
    next existing hexisting =>
      split_ifs at h with hmatches
      obtain ⟨hrow, -, hscope⟩ := Store.rowForEventId_some hexisting
      simp only [Store.storedEventMatches, decide_eq_true_eq] at hmatches
      obtain ⟨hcase, htype, -⟩ := hmatches
      have hvisible := (hledger.coherent.scope existing hrow (by rw [htype]; exact nofun)).1 hscope
      have hmem : existing.event ∈ world.store.log caseId :=
        Store.mem_log.2 ⟨existing, hrow, hcase, hvisible, rfl⟩
      rw [hfree] at hmem
      cases hmem

/-- What follows an advance: the answer, or its exception. -/
def AfterAdvance (logic : Logic Op Op.Reply Exn World)
    (post : Except Exn SchemaChangeResponse → List (Performed Op Op.Reply Exn World) → World → Prop)
    (caseId : String) (deduplicated : Bool) :
    Except Exn Unit → List (Performed Op Op.Reply Exn World) → World → Prop
  | .ok _, path, world => (Service.respond caseId deduplicated).wp logic post path world
  | .error error, path, world => post (.error error) path world

/-- What has to be shown of the creation of a case. -/
def Creates (service : Service) (proof : Exclusive service environment known) (actor : Actor Call)
    (event : SchemaChangeEvent) (dedupKey caseId : String)
    (post : Except Exn SchemaChangeResponse → List (Performed Op Op.Reply Exn World) → World → Prop)
    (path : List (Performed Op Op.Reply Exn World)) (world : World) : Prop :=
  ∀ answer after, (Op.store (.append caseId .detected (detectionPayload event caseId) (some dedupKey)
      event.eventId)).exec environment actor world answer after →
    proof.licence actor path (.store (.append caseId .detected (detectionPayload event caseId)
      (some dedupKey) event.eventId)) world answer after ∧
    match answer with
    | .ok recorded => (service.advanceSafelyLocked caseId event).wp (proof.logic actor)
        (AfterAdvance (proof.logic actor) post caseId false)
        (path ++ [⟨.store (.append caseId .detected (detectionPayload event caseId) (some dedupKey)
          event.eventId), .ok recorded, world⟩]) after
    | .error error => environment.Failed error →
        post (.error error) (path ++ [⟨.store (.append caseId .detected (detectionPayload event caseId)
          (some dedupKey) event.eventId), .error error, world⟩]) after

theorem wp_createCase (hlenient : proof.Lenient) (hledger : Ledger service environment world)
    (hheld : world.HeldBy actor) (hunbound : world.store.findCaseForDedup dedupKey = none)
    (hrefused : ∀ error more, ReadsIn world more →
      Refusal environment world.store event dedupKey error → post (.error error) (path ++ more) world)
    (hcreate : ∀ caseId more, ReadsIn world more → Creatable world.store event dedupKey caseId →
      Creates service proof actor event dedupKey caseId post (path ++ more) world) :
    (service.createCase event dedupKey).wp (proof.logic actor) post path world := by
  unfold Service.createCase
  rw [Program.wp_bind]
  refine wp_availableCaseId hlenient hheld hunbound
    (fun error more hfailure hmore => hrefused error more hmore (.failed hfailure))
    (fun more hmore htaken => hrefused _ more hmore (.exhausted hunbound htaken))
    fun first caseId hfirst hid hfree => ?_
  unfold Service.detectionLoop
  dsimp only
  rw [Program.wp_bind]
  refine wp_checkEventId hlenient hheld (fun error more hfailure hmore => ?_) fun more hmore => ?_
  · rw [List.append_assoc]
    exact hrefused error _ (hfirst.append hmore) (.failed hfailure)
  cases hchecked : world.store.checkedEventId event dedupKey caseId with
  | error error =>
    rw [List.append_assoc]
    exact hrefused _ _ (hfirst.append hmore) (.conflict hchecked)
  | ok found =>
    obtain rfl := checkedEventId_free hledger hfree hchecked
    dsimp only [Except.mapError]
    rw [Program.wp_bind, Program.wp_attempt, List.append_assoc]
    refine wp_held hheld fun hknown hinvariant answer after hexec => ?_
    have hcreatable : Creatable world.store event dedupKey caseId := ⟨hunbound, hid, hfree, hchecked⟩
    obtain ⟨hlicence, hnext⟩ := hcreate caseId _ (hfirst.append hmore) hcreatable answer after hexec
    refine ⟨hlicence, ?_⟩
    cases answer with
    | ok recorded =>
      dsimp only [Program.wp]
      rw [Program.wp_bind]
      refine Program.wp_mono hnext ?_
      rintro (error | value) path after hafter <;> exact hafter
    | error error =>
      have hfailed : environment.Failed error := by
        obtain ⟨-, hwritten | ⟨fresh, now, found, hfresh, -, happend, -⟩ | ⟨hfails, htype, -⟩⟩ :=
          exec_append hexec
        · obtain ⟨_, _, _, _, _, hanswer⟩ := hwritten
          cases hanswer
        · obtain ⟨written, hok⟩ := (hcreatable.accepted hfresh).append now
          rw [hok] at happend
          cases happend
        · obtain ⟨typeName, htype⟩ := htype
          exact ⟨hfails, typeName, Except.error.inj htype⟩
      have hpost := hnext hfailed
      obtain ⟨-, typeName, rfl⟩ := hfailed
      exact hpost

theorem wp_ingestLocked (hlenient : proof.Lenient)
    (hledger : ∀ world, known world → proof.invariant world → Ledger service environment world)
    (hprocess : actor.call.process = 0) (hheld : world.HeldBy actor)
    (hrefused : ∀ error more, ReadsIn world more → Looked dedupKey more →
      Refusal environment world.store event dedupKey error → post (.error error) (path ++ more) world)
    (hduplicate : ∀ row snapshot more, ReadsIn world more → Looked dedupKey more →
      Duplicate world.store event dedupKey row snapshot →
      (snapshot.state.ingestResumable = true → world.Owned row.caseId) →
      post (.ok { case := snapshot, deduplicated := true }) (path ++ more) world)
    (hresume : ∀ row snapshot more, ReadsIn world more → Looked dedupKey more →
      Duplicate world.store event dedupKey row snapshot →
      snapshot.state.ingestResumable = true → ¬world.Owned row.caseId →
      (service.advanceSafelyLocked row.caseId event).wp (proof.logic actor)
        (AfterAdvance (proof.logic actor) post row.caseId true) (path ++ more) world)
    (hcreate : ∀ caseId more, ReadsIn world more → Looked dedupKey more →
      Creatable world.store event dedupKey caseId →
      Creates service proof actor event dedupKey caseId post (path ++ more) world) :
    (service.ingestLocked event dedupKey).wp (proof.logic actor) post path world := by
  have hlooked : ∀ (answer : Except Exn (Option String)) (more : List _),
      Looked dedupKey (⟨.store (.findCaseForDedup dedupKey), answer, world⟩ :: more) :=
    fun _ _ => ⟨_, List.mem_cons_self, rfl⟩
  unfold Service.ingestLocked
  rw [Program.wp_bind]
  refine wp_read rfl hlenient hheld
    (fun error hfailure => hrefused error [_] (.single rfl) (hlooked _ []) (.failed hfailure))
    fun hknown hinvariant fresh now => ?_
  have hworld := hledger world hknown hinvariant
  simp only [StoreOp.run, Except.mapError]
  cases hfind : world.store.findCaseForDedup dedupKey with
  | none =>
    refine wp_createCase hlenient hworld hheld hfind (fun error more hmore hrefusal => ?_)
      fun caseId more hmore hcreatable => ?_
    · rw [List.append_assoc]
      exact hrefused error _ (ReadsIn.append (.single rfl) hmore) (hlooked _ _) hrefusal
    · rw [List.append_assoc]
      exact hcreate caseId _ (ReadsIn.append (.single rfl) hmore) (hlooked _ _) hcreatable
  | some existing =>
    obtain ⟨row, hbound, rfl⟩ := Option.map_eq_some_iff.1 hfind
    dsimp only [Program.wp]
    rw [Program.wp_bind]
    refine wp_deduplicatedResponse hlenient hledger hheld (fun error more hfailure hmore => ?_)
      (fun error more hmore hchecked => ?_) (fun more hmore hlog => ?_)
      fun more snapshot found hmore hchecked hsnapshot => ?_
    · rw [List.append_assoc]
      exact hrefused error _ (ReadsIn.append (.single rfl) hmore) (hlooked _ _) (.failed hfailure)
    · rw [List.append_assoc]
      exact hrefused _ _ (ReadsIn.append (.single rfl) hmore) (hlooked _ _) (.conflict hchecked)
    · exact absurd hlog (hworld.bound hbound)
    have hdup : Duplicate world.store event dedupKey row snapshot :=
      ⟨hbound, ⟨found, hchecked⟩, hsnapshot⟩
    have hreads : ∀ {again}, ReadsIn world again → ReadsIn world
        ([⟨.store (.findCaseForDedup dedupKey), .ok (some row.caseId), world⟩] ++ (more ++ again)) :=
      fun hagain => ReadsIn.append (.single rfl) (hmore.append hagain)
    dsimp only
    split_ifs with hresumable
    · rw [Program.wp_bind]
      refine wp_held hheld fun _ _ answer after hexec => ⟨hlenient _ _ _ _ _ _ rfl, ?_⟩
      obtain ⟨howned, hsame⟩ := exec_owned hprocess hexec
      rw [hsame]
      by_cases hown : world.Owned row.caseId
      · rw [decide_eq_true hown] at howned
        rw [howned]
        refine wp_respond hlenient hheld hsnapshot (fun error again hfailure hagain => ?_)
          ?_
        · simp only [List.append_assoc]
          exact hrefused error _ (hreads (.append (.single rfl) hagain)) (hlooked _ _)
            (.failed hfailure)
        · simp only [List.append_assoc]
          exact hduplicate row snapshot _ (hreads (.append (.single rfl) (.single rfl)))
            (hlooked _ _) hdup fun _ => hown
      · rw [decide_eq_false hown] at howned
        rw [howned]
        dsimp only [Program.wp]
        rw [if_pos (by rfl), Program.wp_bind]
        have howner : ReadsIn world [⟨.memory (.owned row.caseId), .ok false, world⟩] := .single rfl
        have hnext := hresume row snapshot _ (hreads howner) (hlooked _ _) hdup hresumable hown
        rw [List.append_assoc, List.append_assoc]
        refine Program.wp_mono hnext ?_
        rintro (error | value) path final hafter <;> exact hafter
    · refine wp_respond hlenient hheld hsnapshot (fun error again hfailure hagain => ?_)
        ?_
      · rw [List.append_assoc, List.append_assoc]
        exact hrefused error _ (hreads hagain) (hlooked _ _) (.failed hfailure)
      · rw [List.append_assoc, List.append_assoc]
        exact hduplicate row snapshot _ (hreads (.single rfl)) (hlooked _ _) hdup
          fun h => absurd h hresumable

/-! ### The unlocked part -/

/-- What an unlocked duplicate has read: the key was bound when it looked, its event id did not
conflict, and the case was at rest or owned by the process. -/
structure FastDuplicate (actor : Actor Call) (event : SchemaChangeEvent) (dedupKey : String)
    (more : List (Performed Op Op.Reply Exn World)) (looked asked read after : World) (row : Row)
    (snapshot : CaseSnapshot) : Prop where
  lookups : lookups more = [looked]
  bound : looked.store.rowForDedup dedupKey looked.store.currentScope = some row
  asks : Relies actor looked asked
  checked : ∃ found, asked.store.checkedEventId event dedupKey row.caseId = .ok found
  reads : Relies actor asked read
  visible : read.store.snapshot? row.caseId = some snapshot
  performed : ⟨.store (.getCase row.caseId), .ok snapshot, read⟩ ∈ more
  ends : Relies actor read after
  owned : snapshot.state.ingestResumable = true → after.Owned row.caseId

/-- Why the unlocked part raises. -/
inductive FastRefusal (environment : Environment) (actor : Actor Call) (event : SchemaChangeEvent)
    (dedupKey : String) (more : List (Performed Op Op.Reply Exn World)) : Exn → Prop
  | failed {error : Exn} (h : environment.Failed error) :
      FastRefusal environment actor event dedupKey more error
  | conflict {looked asked : World} {row : Row} {error : StoreError}
      (hlookups : lookups more = [looked])
      (hbound : looked.store.rowForDedup dedupKey looked.store.currentScope = some row)
      (hasks : Relies actor looked asked)
      (h : asked.store.checkedEventId event dedupKey row.caseId = .error error) :
      FastRefusal environment actor event dedupKey more (.store error)

theorem wp_checkEventIdUnheld (hlenient : proof.Lenient) (hunheld : ¬world.HeldBy actor) :
    (Service.checkEventId event dedupKey caseId).wp (proof.logic actor)
      (fun result path' after => Relies actor world after ∧ lookups path' = lookups path ∧
        match result with
        | .ok found => after.store.checkedEventId event dedupKey caseId = .ok found
        | .error error => environment.Failed error ∨ ∃ found, error = .store found ∧
            after.store.checkedEventId event dedupKey caseId = .error found) path world := by
  unfold Service.checkEventId
  split
  next hnone => exact ⟨.refl .., rfl, by simp [Store.checkedEventId, hnone]⟩
  next eventId hsome =>
    refine wp_readUnheld rfl hlenient hunheld (fun before error hrely hfailure => ?_)
      fun before hrely _ _ fresh now => ?_
    · exact ⟨hrely, by simp [lookups], .inl hfailure⟩
    · refine ⟨hrely, by simp [lookups], ?_⟩
      simp only [StoreOp.run, Store.checkedEventId, hsome]
      cases before.store.findCaseForEventId eventId caseId .detected
          (detectionPayload event caseId) (some dedupKey) with
      | error error => exact .inr ⟨error, rfl, rfl⟩
      | ok found => rfl

theorem wp_ingestKeyed (hlenient : proof.Lenient)
    (hledger : ∀ world, known world → proof.invariant world → Ledger service environment world)
    (hprocess : actor.call.process = 0) (hunheld : ¬world.HeldBy actor)
    (hrefused : ∀ error more after, Relies actor world after →
      FastRefusal environment actor event dedupKey more error → post (.error error) more after)
    (hduplicate : ∀ more looked asked read after row snapshot, Relies actor world looked →
      known looked → proof.invariant looked →
      FastDuplicate actor event dedupKey more looked asked read after row snapshot →
      post (.ok { case := snapshot, deduplicated := true }) more after)
    (hlocked : ∀ more before, Relies actor world before → known before → proof.invariant before →
      (before.memory 0).workerLock = none →
      (service.ingestLocked event dedupKey).wp (proof.logic actor)
        (fun result path after => after.HeldBy actor ∧
          post result (path ++ [⟨.memory .release, .ok (), after⟩]) after.released)
        (more ++ [⟨.memory .acquire, .ok (), before⟩]) (before.locked actor)) :
    (service.ingestKeyed event dedupKey).wp (proof.logic actor) post [] world := by
  have hlock : ∀ more after, Relies actor world after →
      (withWorkerLock (service.ingestLocked event dedupKey)).wp (proof.logic actor) post more after :=
    fun more after hrely => wp_withWorkerLock hprocess
      (fun path op before answer after hop => hlenient _ _ _ _ _ _ (by rcases hop with rfl | rfl <;> rfl))
      fun before hrely' hknown hinvariant hnone =>
        hlocked more before (hrely.trans hrely') hknown hinvariant hnone
  unfold Service.ingestKeyed
  dsimp only
  rw [Program.wp_bind]
  refine wp_readUnheld rfl hlenient hunheld
    (fun before error hrely hfailure => hrefused _ _ _ hrely (.failed hfailure))
    fun looked hlooked hknown hinvariant fresh now => ?_
  simp only [StoreOp.run, Except.mapError]
  cases hfind : looked.store.findCaseForDedup dedupKey with
  | none => exact hlock _ _ hlooked
  | some existing =>
    obtain ⟨row, hbound, rfl⟩ := Option.map_eq_some_iff.1 hfind
    have hfree := hlooked.unheld hunheld
    dsimp only
    rw [Program.wp_bind]
    unfold Service.deduplicatedResponse
    rw [Program.wp_bind]
    refine Program.wp_mono (wp_checkEventIdUnheld hlenient hfree) ?_
    rintro (error | found) path asked ⟨hasks, hlookups, hchecked⟩
    · rcases hchecked with hfailure | ⟨error, rfl, hchecked⟩
      · exact hrefused _ _ _ (hlooked.trans hasks) (.failed hfailure)
      · refine hrefused _ _ _ (hlooked.trans hasks) (.conflict ?_ hbound hasks hchecked)
        rw [hlookups]
        rfl
    have hfree := hasks.unheld hfree
    dsimp only
    rw [Program.wp_bind, Program.wp_attempt]
    refine wp_readUnheld rfl hlenient hfree (fun read error hreads hfailure => ?_)
      fun read hreads hknown' hinvariant' fresh' now' => ?_
    · obtain ⟨hfails, typeName, rfl⟩ := hfailure
      exact hrefused _ _ _ ((hlooked.trans hasks).trans hreads) (.failed ⟨hfails, typeName, rfl⟩)
    have hread := (hlooked.trans hasks).trans hreads
    simp only [StoreOp.run]
    cases hget : read.store.getCase row.caseId with
    | error error =>
      rcases Store.getCase_error hget with ⟨hlog, rfl⟩ | ⟨hlog, hnone, -⟩
      · exact hlock _ _ hread
      · obtain ⟨snapshot, hchain⟩ := (hledger read hknown' hinvariant').cases row.caseId hlog
        rw [Store.snapshot?, hchain.project] at hnone
        cases hnone
    | ok snapshot =>
      have hvisible := Store.getCase_ok.1 hget
      have hpath : lookups (path ++ [⟨.store (.getCase row.caseId), .ok snapshot, read⟩]) = [looked] := by
        simp only [lookups, List.filterMap_append] at hlookups ⊢
        rw [hlookups]
        rfl
      dsimp only [Except.mapError, Program.pure_eq, Program.wp]
      split_ifs with hresumable
      · exact hduplicate _ looked asked read read row snapshot hlooked hknown hinvariant
          ⟨hpath, hbound, hasks, ⟨found, hchecked⟩, hreads, hvisible, by simp, .refl .., by simp_all⟩
      · rw [Program.wp_bind]
        refine wp_unheld rfl (by simp) (hreads.unheld hfree) fun after answer hends _ _ _ hexec =>
          ⟨hlenient _ _ _ _ _ _ rfl, ?_⟩
        obtain ⟨rfl, -⟩ := exec_owned hprocess hexec
        dsimp only [Program.wp]
        by_cases hown : after.Owned row.caseId
        · rw [if_pos (decide_eq_true hown)]
          refine hduplicate _ looked asked read after row snapshot hlooked hknown hinvariant
            ⟨?_, hbound, hasks, ⟨found, hchecked⟩, hreads, hvisible, by simp, hends, fun _ => hown⟩
          rw [lookups, List.filterMap_append, ← lookups, hpath]
          rfl
        · rw [if_neg (by simpa using hown)]
          exact hlock _ _ (hread.trans hends)

end

end DataRescue
