import DataRescue.Workflow.Stages

/-!
# Reading under the worker lock

The transactions of an ingest that only read, executed by the holder of the lock: each answers from
one store, or fails as a transaction. From the ledger a visible case has a snapshot, so reading it
cannot fail otherwise, and the id that `availableCaseId` returns is free.
-/

namespace DataRescue

open Python Concurrency

/-- The operations that leave no trace. -/
def Op.passive : Op → Bool
  | .store op => op.reads
  | .memory .acquire | .memory .release | .memory (.owned _) => true
  | _ => false

/-- A proof that asks nothing of such operations. -/
def Exclusive.Lenient {service : Service} {environment : Environment} {known : World → Prop}
    (proof : Exclusive service environment known) : Prop :=
  ∀ actor path op before answer after, Op.passive op = true →
    proof.licence actor path op before answer after

theorem ledgerProof_lenient {service : Service} {environment : Environment} :
    (ledgerProof service environment).Lenient := by
  intro actor path op before answer after hpassive
  cases op with
  | store op => cases op <;> trivial
  | memory op => trivial
  | adapter op => trivial

/-- Calls that left no trace, all made in one world. -/
def ReadsIn (world : World) (more : List (Performed Op Op.Reply Exn World)) : Prop :=
  ∀ performed ∈ more, performed.op.passive = true ∧ performed.before = world

theorem ReadsIn.nil {world : World} : ReadsIn world [] := fun _ h => (List.not_mem_nil h).elim

theorem ReadsIn.append {world : World} {first second : List (Performed Op Op.Reply Exn World)}
    (h : ReadsIn world first) (h' : ReadsIn world second) : ReadsIn world (first ++ second) :=
  fun performed hperformed =>
    (List.mem_append.1 hperformed).elim (h performed) (h' performed)

theorem ReadsIn.single {world : World} {op : Op} {answer : Except Exn op.Reply}
    (h : op.passive = true) : ReadsIn world [⟨op, answer, world⟩] := by
  intro performed hperformed
  rw [List.mem_singleton.1 hperformed]
  exact ⟨h, rfl⟩

/-- `checkEventId` on one store. -/
def Store.checkedEventId (store : Store) (event : SchemaChangeEvent) (dedupKey caseId : String) :
    Except StoreError (Option String) :=
  match event.eventId with
  | none => .ok none
  | some eventId => store.findCaseForEventId eventId caseId .detected
      (detectionPayload event caseId) (some dedupKey)

section

variable {service : Service} {environment : Environment} {known : World → Prop}
  {proof : Exclusive service environment known} {actor : Actor Call} {world : World} {α : Type}
  {path : List (Performed Op Op.Reply Exn World)} {event : SchemaChangeEvent}
  {dedupKey caseId : String}

theorem wp_read {op : StoreOp}
    {post : Except Exn op.Reply → List (Performed Op Op.Reply Exn World) → World → Prop}
    (hreads : op.reads = true) (hlenient : proof.Lenient) (hheld : world.HeldBy actor)
    (hfailed : ∀ error, environment.Failed error →
      post (.error error) (path ++ [⟨.store op, .error error, world⟩]) world)
    (h : known world → proof.invariant world → ∀ fresh now,
      post ((op.run fresh now world.store).1.mapError .store)
        (path ++ [⟨.store op, (op.run fresh now world.store).1.mapError .store, world⟩]) world) :
    (Flow.store op).wp (proof.logic actor) post path world := by
  refine wp_held hheld fun hknown hinvariant answer after hexec =>
    ⟨hlenient _ _ _ _ _ _ hreads, ?_⟩
  have hrecord : ∀ answer, world.record actor (.store op) answer = world := by
    intro answer
    cases op <;> first | rfl | cases hreads
  rcases hexec with ⟨fresh, now, -, rfl, rfl⟩ | ⟨hfails, ⟨typeName, rfl⟩, rfl⟩
  · rw [hrecord, StoreOp.run_reads hreads]
    exact h hknown hinvariant fresh now
  · rw [hrecord]
    exact hfailed _ ⟨hfails, typeName, rfl⟩

theorem wp_readUnheld {op : StoreOp}
    {post : Except Exn op.Reply → List (Performed Op Op.Reply Exn World) → World → Prop}
    (hreads : op.reads = true) (hlenient : proof.Lenient) (hunheld : ¬world.HeldBy actor)
    (hfailed : ∀ before error, Relies actor world before → environment.Failed error →
      post (.error error) (path ++ [⟨.store op, .error error, before⟩]) before)
    (h : ∀ before, Relies actor world before → known before → proof.invariant before → ∀ fresh now,
      post ((op.run fresh now before.store).1.mapError .store)
        (path ++ [⟨.store op, (op.run fresh now before.store).1.mapError .store, before⟩]) before) :
    (Flow.store op).wp (proof.logic actor) post path world := by
  refine wp_unheld (by cases op <;> first | rfl | cases hreads) nofun hunheld
    fun before answer hrely hknown hinvariant _ hexec => ⟨hlenient _ _ _ _ _ _ hreads, ?_⟩
  rcases hexec with ⟨fresh, now, -, rfl, -⟩ | ⟨hfails, ⟨typeName, rfl⟩, -⟩
  · exact h before hrely hknown hinvariant fresh now
  · exact hfailed before _ hrely ⟨hfails, typeName, rfl⟩

theorem wp_checkEventId
    {post : Except Exn (Option String) → List (Performed Op Op.Reply Exn World) → World → Prop}
    (hlenient : proof.Lenient) (hheld : world.HeldBy actor)
    (hfailed : ∀ error more, environment.Failed error → ReadsIn world more →
      post (.error error) (path ++ more) world)
    (h : ∀ more, ReadsIn world more →
      post ((world.store.checkedEventId event dedupKey caseId).mapError .store) (path ++ more)
        world) :
    (Service.checkEventId event dedupKey caseId).wp (proof.logic actor) post path world := by
  unfold Service.checkEventId
  unfold Store.checkedEventId at h
  split
  next hnone =>
    rw [hnone] at h
    have := h [] .nil
    rwa [List.append_nil] at this
  next eventId hsome =>
    rw [hsome] at h
    exact wp_read rfl hlenient hheld (fun error hfailure => hfailed error _ hfailure (.single rfl))
      fun _ _ fresh now => h _ (.single rfl)

theorem wp_getCase
    {post : Except Exn CaseSnapshot → List (Performed Op Op.Reply Exn World) → World → Prop}
    (hlenient : proof.Lenient)
    (hledger : ∀ world, known world → proof.invariant world → Ledger service environment world)
    (hheld : world.HeldBy actor)
    (hfailed : ∀ error more, environment.Failed error → ReadsIn world more →
      post (.error error) (path ++ more) world)
    (hmissing : ∀ more, ReadsIn world more → world.store.log caseId = [] →
      post (.error (.store (.caseNotFound caseId))) (path ++ more) world)
    (h : ∀ more snapshot, ReadsIn world more → world.store.snapshot? caseId = some snapshot →
      post (.ok snapshot) (path ++ more) world) :
    (Flow.store (.getCase caseId)).wp (proof.logic actor) post path world := by
  refine wp_read rfl hlenient hheld (fun error hfailure => hfailed error _ hfailure (.single rfl))
    fun hknown hinvariant fresh now => ?_
  simp only [StoreOp.run]
  cases hget : world.store.getCase caseId with
  | ok snapshot => exact h _ snapshot (.single rfl) (Store.getCase_ok.1 hget)
  | error error =>
    rcases Store.getCase_error hget with ⟨hlog, rfl⟩ | ⟨hlog, hnone, -⟩
    · exact hmissing _ (.single rfl) hlog
    · obtain ⟨snapshot, hchain⟩ := (hledger world hknown hinvariant).cases caseId hlog
      rw [Store.snapshot?, hchain.project] at hnone
      cases hnone

theorem wp_deduplicatedResponse
    {post : Except Exn (Option SchemaChangeResponse) → List (Performed Op Op.Reply Exn World) →
      World → Prop}
    (hlenient : proof.Lenient)
    (hledger : ∀ world, known world → proof.invariant world → Ledger service environment world)
    (hheld : world.HeldBy actor)
    (hfailed : ∀ error more, environment.Failed error → ReadsIn world more →
      post (.error error) (path ++ more) world)
    (hrefused : ∀ error more, ReadsIn world more →
      world.store.checkedEventId event dedupKey caseId = .error error →
      post (.error (.store error)) (path ++ more) world)
    (hmissing : ∀ more, ReadsIn world more → world.store.log caseId = [] →
      post (.ok none) (path ++ more) world)
    (h : ∀ more snapshot found, ReadsIn world more →
      world.store.checkedEventId event dedupKey caseId = .ok found →
      world.store.snapshot? caseId = some snapshot →
      post (.ok (some { case := snapshot, deduplicated := true })) (path ++ more) world) :
    (Service.deduplicatedResponse event dedupKey caseId).wp (proof.logic actor) post path world := by
  unfold Service.deduplicatedResponse
  rw [Program.wp_bind]
  refine wp_checkEventId hlenient hheld hfailed fun first hfirst => ?_
  cases hchecked : world.store.checkedEventId event dedupKey caseId with
  | error error => exact hrefused error first hfirst hchecked
  | ok found =>
    dsimp only [Except.mapError]
    rw [Program.wp_bind, Program.wp_attempt]
    refine wp_getCase hlenient hledger hheld (fun error more hfailure hmore => ?_)
      (fun more hmore hlog => ?_) fun more snapshot hmore hsnapshot => ?_
    · obtain ⟨hfails, typeName, rfl⟩ := hfailure
      rw [List.append_assoc]
      exact hfailed _ _ ⟨hfails, typeName, rfl⟩ (hfirst.append hmore)
    · rw [List.append_assoc]
      exact hmissing _ (hfirst.append hmore) hlog
    · rw [List.append_assoc]
      exact h _ snapshot found (hfirst.append hmore) hchecked hsnapshot

theorem wp_respond {deduplicated : Bool} {snapshot : CaseSnapshot}
    {post : Except Exn SchemaChangeResponse → List (Performed Op Op.Reply Exn World) → World → Prop}
    (hlenient : proof.Lenient) (hheld : world.HeldBy actor)
    (hsnapshot : world.store.snapshot? caseId = some snapshot)
    (hfailed : ∀ error more, environment.Failed error → ReadsIn world more →
      post (.error error) (path ++ more) world)
    (h : post (.ok { case := snapshot, deduplicated })
      (path ++ [⟨.store (.getCase caseId), .ok snapshot, world⟩]) world) :
    (Service.respond caseId deduplicated).wp (proof.logic actor) post path world := by
  unfold Service.respond
  rw [Program.wp_bind]
  refine wp_read rfl hlenient hheld (fun error hfailure => hfailed error _ hfailure (.single rfl))
    fun _ _ fresh now => ?_
  simp only [StoreOp.run, Store.getCase_ok.2 hsnapshot, Except.mapError]
  exact h

/-- The widths the service uses. -/
def IsCaseIdOf (dedupKey caseId : String) : Prop :=
  ∃ width ∈ 8 :: wideWidths dedupKey, caseId = caseIdOfWidth dedupKey width

theorem wp_widenedCaseId {widths : List Nat}
    {post : Except Exn String → List (Performed Op Op.Reply Exn World) → World → Prop}
    (hlenient : proof.Lenient) (hheld : world.HeldBy actor)
    (hwidths : ∀ width ∈ widths, width ∈ wideWidths dedupKey)
    (hfailed : ∀ error more, environment.Failed error → ReadsIn world more →
      post (.error error) (path ++ more) world)
    (hexhausted : ∀ more, ReadsIn world more →
      (∀ width ∈ widths, caseIdOfWidth dedupKey width ≠ caseIdFromDedup dedupKey →
        world.store.log (caseIdOfWidth dedupKey width) ≠ []) →
      post (.error (.runtimeError "Could not allocate a collision-safe case id")) (path ++ more) world)
    (h : ∀ more caseId, ReadsIn world more → IsCaseIdOf dedupKey caseId →
      world.store.log caseId = [] → post (.ok caseId) (path ++ more) world) :
    (Service.widenedCaseId dedupKey widths).wp (proof.logic actor) post path world := by
  induction widths generalizing path with
  | nil =>
    have := hexhausted [] .nil nofun
    rwa [List.append_nil] at this
  | cons width widths ih =>
    unfold Service.widenedCaseId
    dsimp only
    split_ifs with hsame
    · refine ih (fun other hother => hwidths other (List.mem_cons_of_mem _ hother)) hfailed
        (fun more hmore htaken => hexhausted more hmore fun other hother hne => ?_) h
      rcases List.mem_cons.1 hother with rfl | hother
      · exact absurd hsame hne
      · exact htaken other hother hne
    · rw [Program.wp_bind]
      refine wp_read rfl hlenient hheld
        (fun error hfailure => hfailed error _ hfailure (.single rfl)) fun _ _ fresh now => ?_
      simp only [StoreOp.run, Except.mapError]
      split_ifs with hoccupied
      · refine h _ _ (.single rfl) ⟨width, List.mem_cons_of_mem _ (hwidths width (by simp)), rfl⟩ ?_
        by_contra hlog
        rw [Store.caseIdExists_iff.2 hlog] at hoccupied
        cases hoccupied
      · have htaken : world.store.log (caseIdOfWidth dedupKey width) ≠ [] :=
          Store.caseIdExists_iff.1 (by simpa using hoccupied)
        refine ih (fun other hother => hwidths other (List.mem_cons_of_mem _ hother))
          (fun error more hfailure hmore => ?_) (fun more hmore hrest => ?_)
          fun more caseId hmore hid hlog => ?_
        · rw [List.append_assoc]
          exact hfailed error _ hfailure (ReadsIn.append (.single rfl) hmore)
        · rw [List.append_assoc]
          refine hexhausted _ (ReadsIn.append (.single rfl) hmore) fun other hother hne => ?_
          rcases List.mem_cons.1 hother with rfl | hother
          · exact htaken
          · exact hrest other hother hne
        · rw [List.append_assoc]
          exact h _ caseId (ReadsIn.append (.single rfl) hmore) hid hlog

theorem wp_availableCaseId
    {post : Except Exn String → List (Performed Op Op.Reply Exn World) → World → Prop}
    (hlenient : proof.Lenient) (hheld : world.HeldBy actor)
    (hunbound : world.store.findCaseForDedup dedupKey = none)
    (hfailed : ∀ error more, environment.Failed error → ReadsIn world more →
      post (.error error) (path ++ more) world)
    (hexhausted : ∀ more, ReadsIn world more →
      (∀ width ∈ 8 :: wideWidths dedupKey,
        world.store.log (caseIdOfWidth dedupKey width) ≠ []) →
      post (.error (.runtimeError "Could not allocate a collision-safe case id")) (path ++ more) world)
    (h : ∀ more caseId, ReadsIn world more → IsCaseIdOf dedupKey caseId →
      world.store.log caseId = [] → post (.ok caseId) (path ++ more) world) :
    (Service.availableCaseId dedupKey).wp (proof.logic actor) post path world := by
  unfold Service.availableCaseId
  rw [Program.wp_bind]
  refine wp_read rfl hlenient hheld (fun error hfailure => hfailed error _ hfailure (.single rfl))
    fun _ _ fresh now => ?_
  simp only [StoreOp.run, hunbound, Except.mapError]
  rw [Program.wp_bind]
  refine wp_read rfl hlenient hheld (fun error hfailure => ?_) fun _ _ fresh now => ?_
  · rw [List.append_assoc]
    exact hfailed error _ hfailure (ReadsIn.append (.single rfl) (.single rfl))
  simp only [StoreOp.run, Except.mapError]
  split_ifs with hoccupied
  · rw [Program.pure_eq, Program.wp, List.append_assoc]
    refine h _ _ (ReadsIn.append (.single rfl) (.single rfl)) ⟨8, by simp, rfl⟩ ?_
    by_contra hlog
    rw [Store.caseIdExists_iff.2 hlog] at hoccupied
    cases hoccupied
  · have htaken : world.store.log (caseIdOfWidth dedupKey 8) ≠ [] :=
      Store.caseIdExists_iff.1 (by simpa [caseIdFromDedup] using hoccupied)
    have hreads : ∀ {more}, ReadsIn world more → ReadsIn world
        ([⟨.store (.findCaseForDedup dedupKey), .ok none, world⟩] ++
          ([⟨.store (.caseIdExists (caseIdFromDedup dedupKey)),
            .ok (world.store.caseIdExists (caseIdFromDedup dedupKey)), world⟩] ++ more)) :=
      fun hmore => ReadsIn.append (.single rfl) (ReadsIn.append (.single rfl) hmore)
    refine wp_widenedCaseId hlenient hheld (fun _ h => h) (fun error more hfailure hmore => ?_)
      (fun more hmore hrest => ?_) fun more caseId hmore hid hlog => ?_
    · rw [List.append_assoc, List.append_assoc]
      exact hfailed error _ hfailure (hreads hmore)
    · rw [List.append_assoc, List.append_assoc]
      refine hexhausted _ (hreads hmore) fun width hwidth => ?_
      rcases List.mem_cons.1 hwidth with rfl | hwidth
      · exact htaken
      · by_cases hsame : caseIdOfWidth dedupKey width = caseIdFromDedup dedupKey
        · rw [hsame]
          exact htaken
        · exact hrest width hwidth hsame
    · rw [List.append_assoc, List.append_assoc]
      exact h _ caseId (hreads hmore) hid hlog

end

end DataRescue
