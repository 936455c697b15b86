import DataRescue.Workflow.Correctness
import DataRescue.Workflow.Determinism

/-!
# Redelivery

One event is delivered any number of times, by any number of threads of a process that may crash
between any two operations, with adapters that are functions of their arguments and a store that does
not fail. Then any two such runs write one log, as far as both go, and once an advance has run to its end
in both, the case says the same in both (`redelivery_converges`), but for what a containment takes from
its own advance. So a run without a crash is the specification of all of them.
-/

namespace DataRescue

open Python Concurrency

/-- The id of the first case of an event. -/
def Service.firstCaseId (service : Service) (event : SchemaChangeEvent) : String :=
  caseIdFromDedup (schemaEventDedupKey service.sha256 event)

/-- An advance of the case ran to its end. -/
def World.Advanced (world : World) (caseId : String) : Prop :=
  ∃ effect ∈ world.history, effect.op = .memory (.deactivate caseId true)

/-- The case is at rest in the world. -/
def World.Rests (world : World) (service : Service) (replies : AdapterAnswers) (caseId : String)
    (event : SchemaChangeEvent) : Prop :=
  ∃ snapshot, world.store.snapshot? caseId = some snapshot ∧
    AtRest service replies caseId event snapshot

/-- Every row is of the first case of the event: its detection, or written by an advance. -/
def Store.OneCase (store : Store) (service : Service) (event : SchemaChangeEvent) : Prop :=
  ∀ row ∈ store.rows, row.caseId = service.firstCaseId event ∧
    (row.eventType = .schemaChangeDetected ∧
        row.dedupKey = some (schemaEventDedupKey service.sha256 event) ∨
      row.eventType.duringAdvance = true)

/-- There is one case, which rests once an advance of it has ended. -/
structure Redelivered (service : Service) (replies : AdapterAnswers) (event : SchemaChangeEvent)
    (world : World) : Prop where
  rows : world.store.OneCase service event
  rests : world.Advanced (service.firstCaseId event) →
    world.Rests service replies (service.firstCaseId event) event

/-- What an operation must satisfy. -/
def Op.KeepsCase (service : Service) (replies : AdapterAnswers) (event : SchemaChangeEvent)
    (before : World) : Op → Prop
  | .store (.append caseId _ body dedupKey _) => caseId = service.firstCaseId event ∧
    (body.eventType = .schemaChangeDetected ∧
        dedupKey = some (schemaEventDedupKey service.sha256 event) ∨
      body.eventType.duringAdvance = true)
  | .store (.reset _) => False
  | .memory (.deactivate _ true) => before.Rests service replies (service.firstCaseId event) event
  | _ => True

section

variable {service : Service} {environment environment' : Environment} {replies : AdapterAnswers}
  {event : SchemaChangeEvent} {actor : Actor Call} {world world' : World} {caseId : String}
  {snapshot : CaseSnapshot} {path : List (Performed Op Op.Reply Exn World)} {α : Type}
  {pool pool' : ServicePool}

/-! ### One step -/

theorem Store.OneCase.undeployed {store : Store} (h : store.OneCase service event) :
    ∀ recorded ∈ store.log caseId, recorded.eventType ≠ .deploymentRecorded := by
  intro recorded hrecorded hdeployed
  obtain ⟨row, hrow, -, -, rfl⟩ := Store.mem_log.1 hrecorded
  have htype : row.eventType = .deploymentRecorded := hdeployed
  rcases (h row hrow).2 with ⟨hdetected, -⟩ | hadvance
  · rw [hdetected] at htype
    cases htype
  · rw [htype] at hadvance
    cases hadvance

theorem Redelivered.driven (h : Redelivered service replies event world)
    (hredelivers : Redelivers environment event replies) (hledger : Ledger service environment world) :
    Driven environment event replies world.history (world.store.log caseId) :=
  ⟨hredelivers, hledger.answers, h.rows.undeployed⟩

theorem advanced_of_exec {op : Op} {answer : Except Exn op.Reply}
    (hexec : op.exec environment actor world answer world') (h : world'.Advanced caseId) :
    world.Advanced caseId ∨ op = .memory (.deactivate caseId true) := by
  obtain ⟨effect, heffect, hop⟩ := h
  rw [exec_history hexec] at heffect
  rcases mem_record heffect with hold | rfl
  · exact .inl ⟨effect, hold, hop⟩
  · exact .inr hop

theorem World.Rests.append {row : Row} (hredelivers : Redelivers environment event replies)
    (h : world.Rests service replies caseId event) (hledger : Ledger service environment world')
    (hrows : world'.store.OneCase service event)
    (hextends : Store.Extends world.store row world'.store) (hrow : row.caseId = caseId)
    (htype : row.eventType ≠ .systemReset) : world'.Rests service replies caseId event := by
  obtain ⟨snapshot, hsnapshot, hrest⟩ := h
  have hlog := hextends.log htype caseId
  rw [if_pos hrow] at hlog
  have hne : world.store.log caseId ≠ [] := by
    intro hnone
    rw [Store.snapshot?, hnone] at hsnapshot
    cases hsnapshot
  obtain ⟨after, hchain⟩ := hledger.cases caseId (by simp [hlog])
  have hundeployed : ∀ recorded ∈ world'.store.log caseId,
      recorded.eventType ≠ .deploymentRecorded := hrows.undeployed
  rw [hlog] at hchain hundeployed
  obtain ⟨earlier, state, hearlier, rfl, hstate, _, hallowed⟩ := hchain.snoc hne
  have hproject := hearlier.project
  rw [← Store.snapshot?, hsnapshot] at hproject
  obtain rfl := Option.some.inj hproject
  obtain ⟨ended, houtcome, happends⟩ := Driven.next
    ⟨hredelivers, hledger.answers, hundeployed⟩ hearlier hallowed
  refine ⟨_, ?_, hrest.of_kept (hrest.step hstate houtcome happends).symm⟩
  rw [Store.snapshot?, hlog]
  exact hchain.project

theorem Redelivered.step {op : Op} {answer : Except Exn op.Reply}
    (h : Redelivered service replies event world) (hredelivers : Redelivers environment event replies)
    (hledger : Ledger service environment world')
    (hexec : op.exec environment actor world answer world')
    (hop : op.KeepsCase service replies event world) : Redelivered service replies event world' := by
  by_cases happend : ∃ caseId state body dedupKey eventId,
      op = .store (.append caseId state body dedupKey eventId)
  · obtain ⟨caseId, state, body, dedupKey, eventId, rfl⟩ := happend
    obtain ⟨rfl, htype⟩ := hop
    have hadvanced : world'.Advanced (service.firstCaseId event) →
        world.Advanced (service.firstCaseId event) := by
      intro hadvanced
      rcases advanced_of_exec hexec hadvanced with hold | hnew
      · exact hold
      · cases hnew
    obtain ⟨-, ⟨fresh, now, -, -, hextends, -⟩ | ⟨_, _, _, -, -, -, hstore⟩ | ⟨-, -, hstore⟩⟩ :=
      exec_append hexec
    · have hrows : world'.store.OneCase service event := by
        intro row hrow
        rcases hextends.mem.1 hrow with hold | rfl
        · exact h.rows row hold
        · exact ⟨rfl, htype⟩
      have hreset : body.eventType ≠ .systemReset := by
        intro hreset
        rw [hreset] at htype
        rcases htype with ⟨hdetected, -⟩ | hadvance
        · cases hdetected
        · cases hadvance
      refine ⟨hrows, fun hend => ?_⟩
      exact (h.rests (hadvanced hend)).append hredelivers hledger hrows hextends rfl hreset
    · exact ⟨hstore ▸ h.rows, fun hend => by
        rw [World.Rests, hstore]
        exact h.rests (hadvanced hend)⟩
    · exact ⟨hstore ▸ h.rows, fun hend => by
        rw [World.Rests, hstore]
        exact h.rests (hadvanced hend)⟩
  · rcases exec_other hexec (by simpa using happend) with hstore | ⟨_, _, _, -, rfl, -⟩
    · refine ⟨hstore ▸ h.rows, fun hend => ?_⟩
      rw [World.Rests, hstore]
      rcases advanced_of_exec hexec hend with hold | rfl
      · exact h.rests hold
      · exact hop
    · exact hop.elim

/-! ### The discipline -/

/-- The one case of a redelivered event. -/
def redeliveryProof (service : Service) (hredelivers : Redelivers environment event replies) :
    Exclusive service environment (Ledger service environment) where
  invariant := Redelivered service replies event
  licence _ _ op before _ _ := op.KeepsCase service replies event before
  post _ _ _ _ := True
  preserved _ _ _ _ _ _ _ _ hknown hinvariant _ hexec hlicence :=
    hinvariant.step hredelivers hknown hexec hlicence
  crash before killed after _ _ hinvariant hcrash := by
    obtain ⟨-, process, -, -, rfl⟩ := hcrash
    exact ⟨hinvariant.rows, hinvariant.rests⟩

variable {hredelivers : Redelivers environment event replies}

theorem redeliveryProof_lenient : (redeliveryProof service hredelivers).Lenient := by
  intro actor path op before answer after hpassive
  cases op with
  | store op => cases op <;> trivial
  | memory op => cases op <;> trivial
  | adapter op => trivial

theorem Op.DuringAdvance.keepsCase {op : Op}
    (h : op.DuringAdvance (service.firstCaseId event)) :
    op.KeepsCase service replies event world := by
  rcases h with h | ⟨_, _, rfl⟩ | ⟨_, rfl⟩
  · cases op with
    | store op =>
      cases op with
      | append id state body dedupKey eventId => exact ⟨h.1, .inr h.2.2.2⟩
      | getCase id => trivial
      | _ => cases h
    | memory op => cases h
    | adapter op => trivial
  · trivial
  · trivial

theorem heldBy_of_memory {op : MemoryOp} {answer : Except Exn op.Reply}
    (hheld : world.HeldBy actor) (hprocess : actor.call.process = 0)
    (hlock : ∀ memory reply after, op.run actor.tid memory reply after →
      after.workerLock = memory.workerLock)
    (hexec : (Op.memory op).exec environment actor world answer world') :
    world'.HeldBy actor ∧ world'.store = world.store := by
  obtain ⟨reply, memory, rfl, hrun, rfl⟩ := hexec
  refine ⟨?_, rfl⟩
  rw [hprocess] at hrun ⊢
  rw [World.HeldBy, World.withMemory_self, hlock _ _ _ hrun]
  exact hheld

theorem wp_deactivate {completed : Bool} (hprocess : actor.call.process = 0)
    (hheld : world.HeldBy actor)
    (hrest : completed = true → Ledger service environment world →
      world.Rests service replies (service.firstCaseId event) event)
    {post : Except Exn Unit → List (Performed Op Op.Reply Exn World) → World → Prop}
    (hpost : ∀ path after, after.HeldBy actor → post (.ok ()) path after) :
    (Flow.memory (.deactivate caseId completed)).wp ((redeliveryProof service hredelivers).logic actor)
      post path world := by
  refine wp_held hheld fun hledger _ answer after hexec => ⟨?_, ?_⟩
  · cases completed with
    | false => trivial
    | true => exact hrest rfl hledger
  · have hafter := (heldBy_of_memory hheld hprocess
      (fun memory reply after hrun => by obtain rfl := hrun; rfl) hexec).1
    obtain ⟨⟨⟩, memory, rfl, -⟩ := hexec
    exact hpost _ _ hafter

theorem Rested.atRest (hanswers : ∀ actor op answer, Answered world.history actor op answer →
      Replied replies op answer)
    (h : Rested service world.history caseId event snapshot) :
    AtRest service replies caseId event snapshot := by
  rcases h with hresumable | ⟨caller, pullRequest, hstate, hpull, houtcome⟩
  · exact .inl hresumable
  · exact .inr ⟨pullRequest, hstate, hpull, houtcome.mono (hanswers caller)⟩

theorem wp_redeliveredStages (hdelivers : Delivers environment actor event)
    (hcase : Advancing service actor (service.firstCaseId event) snapshot world) :
    (Flow.exceptException (service.advance (service.firstCaseId event) event)
      (Service.recordFailure (service.firstCaseId event))).wp
        ((redeliveryProof service hredelivers).logic actor)
        (StagePost service environment actor (service.firstCaseId event) event fun _ current after =>
          Rested service after.history (service.firstCaseId event) event current) path world := by
  have hstage : Stage service environment actor (service.firstCaseId event) event
      (Flow.exceptException (service.advance (service.firstCaseId event) event)
        (Service.recordFailure (service.firstCaseId event)))
      (fun _ current after =>
        Rested service after.history (service.firstCaseId event) event current) world :=
    (advance_stage hdelivers hcase).exceptException fun error current after hcase hcause =>
      (recordFailure_stage hdelivers hcase hcause).mono fun _ _ _ _ hclosed => closed_rested hclosed
  have huses : (Flow.exceptException (service.advance (service.firstCaseId event) event)
      (Service.recordFailure (service.firstCaseId event))).Uses
        (Op.DuringAdvance (service.firstCaseId event)) :=
    uses_exceptException advance_uses fun error => recordFailure_uses.mono fun _ h => .inl h
  refine Program.wp.within huses (hstage path) ?_ (fun _ _ _ _ h => h) ?_
  · rintro state before ⟨hrely, hknown, -⟩
    exact ⟨hrely, trivial, hknown⟩
  · rintro path op before answer after hop ⟨hlocked, -⟩
    exact ⟨hlocked, hop.keepsCase⟩

/-- The guarded advance leaves the case at rest, or does not say that it has ended. -/
theorem wp_redeliveredAdvance (hdelivers : Delivers environment actor event)
    (hprocess : actor.call.process = 0)
    (hcase : Advancing service actor (service.firstCaseId event) snapshot world)
    {post : Except Exn Unit → List (Performed Op Op.Reply Exn World) → World → Prop}
    (hpost : ∀ result path after, after.HeldBy actor → post result path after) :
    (service.advanceSafelyLocked (service.firstCaseId event) event).wp
      ((redeliveryProof service hredelivers).logic actor) post path world := by
  unfold Service.advanceSafelyLocked
  rw [Program.wp_bind]
  refine wp_held hcase.held fun _ _ answer active hexec => ⟨trivial, ?_⟩
  obtain ⟨hheld, hstore⟩ := heldBy_of_memory hcase.held hprocess
    (fun memory reply after hrun => by obtain rfl := hrun; rfl) hexec
  have hactive : Advancing service actor (service.firstCaseId event) snapshot active :=
    ⟨hheld, hstore ▸ hcase.snapshot, hcase.concerns⟩
  obtain ⟨reply, memory, rfl, -⟩ := hexec
  rw [Program.wp, Program.wp_tryFinally]
  refine Program.wp_mono (wp_redeliveredStages hdelivers hactive) ?_
  rintro (error | value) path ended ⟨current, hcurrent, hended⟩
  · refine wp_deactivate hprocess hcurrent.held ?_ fun path after hafter => hpost _ _ _ hafter
    intro hcompleted
    cases hcompleted
  · refine wp_deactivate hprocess hcurrent.held (fun _ hledger => ?_)
      fun path after hafter => hpost _ _ _ hafter
    exact ⟨current, hcurrent.snapshot, hended.atRest fun actor op answer hanswered =>
      hredelivers.answers op answer (hledger.answers actor op answer hanswered)⟩

theorem wp_respondHeld {deduplicated : Bool} (hheld : world.HeldBy actor)
    {post : Except Exn SchemaChangeResponse → List (Performed Op Op.Reply Exn World) → World → Prop}
    (hpost : ∀ result path, post result path world) :
    (Service.respond caseId deduplicated).wp ((redeliveryProof service hredelivers).logic actor) post
      path world := by
  unfold Service.respond
  rw [Program.wp_bind]
  refine wp_read rfl redeliveryProof_lenient hheld (fun error _ => hpost _ _) fun _ _ fresh now => ?_
  generalize Except.mapError Exn.store
    (StoreOp.run fresh now (StoreOp.getCase caseId) world.store).1 = answer
  cases answer with
  | error error => exact hpost _ _
  | ok value => exact hpost _ _

theorem wp_afterRedelivery {deduplicated : Bool} (hdelivers : Delivers environment actor event)
    (hprocess : actor.call.process = 0)
    (hcase : Advancing service actor (service.firstCaseId event) snapshot world)
    {post : Except Exn SchemaChangeResponse → List (Performed Op Op.Reply Exn World) → World → Prop}
    (hpost : ∀ result path after, after.HeldBy actor → post result path after) :
    (service.advanceSafelyLocked (service.firstCaseId event) event).wp
      ((redeliveryProof service hredelivers).logic actor)
      (AfterAdvance ((redeliveryProof service hredelivers).logic actor) post
        (service.firstCaseId event) deduplicated) path world := by
  refine wp_redeliveredAdvance hdelivers hprocess hcase fun result path after hafter => ?_
  cases result with
  | error error => exact hpost _ _ _ hafter
  | ok value => exact wp_respondHeld hafter fun result path => hpost _ _ _ hafter

/-! ### The ingest -/

theorem Redelivered.unoccupied (h : Redelivered service replies event world)
    (hledger : Ledger service environment world)
    (hunbound : world.store.findCaseForDedup (schemaEventDedupKey service.sha256 event) = none) :
    world.store.log (service.firstCaseId event) = [] := by
  by_contra hlog
  obtain ⟨snapshot, hchain⟩ := hledger.cases _ hlog
  obtain ⟨first, rest, hfirst, hdetected, -⟩ := hchain.rooted
  have hmem : first ∈ world.store.log (service.firstCaseId event) := by
    rw [hfirst]
    exact List.mem_cons_self
  obtain ⟨row, hrow, -, hvisible, rfl⟩ := Store.mem_log.1 hmem
  have htype : row.eventType = .schemaChangeDetected := hdetected
  have hreset : row.eventType ≠ .systemReset := by
    rw [htype]
    decide
  have hscope := (hledger.coherent.scope row hrow hreset).2 hvisible
  rcases (h.rows row hrow).2 with ⟨-, hkey⟩ | hadvance
  · exact findCaseForDedup_none hunbound row hrow hscope hkey
  · rw [htype] at hadvance
    cases hadvance

theorem wp_firstCaseId (hheld : world.HeldBy actor)
    (hunbound : world.store.findCaseForDedup (schemaEventDedupKey service.sha256 event) = none)
    (hfree : world.store.log (service.firstCaseId event) = [])
    {post : Except Exn String → List (Performed Op Op.Reply Exn World) → World → Prop}
    (hfailed : ∀ error path, post (.error error) path world)
    (h : ∀ path, post (.ok (service.firstCaseId event)) path world) :
    (Service.availableCaseId (schemaEventDedupKey service.sha256 event)).wp
      ((redeliveryProof service hredelivers).logic actor) post path world := by
  unfold Service.availableCaseId
  rw [Program.wp_bind]
  refine wp_read rfl redeliveryProof_lenient hheld (fun error _ => hfailed _ _) fun _ _ fresh now => ?_
  simp only [StoreOp.run, hunbound, Except.mapError]
  rw [Program.wp_bind]
  refine wp_read rfl redeliveryProof_lenient hheld (fun error _ => hfailed _ _) fun _ _ fresh now => ?_
  have hunoccupied : world.store.caseIdExists (service.firstCaseId event) = false := by
    rw [← Bool.not_eq_true, Store.caseIdExists_iff]
    exact fun hlog => hlog hfree
  rw [Service.firstCaseId] at hunoccupied
  simp only [StoreOp.run, Except.mapError, hunoccupied, Bool.not_false, if_true]
  exact h _

theorem wp_createFirst (hdelivers : Delivers environment actor event)
    (hprocess : actor.call.process = 0) (hledger : Ledger service environment world)
    (hheld : world.HeldBy actor)
    (hunbound : world.store.findCaseForDedup (schemaEventDedupKey service.sha256 event) = none)
    (hfree : world.store.log (service.firstCaseId event) = [])
    {post : Except Exn SchemaChangeResponse → List (Performed Op Op.Reply Exn World) → World → Prop}
    (hpost : ∀ result path after, after.HeldBy actor → post result path after) :
    (service.createCase event (schemaEventDedupKey service.sha256 event)).wp
      ((redeliveryProof service hredelivers).logic actor) post path world := by
  unfold Service.createCase
  rw [Program.wp_bind]
  refine wp_firstCaseId hheld hunbound hfree (fun error path => hpost _ _ _ hheld) fun path => ?_
  unfold Service.detectionLoop
  dsimp only
  rw [Program.wp_bind]
  refine wp_checkEventId redeliveryProof_lenient hheld (fun error _ _ _ => hpost _ _ _ hheld)
    fun more _ => ?_
  cases hchecked : world.store.checkedEventId event (schemaEventDedupKey service.sha256 event)
      (service.firstCaseId event) with
  | error error => exact hpost _ _ _ hheld
  | ok found =>
    obtain rfl := checkedEventId_free hledger hfree hchecked
    dsimp only [Except.mapError]
    rw [Program.wp_bind, Program.wp_attempt]
    refine wp_held hheld fun _ _ answer after hexec => ⟨⟨rfl, .inl ⟨rfl, rfl⟩⟩, ?_⟩
    have hafter : after.HeldBy actor := by
      rw [World.HeldBy, (exec_append hexec).1]
      exact hheld
    have hcreatable : Creatable world.store event (schemaEventDedupKey service.sha256 event)
        (service.firstCaseId event) := ⟨hunbound, ⟨8, by simp, rfl⟩, hfree, hchecked⟩
    obtain ⟨-, ⟨_, _, -, -, -, rfl⟩ | ⟨fresh, now, error, hfresh, -, happend, -⟩ | ⟨hfails, -, -⟩⟩ :=
      exec_append hexec
    · obtain ⟨snapshot, hcase⟩ := hcreatable.detected hdelivers hheld hexec
      dsimp only [Program.wp]
      rw [Program.wp_bind]
      refine wp_redeliveredAdvance hdelivers hprocess hcase fun result path ended hended => ?_
      cases result with
      | error error => exact hpost _ _ _ hended
      | ok value => exact wp_respondHeld hended fun result path => hpost _ _ _ hended
    · obtain ⟨written, hok⟩ := (hcreatable.accepted hfresh).append now
      rw [hok] at happend
      cases happend
    · exact absurd hfails hredelivers.reliable

theorem ingestLocked_redelivered (hdelivers : Delivers environment actor event)
    (hprocess : actor.call.process = 0) (hledger : Ledger service environment world)
    (hinvariant : Redelivered service replies event world) (hheld : world.HeldBy actor)
    {post : Except Exn SchemaChangeResponse → List (Performed Op Op.Reply Exn World) → World → Prop}
    (hpost : ∀ result path after, after.HeldBy actor → post result path after) :
    (service.ingestLocked event (schemaEventDedupKey service.sha256 event)).wp
      ((redeliveryProof service hredelivers).logic actor) post path world := by
  cases hfind : world.store.findCaseForDedup (schemaEventDedupKey service.sha256 event) with
  | none =>
    unfold Service.ingestLocked
    rw [Program.wp_bind]
    refine wp_read rfl redeliveryProof_lenient hheld (fun error _ => hpost _ _ _ hheld)
      fun _ _ fresh now => ?_
    simp only [StoreOp.run, hfind, Except.mapError]
    exact wp_createFirst hdelivers hprocess hledger hheld hfind
      (hinvariant.unoccupied hledger hfind) hpost
  | some existing =>
    refine wp_ingestLocked redeliveryProof_lenient (fun _ hknown _ => hknown) hprocess hheld
      (fun _ _ _ _ _ => hpost _ _ _ hheld) (fun _ _ _ _ _ _ _ => hpost _ _ _ hheld)
      (fun row snapshot more _ _ hduplicate _ _ => ?_) fun created more _ _ hcreatable => ?_
    · have hrow : row ∈ world.store.rows := (Store.rowForDedup_some hduplicate.bound).1
      have hcase := hduplicate.advancing hheld hledger hdelivers rfl
      rw [(hinvariant.rows row hrow).1] at hcase ⊢
      exact wp_afterRedelivery hdelivers hprocess hcase hpost
    · rw [hcreatable.unbound] at hfind
      cases hfind

theorem Redelivered.locked (h : Redelivered service replies event world) :
    Redelivered service replies event (world.locked actor) := ⟨h.rows, h.rests⟩

theorem program_redelivered (hstarts : environment.Starts actor.call)
    (hprocess : actor.call.process = 0) (hfresh : world.Fresh actor.tid) :
    (service.program actor.call.command).wp ((redeliveryProof service hredelivers).logic actor)
      (fun _ _ _ => True) [] world := by
  have hcommand := hredelivers.commands _ hstarts.command
  have hdelivers := Delivers.of_starts hstarts hcommand
  rw [hcommand]
  rw [Service.program]
  generalize hflow : service.ingest event = flow
  have hcases := ingest_cases service event
  rw [hflow] at hcases
  have hwp : flow.wp ((redeliveryProof service hredelivers).logic actor) (fun _ _ _ => True) []
      world := by
    rcases hcases with ⟨-, rfl⟩ | ⟨-, rfl⟩
    · refine wp_ingestKeyed redeliveryProof_lenient (fun _ hknown _ => hknown) hprocess hfresh.lock
        (fun _ _ _ _ _ => trivial) (fun _ _ _ _ _ _ _ _ _ _ _ => trivial)
        fun more before _ hledger hinvariant _ => ?_
      exact ingestLocked_redelivered hdelivers hprocess hledger.locked hinvariant.locked
        World.locked_heldBy fun _ _ _ hheld => ⟨hheld, trivial⟩
    · trivial
  exact wp_answer hwp (fun _ _ _ _ => trivial) fun _ _ _ _ => trivial

/-! ### Every run -/

/-- The discipline of a redelivered event. -/
def redeliveryDiscipline (service : Service) (hredelivers : Redelivers environment event replies) :
    Discipline (service.system environment) (Ledger service environment) :=
  (redeliveryProof service hredelivers).discipline hredelivers.single
    fun _ _ hstarts hprocess _ _ hfresh => program_redelivered hstarts hprocess hfresh

theorem Service.Reachable.redelivered (hreach : service.Reachable environment pool)
    (hredelivers : Redelivers environment event replies) :
    Redelivered service replies event pool.shared := by
  have hinitial : Redelivered service replies event {} := by
    refine ⟨fun row hrow => absurd hrow List.not_mem_nil, ?_⟩
    rintro ⟨effect, heffect, -⟩
    cases heffect
  have hsound : (redeliveryDiscipline service hredelivers).Sound {} pool :=
    Discipline.sound hinitial (fun tid => fresh_initial tid)
      (fun _ hreach => Service.Reachable.ledger hreach hredelivers.single) hreach
  exact hsound.invariant

/-- The case is done with: an advance of it ran to its end, or no ingest resumes it. -/
def World.Done (world : World) (caseId : String) : Prop :=
  world.Advanced caseId ∨ ∃ snapshot, world.store.snapshot? caseId = some snapshot ∧
    snapshot.state.ingestResumable = false

theorem Redelivered.done (h : Redelivered service replies event world)
    (hdone : world.Done (service.firstCaseId event)) :
    world.Rests service replies (service.firstCaseId event) event := by
  rcases hdone with hadvanced | ⟨snapshot, hsnapshot, hresumable⟩
  · exact h.rests hadvanced
  · exact ⟨snapshot, hsnapshot, .inl hresumable⟩

theorem kept_of_continues {done : World} {other : World}
    (hdone : done.Rests service replies caseId event)
    (hledger : Ledger service environment done) (hledger' : Ledger service environment' other)
    (hredelivers' : Redelivers environment' event replies)
    (hother : Redelivered service replies event other)
    (hcontinues : Continues (done.store.log caseId) (other.store.log caseId)) :
    ∃ snapshot snapshot', done.store.snapshot? caseId = some snapshot ∧
      other.store.snapshot? caseId = some snapshot' ∧ snapshot.kept = snapshot'.kept := by
  obtain ⟨snapshot, hsnapshot, hrest⟩ := hdone
  obtain ⟨before, after, hlog, hsame⟩ := hcontinues
  have hne : done.store.log caseId ≠ [] := by
    intro hnone
    rw [Store.snapshot?, hnone] at hsnapshot
    cases hsnapshot
  obtain ⟨current, hchain⟩ := hledger.cases caseId hne
  have hproject := hchain.project
  rw [← Store.snapshot?, hsnapshot] at hproject
  obtain rfl := Option.some.inj hproject
  have hne' : other.store.log caseId ≠ [] := by
    rw [hlog]
    intro hnone
    obtain ⟨rfl, -⟩ := List.append_eq_nil_iff.1 hnone
    rw [List.forall₂_nil_right_iff] at hsame
    exact hne hsame
  obtain ⟨final, hfinal⟩ := hledger'.cases caseId hne'
  have hdriven : Driven environment' event replies other.history (other.store.log caseId) :=
    hother.driven hredelivers' hledger'
  rw [hlog] at hfinal hdriven
  refine ⟨snapshot, final, hsnapshot, ?_, (hchain.rest hrest hfinal hdriven hsame).symm⟩
  rw [Store.snapshot?, hlog]
  exact hfinal.project

/-- Redeliveries converge. Two runs that deliver one event any number of times, with crashes at any
points, to adapters that are functions of their arguments and over a store that does not fail, have one
case of one id; one of its logs continues the other; and when both are done with the case, they say the
same of it, the reasons and the write-back of a containment apart. -/
theorem redelivery_converges (hredelivers : Redelivers environment event replies)
    (hredelivers' : Redelivers environment' event replies)
    (hreach : service.Reachable environment pool) (hreach' : service.Reachable environment' pool') :
    (∀ row ∈ pool.shared.store.rows, row.caseId = service.firstCaseId event) ∧
    (Continues (pool.shared.store.log (service.firstCaseId event))
        (pool'.shared.store.log (service.firstCaseId event)) ∨
      Continues (pool'.shared.store.log (service.firstCaseId event))
        (pool.shared.store.log (service.firstCaseId event))) ∧
    (pool.shared.Done (service.firstCaseId event) →
      pool'.shared.Done (service.firstCaseId event) → ∃ snapshot snapshot',
        pool.shared.store.getCase (service.firstCaseId event) = .ok snapshot ∧
        pool'.shared.store.getCase (service.firstCaseId event) = .ok snapshot' ∧
        snapshot.kept = snapshot'.kept) := by
  have hledger := hreach.ledger hredelivers.single
  have hledger' := hreach'.ledger hredelivers'.single
  have hone := hreach.redelivered hredelivers
  have hone' := hreach'.redelivered hredelivers'
  have hagree : Continues (pool.shared.store.log (service.firstCaseId event))
      (pool'.shared.store.log (service.firstCaseId event)) ∨
    Continues (pool'.shared.store.log (service.firstCaseId event))
      (pool.shared.store.log (service.firstCaseId event)) := by
    by_cases hlog : pool.shared.store.log (service.firstCaseId event) = []
    · rw [hlog]
      exact .inl ⟨[], _, rfl, .nil⟩
    by_cases hlog' : pool'.shared.store.log (service.firstCaseId event) = []
    · rw [hlog']
      exact .inr ⟨[], _, rfl, .nil⟩
    obtain ⟨snapshot, hchain⟩ := hledger.cases _ hlog
    obtain ⟨snapshot', hchain'⟩ := hledger'.cases _ hlog'
    exact hchain.agree (hone.driven hredelivers hledger) hchain'
      (hone'.driven hredelivers' hledger')
  refine ⟨fun row hrow => (hone.rows row hrow).1, hagree, fun hdone hdone' => ?_⟩
  simp only [Store.getCase_ok]
  rcases hagree with hcontinues | hcontinues
  · exact kept_of_continues (hone.done hdone) hledger hledger' hredelivers' hone' hcontinues
  · obtain ⟨snapshot, snapshot', hsnapshot, hsnapshot', hkept⟩ := kept_of_continues
      (hone'.done hdone') hledger' hledger hredelivers hone hcontinues
    exact ⟨snapshot', snapshot, hsnapshot', hsnapshot, hkept.symm⟩

/-- One drift, redelivered while everything works. -/
def redelivering : Environment :=
  { answers := fun op answer => answer = workingAnswers op
    storeFails := False
    commands := fun command => command = .ingest canonicalDrift }

theorem redelivers_redelivering : Redelivers redelivering canonicalDrift workingAnswers where
  single _ h := h
  reliable := id
  commands _ h := h
  answers _ _ h := h
  returns op error h := by cases op <;> cases h

theorem session_redelivering {visits : List Visit} (hvisits : ∀ visit ∈ visits, visit = openingVisit)
    {P : List Served × World → Bool} (h : (connectedService.session visits 0 {}).any P = true) :
    ∃ pool, connectedService.Reachable redelivering pool ∧ P (served pool, pool.shared) = true := by
  obtain ⟨⟨calls, final⟩, hsession, hholds⟩ := (Option.any_eq_true _ _).1 h
  have hinit : connectedService.Reachable redelivering (System.init {}) := .refl
  have hstarts : ∀ visit ∈ visits, redelivering.Starts ⟨0, visit.command⟩ := by
    intro visit hvisit
    rw [hvisits visit hvisit]
    exact ⟨rfl, rfl⟩
  have hanswers : ∀ visit ∈ visits, ∀ op, redelivering.answers op (visit.answers op) := by
    intro visit hvisit op
    rw [hvisits visit hvisit]
    rfl
  obtain ⟨pool, hreach, -, hshared, hserved⟩ :=
    Service.session_reachable_from hstarts hanswers hinit rfl hsession
  refine ⟨pool, hreach, ?_⟩
  rw [hshared, hserved]
  exact hholds

/-- A drift delivered once and the same drift delivered twice. -/
theorem redelivery_converges_twice : ∃ pool pool', connectedService.Reachable redelivering pool ∧
    connectedService.Reachable redelivering pool' ∧ pool.finished.length = 1 ∧
    pool'.finished.length = 2 ∧ ∃ snapshot snapshot',
      pool.shared.store.getCase "DR-01234567" = .ok snapshot ∧
      pool'.shared.store.getCase "DR-01234567" = .ok snapshot' ∧ snapshot.kept = snapshot'.kept := by
  have hdone : ∀ {world : World}, (world.store.snapshot? "DR-01234567").any (fun snapshot =>
      snapshot.state.ingestResumable = false) = true → world.Done "DR-01234567" := by
    intro world h
    obtain ⟨snapshot, hsnapshot, hresumable⟩ := (Option.any_eq_true _ _).1 h
    exact .inr ⟨snapshot, hsnapshot, of_decide_eq_true hresumable⟩
  have honce : (connectedService.session [openingVisit] 0 {}).any (fun outcome =>
      outcome.1.length = 1 ∧ (outcome.2.store.snapshot? "DR-01234567").any fun snapshot =>
        snapshot.state.ingestResumable = false) = true := by decide +kernel
  have htwice : (connectedService.session [openingVisit, openingVisit] 0 {}).any (fun outcome =>
      outcome.1.length = 2 ∧ (outcome.2.store.snapshot? "DR-01234567").any fun snapshot =>
        snapshot.state.ingestResumable = false) = true := by decide +kernel
  obtain ⟨pool, hreach, hpool⟩ := session_redelivering (by simp) honce
  obtain ⟨pool', hreach', hpool'⟩ := session_redelivering (by simp) htwice
  obtain ⟨hlength, hended⟩ := of_decide_eq_true hpool
  obtain ⟨hlength', hended'⟩ := of_decide_eq_true hpool'
  have hid : connectedService.firstCaseId canonicalDrift = "DR-01234567" := by decide +kernel
  have hconverges := (redelivery_converges redelivers_redelivering redelivers_redelivering hreach
    hreach').2.2
  rw [hid] at hconverges
  rw [served, List.length_map] at hlength hlength'
  exact ⟨pool, pool', hreach, hreach', hlength, hlength', hconverges (hdone hended) (hdone hended')⟩

end

end DataRescue
