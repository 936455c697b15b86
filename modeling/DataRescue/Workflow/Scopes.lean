import DataRescue.Api.StoreRuns
import DataRescue.Workflow.Correctness
import DataRescue.Workflow.Execution

/-!
# Resets and operations

A reset never splits a case. Every effect of a thread belongs to one reset scope, since its calls are
made while it holds the worker lock (`Scoped`); so a visible case shows all of the operation that
created it (`reset_never_splits`).
-/

namespace DataRescue

open Python Concurrency

/-- An operation of a critical section that resets nothing. -/
def Op.working : Op → Bool
  | .store (.append _ _ body _ _) => decide (body.eventType ≠ .systemReset)
  | .store (.reset _) => false
  | .memory .acquire | .memory .release => false
  | _ => true

/-- Whether the process is asked for the cases it owns. -/
def Op.queries : Op → Bool
  | .memory (.owned _) => true
  | _ => false

/-- A working operation that does not ask for the cases of the process. -/
def Op.plain (op : Op) : Bool := op.working && !op.queries

/-- The effects of a thread belong to the current scope. -/
def World.Mine (world : World) (actor : Actor Call) : Prop :=
  ∀ effect ∈ world.history, effect.actor.tid = actor.tid → effect.scope = world.store.currentScope

/-- An effect that appended an event to a case. -/
def Effect.Wrote (effect : Effect) (caseId : String) (event : CaseEvent) : Prop :=
  ∃ actor scope state body dedupKey eventId,
    effect = ⟨actor, scope, .store (.append caseId state body dedupKey eventId), .ok event⟩

/-- The effects of every thread belong to one scope, and what they wrote is visible in it. -/
structure Scoped (world : World) : Prop where
  bounded : ∀ effect ∈ world.history, effect.scope ≤ world.store.currentScope
  single : ∀ effect ∈ world.history, ∀ other ∈ world.history,
    effect.actor.tid = other.actor.tid → effect.scope = other.scope
  written : ∀ effect ∈ world.history, ∀ caseId event, effect.Wrote caseId event →
    ∃ row ∈ world.store.rows, row.event = event ∧ row.caseId = caseId ∧
      effect.scope < row.sequence ∧
      (effect.scope < world.store.currentScope → row.sequence ≤ world.store.currentScope)

section

variable {service : Service} {environment : Environment} {actor : Actor Call}
  {world world' : World} {caseId : String} {event : SchemaChangeEvent}

/-! ### The footprint of an ingest under the lock -/

theorem Op.DuringAdvance.plain {op : Op} (h : op.DuringAdvance caseId) : op.plain = true := by
  rcases h with h | ⟨_, _, rfl⟩ | ⟨_, rfl⟩
  · cases op with
    | store op =>
      cases op with
      | append id state body dedupKey eventId =>
        obtain ⟨-, -, -, htype⟩ := h
        have hother : body.eventType ≠ .systemReset := by
          intro hreset
          rw [hreset] at htype
          cases htype
        simpa [Op.plain, Op.working, Op.queries] using hother
      | getCase id => rfl
      | _ => cases h
    | memory op => cases h
    | adapter op => rfl
  · rfl
  · rfl

theorem Op.DuringVerification.working {op : Op} (h : op.DuringVerification caseId) :
    op.working = true := by
  cases op with
  | store op =>
    cases op with
    | append id state body dedupKey eventId =>
      obtain ⟨-, -, -, htype⟩ := h
      refine decide_eq_true fun hreset => ?_
      rw [hreset] at htype
      cases htype
    | getCase id => rfl
    | _ => cases h
  | memory op => cases h
  | adapter op => rfl

theorem respond_plain {deduplicated : Bool} :
    (Service.respond caseId deduplicated).Uses fun op => op.plain = true :=
  .bind (uses_store rfl) fun _ => uses_pure

theorem advanceSafelyLocked_plain :
    (service.advanceSafelyLocked caseId event).Uses fun op => op.plain = true := by
  have hmemory : ∀ op : MemoryOp, (Op.memory op).plain = true →
      (Flow.memory op).Uses fun op => op.plain = true :=
    fun op h => .call h fun answer => .done answer
  unfold Service.advanceSafelyLocked
  refine .bind (hmemory _ rfl) fun _ => .tryFinally (uses_exceptException ?_ fun error => ?_)
    fun result => hmemory _ rfl
  · exact advance_uses.mono fun _ h => h.plain
  · exact recordFailure_uses.mono fun _ h => Op.DuringAdvance.plain (.inl h)

theorem checkEventId_plain {dedupKey : String} :
    (Service.checkEventId event dedupKey caseId).Uses fun op => op.plain = true :=
  uses_checkEventId fun _ _ _ => rfl

theorem availableCaseId_plain {dedupKey : String} :
    (Service.availableCaseId dedupKey).Uses fun op => op.plain = true :=
  uses_availableCaseId rfl fun _ => rfl

theorem detectionLoop_plain {dedupKey : String} (remaining : Nat) (caseId : String) :
    (service.detectionLoop event dedupKey remaining caseId).Uses fun op => op.plain = true := by
  induction remaining generalizing caseId with
  | zero => exact .bind advanceSafelyLocked_plain fun _ => respond_plain
  | succ remaining ih =>
    unfold Service.detectionLoop
    refine .bind checkEventId_plain fun duplicate => ?_
    cases duplicate with
    | some duplicateCase => exact respond_plain
    | none =>
      have hdetects : Op.plain (.store (.append caseId .detected (detectionPayload event caseId)
          (some dedupKey) event.eventId)) = true := rfl
      refine .bind (.attempt (uses_store hdetects)) fun written => ?_
      split
      · exact .bind advanceSafelyLocked_plain fun _ => respond_plain
      · exact respond_plain
      · split_ifs
        · exact uses_throw
        · exact .bind availableCaseId_plain fun caseId => ih caseId
      · exact uses_throw

theorem createCase_plain {dedupKey : String} :
    (service.createCase event dedupKey).Uses fun op => op.plain = true :=
  .bind availableCaseId_plain fun caseId => detectionLoop_plain 8 caseId

theorem deduplicatedResponse_plain {dedupKey : String} :
    (Service.deduplicatedResponse event dedupKey caseId).Uses fun op => op.plain = true :=
  uses_deduplicatedResponse (fun _ _ _ => rfl) rfl

theorem resume_plain {deduplicated : Bool} :
    (do
      service.advanceSafelyLocked caseId event
      Service.respond caseId deduplicated : Flow SchemaChangeResponse).Uses
        fun op => op.plain = true :=
  .bind advanceSafelyLocked_plain fun _ => respond_plain

theorem Op.working_of_plain {op : Op} (h : op.plain = true) : op.working = true :=
  (Bool.and_eq_true_iff.1 h).1

theorem ingestLocked_working {dedupKey : String} :
    (service.ingestLocked event dedupKey).Uses fun op => op.working = true := by
  unfold Service.ingestLocked
  refine .bind (uses_store rfl) fun existing => ?_
  cases existing with
  | none => exact createCase_plain.mono fun _ h => Op.working_of_plain h
  | some existing =>
    refine .bind (deduplicatedResponse_plain.mono fun _ h => Op.working_of_plain h)
      fun duplicate => ?_
    cases duplicate with
    | none => exact createCase_plain.mono fun _ h => Op.working_of_plain h
    | some duplicate =>
      dsimp only
      split_ifs
      · refine .bind (.call rfl fun answer => .done answer) fun owned => ?_
        split_ifs
        · exact (resume_plain.mono fun _ h => Op.working_of_plain h)
        · exact respond_plain.mono fun _ h => Op.working_of_plain h
      · exact respond_plain.mono fun _ h => Op.working_of_plain h

/-! ### One step -/

theorem Store.Extends.scope_cases {store store' : Store} {row : Row}
    (h : Store.Extends store row store') :
    store'.currentScope = store.currentScope ∨
      (store.currentScope ≤ store'.currentScope ∧
        ∀ other ∈ store'.rows, other.sequence ≤ store'.currentScope) := by
  by_cases htype : row.eventType = .systemReset
  · refine .inr ?_
    rw [h.currentScope_reset htype]
    refine ⟨Nat.le_of_lt h.currentScope_lt, fun other hother => ?_⟩
    have hbound := (Store.sequence_bounds hother).2
    rw [h.rows, List.length_append, List.length_singleton] at hbound
    have hsequence := h.sequence
    omega
  · exact .inl (h.currentScope htype)

theorem exec_scope {op : Op} {answer : Except Exn op.Reply}
    (h : op.exec environment actor world answer world') :
    world'.store.currentScope = world.store.currentScope ∨
      (world.store.currentScope ≤ world'.store.currentScope ∧
        ∀ row ∈ world'.store.rows, row.sequence ≤ world'.store.currentScope) := by
  by_cases hop : ∃ caseId state body dedupKey eventId,
      op = .store (.append caseId state body dedupKey eventId)
  · obtain ⟨caseId, state, body, dedupKey, eventId, rfl⟩ := hop
    obtain ⟨-, ⟨_, _, -, -, hextends, -⟩ | ⟨_, _, _, -, -, -, hstore⟩ | ⟨-, -, hstore⟩⟩ :=
      exec_append h
    · exact hextends.scope_cases
    · exact .inl (by rw [hstore])
    · exact .inl (by rw [hstore])
  · rcases exec_other h (by simpa using hop) with hstore | ⟨_, _, _, -, -, hextends⟩
    · exact .inl (by rw [hstore])
    · exact hextends.scope_cases

theorem exec_working {op : Op} {answer : Except Exn op.Reply} (hop : op.working = true)
    (hheld : world.HeldBy actor) (h : op.exec environment actor world answer world') :
    world'.HeldBy actor ∧ world'.store.currentScope = world.store.currentScope := by
  cases op with
  | store op =>
    have hmemory : world'.memory = world.memory := by
      rcases h with ⟨_, _, -, -, rfl⟩ | ⟨-, -, rfl⟩ <;> rfl
    refine ⟨by rw [World.HeldBy, hmemory]; exact hheld, ?_⟩
    by_cases happend : ∃ caseId state body dedupKey eventId,
        op = .append caseId state body dedupKey eventId
    · obtain ⟨caseId, state, body, dedupKey, eventId, rfl⟩ := happend
      obtain ⟨-, ⟨_, _, -, -, hextends, -⟩ | ⟨_, _, _, -, -, -, hstore⟩ | ⟨-, -, hstore⟩⟩ :=
        exec_append h
      · exact hextends.currentScope (of_decide_eq_true hop)
      · rw [hstore]
      · rw [hstore]
    · rcases exec_other h (by simpa using happend) with hstore | ⟨_, _, reason, -, hreset, -⟩
      · rw [hstore]
      · obtain rfl := Op.store.inj hreset
        cases hop
  | memory op =>
    obtain ⟨reply, memory, rfl, hrun, rfl⟩ := h
    refine ⟨?_, rfl⟩
    by_cases hprocess : actor.call.process = 0
    · rw [hprocess] at hrun ⊢
      rw [World.HeldBy, World.withMemory_self]
      cases op with
      | acquire => cases hop
      | release => cases hop
      | owned id =>
        obtain ⟨-, rfl⟩ := hrun
        exact hheld
      | activate id =>
        obtain rfl := hrun
        exact hheld
      | deactivate id completed =>
        obtain rfl := hrun
        exact hheld
    · rw [World.HeldBy, World.withMemory]
      dsimp only
      rw [Function.update_of_ne (Ne.symm hprocess)]
      exact hheld
  | adapter op =>
    obtain ⟨-, rfl⟩ := h
    exact ⟨hheld, rfl⟩

theorem Effect.Wrote.answered {op : Op} {answer : Except Exn op.Reply} {scope : Nat}
    {written : CaseEvent} (h : (⟨actor, scope, op, answer⟩ : Effect).Wrote caseId written) :
    ∃ state body dedupKey eventId, op = .store (.append caseId state body dedupKey eventId) ∧
      HEq answer (Except.ok written : Except Exn CaseEvent) := by
  obtain ⟨_, _, state, body, dedupKey, eventId, heq⟩ := h
  rw [Effect.mk.injEq] at heq
  exact ⟨state, body, dedupKey, eventId, heq.2.2.1, heq.2.2.2⟩

theorem Scoped.step {op : Op} {answer : Except Exn op.Reply} (h : Scoped world)
    (hexec : op.exec environment actor world answer world')
    (hmine : op.recorded = true → world.Mine actor) : Scoped world' := by
  have hgrows : world.store.currentScope ≤ world'.store.currentScope :=
    (exec_scope hexec).elim (fun heq => heq.symm.le) And.left
  have hrows := (exec_rows hexec).subset
  -- an effect of the history is old, or the recorded effect of this step
  have hhistory : ∀ effect ∈ world'.history, effect ∈ world.history ∨ world.Mine actor ∧
      effect = ⟨actor, world.store.currentScope, op, answer⟩ := by
    intro effect heffect
    rw [exec_history hexec, World.record] at heffect
    by_cases hrecorded : op.recorded = true
    · rw [if_pos hrecorded] at heffect
      exact (List.mem_append.1 heffect).imp_right
        fun hnew => ⟨hmine hrecorded, List.mem_singleton.1 hnew⟩
    · rw [if_neg hrecorded] at heffect
      exact .inl heffect
  refine ⟨fun effect heffect => ?_, fun effect heffect other hother htid => ?_,
    fun effect heffect caseId written hwrote => ?_⟩
  · rcases hhistory effect heffect with hold | ⟨-, rfl⟩
    · exact (h.bounded effect hold).trans hgrows
    · exact hgrows
  · rcases hhistory effect heffect with hold | ⟨hall, rfl⟩
    · rcases hhistory other hother with hold' | ⟨hall, rfl⟩
      · exact h.single effect hold other hold' htid
      · exact hall effect hold htid
    · rcases hhistory other hother with hold' | ⟨-, rfl⟩
      · exact (hall other hold' htid.symm).symm
      · rfl
  · rcases hhistory effect heffect with hold | ⟨-, rfl⟩
    · obtain ⟨row, hrow, hevent, hcase, hlt, hpast⟩ := h.written effect hold caseId written hwrote
      refine ⟨row, hrows hrow, hevent, hcase, hlt, fun hscope => ?_⟩
      rcases exec_scope hexec with hsame | ⟨-, hall⟩
      · rw [hsame] at hscope ⊢
        exact hpast hscope
      · exact hall row (hrows hrow)
    · obtain ⟨state, body, dedupKey, eventId, rfl, hanswer⟩ := hwrote.answered
      obtain rfl := eq_of_heq hanswer
      obtain ⟨-, ⟨fresh, now, -, -, hextends, hok⟩ | ⟨_, _, _, -, herror, -⟩ |
        ⟨-, ⟨_, herror⟩, -⟩⟩ := exec_append hexec
      · refine ⟨_, hextends.mem.2 (.inr rfl), (Except.ok.inj hok).symm, rfl,
          hextends.currentScope_lt, fun hscope => ?_⟩
        rcases hextends.scope_cases with hsame | ⟨-, hall⟩
        · rw [hsame] at hscope
          exact absurd hscope (lt_irrefl _)
        · exact hall _ (hextends.mem.2 (.inr rfl))
      · cases herror
      · cases herror

/-! ### Every run -/

/-- The scopes of the effects. -/
def scopeProof (service : Service) (environment : Environment) :
    Exclusive service environment (Ledger service environment) where
  invariant := Scoped
  licence actor _ op before _ _ := op.recorded = true → before.Mine actor
  post _ _ _ _ := True
  preserved _ _ _ _ _ _ _ _ _ hinvariant _ hexec hlicence := hinvariant.step hexec hlicence
  crash before killed after _ _ hinvariant hcrash := by
    obtain ⟨-, process, -, -, rfl⟩ := hcrash
    exact ⟨hinvariant.bounded, hinvariant.single, hinvariant.written⟩

theorem Op.unrecorded_of_passive {op : Op} (h : op.passive = true) : op.recorded = false := by
  cases op with
  | store op => cases op <;> first | rfl | cases h
  | memory op => cases op <;> first | rfl | cases h
  | adapter op => cases h

theorem scopeProof_lenient : (scopeProof service environment).Lenient := by
  intro actor path op before answer after hpassive hrecorded
  rw [Op.unrecorded_of_passive hpassive] at hrecorded
  cases hrecorded

variable {α : Type} {path : List (Performed Op Op.Reply Exn World)}

theorem wp_working {flow : Flow α}
    {post : Except Exn α → List (Performed Op Op.Reply Exn World) → World → Prop}
    (huses : flow.Uses fun op => op.working = true) (hheld : world.HeldBy actor)
    (hmine : world.Mine actor)
    (hpost : ∀ result path after, after.HeldBy actor → post result path after) :
    flow.wp ((scopeProof service environment).logic actor) post path world := by
  refine Program.wp_of_trace (fun _ _ world => world.HeldBy actor ∧ world.Mine actor) [] huses
    ⟨hheld, hmine⟩ ?_ fun _ result path after _ hafter => hpost result path after hafter.1
  rintro calls path state before op answer after hop ⟨hheld, hmine⟩ ⟨hrely, -, -⟩ hexec
  obtain rfl := hrely.frozen hheld
  obtain ⟨hheld', hscope⟩ := exec_working hop hheld hexec
  refine ⟨⟨.inr hheld, fun _ => hmine⟩, hheld', fun effect heffect htid => ?_⟩
  rw [exec_history hexec] at heffect
  rw [hscope]
  rcases mem_record heffect with hold | rfl
  · exact hmine effect hold htid
  · rfl

theorem Relies.mine_of_fresh {before : World} (hfresh : world.Fresh actor.tid)
    (hrely : Relies actor world before) : before.Mine actor := fun effect heffect htid =>
  absurd htid (hfresh.history effect (hrely.mine effect heffect htid))

theorem ingestKeyed_scoped {dedupKey : String} (hprocess : actor.call.process = 0)
    (hfresh : world.Fresh actor.tid) :
    (service.ingestKeyed event dedupKey).wp ((scopeProof service environment).logic actor)
      (fun _ _ _ => True) [] world := by
  refine wp_ingestKeyed scopeProof_lenient (fun _ hknown _ => hknown) hprocess hfresh.lock
    (fun _ _ _ _ _ => trivial) (fun _ _ _ _ _ _ _ _ _ _ _ => trivial)
    fun more before hrely _ _ _ => ?_
  have hmine : before.Mine actor := hrely.mine_of_fresh hfresh
  exact wp_working ingestLocked_working World.locked_heldBy hmine
    fun _ _ _ hheld => ⟨hheld, trivial⟩

theorem program_scoped (hprocess : actor.call.process = 0) (hfresh : world.Fresh actor.tid) :
    (service.program actor.call.command).wp ((scopeProof service environment).logic actor)
      (fun _ _ _ => True) [] world := by
  cases actor.call.command with
  | ingest event =>
    rw [Service.program]
    generalize hflow : service.ingest event = flow
    have hcases := ingest_cases service event
    rw [hflow] at hcases
    have hwp : flow.wp ((scopeProof service environment).logic actor) (fun _ _ _ => True) [] world := by
      rcases hcases with ⟨-, rfl⟩ | ⟨-, rfl⟩
      · exact ingestKeyed_scoped hprocess hfresh
      · trivial
    exact wp_answer hwp (fun _ _ _ _ => trivial) fun _ _ _ _ => trivial
  | verifyDeployment caseId request =>
    have hwp : (service.verifyDeployment caseId request).wp
        ((scopeProof service environment).logic actor) (fun _ _ _ => True) [] world := by
      unfold Service.verifyDeployment
      refine wp_withWorkerLock hprocess (fun _ op _ _ _ hop => ?_) fun before hrely _ _ _ => ?_
      · exact scopeProof_lenient _ _ _ _ _ _ (by rcases hop with rfl | rfl <;> rfl)
      have hmine : before.Mine actor := hrely.mine_of_fresh hfresh
      exact wp_working (verifyDeploymentLocked_uses.mono fun _ h => h.working)
        World.locked_heldBy hmine fun _ _ _ hheld => ⟨hheld, trivial⟩
    rw [Service.program]
    generalize service.verifyDeployment caseId request = flow at hwp ⊢
    exact wp_answer hwp (fun _ _ _ _ => trivial) fun _ _ _ _ => trivial
  | reset reason =>
    have hwp : (resetService reason).wp ((scopeProof service environment).logic actor)
        (fun _ _ _ => True) [] world := by
      refine wp_withWorkerLock hprocess (fun _ op _ _ _ hop => ?_) fun before hrely _ _ _ => ?_
      · exact scopeProof_lenient _ _ _ _ _ _ (by rcases hop with rfl | rfl <;> rfl)
      have hmine : before.Mine actor := hrely.mine_of_fresh hfresh
      refine wp_held World.locked_heldBy fun _ _ answer after hexec => ⟨fun _ => hmine, ?_, trivial⟩
      have hheld : (before.locked actor).HeldBy actor := World.locked_heldBy
      rcases hexec with ⟨_, _, -, -, rfl⟩ | ⟨-, -, rfl⟩ <;> exact hheld
    rw [Service.program]
    generalize resetService reason = flow at hwp ⊢
    exact wp_answer hwp (fun _ _ _ _ => trivial) fun _ _ _ _ => trivial

variable {pool : ServicePool}

/-- The discipline of the scopes. -/
def scopeDiscipline (service : Service) {environment : Environment} (hsingle : environment.Single) :
    Discipline (service.system environment) (Ledger service environment) :=
  (scopeProof service environment).discipline hsingle fun _ _ _ hprocess _ _ hfresh =>
    program_scoped hprocess hfresh

theorem Scoped.initial : Scoped {} := ⟨by simp, by simp, by simp⟩

theorem scope_sound (hsingle : environment.Single) (hreach : service.Reachable environment pool) :
    (scopeDiscipline service hsingle).Sound {} pool :=
  Discipline.sound Scoped.initial (fun tid => fresh_initial tid)
    (fun _ hreach => Service.Reachable.ledger hreach hsingle) hreach

theorem Service.Reachable.scoped (hreach : service.Reachable environment pool)
    (hsingle : environment.Single) : Scoped pool.shared := (scope_sound hsingle hreach).invariant

theorem mem_log_of_wrote {effect : Effect} {written : CaseEvent} (h : Scoped world)
    (heffect : effect ∈ world.history) (hwrote : effect.Wrote caseId written) :
    written ∈ world.store.log caseId ↔ effect.scope = world.store.currentScope := by
  obtain ⟨row, hrow, hevent, hcase, hlt, hpast⟩ := h.written effect heffect caseId written hwrote
  constructor
  · intro hmem
    obtain ⟨other, -, -, hvisible, hother⟩ := Store.mem_log.1 hmem
    have hsequence : other.sequence = row.sequence :=
      congrArg CaseEvent.sequence (hother.trans hevent.symm)
    rcases Nat.lt_or_ge effect.scope world.store.currentScope with hold | hnew
    · have hpast := hpast hold
      omega
    · exact Nat.le_antisymm (h.bounded effect heffect) hnew
  · intro hscope
    exact Store.mem_log.2 ⟨row, hrow, hcase, hscope ▸ hlt, hevent⟩

/-- A reset never splits a case. A visible case starts with its only detection and holds every
event its creating operation appended to it, so that cases can be read and listed. -/
theorem reset_never_splits (hsingle : environment.Single)
    (hreach : service.Reachable environment pool) :
    (∀ caseId first rest, pool.shared.store.log caseId = first :: rest →
      first.eventType = .schemaChangeDetected ∧
      (∀ later ∈ rest, later.eventType ≠ .schemaChangeDetected) ∧
      ∀ creating ∈ pool.shared.history, creating.Wrote caseId first →
        ∀ effect ∈ pool.shared.history, effect.actor.tid = creating.actor.tid →
          ∀ written, effect.Wrote caseId written → written ∈ pool.shared.store.log caseId) ∧
    (∀ caseId, (∃ snapshot, pool.shared.store.getCase caseId = .ok snapshot) ∨
      pool.shared.store.getCase caseId = .error (.caseNotFound caseId)) ∧
    ∃ cases, pool.shared.store.listCases = .ok cases := by
  have hledger := hreach.ledger hsingle
  have hscoped := hreach.scoped hsingle
  have hread : ∀ caseId, pool.shared.store.log caseId ≠ [] →
      ∃ snapshot, pool.shared.store.getCase caseId = .ok snapshot := by
    intro caseId hlog
    obtain ⟨snapshot, hchain⟩ := hledger.cases caseId hlog
    exact ⟨snapshot, Store.getCase_ok.2 hchain.project⟩
  refine ⟨fun caseId first rest hlog => ?_, fun caseId => ?_, ?_⟩
  · obtain ⟨snapshot, hchain⟩ := hledger.cases caseId (by simp [hlog])
    obtain ⟨first', rest', hrooted, hfirst, hrest⟩ := hchain.rooted
    rw [hlog] at hrooted
    obtain ⟨rfl, rfl⟩ := List.cons.inj hrooted
    refine ⟨hfirst, hrest, fun creating hcreating hcreates effect heffect htid written hwrote => ?_⟩
    have hvisible : first ∈ pool.shared.store.log caseId := by simp [hlog]
    rw [mem_log_of_wrote hscoped hcreating hcreates] at hvisible
    rw [mem_log_of_wrote hscoped heffect hwrote, ← hvisible]
    exact hscoped.single effect heffect creating hcreating htid
  · by_cases hlog : pool.shared.store.log caseId = []
    · exact .inr (Store.getCase_caseNotFound.2 ⟨hlog, rfl⟩)
    · exact .inl (hread caseId hlog)
  · have hall : ∀ caseIds : List String, (∀ caseId ∈ caseIds, pool.shared.store.log caseId ≠ []) →
        ∃ snapshots, List.Forall₂ (fun caseId snapshot =>
          pool.shared.store.getCase caseId = .ok snapshot) caseIds snapshots := by
      intro caseIds
      induction caseIds with
      | nil => exact fun _ => ⟨[], .nil⟩
      | cons caseId caseIds ih =>
        intro hlogs
        obtain ⟨snapshot, hsnapshot⟩ := hread caseId (hlogs caseId List.mem_cons_self)
        obtain ⟨snapshots, hsnapshots⟩ := ih fun other hother =>
          hlogs other (List.mem_cons_of_mem _ hother)
        exact ⟨snapshot :: snapshots, .cons hsnapshot hsnapshots⟩
    obtain ⟨snapshots, hsnapshots⟩ := hall pool.shared.store.activeCaseIds
      fun caseId hcase => (Store.mem_activeCaseIds.1 hcase).2
    exact ⟨_, Store.listCases_ok.2 ⟨snapshots, hsnapshots, rfl⟩⟩

/-- A case that was created again after a reset. -/
theorem reset_never_splits_recreated : ∃ pool, connectedService.Reachable {} pool ∧
    (∃ first rest, pool.shared.store.log "DR-01234567" = first :: rest ∧ rest ≠ [] ∧
      first.eventType = .schemaChangeDetected ∧
      (∀ later ∈ rest, later.eventType ≠ .schemaChangeDetected) ∧
      ∀ creating ∈ pool.shared.history, creating.Wrote "DR-01234567" first →
        ∀ effect ∈ pool.shared.history, effect.actor.tid = creating.actor.tid →
          ∀ written, effect.Wrote "DR-01234567" written →
            written ∈ pool.shared.store.log "DR-01234567") ∧
    ∃ cases, pool.shared.store.listCases = .ok cases := by
  have hsession : (connectedService.session
      [openingVisit, ⟨.reset "demo", workingAnswers⟩, openingVisit] 0 {}).any (fun outcome =>
        (outcome.2.store.log "DR-01234567").map CaseEvent.eventType = openedTypes) = true := by
    decide +kernel
  obtain ⟨pool, hreach, -, htypes⟩ := Service.session_reaches permits_default hsession
  have htypes := of_decide_eq_true htypes
  obtain ⟨hcases, -, hlist⟩ := reset_never_splits (fun _ h => h) hreach
  cases hlog : pool.shared.store.log "DR-01234567" with
  | nil =>
    rw [hlog] at htypes
    cases htypes
  | cons first rest =>
    obtain ⟨hfirst, hrest, hwritten⟩ := hcases _ first rest hlog
    rw [hlog] at htypes
    refine ⟨pool, hreach, ⟨first, rest, hlog, ?_, hfirst, hrest, hwritten⟩, hlist⟩
    rintro rfl
    have hlength := congrArg List.length htypes
    cases hlength

end

end DataRescue
