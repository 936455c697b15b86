import DataRescue.Workflow.Ledger
import DataRescue.Workflow.Rules

/-!
# Rules for the stages of an advance

The proof rules a running advance needs, each for one operation under the worker lock: reading the
case, asking an adapter, appending an allowed event. A stage either returns with the case at some
snapshot, or raises for a `Cause` the ledger accepts.
-/

namespace DataRescue

open Python Concurrency

/-- The ledger as a proof under the worker lock. -/
def ledgerProof (service : Service) (environment : Environment) :
    Exclusive service environment fun _ => True where
  invariant := Ledger service environment
  licence actor _ op before answer _ := Licence service environment actor op before answer
  post _ _ _ _ := True
  preserved _ _ _ _ _ _ hstarts _ _ hinvariant _ hexec hlicence :=
    hinvariant.step hstarts hexec hlicence
  crash before killed after _ _ hinvariant hcrash := by
    obtain ⟨-, process, -, -, rfl⟩ := hcrash
    exact ⟨hinvariant.coherent, hinvariant.keyed, hinvariant.cases, hinvariant.answers⟩

theorem Ledger.locked {service : Service} {environment : Environment} {world : World}
    {actor : Actor Call} (h : Ledger service environment world) :
    Ledger service environment (world.locked actor) := ⟨h.coherent, h.keyed, h.cases, h.answers⟩

/-- A transaction failed for reasons of its own. -/
def Environment.Failed (environment : Environment) (error : Exn) : Prop :=
  environment.storeFails ∧ ∃ typeName, error = .external .other typeName

/-- The thread holds the lock, and the case, which is that of its call, has this snapshot. -/
structure Advancing (service : Service) (actor : Actor Call) (caseId : String) (current : CaseSnapshot)
    (world : World) : Prop where
  held : world.HeldBy actor
  snapshot : world.store.snapshot? caseId = some current
  concerns : Concerns service actor current

section

variable {service : Service} {environment : Environment} {actor : Actor Call}
  {world : World} {caseId : String} {event : SchemaChangeEvent} {snapshot : CaseSnapshot}
  {path : List (Performed Op Op.Reply Exn World)} {α β : Type}

/-! ### Operations on a case -/

theorem wp_adapter {op : AdapterOp}
    {post : Except Exn op.Reply → List (Performed Op Op.Reply Exn World) → World → Prop}
    (hcase : Advancing service actor caseId snapshot world)
    (h : ∀ answer after, Advancing service actor caseId snapshot after → after.store = world.store →
      after.history = world.history ++ [⟨actor, world.store.currentScope, .adapter op, answer⟩] →
      post answer (path ++ [⟨.adapter op, answer, world⟩]) after) :
    (Flow.adapter op).wp ((ledgerProof service environment).logic actor) post path world := by
  refine wp_held hcase.held fun _ _ answer after hexec => ⟨trivial, ?_⟩
  obtain ⟨-, rfl⟩ := hexec
  exact h answer _ ⟨hcase.held, hcase.snapshot, hcase.concerns⟩ rfl rfl

theorem Ledger.accepted (h : Ledger service environment world)
    (hsnapshot : world.store.snapshot? caseId = some snapshot) {body : EventBody}
    {state : CaseState}
    (hallowed : Allowed service environment world.history actor caseId snapshot body state)
    {fresh : String} (hfresh : world.store.FreshId fresh) :
    world.store.Accepted caseId state body none (Store.chosenEventId none fresh) := by
  have hchain := h.getCase hsnapshot
  have hcurrent : world.store.currentState caseId world.store.currentScope = some snapshot.state := by
    rw [Store.currentState_eq, hchain.lastState]
  exact
    { eventId := fun row hrow _ => hfresh.2 row hrow
      dedupKey := nofun
      detection := fun hbody => absurd hbody hallowed.eventType.1
      transition := by
        rw [hcurrent]
        exact hallowed.transition hchain.consistent }

theorem wp_append {body : EventBody} {state : CaseState}
    {post : Except Exn CaseEvent → List (Performed Op Op.Reply Exn World) → World → Prop}
    (hcase : Advancing service actor caseId snapshot world)
    (hallowed : Allowed service environment world.history actor caseId snapshot body state)
    (hfailed : ∀ error after, environment.Failed error → Advancing service actor caseId snapshot after →
      after.store = world.store → world.history <+: after.history →
      post (.error error)
        (path ++ [⟨.store (.append caseId state body none none), .error error, world⟩]) after)
    (h : ∀ recorded after, recorded.body = body → recorded.state = some state →
      Advancing service actor caseId (snapshot.apply recorded) after →
      after.store.currentScope = world.store.currentScope → world.history <+: after.history →
      post (.ok recorded)
        (path ++ [⟨.store (.append caseId state body none none), .ok recorded, world⟩]) after) :
    (Flow.store (.append caseId state body none none)).wp
      ((ledgerProof service environment).logic actor) post path world := by
  refine wp_held hcase.held fun _ hledger answer after hexec => ⟨?_, ?_⟩
  · cases answer with
    | error error => trivial
    | ok recorded => exact .inr ⟨rfl, rfl, snapshot, hcase.snapshot, hcase.concerns, hallowed⟩
  have hgrows := exec_history_grows hexec
  obtain ⟨hmemory, hwritten | ⟨fresh, now, error, hfresh, rfl, happend, -⟩ | hfails⟩ :=
    exec_append hexec
  · obtain ⟨fresh, now, -, -, hextends, rfl⟩ := hwritten
    have hheld : after.HeldBy actor := by
      rw [World.HeldBy, hmemory]
      exact hcase.held
    refine h _ after rfl rfl ⟨hheld, ?_, hcase.concerns.apply _⟩
      (hextends.currentScope hallowed.eventType.2) hgrows
    rw [Store.snapshot?, hextends.log hallowed.eventType.2]
    simp only [Store.appended, ↓reduceIte]
    exact projectCase_snoc hcase.snapshot _
  · obtain ⟨written, hok⟩ := (hledger.accepted hcase.snapshot hallowed hfresh).append now
    rw [hok] at happend
    cases happend
  · obtain ⟨hfails, ⟨typeName, rfl⟩, hstore⟩ := hfails
    refine hfailed _ after ⟨hfails, typeName, rfl⟩
      ⟨?_, hstore ▸ hcase.snapshot, hcase.concerns⟩ hstore hgrows
    rw [World.HeldBy, hmemory]
    exact hcase.held

/-! ### Stages -/

/-- What a stage ensures: `returns` of its value, or a cause of its exception. -/
def StagePost (service : Service) (environment : Environment) (actor : Actor Call)
    (caseId : String) (event : SchemaChangeEvent)
    (returns : α → CaseSnapshot → World → Prop) :
    Except Exn α → List (Performed Op Op.Reply Exn World) → World → Prop
  | .ok value, _, world => ∃ snapshot, Advancing service actor caseId snapshot world ∧
      returns value snapshot world
  | .error error, _, world => ∃ snapshot, Advancing service actor caseId snapshot world ∧
      Cause service environment world.history caseId snapshot actor event error

/-- A stage is correct from a world. -/
def Stage (service : Service) (environment : Environment) (actor : Actor Call) (caseId : String)
    (event : SchemaChangeEvent) (flow : Flow α) (returns : α → CaseSnapshot → World → Prop)
    (world : World) : Prop :=
  ∀ path, flow.wp ((ledgerProof service environment).logic actor)
    (StagePost service environment actor caseId event returns) path world

variable {flow : Flow α} {returns : α → CaseSnapshot → World → Prop}
  {returns' : β → CaseSnapshot → World → Prop}

theorem Stage.pure {value : α} (hcase : Advancing service actor caseId snapshot world)
    (h : returns value snapshot world) :
    Stage service environment actor caseId event (pure value) returns world :=
  fun _ => ⟨snapshot, hcase, h⟩

theorem Stage.throw {error : Exn} (hcase : Advancing service actor caseId snapshot world)
    (h : Cause service environment world.history caseId snapshot actor event error) :
    Stage service environment actor caseId event (Program.throw error) returns world :=
  fun _ => ⟨snapshot, hcase, h⟩

theorem Stage.bind {next : α → Flow β}
    (h : Stage service environment actor caseId event flow returns world)
    (hnext : ∀ value snapshot world, Advancing service actor caseId snapshot world →
      returns value snapshot world →
      Stage service environment actor caseId event (next value) returns' world) :
    Stage service environment actor caseId event (flow >>= next) returns' world := by
  intro path
  rw [Program.wp_bind]
  refine Program.wp_mono (h path) ?_
  rintro (error | value) path world hpost
  · exact hpost
  · obtain ⟨snapshot, hcase, hreturns⟩ := hpost
    exact hnext value snapshot world hcase hreturns path

theorem Stage.mono {returns' : α → CaseSnapshot → World → Prop}
    (h : Stage service environment actor caseId event flow returns world)
    (himp : ∀ value snapshot world, Advancing service actor caseId snapshot world →
      returns value snapshot world → returns' value snapshot world) :
    Stage service environment actor caseId event flow returns' world := by
  intro path
  refine Program.wp_mono (h path) ?_
  rintro (error | value) path world hpost
  · exact hpost
  · obtain ⟨snapshot, hcase, hreturns⟩ := hpost
    exact ⟨snapshot, hcase, himp value snapshot world hcase hreturns⟩

theorem Stage.getCase (hcase : Advancing service actor caseId snapshot world) :
    Stage service environment actor caseId event (Flow.store (.getCase caseId))
      (fun value current after => snapshot = value ∧ snapshot = current ∧ world = after ∧
        Consistent snapshot) world := by
  intro path
  refine wp_held hcase.held fun _ hledger answer after hexec => ⟨trivial, ?_⟩
  rcases hexec with ⟨fresh, now, -, rfl, rfl⟩ | ⟨hfails, ⟨typeName, rfl⟩, rfl⟩
  · have hget : world.store.getCase caseId = .ok snapshot := Store.getCase_ok.2 hcase.snapshot
    simp only [StoreOp.run, hget]
    exact ⟨snapshot, hcase, rfl, rfl, rfl, (hledger.getCase hcase.snapshot).consistent⟩
  · exact ⟨snapshot, hcase, .inl hfails⟩

theorem Stage.adapter {op : AdapterOp} (hcase : Advancing service actor caseId snapshot world) :
    Stage service environment actor caseId event (Flow.adapter op)
      (fun reply current after => snapshot = current ∧
        Answered after.history actor op (.ok reply) ∧ world.history <+: after.history) world := by
  intro path
  refine wp_adapter hcase fun answer after hcase _ hhistory => ?_
  have hanswered : Answered after.history actor op answer :=
    ⟨world.store.currentScope, by simp [hhistory]⟩
  cases answer with
  | error error => exact ⟨snapshot, hcase, .inr (.inl ⟨op, hanswered⟩)⟩
  | ok reply => exact ⟨snapshot, hcase, rfl, hanswered, hhistory ▸ List.prefix_append ..⟩

theorem Stage.append {body : EventBody} {state : CaseState}
    (hcase : Advancing service actor caseId snapshot world)
    (hallowed : Allowed service environment world.history actor caseId snapshot body state) :
    Stage service environment actor caseId event
      (Flow.store (.append caseId state body none none))
      (fun recorded current after => recorded.body = body ∧ recorded.state = some state ∧
        snapshot.apply recorded = current ∧ world.history <+: after.history) world :=
  fun _ => wp_append hcase hallowed
    (fun _ _ hfailed hcase _ _ => ⟨snapshot, hcase, .inl hfailed.1⟩)
    fun _ _ hbody hstate hcase _ hgrows => ⟨_, hcase, hbody, hstate, rfl, hgrows⟩

end

end DataRescue
