import DataRescue.Concurrency.Budget
import DataRescue.Workflow.Redelivery
import DataRescue.Workflow.Scopes

/-!
# Calls that are made once

Raising an incident, drafting a pull request and resolving an incident must not be repeated for a case.
A resolution follows the record of a deployment, which no case gets twice; the other two are made while
the process owns the case, and a case that is owned is never advanced again (`effects_once`).
-/

namespace DataRescue

open Python Concurrency

/-- The calls that must not be repeated. -/
inductive Deed where
  | incident
  | draft
  | resolution
  deriving DecidableEq

def Deed.calls : Deed → Op → Bool
  | .incident => Op.raises
  | .draft => Op.drafts
  | .resolution => Op.resolves

/-- The case a call is made for; a resolution names no case, so it is that of the verification. -/
def Op.concerns (op : Op) (command : Command) (caseId : String) : Bool :=
  match op, command with
  | .adapter (.raiseIncident _ id _), _ => id = caseId
  | .adapter (.createDraft id _), _ => id = caseId
  | .adapter (.resolveIncident _), .verifyDeployment id _ => id = caseId
  | _, _ => false

/-- A call of the kind, for the case and in the reset scope. -/
def Effect.does (deed : Deed) (scope : Nat) (caseId : String) (effect : Effect) : Bool :=
  deed.calls effect.op && effect.op.concerns effect.actor.call.command caseId && effect.scope = scope

/-- How often such a call was made. -/
def World.times (world : World) (deed : Deed) (scope : Nat) (caseId : String) : Nat :=
  world.history.countP (Effect.does deed scope caseId)

/-- No process is killed, no transaction fails for reasons of its own, and what the adapters raise is
an `Exception`. -/
structure Environment.Calm (environment : Environment) : Prop where
  crashes : ¬environment.crashes
  storeFails : ¬environment.storeFails
  raises : ∀ op error, environment.answers op (.error error) → error.isException = true

/-- The states from which no case opens a pull request again. -/
def CaseState.beyondReview : CaseState → Bool
  | .deployed | .postDeployVerified | .resolved | .contained | .failed => true
  | _ => false

theorem Transition.beyondReview {current target : CaseState} (h : Transition (some current) target)
    (hbeyond : current.beyondReview = true) : target.beyondReview = true := by
  rcases h with rfl | h
  · exact hbeyond
  · cases current <;> cases target <;>
      first
        | rfl
        | exact absurd hbeyond (by decide)
        | exact absurd h (by decide)

/-- The case was deployed or closed. -/
def Store.BeyondReview (store : Store) (caseId : String) : Prop :=
  ∃ state, store.currentState caseId store.currentScope = some state ∧ state.beyondReview = true

section

variable {service : Service} {environment : Environment} {actor : Actor Call}
  {world world' : World} {caseId : String} {event : SchemaChangeEvent} {snapshot : CaseSnapshot}
  {deed : Deed} {scope : Nat}

/-! ### Exceptions of an advance -/

theorem raises_store {op : StoreOp} {p : Exn → Prop} : (Flow.store op).Raises p :=
  Program.raises_perform

theorem raises_adapter {op : AdapterOp} {p : Exn → Prop} : (Flow.adapter op).Raises p :=
  Program.raises_perform

/-- The exception is one that `except Exception` catches. -/
def Exn.Caught (error : Exn) : Prop := error.isException = true

theorem contain_raises {assetUrn : String} {reasons : List String} :
    (Service.contain caseId assetUrn reasons).Raises Exn.Caught := by
  unfold Service.contain
  exact .bind raises_adapter fun _ => .bind raises_store fun _ => Program.raises_pure

theorem connectedIntegrationReady_raises {integration : IntegrationResult} {label : String} :
    (service.connectedIntegrationReady caseId integration label).Raises Exn.Caught := by
  unfold Service.connectedIntegrationReady
  split_ifs
  · exact Program.raises_pure
  · exact .bind raises_store fun _ => Program.raises_pure

theorem contextStage_raises : (service.contextStage caseId event).Raises Exn.Caught := by
  unfold Service.contextStage Service.context
  refine .bind raises_store fun case => ?_
  split
  · refine .bind (.bind raises_adapter fun _ => Program.raises_pure) fun context => ?_
    split_ifs
    · exact .bind contain_raises fun _ => Program.raises_pure
    · exact .bind raises_store fun _ => Program.raises_pure
  · split_ifs
    · exact .bind contain_raises fun _ => Program.raises_pure
    · exact Program.raises_pure

theorem proposalStage_raises {context : ContextBundle} :
    (service.proposalStage caseId event context).Raises Exn.Caught := by
  unfold Service.proposalStage
  refine .bind raises_store fun case => ?_
  split
  · exact .bind connectedIntegrationReady_raises fun _ => Program.raises_pure
  · refine .bind raises_adapter fun generated =>
      .bind connectedIntegrationReady_raises fun ready => ?_
    split_ifs
    · exact Program.raises_pure
    · exact .bind contain_raises fun _ => Program.raises_pure
    · exact .bind raises_store fun _ => Program.raises_pure

theorem validationStage_raises {proposals : List CandidateProposal} :
    (service.validationStage caseId proposals).Raises Exn.Caught := by
  unfold Service.validationStage
  split_ifs
  · refine .bind raises_store fun case => ?_
    split_ifs
    · exact .bind raises_store fun _ => Program.raises_pure
    · exact Program.raises_pure
  · exact Program.raises_throw rfl

theorem assessmentLoop_raises {context : ContextBundle} {proposals : List CandidateProposal}
    {known : List CandidateAssessment} {reasons : List String} :
    (service.assessmentLoop caseId context proposals known reasons).Raises Exn.Caught := by
  induction proposals generalizing known reasons with
  | nil => exact Program.raises_pure
  | cons proposal proposals ih =>
    unfold Service.assessmentLoop
    split
    · exact ih
    · refine .bind (raises_adapter.tryCatch fun error hcaught => ?_) fun execution =>
        .bind raises_store fun _ => ih
      rw [if_pos (show error.isException = true from hcaught)]
      exact Program.raises_pure

theorem patchStage_raises {proposals : List CandidateProposal}
    {eligible : List CandidateAssessment} :
    (service.patchStage caseId proposals eligible).Raises Exn.Caught := by
  unfold Service.patchStage
  refine .bind raises_store fun case => ?_
  split
  · exact Program.raises_pure
  split
  · exact Program.raises_throw rfl
  dsimp only
  split
  · exact Program.raises_throw rfl
  refine .bind raises_adapter fun existingSql => ?_
  split
  · exact Program.raises_throw rfl
  · exact .bind raises_store fun _ => Program.raises_pure

theorem writebackStage_raises {selected : CandidateAssessment} {patch : PatchArtifact} :
    (Service.writebackStage caseId event selected patch).Raises Exn.Caught := by
  unfold Service.writebackStage
  refine .bind raises_store fun case => ?_
  split
  · exact Program.raises_pure
  · exact .bind raises_adapter fun _ => .bind raises_store fun _ => Program.raises_pure

theorem pullRequestStage_raises {patch : PatchArtifact} :
    (Service.pullRequestStage caseId patch).Raises Exn.Caught := by
  unfold Service.pullRequestStage Service.recordOpened
  refine .bind raises_store fun case => ?_
  split
  · split_ifs
    · exact .bind raises_store fun _ => Program.raises_pure
    · exact Program.raises_pure
  · refine .bind raises_adapter fun pullRequest => ?_
    split_ifs
    · exact .bind raises_store fun _ => Program.raises_pure
    · exact .bind raises_store fun _ => Program.raises_pure

theorem repair_raises {context : ContextBundle} {proposals : List CandidateProposal} :
    (service.repair caseId event context proposals).Raises Exn.Caught := by
  unfold Service.repair Service.assessmentStage
  refine .bind (.bind raises_store fun case => .bind assessmentLoop_raises fun _ =>
    Program.raises_pure) fun value => ?_
  dsimp only
  split_ifs
  · exact contain_raises
  refine .bind patchStage_raises fun value => .bind writebackStage_raises fun writeback =>
    .bind connectedIntegrationReady_raises fun ready => ?_
  split_ifs
  · exact Program.raises_pure
  · exact pullRequestStage_raises

theorem incidentStage_raises {case : CaseSnapshot} :
    (Service.incidentStage caseId event case).Raises Exn.Caught := by
  unfold Service.incidentStage
  split
  · exact Program.raises_pure
  · exact .bind raises_adapter fun _ => .bind raises_store fun _ => Program.raises_pure

theorem advance_raises_caught : (service.advance caseId event).Raises Exn.Caught := by
  unfold Service.advance Service.gather
  refine .bind raises_store fun case => ?_
  split_ifs
  · exact Program.raises_pure
  refine .bind incidentStage_raises fun incident =>
    .bind connectedIntegrationReady_raises fun ready => ?_
  split_ifs
  · exact Program.raises_pure
  refine .bind contextStage_raises fun value => ?_
  split
  · exact Program.raises_pure
  refine .bind proposalStage_raises fun value => ?_
  split
  · exact Program.raises_pure
  exact .bind validationStage_raises fun _ => repair_raises

/-! ### One step -/

theorem Deed.calls_adapter {op : Op} (h : deed.calls op = true) : ∃ adapter, op = .adapter adapter := by
  cases op with
  | adapter op => exact ⟨op, rfl⟩
  | store op => cases deed <;> cases h
  | memory op => cases deed <;> cases h

theorem times_exec {op : Op} {answer : Except Exn op.Reply}
    (h : op.exec environment actor world answer world') :
    world'.times deed scope caseId = world.times deed scope caseId +
      if deed.calls op && op.concerns actor.call.command caseId && world.store.currentScope = scope
        then 1 else 0 := by
  rw [World.times, exec_history h, World.record]
  dsimp only
  by_cases hrecorded : op.recorded = true
  · rw [if_pos hrecorded, List.countP_append, List.countP_singleton]
    rfl
  · have hnot : deed.calls op = false := by
      by_contra hcalls
      obtain ⟨adapter, rfl⟩ := Deed.calls_adapter (by simpa using hcalls)
      exact hrecorded rfl
    rw [if_neg hrecorded, hnot]
    rfl

theorem times_other {op : Op} {answer : Except Exn op.Reply}
    (h : op.exec environment actor world answer world') (hop : deed.calls op = false) :
    world'.times deed scope caseId = world.times deed scope caseId := by
  rw [times_exec h, hop]
  rfl

theorem Scoped.times_future (h : Scoped world) (hscope : world.store.currentScope < scope) :
    world.times deed scope caseId = 0 := by
  refine List.countP_eq_zero.2 fun effect heffect hdoes => ?_
  have hbounded := h.bounded effect heffect
  simp only [Effect.does, Bool.and_eq_true, decide_eq_true_eq] at hdoes
  omega

theorem exec_scope_lt {op : Op} {answer : Except Exn op.Reply}
    (h : op.exec environment actor world answer world') :
    world'.store.currentScope = world.store.currentScope ∨
      world.store.currentScope < world'.store.currentScope := by
  have hextends : ∀ {row}, Store.Extends world.store row world'.store →
      world'.store.currentScope = world.store.currentScope ∨
        world.store.currentScope < world'.store.currentScope := by
    intro row hextends
    by_cases htype : row.eventType = .systemReset
    · rw [hextends.currentScope_reset htype]
      exact .inr hextends.currentScope_lt
    · exact .inl (hextends.currentScope htype)
  by_cases hop : ∃ caseId state body dedupKey eventId,
      op = .store (.append caseId state body dedupKey eventId)
  · obtain ⟨id, state, body, dedupKey, eventId, rfl⟩ := hop
    obtain ⟨-, ⟨_, _, -, -, hrow, -⟩ | ⟨_, _, _, -, -, -, hstore⟩ | ⟨-, -, hstore⟩⟩ := exec_append h
    · exact hextends hrow
    · exact .inl (by rw [hstore])
    · exact .inl (by rw [hstore])
  · rcases exec_other h (by simpa using hop) with hstore | ⟨_, _, _, -, -, hrow⟩
    · exact .inl (by rw [hstore])
    · exact hextends hrow

theorem exec_keeps {op : Op} {answer : Except Exn op.Reply}
    (h : op.exec environment actor world answer world')
    (hscope : world'.store.currentScope = world.store.currentScope) :
    (world.store.log caseId ≠ [] → world'.store.log caseId ≠ []) ∧
      (world.store.BeyondReview caseId → world'.store.BeyondReview caseId) := by
  by_cases hop : ∃ caseId state body dedupKey eventId,
      op = .store (.append caseId state body dedupKey eventId)
  · obtain ⟨id, state, body, dedupKey, eventId, rfl⟩ := hop
    obtain ⟨-, ⟨fresh, now, -, haccepted, hextends, -⟩ | ⟨_, _, _, -, -, -, hstore⟩ |
      ⟨-, -, hstore⟩⟩ := exec_append h
    · have htype : (world.store.appended fresh now id state body dedupKey eventId).eventType ≠
          .systemReset := by
        intro htype
        have hlt := hextends.currentScope_lt
        rw [← hextends.currentScope_reset htype] at hlt
        omega
      have hlog := hextends.log htype caseId
      refine ⟨fun hne => by rw [hlog]; simp [hne], ?_⟩
      rintro ⟨current, hcurrent, hbeyond⟩
      rw [Store.BeyondReview, Store.currentState_eq, hlog]
      by_cases hid : id = caseId
      · subst hid
        have htransition := haccepted.transition
        rw [hcurrent] at htransition
        exact ⟨state, by simp [Store.appended, Row.event], htransition.beyondReview hbeyond⟩
      · rw [Store.currentState_eq] at hcurrent
        exact ⟨current, by simpa [Store.appended, hid] using hcurrent, hbeyond⟩
    · rw [hstore]
      exact ⟨fun h => h, fun h => h⟩
    · rw [hstore]
      exact ⟨fun h => h, fun h => h⟩
  · rcases exec_other h (by simpa using hop) with hstore | ⟨fresh, now, reason, -, -, hextends⟩
    · rw [hstore]
      exact ⟨fun h => h, fun h => h⟩
    · have hlt := hextends.currentScope_lt
      rw [← hextends.currentScope_reset rfl, hscope] at hlt
      omega

/-- A process gives up a case only if its advance did not complete. -/
theorem exec_keeps_owned {op : Op} {answer : Except Exn op.Reply} (hprocess : actor.call.process = 0)
    (h : op.exec environment actor world answer world')
    (hop : op ≠ .memory (.deactivate caseId false)) (howned : world.Owned caseId) :
    world'.Owned caseId := by
  cases op with
  | store op =>
    have hmemory : world'.memory = world.memory := by
      rcases h with ⟨_, _, -, -, rfl⟩ | ⟨-, -, rfl⟩ <;> rfl
    rw [World.Owned, hmemory]
    exact howned
  | adapter op =>
    obtain ⟨-, rfl⟩ := h
    exact howned
  | memory op =>
    obtain ⟨reply, memory, rfl, hrun, rfl⟩ := h
    rw [hprocess] at hrun ⊢
    rw [World.Owned, World.withMemory_self]
    cases op with
    | acquire =>
      obtain ⟨-, rfl⟩ := hrun
      exact howned
    | release =>
      obtain rfl := hrun
      exact howned
    | owned id =>
      obtain ⟨-, rfl⟩ := hrun
      exact howned
    | activate id =>
      obtain rfl := hrun
      exact howned.imp_left (List.mem_append_left _)
    | deactivate id completed =>
      obtain rfl := hrun
      cases completed with
      | true =>
        by_cases hid : id = caseId
        · subst hid
          exact .inr (by simp)
        · refine howned.imp (fun hactive => ?_) fun hsettled => by simp [hsettled]
          exact List.mem_filter.2 ⟨hactive, by simpa using Ne.symm hid⟩
      | false =>
        have hid : id ≠ caseId := fun hid => hop (by rw [hid])
        refine howned.imp (fun hactive => ?_) fun hsettled => by simpa using hsettled
        exact List.mem_filter.2 ⟨hactive, by simpa using Ne.symm hid⟩

/-! ### The invariant -/

/-- The bound holds for the resolutions, and for the rest in a calm environment. -/
def Deed.Bounded (deed : Deed) (environment : Environment) : Prop :=
  deed = .resolution ∨ environment.Calm

/-- No call was made twice, and what was made has left its mark. -/
structure Spared (environment : Environment) (world : World) : Prop where
  once : ∀ deed : Deed, deed.Bounded environment → ∀ scope caseId, world.times deed scope caseId ≤ 1
  owned : environment.Calm → ∀ (deed : Deed) caseId, deed ≠ .resolution →
    world.times deed world.store.currentScope caseId ≠ 0 →
      world.Owned caseId ∧ world.store.log caseId ≠ []
  beyond : ∀ caseId, world.times .resolution world.store.currentScope caseId ≠ 0 →
    world.store.BeyondReview caseId

/-- A call of a kind that is due for the first time, with its mark left. -/
structure Op.Due (environment : Environment) (actor : Actor Call) (op : Op) (world : World) : Prop where
  unmade : ∀ (deed : Deed) caseId, deed.Bounded environment → deed.calls op = true →
    op.concerns actor.call.command caseId = true →
      world.times deed world.store.currentScope caseId = 0
  owned : environment.Calm → ∀ (deed : Deed) caseId, deed ≠ .resolution → deed.calls op = true →
    op.concerns actor.call.command caseId = true →
      world.Owned caseId ∧ world.store.log caseId ≠ []
  beyond : ∀ caseId, op.resolves = true → op.concerns actor.call.command caseId = true →
    world.store.BeyondReview caseId
  completed : environment.Calm → ∀ caseId, op ≠ .memory (.deactivate caseId false)

theorem Op.due_of_quiet {op : Op} (hquiet : ∀ deed : Deed, deed.calls op = false)
    (hmemory : ∀ caseId, op ≠ .memory (.deactivate caseId false)) :
    op.Due environment actor world where
  unmade deed _ _ hcalls := absurd hcalls (by simp [hquiet])
  owned _ deed _ _ hcalls := absurd hcalls (by simp [hquiet])
  beyond _ hcalls := absurd ((hquiet .resolution).symm.trans hcalls) Bool.false_ne_true
  completed _ := hmemory

theorem Op.due_of_store {op : StoreOp} : (Op.store op).Due environment actor world :=
  Op.due_of_quiet (fun deed => by cases deed <;> rfl) (by simp)

theorem Op.due_of_memory {op : MemoryOp}
    (hop : environment.Calm → ∀ caseId, op ≠ .deactivate caseId false) :
    (Op.memory op).Due environment actor world where
  unmade deed _ _ hcalls := by cases deed <;> cases hcalls
  owned _ deed _ _ hcalls := by cases deed <;> cases hcalls
  beyond _ hcalls := by cases hcalls
  completed hcalm id h := hop hcalm id (Op.memory.inj h)

theorem Spared.step {op : Op} {answer : Except Exn op.Reply} (h : Spared environment world)
    (hscoped : Scoped world) (hprocess : actor.call.process = 0)
    (hexec : op.exec environment actor world answer world') (hdue : op.Due environment actor world) :
    Spared environment world' := by
  have hfuture : world.store.currentScope < world'.store.currentScope → ∀ deed caseId,
      world'.times deed world'.store.currentScope caseId = 0 := by
    intro hlt deed id
    rw [times_exec hexec, hscoped.times_future hlt, if_neg]
    simp only [Bool.and_eq_true, decide_eq_true_eq, not_and]
    omega
  refine ⟨fun deed hbounded scope id => ?_, fun hcalm deed id hdeed hmade => ?_, fun id hmade => ?_⟩
  · have hbefore := h.once deed hbounded scope id
    rw [times_exec hexec]
    split_ifs with hdone
    · simp only [Bool.and_eq_true, decide_eq_true_eq] at hdone
      obtain ⟨⟨hcalls, hconcerns⟩, rfl⟩ := hdone
      rw [hdue.unmade deed id hbounded hcalls hconcerns]
    · exact hbefore
  · rcases exec_scope_lt hexec with hscope | hlt
    · obtain ⟨howned, hvisible⟩ : world.Owned id ∧ world.store.log id ≠ [] := by
        rw [times_exec hexec, hscope] at hmade
        split_ifs at hmade with hdone
        · simp only [Bool.and_eq_true] at hdone
          exact hdue.owned hcalm deed id hdeed hdone.1.1 hdone.1.2
        · exact h.owned hcalm deed id hdeed hmade
      exact ⟨exec_keeps_owned hprocess hexec (hdue.completed hcalm id) howned,
        (exec_keeps hexec hscope).1 hvisible⟩
    · exact absurd (hfuture hlt deed id) hmade
  · rcases exec_scope_lt hexec with hscope | hlt
    · refine (exec_keeps hexec hscope).2 ?_
      rw [times_exec hexec, hscope] at hmade
      split_ifs at hmade with hdone
      · simp only [Bool.and_eq_true] at hdone
        exact hdue.beyond id hdone.1.1 hdone.1.2
      · exact h.beyond id hmade
    · exact absurd (hfuture hlt .resolution id) hmade

/-- What the invariant of the deeds rests on. -/
def Known (service : Service) (environment : Environment) (world : World) : Prop :=
  Ledger service environment world ∧ Scoped world

/-- The deeds, under the worker lock. -/
def sparingProof (service : Service) {environment : Environment} (hsingle : environment.Single) :
    Exclusive service environment (Known service environment) where
  invariant := Spared environment
  licence actor _ op before _ _ := op.Due environment actor before
  post _ _ _ _ := True
  preserved _ _ _ _ _ _ hstarts hknown _ hinvariant _ hexec hdue :=
    hinvariant.step hknown.2 (hsingle _ hstarts.process) hexec hdue
  crash before killed after _ _ hinvariant hcrash := by
    obtain ⟨hcrashes, process, -, -, rfl⟩ := hcrash
    exact ⟨hinvariant.once, fun hcalm => absurd hcrashes hcalm.crashes, hinvariant.beyond⟩

variable {hsingle : environment.Single}

theorem sparingProof_lenient : (sparingProof service hsingle).Lenient := by
  intro actor path op before answer after hpassive
  cases op with
  | store op => exact Op.due_of_store
  | memory op =>
    refine Op.due_of_memory fun _ id h => ?_
    subst h
    cases hpassive
  | adapter op => cases hpassive

/-! ### The advance -/

instance : Inhabited Exn := ⟨.stopIteration⟩

/-- An advance makes each of its deeds once; a verification resolves once. -/
def Deed.budget : Deed → Nat
  | .resolution => 0
  | _ => 1

theorem Op.DuringAdvance.made_for {op : Op} (h : op.DuringAdvance caseId) (hcalls : deed.calls op = true) :
    deed ≠ .resolution ∧ ∀ command id, op.concerns command id = true ↔ id = caseId := by
  rcases h with h | ⟨_, _, rfl⟩ | ⟨_, rfl⟩
  · obtain ⟨hraises, hdrafts, hresolves⟩ := h.once
    cases deed with
    | incident => exact absurd hcalls (by simp [Deed.calls, hraises])
    | draft => exact absurd hcalls (by simp [Deed.calls, hdrafts])
    | resolution => exact absurd hcalls (by simp [Deed.calls, hresolves])
  · refine ⟨fun hdeed => ?_, fun command id => by simp [Op.concerns, eq_comm]⟩
    subst hdeed
    cases hcalls
  · refine ⟨fun hdeed => ?_, fun command id => by simp [Op.concerns, eq_comm]⟩
    subst hdeed
    cases hcalls

theorem Op.DuringAdvance.not_memory {op : MemoryOp} : ¬(Op.memory op).DuringAdvance caseId := by
  rintro (h | ⟨_, _, h⟩ | ⟨_, h⟩)
  · exact h
  · cases h
  · cases h

/-- `_advance` and its failure record. -/
def Service.guarded (service : Service) (caseId : String) (event : SchemaChangeEvent) : Flow Unit :=
  Flow.exceptException (service.advance caseId event) (Service.recordFailure caseId)

theorem guarded_uses : (service.guarded caseId event).Uses (Op.DuringAdvance caseId) :=
  uses_exceptException advance_uses fun _ => recordFailure_uses.mono fun _ h => .inl h

theorem guarded_atMost : (service.guarded caseId event).AtMost deed.calls deed.budget := by
  have hfailure : ∀ error, (if error.isException then Service.recordFailure caseId error
      else Program.throw error : Flow Unit).Uses fun op => op.raises = false ∧ op.drafts = false := by
    intro error
    split_ifs
    · exact recordFailure_uses.mono fun _ h => ⟨h.once.1, h.once.2.1⟩
    · exact uses_throw
  cases deed with
  | incident => exact advance_raises.tryCatch_uses fun error => (hfailure error).mono fun _ h => h.1
  | draft => exact advance_drafts.tryCatch_uses fun error => (hfailure error).mono fun _ h => h.2
  | resolution => exact Program.Uses.atMost (guarded_uses.mono fun _ h => h.resolves)

variable {path : List (Performed Op Op.Reply Exn World)}

theorem wp_guarded_due (hprocess : actor.call.process = 0) (hheld : world.HeldBy actor)
    (hvisible : world.store.log caseId ≠ []) (howned : world.Owned caseId)
    (hunmade : environment.Calm → ∀ deed : Deed, deed ≠ .resolution →
      world.times deed world.store.currentScope caseId = 0) :
    (service.guarded caseId event).wp ((sparingProof service hsingle).logic actor)
      (fun _ _ after => after.HeldBy actor) path world := by
  have hmost : ∀ deed : Deed, (service.guarded caseId event).AtMost deed.calls deed.budget :=
    fun _ => guarded_atMost
  refine Program.wp_of_budget (fun bound world => world.HeldBy actor ∧
    world.store.log caseId ≠ [] ∧ world.Owned caseId ∧ (environment.Calm → ∀ deed : Deed,
      deed ≠ .resolution → world.times deed world.store.currentScope caseId + bound deed ≤ 1))
    guarded_uses hmost ⟨hheld, hvisible, howned, fun hcalm deed hdeed => ?_⟩ ?_
    fun _ _ _ _ hafter => hafter.1
  · rw [hunmade hcalm deed hdeed]
    cases deed <;> simp [Deed.budget]
  rintro bound path state before op answer after hop hpositive ⟨hheld, hvisible, howned, hleft⟩
    ⟨hrely, -, -⟩ hexec
  obtain rfl := hrely.frozen hheld
  obtain ⟨hheld', hscope⟩ := exec_working (Op.working_of_plain hop.plain) hheld hexec
  have hmemory : ∀ id, op ≠ .memory (.deactivate id false) := by
    rintro id rfl
    exact hop.not_memory
  refine ⟨⟨.inr hheld, ?_⟩, hheld', (exec_keeps hexec hscope).1 hvisible,
    exec_keeps_owned hprocess hexec (hmemory caseId) howned, fun hcalm deed hdeed => ?_⟩
  · constructor
    · intro deed id hbounded hcalls hconcerns
      obtain ⟨hdeed, hid⟩ := hop.made_for hcalls
      obtain rfl := (hid _ _).1 hconcerns
      have hbudget := hleft (hbounded.resolve_left hdeed) deed hdeed
      have hpaid := hpositive deed hcalls
      omega
    · intro _ deed id _ hcalls hconcerns
      obtain rfl := ((hop.made_for hcalls).2 _ _).1 hconcerns
      exact ⟨howned, hvisible⟩
    · intro id hresolves
      exact absurd hresolves (by simp [hop.resolves])
    · exact fun _ => hmemory
  · have hbudget := hleft hcalm deed hdeed
    rw [times_exec hexec, hscope]
    dsimp only
    by_cases hcalls : deed.calls op = true
    · have hpaid := hpositive deed hcalls
      rw [if_pos hcalls, if_pos (by simp [hcalls, ((hop.made_for hcalls).2 _ _).2 rfl])]
      omega
    · rw [if_neg hcalls, if_neg (by simp [hcalls])]
      exact hbudget

theorem exec_caught (hcalm : environment.Calm) {op : Op} {error : Exn}
    (h : op.exec environment actor world (.error error) world') : error.Caught := by
  cases op with
  | store op =>
    rcases h with ⟨fresh, now, -, hanswer, -⟩ | ⟨hfails, -, -⟩
    · cases hrun : (op.run fresh now world.store).1 with
      | ok value =>
        rw [hrun] at hanswer
        cases hanswer
      | error found =>
        rw [hrun] at hanswer
        cases hanswer
        rfl
    · exact absurd hfails hcalm.storeFails
  | memory op =>
    obtain ⟨reply, memory, hanswer, -⟩ := h
    cases hanswer
  | adapter op => exact hcalm.raises op error h.1

theorem wp_recordFailure_completes (hcalm : environment.Calm)
    (hdelivers : Delivers environment actor event) {error : Exn}
    (hcase : Advancing service actor caseId snapshot world)
    (hcause : Cause service environment world.history caseId snapshot actor event error) :
    (Service.recordFailure caseId error).wp ((ledgerProof service environment).logic actor)
      (fun result _ _ => result.isOk = true) path world := by
  have hnever : ∀ {error}, ¬environment.Failed error := fun h => hcalm.storeFails h.1
  unfold Service.recordFailure
  rw [Program.wp_bind]
  refine wp_getCase ledgerProof_lenient (fun _ _ h => h) hcase.held
    (fun _ _ hfailure _ => absurd hfailure hnever) (fun more _ hlog => ?_)
    fun more current _ hcurrent => ?_
  · have hsnapshot := hcase.snapshot
    rw [Store.snapshot?, hlog] at hsnapshot
    cases hsnapshot
  rw [hcase.snapshot] at hcurrent
  obtain rfl := Option.some.inj hcurrent
  dsimp only
  split_ifs with hclosed
  · rfl
  rw [Program.wp_bind]
  exact wp_append hcase (.aborted hdelivers hclosed hcause)
    (fun _ _ hfailure _ _ _ => absurd hfailure hnever) fun _ _ _ _ _ _ _ => rfl

theorem wp_guarded_completes (hcalm : environment.Calm) (hdelivers : Delivers environment actor event)
    (hcase : Advancing service actor caseId snapshot world) :
    (service.guarded caseId event).wp
      { (ledgerProof service environment).logic actor with guar := fun _ _ _ _ _ => True }
      (fun result _ _ => result.isOk = true) path world := by
  have hstage : Stage service environment actor caseId event (service.advance caseId event)
      (fun _ current after => Rested service after.history caseId event current) world :=
    advance_stage hdelivers hcase
  have hboth := (hstage path).and_post
    (advance_raises_caught.wp fun op before exception after hexec => exec_caught hcalm hexec)
  unfold Service.guarded Flow.exceptException
  rw [Program.wp_tryCatch]
  refine Program.wp_mono (hboth.weaken (fun _ _ h => h) (fun _ _ _ _ h => h)
    fun _ _ _ _ _ _ => trivial) ?_
  rintro (error | value) path after ⟨hpost, hcaught⟩
  · obtain ⟨current, hcase, hcause⟩ := hpost
    dsimp only
    rw [if_pos (show error.isException = true from hcaught error rfl)]
    exact (wp_recordFailure_completes hcalm hdelivers hcase hcause).weaken (fun _ _ h => h)
      (fun _ _ _ _ h => h) fun _ _ _ _ _ _ => trivial
  · rfl

/-! ### The programs -/

theorem wp_respondSpared {deduplicated : Bool} (hheld : world.HeldBy actor)
    {post : Except Exn SchemaChangeResponse → List (Performed Op Op.Reply Exn World) → World → Prop}
    (hpost : ∀ result path, post result path world) :
    (Service.respond caseId deduplicated).wp ((sparingProof service hsingle).logic actor) post path
      world := by
  unfold Service.respond
  rw [Program.wp_bind]
  refine wp_read rfl sparingProof_lenient hheld (fun error _ => hpost _ _) fun _ _ fresh now => ?_
  generalize Except.mapError Exn.store
    (StoreOp.run fresh now (StoreOp.getCase caseId) world.store).1 = answer
  cases answer with
  | error error => exact hpost _ _
  | ok value => exact hpost _ _

theorem wp_sparedAdvance {deduplicated : Bool} (hdelivers : Delivers environment actor event)
    (hprocess : actor.call.process = 0) (hcase : Advancing service actor caseId snapshot world)
    (hunmade : environment.Calm → ∀ deed : Deed, deed ≠ .resolution →
      world.times deed world.store.currentScope caseId = 0)
    {post : Except Exn SchemaChangeResponse → List (Performed Op Op.Reply Exn World) → World → Prop}
    (hpost : ∀ result path after, after.HeldBy actor → post result path after) :
    (service.advanceSafelyLocked caseId event).wp ((sparingProof service hsingle).logic actor)
      (AfterAdvance ((sparingProof service hsingle).logic actor) post caseId deduplicated) path
      world := by
  unfold Service.advanceSafelyLocked
  rw [Program.wp_bind]
  refine wp_held hcase.held fun _ _ answer active hexec => ⟨Op.due_of_memory (by simp), ?_⟩
  obtain ⟨hheld, hstore⟩ := heldBy_of_memory hcase.held hprocess
    (fun memory reply after hrun => by obtain rfl := hrun; rfl) hexec
  have hunmade' : environment.Calm → ∀ deed : Deed, deed ≠ .resolution →
      active.times deed active.store.currentScope caseId = 0 := by
    intro hcalm deed hdeed
    rw [times_other hexec (by cases deed <;> rfl), hstore]
    exact hunmade hcalm deed hdeed
  have hvisible : active.store.log caseId ≠ [] := by
    intro hlog
    have hsnapshot := hcase.snapshot
    rw [← hstore, Store.snapshot?, hlog] at hsnapshot
    cases hsnapshot
  have howned : active.Owned caseId := by
    obtain ⟨reply, memory, -, hrun, rfl⟩ := hexec
    obtain rfl := hrun
    rw [hprocess, World.Owned, World.withMemory_self]
    exact .inl (by simp)
  have hactive : Advancing service actor caseId snapshot active :=
    ⟨hheld, hstore ▸ hcase.snapshot, hcase.concerns⟩
  have hcompletes : ∀ path, (service.guarded caseId event).wp
      { (sparingProof service hsingle).logic actor with guar := fun _ _ _ _ _ => True }
      (fun result _ _ => environment.Calm → result.isOk = true) path active := by
    intro path
    by_cases hcalm : environment.Calm
    · refine Program.wp_mono ((wp_guarded_completes hcalm hdelivers hactive).weaken ?_
        (fun _ _ _ _ h => h) fun _ _ _ _ _ _ => trivial) fun _ _ _ h _ => h
      rintro state before ⟨hrely, hknown, -⟩
      exact ⟨hrely, trivial, hknown.1⟩
    · exact Program.wp_of_trace (fun _ _ _ => True) [] guarded_uses trivial
        (fun _ _ _ _ _ _ _ _ _ _ _ => ⟨trivial, trivial⟩) fun _ _ _ _ _ _ h => absurd h hcalm
  obtain ⟨reply, memory, rfl, -⟩ := hexec
  rw [Program.wp, Program.wp_tryFinally]
  refine Program.wp_mono ((wp_guarded_due hprocess hheld hvisible howned hunmade').and_post
    (hcompletes _)) ?_
  rintro result path ended ⟨hended, hcompleted⟩
  refine wp_held hended fun _ _ answer after hexec => ⟨Op.due_of_memory fun hcalm id hop => ?_, ?_⟩
  · injection hop with _ hfalse
    rw [hcompleted hcalm] at hfalse
    cases hfalse
  have hafter := (heldBy_of_memory hended hprocess
    (fun memory reply after hrun => by obtain rfl := hrun; rfl) hexec).1
  obtain ⟨⟨⟩, memory, rfl, -⟩ := hexec
  cases result with
  | error error => exact hpost _ _ _ hafter
  | ok value => exact wp_respondSpared hafter fun _ _ => hpost _ _ _ hafter

theorem ingestLocked_spares {dedupKey : String} (hdelivers : Delivers environment actor event)
    (hkey : dedupKey = schemaEventDedupKey service.sha256 event) (hprocess : actor.call.process = 0)
    (hledger : Ledger service environment world) (hspared : Spared environment world)
    (hheld : world.HeldBy actor)
    {post : Except Exn SchemaChangeResponse → List (Performed Op Op.Reply Exn World) → World → Prop}
    (hpost : ∀ result path after, after.HeldBy actor → post result path after) :
    (service.ingestLocked event dedupKey).wp ((sparingProof service hsingle).logic actor) post path
      world := by
  refine wp_ingestLocked sparingProof_lenient (fun _ hknown _ => hknown.1) hprocess hheld
    (fun _ _ _ _ _ => hpost _ _ _ hheld) (fun _ _ _ _ _ _ _ => hpost _ _ _ hheld)
    (fun row snapshot more _ _ hduplicate _ hunowned => ?_)
    fun created more _ _ hcreatable answer after hexec => ⟨Op.due_of_store, ?_⟩
  · refine wp_sparedAdvance hdelivers hprocess (hduplicate.advancing hheld hledger hdelivers hkey)
      (fun hcalm deed hdeed => ?_) hpost
    -- what was made for the case would have left it owned
    by_contra hmade
    exact hunowned (hspared.owned hcalm deed row.caseId hdeed hmade).1
  · cases answer with
    | error error =>
      refine fun _ => hpost _ _ _ ?_
      rw [World.HeldBy, (exec_append hexec).1]
      exact hheld
    | ok recorded =>
      obtain ⟨snapshot, hcase⟩ := hcreatable.detected hdelivers hheld hexec
      have hscope := (exec_working rfl hheld hexec).2
      refine wp_sparedAdvance hdelivers hprocess hcase (fun hcalm deed hdeed => ?_) hpost
      rw [times_other hexec (by cases deed <;> rfl), hscope]
      by_contra hmade
      exact (hspared.owned hcalm deed created hdeed hmade).2 hcreatable.free

theorem Op.DuringVerification.made_for {op : Op} (h : op.DuringVerification caseId)
    (hcalls : deed.calls op = true) : deed = .resolution ∧
      ∀ request id, op.concerns (.verifyDeployment caseId request) id = true ↔ id = caseId := by
  obtain ⟨adapter, rfl⟩ := Deed.calls_adapter hcalls
  cases adapter with
  | resolveIncident incidentUrn =>
    refine ⟨?_, fun request id => by simp [Op.concerns, eq_comm]⟩
    cases deed with
    | resolution => rfl
    | incident => cases hcalls
    | draft => cases hcalls
  | raiseIncident assetUrn id description => cases h
  | createDraft id patch => cases h
  | _ => cases deed <;> cases hcalls

theorem Op.GathersEvidence.deed_calls {op : Op} (h : op.GathersEvidence) : deed.calls op = false := by
  cases op with
  | store op => cases h
  | memory op => cases h
  | adapter op => cases op <;> first | (cases deed <;> rfl) | cases h

theorem wp_settled_due {flow : Flow CaseSnapshot} {request : VerifyDeploymentRequest}
    (hcommand : actor.call.command = .verifyDeployment caseId request)
    (huses : flow.Uses (Op.DuringVerification caseId)) (hmost : flow.AtMost Op.resolves 1)
    (hheld : world.HeldBy actor) (hbeyond : world.store.BeyondReview caseId)
    (hunmade : world.times .resolution world.store.currentScope caseId = 0) :
    flow.wp ((sparingProof service hsingle).logic actor) (fun _ _ after => after.HeldBy actor) path
      world := by
  have hmost' : ∀ _ : Unit, flow.AtMost Op.resolves 1 := fun _ => hmost
  refine Program.wp_of_budget (fun bound world => world.HeldBy actor ∧
    world.store.BeyondReview caseId ∧
    world.times .resolution world.store.currentScope caseId + bound () ≤ 1) huses hmost'
    ⟨hheld, hbeyond, by omega⟩ ?_ fun _ _ _ _ hafter => hafter.1
  rintro bound path state before op answer after hop hpositive ⟨hheld, hbeyond, hleft⟩
    ⟨hrely, -, -⟩ hexec
  obtain rfl := hrely.frozen hheld
  obtain ⟨hheld', hscope⟩ := exec_working hop.working hheld hexec
  refine ⟨⟨.inr hheld, ?_⟩, hheld', (exec_keeps hexec hscope).2 hbeyond, ?_⟩
  · constructor
    · intro deed id _ hcalls hconcerns
      rw [hcommand] at hconcerns
      obtain ⟨rfl, hid⟩ := hop.made_for hcalls
      obtain rfl := (hid _ id).1 hconcerns
      have hpaid := hpositive () hcalls
      omega
    · intro _ deed id hdeed hcalls _
      exact absurd (hop.made_for hcalls).1 hdeed
    · intro id hresolves hconcerns
      rw [hcommand] at hconcerns
      have hcalls : Deed.resolution.calls op = true := hresolves
      obtain rfl := ((hop.made_for hcalls).2 _ id).1 hconcerns
      exact hbeyond
    · rintro _ id rfl
      exact hop
  · rw [times_exec hexec, hscope, hcommand]
    dsimp only
    by_cases hresolves : op.resolves = true
    · have hcalls : Deed.resolution.calls op = true := hresolves
      have hpaid := hpositive () hresolves
      rw [if_pos hresolves, if_pos (by simp [hcalls, ((hop.made_for hcalls).2 _ _).2 rfl])]
      omega
    · rw [if_neg hresolves, if_neg (by simp [Deed.calls, hresolves])]
      exact hleft

theorem Op.GathersEvidence.due {op : Op} (h : op.GathersEvidence) : op.Due environment actor world :=
  Op.due_of_quiet (fun _ => h.deed_calls) fun id hop => by
    subst hop
    exact h

theorem beyondReview_of_append {state : CaseState} {body : EventBody} {dedupKey eventId : Option String}
    {recorded : CaseEvent}
    (h : (Op.store (.append caseId state body dedupKey eventId)).exec environment actor world
      (.ok recorded) world') (hbody : body.eventType ≠ .systemReset)
    (hbeyond : state.beyondReview = true) : world'.store.BeyondReview caseId := by
  obtain ⟨-, ⟨fresh, now, -, -, hextends, -⟩ | ⟨_, _, _, -, herror, -⟩ | ⟨-, ⟨_, herror⟩, -⟩⟩ :=
    exec_append h
  · refine ⟨state, ?_, hbeyond⟩
    rw [Store.currentState_eq, hextends.log hbody]
    simp [Store.appended, Row.event]
  · cases herror
  · cases herror

theorem wp_settleSpared {request : VerifyDeploymentRequest} {evidence : DeploymentEvidence}
    (hcommand : actor.call.command = .verifyDeployment caseId request) (hheld : world.HeldBy actor)
    (hunmade : world.times .resolution world.store.currentScope caseId = 0) :
    (service.settleDeployment snapshot caseId evidence).wp ((sparingProof service hsingle).logic actor)
      (fun _ _ after => after.HeldBy actor) path world := by
  have huses : (service.settleDeployment snapshot caseId evidence).Uses
      (Op.DuringVerification caseId) := settleDeployment_uses
  have hmost : (service.settleDeployment snapshot caseId evidence).AtMost Op.resolves 1 :=
    settleDeployment_resolves
  unfold Service.settleDeployment at huses hmost ⊢
  rw [Program.wp_bind]
  refine wp_held hheld fun _ _ answer after hexec => ⟨Op.due_of_store, ?_⟩
  obtain ⟨hheld', hscope⟩ := exec_working rfl hheld hexec
  cases answer with
  | error error => exact hheld'
  | ok recorded =>
    refine wp_settled_due hcommand ((Program.uses_call.1 huses).2 (.ok recorded))
      (hmost.call.2 (.ok recorded)) hheld' (beyondReview_of_append hexec (by simp [EventBody.eventType])
        rfl) ?_
    rw [times_other hexec rfl, hscope]
    exact hunmade

theorem Spared.unresolved (h : Spared environment world) (hledger : Ledger service environment world)
    (hsnapshot : world.store.snapshot? caseId = some snapshot) (hopen : snapshot.state = .prOpen) :
    world.times .resolution world.store.currentScope caseId = 0 := by
  by_contra hmade
  obtain ⟨state, hcurrent, hbeyond⟩ := h.beyond caseId hmade
  rw [Store.currentState_eq, (hledger.getCase hsnapshot).lastState, hopen] at hcurrent
  rw [← Option.some.inj hcurrent] at hbeyond
  cases hbeyond

theorem verifyLocked_spares {request : VerifyDeploymentRequest}
    (hcommand : actor.call.command = .verifyDeployment caseId request)
    (hledger : Ledger service environment world) (hspared : Spared environment world)
    (hheld : world.HeldBy actor) :
    (service.verifyDeploymentLocked caseId request).wp ((sparingProof service hsingle).logic actor)
      (fun _ _ after => after.HeldBy actor) path world := by
  unfold Service.verifyDeploymentLocked
  rw [Program.wp_bind]
  refine wp_getCase sparingProof_lenient (fun _ hknown _ => hknown.1) hheld
    (fun _ _ _ _ => hheld) (fun _ _ _ => hheld) fun more snapshot _ hsnapshot => ?_
  refine wp_refuseIf (fun _ => hheld) fun hstate => wp_refuseIf (fun _ => hheld) fun _ => ?_
  have hunmade := hspared.unresolved hledger hsnapshot (by simpa using hstate)
  rw [Program.wp_bind]
  have huses : (service.deploymentEvidence snapshot request).Uses Op.GathersEvidence :=
    deploymentEvidence_uses
  generalize service.deploymentEvidence snapshot request = flow at huses ⊢
  have hevidence : flow.wp ((sparingProof service hsingle).logic actor) (fun _ _ after =>
      after.HeldBy actor ∧ after.times .resolution after.store.currentScope caseId = 0)
      (path ++ more) world := by
    refine Program.wp_of_uses huses ⟨hheld, hunmade⟩ ?_
    rintro path state before op answer after hop ⟨hheld, hunmade⟩ ⟨hrely, -, -⟩ hexec
    obtain rfl := hrely.frozen hheld
    have hduring : op.DuringVerification caseId := hop.duringVerification
    obtain ⟨hheld', hscope⟩ := exec_working hduring.working hheld hexec
    refine ⟨⟨.inr hheld, hop.due⟩, hheld', ?_⟩
    rw [times_other hexec hop.deed_calls, hscope]
    exact hunmade
  refine Program.wp_mono hevidence ?_
  rintro (error | evidence) path asked ⟨hheld, hunmade⟩
  · exact hheld
  · exact wp_settleSpared hcommand hheld hunmade

theorem resetService_spares {reason : String} (hprocess : actor.call.process = 0) :
    (resetService reason).wp ((sparingProof service hsingle).logic actor) (fun _ _ _ => True) [] world := by
  refine wp_withWorkerLock hprocess (fun _ op _ _ _ hop => ?_) fun before hrely _ _ _ => ?_
  · exact sparingProof_lenient _ _ _ _ _ _ (by rcases hop with rfl | rfl <;> rfl)
  refine wp_held World.locked_heldBy fun _ _ answer after hexec => ⟨Op.due_of_store, ?_, trivial⟩
  have hheld : (before.locked actor).HeldBy actor := World.locked_heldBy
  rcases hexec with ⟨_, _, -, -, rfl⟩ | ⟨-, -, rfl⟩ <;> exact hheld

theorem Spared.locked (h : Spared environment world) : Spared environment (world.locked actor) := by
  refine ⟨h.once, fun hcalm deed id hdeed hmade => ?_, h.beyond⟩
  obtain ⟨howned, hvisible⟩ := h.owned hcalm deed id hdeed hmade
  refine ⟨?_, hvisible⟩
  rw [World.Owned, World.locked, World.withMemory_self]
  exact howned

theorem program_spares (hstarts : environment.Starts actor.call) (hprocess : actor.call.process = 0)
    (hfresh : world.Fresh actor.tid) :
    (service.program actor.call.command).wp ((sparingProof service hsingle).logic actor)
      (fun _ _ _ => True) [] world := by
  have hlenient : (sparingProof service hsingle).Lenient := sparingProof_lenient
  cases hcommand : actor.call.command with
  | ingest event =>
    have hdelivers := Delivers.of_starts hstarts hcommand
    rw [Service.program]
    generalize hflow : service.ingest event = flow
    have hcases := ingest_cases service event
    rw [hflow] at hcases
    have hwp : flow.wp ((sparingProof service hsingle).logic actor) (fun _ _ _ => True) [] world := by
      rcases hcases with ⟨-, rfl⟩ | ⟨-, rfl⟩
      · refine wp_ingestKeyed hlenient (fun _ hknown _ => hknown.1) hprocess hfresh.lock
          (fun _ _ _ _ _ => trivial) (fun _ _ _ _ _ _ _ _ _ _ _ => trivial)
          fun more before _ hknown hspared _ => ?_
        exact ingestLocked_spares hdelivers rfl hprocess hknown.1.locked hspared.locked World.locked_heldBy
          fun _ _ _ hheld => ⟨hheld, trivial⟩
      · trivial
    exact wp_answer hwp (fun _ _ _ _ => trivial) fun _ _ _ _ => trivial
  | verifyDeployment caseId request =>
    have hwp : (service.verifyDeployment caseId request).wp
        ((sparingProof service hsingle).logic actor) (fun _ _ _ => True) [] world := by
      unfold Service.verifyDeployment
      refine wp_withWorkerLock hprocess (fun _ op _ _ _ hop => ?_) fun before _ hknown hspared _ => ?_
      · exact hlenient _ _ _ _ _ _ (by rcases hop with rfl | rfl <;> rfl)
      exact Program.wp_mono (verifyLocked_spares hcommand hknown.1.locked hspared.locked
        World.locked_heldBy) fun _ _ _ hheld => ⟨hheld, trivial⟩
    rw [Service.program]
    generalize service.verifyDeployment caseId request = flow at hwp ⊢
    exact wp_answer hwp (fun _ _ _ _ => trivial) fun _ _ _ _ => trivial
  | reset reason =>
    have hwp : (resetService reason).wp ((sparingProof service hsingle).logic actor)
        (fun _ _ _ => True) [] world := resetService_spares hprocess
    rw [Service.program]
    generalize resetService reason = flow at hwp ⊢
    exact wp_answer hwp (fun _ _ _ _ => trivial) fun _ _ _ _ => trivial

/-! ### Every run -/

variable {pool : ServicePool}

/-- The discipline of the deeds. -/
def sparingDiscipline (service : Service) {environment : Environment} (hsingle : environment.Single) :
    Discipline (service.system environment) (Known service environment) :=
  (sparingProof service hsingle).discipline hsingle fun _ _ hstarts hprocess _ _ hfresh =>
    program_spares hstarts hprocess hfresh

theorem Spared.initial : Spared environment {} where
  once _ _ _ _ := Nat.zero_le 1
  owned _ _ _ _ hmade := absurd rfl hmade
  beyond _ hmade := absurd rfl hmade

theorem Service.Reachable.spared (hreach : service.Reachable environment pool)
    (hsingle : environment.Single) : Spared environment pool.shared := by
  have hsound : (sparingDiscipline service hsingle).Sound {} pool :=
    Discipline.sound Spared.initial (fun tid => fresh_initial tid)
      (fun _ hreach => ⟨Service.Reachable.ledger hreach hsingle,
        Service.Reachable.scoped hreach hsingle⟩) hreach
  exact hsound.invariant

/-- Nothing is done twice. In every run, over any number of interleaved calls, the verifications of
a case resolve an incident at most once in a reset scope, whatever crashes or fails. Unless a process
is killed or a transaction fails, its incident is also raised, and its pull request drafted, at most
once, however often its drift is delivered. -/
theorem effects_once (hsingle : environment.Single) (hreach : service.Reachable environment pool) :
    (∀ scope caseId, pool.shared.times .resolution scope caseId ≤ 1) ∧
      (environment.Calm → ∀ deed scope caseId, pool.shared.times deed scope caseId ≤ 1) :=
  ⟨(hreach.spared hsingle).once .resolution (.inl rfl),
    fun hcalm deed => (hreach.spared hsingle).once deed (.inr hcalm)⟩

/-- Everything works, and no process is killed. -/
def undisturbed : Environment :=
  { answers := fun op answer => answer = workingAnswers op
    storeFails := False
    crashes := False }

theorem calm_undisturbed : undisturbed.Calm where
  crashes := id
  storeFails := id
  raises op error h := by cases op <;> cases h

/-- A drift that is delivered twice, and whose repair is then deployed. -/
theorem effects_once_closed : ∃ pool, connectedService.Reachable undisturbed pool ∧
    pool.finished.length = 3 ∧ ∀ deed, pool.shared.times deed 0 "DR-01234567" = 1 := by
  have hsession : (connectedService.session [openingVisit, openingVisit, verifyingVisit] 0 {}).any
      (fun outcome => outcome.1.length = 3 ∧ ∀ deed ∈ [Deed.incident, .draft, .resolution],
        0 < outcome.2.times deed 0 "DR-01234567") = true := by decide +kernel
  obtain ⟨⟨calls, final⟩, hvisits, hholds⟩ := (Option.any_eq_true _ _).1 hsession
  have hinit : connectedService.Reachable undisturbed (System.init {}) := .refl
  have hanswers : ∀ visit ∈ [openingVisit, openingVisit, verifyingVisit], ∀ op,
      undisturbed.answers op (visit.answers op) := by
    intro visit hvisit op
    simp only [List.mem_cons, List.not_mem_nil, or_false] at hvisit
    rcases hvisit with rfl | rfl | rfl <;> rfl
  obtain ⟨pool, hreach, -, rfl, hserved⟩ := Service.session_reachable_from
    (fun visit _ => ⟨rfl, trivial⟩) hanswers hinit rfl hvisits
  obtain ⟨hlength, hmade⟩ := of_decide_eq_true hholds
  have honce := (effects_once (fun _ h => h) hreach).2 calm_undisturbed
  refine ⟨pool, hreach, ?_, fun deed => ?_⟩
  · have hfinished := congrArg List.length hserved
    rw [served, List.length_map] at hfinished
    exact hfinished.trans hlength
  · have hdeed : deed ∈ [Deed.incident, .draft, .resolution] := by cases deed <;> simp
    have hleast : 0 < pool.shared.times deed 0 "DR-01234567" := hmade deed hdeed
    have hmost := honce deed 0 "DR-01234567"
    omega

end

end DataRescue
