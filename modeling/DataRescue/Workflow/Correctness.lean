import DataRescue.Workflow.Completion
import DataRescue.Workflow.IngestRule
import DataRescue.Workflow.Verification

/-!
# The ledger of a run

Every program of the service keeps the ledger under the worker lock, so the ledger of every reachable
world is lawful (`Service.Reachable.ledger`). The rules for `advanceSafelyLocked` and for a
verification also say how these calls end.
-/

namespace DataRescue

open Python Concurrency

section

variable {service : Service} {environment : Environment} {actor : Actor Call}
  {world : World} {caseId : String} {event : SchemaChangeEvent} {snapshot : CaseSnapshot}
  {path : List (Performed Op Op.Reply Exn World)} {α β : Type}

/-! ### Advancing a case -/

theorem wp_memory {op : MemoryOp}
    {post : Except Exn op.Reply → List (Performed Op Op.Reply Exn World) → World → Prop}
    (hprocess : actor.call.process = 0) (hcase : Advancing service actor caseId snapshot world)
    (hlock : ∀ memory reply after, op.run actor.tid memory reply after →
      after.workerLock = memory.workerLock)
    (h : ∀ reply after, Advancing service actor caseId snapshot after → world.history <+: after.history →
      post (.ok reply) (path ++ [⟨.memory op, .ok reply, world⟩]) after) :
    (Flow.memory op).wp ((ledgerProof service environment).logic actor) post path world := by
  refine wp_held hcase.held fun _ _ answer after hexec => ⟨trivial, ?_⟩
  have hgrows := exec_history_grows hexec
  obtain ⟨reply, memory, rfl, hrun, rfl⟩ := hexec
  refine h reply _ ⟨?_, hcase.snapshot, hcase.concerns⟩ hgrows
  rw [hprocess] at hrun ⊢
  rw [World.HeldBy, World.withMemory_self, hlock _ _ _ hrun]
  exact hcase.held

theorem recordFailure_stage {error : Exn} (hdelivers : Delivers environment actor event)
    (hcase : Advancing service actor caseId snapshot world)
    (hcause : Cause service environment world.history caseId snapshot actor event error) :
    Stage service environment actor caseId event (Service.recordFailure caseId error)
      (fun _ current _ => current.state.closed) world := by
  unfold Service.recordFailure
  refine (Stage.getCase hcase).bind fun value current after hcase hread => ?_
  obtain ⟨rfl, rfl, rfl, -⟩ := hread
  split_ifs with hclosed
  · exact Stage.pure hcase hclosed
  · refine (Stage.append hcase (.aborted hdelivers hclosed hcause)).bind
      fun recorded current after hcase happended => Stage.pure hcase ?_
    obtain ⟨-, hstate, rfl, -⟩ := happended
    simp [hstate, CaseState.closed]

theorem Rested.mono {history history' : List Effect} (hhistory : history <+: history')
    (h : Rested service history caseId event snapshot) :
    Rested service history' caseId event snapshot := by
  rcases h with h | ⟨caller, pullRequest, hstate, hpull, houtcome⟩
  · exact .inl h
  · exact .inr ⟨caller, pullRequest, hstate, hpull,
      houtcome.mono fun _ _ h => h.mono hhistory⟩

theorem closed_rested {history : List Effect} (h : snapshot.state.closed) :
    Rested service history caseId event snapshot := by
  refine .inl ?_
  rcases h with h | h | h <;> rw [h] <;> rfl

theorem Stage.exceptException {flow : Flow α} {handler : Exn → Flow α}
    {returns : α → CaseSnapshot → World → Prop}
    (h : Stage service environment actor caseId event flow returns world)
    (hhandler : ∀ error snapshot world, Advancing service actor caseId snapshot world →
      Cause service environment world.history caseId snapshot actor event error →
      Stage service environment actor caseId event (handler error) returns world) :
    Stage service environment actor caseId event (Flow.exceptException flow handler) returns world := by
  intro path
  rw [Flow.exceptException, Program.wp_tryCatch]
  refine Program.wp_mono (h path) ?_
  rintro (error | value) path world hpost
  · dsimp only
    split_ifs
    · obtain ⟨snapshot, hcase, hcause⟩ := hpost
      exact hhandler error snapshot world hcase hcause path
    · exact hpost
  · exact hpost

theorem Stage.deactivate {flow : Flow α} {returns : α → CaseSnapshot → World → Prop}
    (hprocess : actor.call.process = 0)
    (h : Stage service environment actor caseId event flow returns world)
    (hstable : ∀ value snapshot before after, before.history <+: after.history →
      returns value snapshot before → returns value snapshot after) :
    Stage service environment actor caseId event
      (flow.tryFinally fun result => Flow.memory (.deactivate caseId result.isOk)) returns world := by
  intro path
  rw [Program.wp_tryFinally]
  refine Program.wp_mono (h path) ?_
  rintro (error | value) path before ⟨snapshot, hcase, hpost⟩
  · exact wp_memory hprocess hcase (fun memory reply after h => by obtain rfl := h; rfl)
      fun _ after hcase hgrows => ⟨snapshot, hcase, hpost.mono hgrows⟩
  · exact wp_memory hprocess hcase (fun memory reply after h => by obtain rfl := h; rfl)
      fun _ after hcase hgrows => ⟨snapshot, hcase, hstable value snapshot before after hgrows hpost⟩

/-- The guarded advance: it returns with the case at rest, or raises for a cause. -/
theorem advanceSafelyLocked_stage (hdelivers : Delivers environment actor event)
    (hprocess : actor.call.process = 0) (hcase : Advancing service actor caseId snapshot world) :
    Stage service environment actor caseId event (service.advanceSafelyLocked caseId event)
      (fun _ current after => Rested service after.history caseId event current) world := by
  intro path
  unfold Service.advanceSafelyLocked
  rw [Program.wp_bind]
  refine wp_memory hprocess hcase (fun memory reply after h => by obtain rfl := h; rfl)
    fun reply after hcase _ => ?_
  refine Stage.deactivate hprocess ((advance_stage hdelivers hcase).exceptException
    fun error current after hcase hcause => ?_) (fun _ _ _ _ hgrows h => h.mono hgrows) _
  exact (recordFailure_stage hdelivers hcase hcause).mono
    fun _ current after _ hclosed => closed_rested hclosed

/-! ### Ingesting an event -/

/-- The call that an event starts. -/
theorem Delivers.of_starts (hstarts : environment.Starts actor.call)
    (hcommand : actor.call.command = .ingest event) : Delivers environment actor event :=
  ⟨hcommand, hcommand ▸ hstarts.command⟩

/-- The case that a key is bound to is a case of the event with that key. -/
theorem Duplicate.advancing {dedupKey : String} {row : Row} (hheld : world.HeldBy actor)
    (hledger : Ledger service environment world) (hdelivers : Delivers environment actor event)
    (hkey : dedupKey = schemaEventDedupKey service.sha256 event)
    (h : Duplicate world.store event dedupKey row snapshot) :
    Advancing service actor row.caseId snapshot world := by
  refine ⟨hheld, h.snapshot, fun other hcommand => ?_⟩
  obtain rfl : event = other := Command.ingest.inj (hdelivers.command.symm.trans hcommand)
  obtain ⟨hrow, hbound, hscope⟩ := Store.rowForDedup_some h.bound
  obtain ⟨detected, hbody, hdetected⟩ := hledger.keyed row hrow dedupKey hbound
  have htype : row.eventType ≠ .systemReset := by
    rw [Row.eventType, hbody]
    simp [detectionPayload, EventBody.eventType]
  have hmem : row.event ∈ world.store.log row.caseId :=
    Store.mem_log.2 ⟨row, hrow, rfl, (hledger.coherent.scope row hrow htype).1 hscope, rfl⟩
  rw [← hkey, hdetected, (hledger.getCase h.snapshot).schemaChange hmem hbody]

/-- A case that was just created is that of its event. -/
theorem Creatable.detected {dedupKey : String} {recorded : CaseEvent} {world' : World}
    (h : Creatable world.store event dedupKey caseId) (hdelivers : Delivers environment actor event)
    (hheld : world.HeldBy actor)
    (hexec : (Op.store (.append caseId .detected (detectionPayload event caseId) (some dedupKey)
      event.eventId)).exec environment actor world (.ok recorded) world') :
    ∃ snapshot, Advancing service actor caseId snapshot world' := by
  obtain ⟨hmemory, ⟨fresh, now, -, -, hextends, -⟩ | ⟨_, _, _, -, herror, -⟩ | ⟨-, ⟨_, herror⟩, -⟩⟩ :=
    exec_append hexec
  · have hlog := hextends.log (by simp [Row.eventType, Store.appended, detectionPayload,
      EventBody.eventType]) caseId
    rw [h.free, List.nil_append] at hlog
    replace hlog := hlog.trans (if_pos rfl)
    have hheld' : world'.HeldBy actor := by
      rw [World.HeldBy, hmemory]
      exact hheld
    refine ⟨_, hheld', by rw [Store.snapshot?, hlog]; exact projectCase_singleton rfl, ?_⟩
    intro other hcommand
    obtain rfl : event = other := Command.ingest.inj (hdelivers.command.symm.trans hcommand)
    rw [CaseSnapshot.apply_schemaChange]
    rfl
  · cases herror
  · cases herror

theorem wp_afterAdvance {deduplicated : Bool}
    (hdelivers : Delivers environment actor event) (hprocess : actor.call.process = 0)
    (hcase : Advancing service actor caseId snapshot world)
    {post : Except Exn SchemaChangeResponse → List (Performed Op Op.Reply Exn World) → World → Prop}
    (hpost : ∀ result path after, after.HeldBy actor → post result path after) :
    (service.advanceSafelyLocked caseId event).wp ((ledgerProof service environment).logic actor)
      (AfterAdvance ((ledgerProof service environment).logic actor) post caseId deduplicated)
      path world := by
  refine Program.wp_mono (advanceSafelyLocked_stage hdelivers hprocess hcase path) ?_
  rintro (error | value) path after ⟨current, hcase, -⟩
  · exact hpost _ _ _ hcase.held
  · exact wp_respond ledgerProof_lenient hcase.held hcase.snapshot
      (fun _ _ _ _ => hpost _ _ _ hcase.held) (hpost _ _ _ hcase.held)

theorem creates {dedupKey : String} (hstarts : environment.Starts actor.call)
    (hcommand : actor.call.command = .ingest event)
    (hallowed : event.entityUrn ∈ service.settings.allowedAssetUrns)
    (hkey : dedupKey = schemaEventDedupKey service.sha256 event)
    (hprocess : actor.call.process = 0) (hheld : world.HeldBy actor)
    (hcreatable : Creatable world.store event dedupKey caseId)
    {post : Except Exn SchemaChangeResponse → List (Performed Op Op.Reply Exn World) → World → Prop}
    (hpost : ∀ result path after, after.HeldBy actor → post result path after) :
    Creates service (ledgerProof service environment) actor event dedupKey caseId post path world := by
  intro answer after hexec
  refine ⟨?_, ?_⟩
  · cases answer with
    | error error => trivial
    | ok recorded => exact .inl ⟨event, hcommand, hallowed, rfl, rfl, by rw [hkey], rfl⟩
  · cases answer with
    | error error =>
      refine fun _ => hpost _ _ _ ?_
      rw [World.HeldBy, (exec_append hexec).1]
      exact hheld
    | ok recorded =>
      have hdelivers := Delivers.of_starts hstarts hcommand
      obtain ⟨snapshot, hcase⟩ := hcreatable.detected hdelivers hheld hexec
      exact wp_afterAdvance hdelivers hprocess hcase hpost

theorem ingestLocked_wp {dedupKey : String} (hstarts : environment.Starts actor.call)
    (hcommand : actor.call.command = .ingest event)
    (hallowed : event.entityUrn ∈ service.settings.allowedAssetUrns)
    (hkey : dedupKey = schemaEventDedupKey service.sha256 event)
    (hprocess : actor.call.process = 0) (hledger : Ledger service environment world)
    (hheld : world.HeldBy actor)
    {post : Except Exn SchemaChangeResponse → List (Performed Op Op.Reply Exn World) → World → Prop}
    (hpost : ∀ result path after, after.HeldBy actor → post result path after) :
    (service.ingestLocked event dedupKey).wp ((ledgerProof service environment).logic actor) post
      path world := by
  refine wp_ingestLocked ledgerProof_lenient (fun _ _ h => h) hprocess hheld
    (fun _ _ _ _ _ => hpost _ _ _ hheld) (fun _ _ _ _ _ _ _ => hpost _ _ _ hheld)
    (fun row snapshot more _ _ hduplicate _ _ => ?_) fun caseId more _ _ hcreatable => ?_
  · have hdelivers := Delivers.of_starts hstarts hcommand
    exact wp_afterAdvance hdelivers hprocess (hduplicate.advancing hheld hledger hdelivers hkey) hpost
  · exact creates hstarts hcommand hallowed hkey hprocess hheld hcreatable hpost

theorem ingestKeyed_wp {dedupKey : String} (hstarts : environment.Starts actor.call)
    (hcommand : actor.call.command = .ingest event)
    (hallowed : event.entityUrn ∈ service.settings.allowedAssetUrns)
    (hkey : dedupKey = schemaEventDedupKey service.sha256 event)
    (hprocess : actor.call.process = 0) (hunheld : ¬world.HeldBy actor) :
    (service.ingestKeyed event dedupKey).wp ((ledgerProof service environment).logic actor)
      (fun _ _ _ => True) [] world :=
  wp_ingestKeyed ledgerProof_lenient (fun _ _ h => h) hprocess hunheld
    (fun _ _ _ _ _ => trivial) (fun _ _ _ _ _ _ _ _ _ _ _ => trivial)
    fun _ _ _ _ hledger _ => ingestLocked_wp hstarts hcommand hallowed hkey hprocess hledger.locked
      World.locked_heldBy fun _ _ _ hheld => ⟨hheld, trivial⟩

theorem ingest_cases (service : Service) (event : SchemaChangeEvent) :
    (event.entityUrn ∈ service.settings.allowedAssetUrns ∧ service.ingest event =
        service.ingestKeyed event (schemaEventDedupKey service.sha256 event)) ∨
      (event.entityUrn ∉ service.settings.allowedAssetUrns ∧ service.ingest event =
        .throw (.assetNotAllowed
          s!"Asset is outside the configured remediation allowlist: {event.entityUrn}")) := by
  rw [Service.ingest]
  by_cases hallowed : event.entityUrn ∈ service.settings.allowedAssetUrns
  · exact .inl ⟨hallowed, if_neg (not_not.2 hallowed)⟩
  · exact .inr ⟨hallowed, if_pos hallowed⟩

theorem ingest_wp {flow : Flow SchemaChangeResponse} (hflow : service.ingest event = flow)
    (hstarts : environment.Starts actor.call) (hcommand : actor.call.command = .ingest event)
    (hprocess : actor.call.process = 0) (hunheld : ¬world.HeldBy actor) :
    flow.wp ((ledgerProof service environment).logic actor) (fun _ _ _ => True) [] world := by
  have hcases := ingest_cases service event
  rw [hflow] at hcases
  rcases hcases with ⟨hallowed, rfl⟩ | ⟨-, rfl⟩
  · exact ingestKeyed_wp hstarts hcommand hallowed rfl hprocess hunheld
  · trivial

/-! ### Verifying and resetting -/

/-- How a verification of a case ends, between the worlds in which it takes and leaves the lock. -/
inductive Ending (environment : Environment) (caseId : String) (failed : Prop)
    (path : List (Performed Op Op.Reply Exn World)) (before after : World) : Prop
  | unchanged (hfailed : failed) (hstore : after.store = before.store) (h : Undisturbed path)
  | closed {snapshot : CaseSnapshot} (hsnapshot : after.store.snapshot? caseId = some snapshot)
      (hclosed : snapshot.state.closed) (h : Undisturbed path)
  | stranded {opened snapshot : CaseSnapshot} (hfailed : failed)
      (hopened : before.store.snapshot? caseId = some opened) (hopen : opened.state = .prOpen)
      (hsnapshot : after.store.snapshot? caseId = some snapshot)
      (hstate : snapshot.state = .deployed ∨ snapshot.state = .postDeployVerified)
      (h : ¬Undisturbed path ∨ environment.storeFails)

/-- The calls of a verification, from the lock to its release, and its ending. -/
def VerifyPost (environment : Environment) (caseId : String) {α : Type} (result : Except Exn α)
    (path : List (Performed Op Op.Reply Exn World)) : Prop :=
  ∃ before body after, path = [⟨.memory .acquire, .ok (), before⟩] ++ body ++
      [⟨.memory .release, .ok (), after⟩] ∧
    Ending environment caseId (result.isOk = false) path before after

theorem verify_wp {request : VerifyDeploymentRequest}
    (hcommand : actor.call.command = .verifyDeployment caseId request)
    (hprocess : actor.call.process = 0) :
    (service.verifyDeployment caseId request).wp ((ledgerProof service environment).logic actor)
      (fun result path _ => VerifyPost environment caseId result path) [] world := by
  unfold Service.verifyDeployment
  refine wp_withWorkerLock hprocess (fun _ op _ _ _ hop => by rcases hop with rfl | rfl <;> trivial)
    fun before _ _ _ _ => ?_
  have hlock : Undisturbed [⟨.memory .acquire, .ok (), before⟩] := undisturbed_single.2 nofun
  have hrelease : ∀ after, Undisturbed [⟨.memory .release, .ok (), after⟩] :=
    fun after => undisturbed_single.2 nofun
  rw [List.nil_append]
  refine wp_verifyDeploymentLocked hcommand World.locked_heldBy
    (fun error more after hheld hstore hmore => ⟨hheld, before, more, after, rfl, ?_⟩)
    fun opened hopened hopen => ⟨?_, ?_⟩
  · exact .unchanged rfl hstore ((hlock.append hmore).append (hrelease after))
  · exact fun result more after current hcase hclosed hmore _ _ => ⟨hcase.held, before, more, after,
      rfl, .closed hcase.snapshot hclosed ((hlock.append hmore).append (hrelease after))⟩
  · refine fun error more after current hcase hstate hcause => ⟨hcase.held, before, more, after, rfl,
      .stranded rfl hopened hopen hcase.snapshot hstate ?_⟩
    exact hcause.imp (fun hdisturbed hall => hdisturbed hall.of_append.1.of_append.2) And.left

theorem reset_wp {reason : String} (hprocess : actor.call.process = 0) :
    (resetService reason).wp ((ledgerProof service environment).logic actor) (fun _ _ _ => True) []
      world := by
  refine wp_withWorkerLock hprocess (fun _ op _ _ _ hop => by rcases hop with rfl | rfl <;> trivial)
    fun before _ _ _ _ => ?_
  refine wp_held World.locked_heldBy fun _ _ answer after hexec => ⟨trivial, ?_, trivial⟩
  -- the lock outlives the transaction
  have hheld : (before.locked actor).HeldBy actor := World.locked_heldBy
  rcases hexec with ⟨fresh, now, -, -, rfl⟩ | ⟨-, -, rfl⟩ <;> exact hheld

/-! ### Every run -/

/-- What a call says of its own ending. -/
def CallPost (environment : Environment) (actor : Actor Call) (result : Except Exn Response)
    (path : List (Performed Op Op.Reply Exn World)) : Prop :=
  ∀ caseId request, actor.call.command = .verifyDeployment caseId request →
    VerifyPost environment caseId result path

theorem wp_answer {flow : Flow α} {wrap : α → Response} {logic : Logic Op Op.Reply Exn World}
    {post : Except Exn α → List (Performed Op Op.Reply Exn World) → World → Prop}
    {answered : Except Exn Response → List (Performed Op Op.Reply Exn World) → World → Prop}
    (h : flow.wp logic post path world)
    (hok : ∀ value path after, post (.ok value) path after → answered (.ok (wrap value)) path after)
    (herror : ∀ error path after, post (.error error) path after →
      answered (.error error) path after) :
    (do let value ← flow; pure (wrap value) : Flow Response).wp logic answered path world := by
  rw [Program.wp_bind]
  refine Program.wp_mono h ?_
  rintro (error | value) path after hpost
  · exact herror error path after hpost
  · exact hok value path after hpost

theorem callPost_other {result : Except Exn Response}
    (h : ∀ caseId request, actor.call.command ≠ .verifyDeployment caseId request) :
    CallPost environment actor result path := fun caseId request hcommand =>
  absurd hcommand (h caseId request)

theorem program_wp (hstarts : environment.Starts actor.call) (hprocess : actor.call.process = 0)
    (hunheld : ¬world.HeldBy actor) :
    (service.program actor.call.command).wp ((ledgerProof service environment).logic actor)
      (fun result path _ => CallPost environment actor result path) [] world := by
  cases hcommand : actor.call.command with
  | ingest event =>
    have hother : ∀ caseId request, actor.call.command ≠ .verifyDeployment caseId request := by
      simp [hcommand]
    rw [Service.program]
    generalize hflow : service.ingest event = flow
    exact wp_answer (ingest_wp hflow hstarts hcommand hprocess hunheld)
      (fun _ _ _ _ => callPost_other hother) fun _ _ _ _ => callPost_other hother
  | verifyDeployment caseId request =>
    have hpost : ∀ {α : Type} {result : Except Exn α} {answer : Except Exn Response} {path},
        result.isOk = answer.isOk → VerifyPost environment caseId result path →
        CallPost environment actor answer path := by
      rintro α result answer path hsame hpost caseId' request' hcommand'
      rw [hcommand] at hcommand'
      cases hcommand'
      rw [VerifyPost, hsame] at hpost
      exact hpost
    have hwp : (service.verifyDeployment caseId request).wp
        ((ledgerProof service environment).logic actor)
        (fun result path _ => VerifyPost environment caseId result path) [] world :=
      verify_wp hcommand hprocess
    rw [Service.program]
    generalize service.verifyDeployment caseId request = flow at hwp ⊢
    exact wp_answer hwp (fun _ _ _ h => hpost rfl h) fun _ _ _ h => hpost rfl h
  | reset reason =>
    have hother : ∀ caseId request, actor.call.command ≠ .verifyDeployment caseId request := by
      simp [hcommand]
    have hwp : (resetService reason).wp ((ledgerProof service environment).logic actor)
        (fun _ _ _ => True) [] world := reset_wp hprocess
    rw [Service.program]
    generalize resetService reason = flow at hwp ⊢
    exact wp_answer hwp (fun _ _ _ _ => callPost_other hother) fun _ _ _ _ => callPost_other hother

/-- The ledger with what a call says of its ending. -/
def callProof (service : Service) (environment : Environment) :
    Exclusive service environment fun _ => True :=
  { ledgerProof service environment with
    post := fun actor result path _ => CallPost environment actor result path }

/-- The discipline of the ledger. -/
def ledgerDiscipline (service : Service) {environment : Environment} (hsingle : environment.Single) :
    Discipline (service.system environment) fun _ => True :=
  (callProof service environment).discipline hsingle fun _ _ hstarts hprocess _ _ hfresh =>
    program_wp hstarts hprocess hfresh.lock

variable {pool : ServicePool}

theorem fresh_initial (tid : Nat) : ({} : World).Fresh tid :=
  ⟨(Option.some_ne_none tid).symm, fun _ heffect => (List.not_mem_nil heffect).elim⟩

theorem ledger_sound (hsingle : environment.Single) (hreach : service.Reachable environment pool) :
    (ledgerDiscipline service hsingle).Sound {} pool :=
  Discipline.sound Ledger.initial
    (fun tid => fresh_initial tid) (fun _ _ => trivial) hreach

theorem Service.Reachable.ledger (hreach : service.Reachable environment pool)
    (hsingle : environment.Single) : Ledger service environment pool.shared :=
  (ledger_sound hsingle hreach).invariant

end

end DataRescue
