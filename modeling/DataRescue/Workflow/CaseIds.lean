import DataRescue.Workflow.Scopes

/-!
# Case ids

In one process every case is named after its dedup key: `DR-` and an upper-case prefix of the key
(`Service.Reachable.named`). So no case bears the name the resets use, and reading the cases of an asset
misses none of them.
-/

namespace DataRescue

open Python Concurrency

/-- The rows that detect a drift are named after their dedup key. -/
def World.Named (world : World) : Prop :=
  ∀ row ∈ world.store.rows, row.eventType = .schemaChangeDetected →
    ∃ key, row.dedupKey = some key ∧ IsCaseIdOf key row.caseId

/-- What an append must satisfy. -/
def Op.Names : Op → Prop
  | .store (.append caseId _ body dedupKey _) => body.eventType = .schemaChangeDetected →
    ∃ key, dedupKey = some key ∧ IsCaseIdOf key caseId
  | _ => True

section

variable {service : Service} {environment : Environment} {actor : Actor Call} {pool : ServicePool}
  {world world' : World} {caseId : String} {event : SchemaChangeEvent} {α : Type}
  {path : List (Performed Op Op.Reply Exn World)}

theorem World.Named.step {op : Op} {answer : Except Exn op.Reply} (h : world.Named)
    (hexec : op.exec environment actor world answer world') (hnames : op.Names) : world'.Named := by
  by_cases hop : ∃ caseId state body dedupKey eventId,
      op = .store (.append caseId state body dedupKey eventId)
  · obtain ⟨caseId, state, body, dedupKey, eventId, rfl⟩ := hop
    obtain ⟨-, ⟨fresh, now, -, -, hextends, -⟩ | ⟨_, _, _, -, -, -, hstore⟩ | ⟨-, -, hstore⟩⟩ :=
      exec_append hexec
    · intro row hrow htype
      rcases hextends.mem.1 hrow with hold | rfl
      · exact h row hold htype
      · exact hnames htype
    · intro row hrow
      rw [hstore] at hrow
      exact h row hrow
    · intro row hrow
      rw [hstore] at hrow
      exact h row hrow
  · rcases exec_other hexec (by simpa using hop) with hstore | ⟨fresh, now, reason, -, -, hextends⟩
    · intro row hrow
      rw [hstore] at hrow
      exact h row hrow
    · intro row hrow htype
      rcases hextends.mem.1 hrow with hold | rfl
      · exact h row hold htype
      · cases htype

/-- The names of the cases. -/
def nameProof (service : Service) (environment : Environment) :
    Exclusive service environment (Ledger service environment) where
  invariant := World.Named
  licence _ _ op _ _ _ := op.Names
  post _ _ _ _ := True
  preserved _ _ _ _ _ _ _ _ _ hinvariant _ hexec hlicence := hinvariant.step hexec hlicence
  crash before killed after _ _ hinvariant hcrash := by
    obtain ⟨-, process, -, -, rfl⟩ := hcrash
    exact hinvariant

theorem Op.names_of_passive {op : Op} (h : op.passive = true) : op.Names := by
  cases op with
  | store op => cases op <;> trivial
  | memory op => trivial
  | adapter op => trivial

theorem nameProof_lenient : (nameProof service environment).Lenient :=
  fun _ _ _ _ _ _ h => Op.names_of_passive h

/-- An operation of a critical section that creates no case. -/
def Op.Settled (op : Op) : Prop := op.working = true ∧ op.Names

theorem Op.DuringAdvance.settled {op : Op} (h : op.DuringAdvance caseId) : op.Settled := by
  refine ⟨Op.working_of_plain h.plain, ?_⟩
  rcases h with h | ⟨_, _, rfl⟩ | ⟨_, rfl⟩
  · cases op with
    | store op =>
      cases op with
      | append id state body dedupKey eventId =>
        intro hdetected
        have htype : body.eventType.duringAdvance = true := h.2.2.2
        rw [hdetected] at htype
        cases htype
      | _ => trivial
    | memory op => trivial
    | adapter op => trivial
  · trivial
  · trivial

theorem Op.DuringVerification.settled {op : Op} (h : op.DuringVerification caseId) : op.Settled := by
  refine ⟨h.working, ?_⟩
  cases op with
  | store op =>
    cases op with
    | append id state body dedupKey eventId =>
      intro hdetected
      have htype : body.eventType.duringVerification = true := h.2.2.2
      rw [hdetected] at htype
      cases htype
    | _ => trivial
  | memory op => trivial
  | adapter op => trivial

theorem wp_settled {flow : Flow α}
    {post : Except Exn α → List (Performed Op Op.Reply Exn World) → World → Prop}
    (huses : flow.Uses Op.Settled) (hheld : world.HeldBy actor)
    (hpost : ∀ result path after, after.HeldBy actor → post result path after) :
    flow.wp ((nameProof service environment).logic actor) post path world := by
  refine Program.wp_of_trace (fun _ _ world => world.HeldBy actor) [] huses hheld ?_
    fun _ result path after _ hafter => hpost result path after hafter
  rintro calls path state before op answer after ⟨hworking, hnames⟩ hheld ⟨hrely, -, -⟩ hexec
  obtain rfl := hrely.frozen hheld
  exact ⟨⟨.inr hheld, hnames⟩, (exec_working hworking hheld hexec).1⟩

theorem advanceSafelyLocked_settled :
    (service.advanceSafelyLocked caseId event).Uses Op.Settled := by
  unfold Service.advanceSafelyLocked
  refine .bind (.call ⟨rfl, trivial⟩ fun answer => .done answer) fun _ =>
    .tryFinally (uses_exceptException ?_ fun error => ?_)
      fun result => .call ⟨rfl, trivial⟩ fun answer => .done answer
  · exact advance_uses.mono fun _ h => h.settled
  · exact recordFailure_uses.mono fun _ h => Op.DuringAdvance.settled (.inl h)

theorem wp_settledAdvance {deduplicated : Bool} (hheld : world.HeldBy actor)
    {post : Except Exn SchemaChangeResponse → List (Performed Op Op.Reply Exn World) → World → Prop}
    (hpost : ∀ result path after, after.HeldBy actor → post result path after) :
    (service.advanceSafelyLocked caseId event).wp ((nameProof service environment).logic actor)
      (AfterAdvance ((nameProof service environment).logic actor) post caseId deduplicated)
      path world := by
  refine wp_settled advanceSafelyLocked_settled hheld fun result path after hafter => ?_
  cases result with
  | error error => exact hpost _ _ _ hafter
  | ok value =>
    refine wp_settled ?_ hafter hpost
    exact .bind (uses_store ⟨rfl, trivial⟩) fun _ => uses_pure

theorem ingestLocked_names {dedupKey : String} (hprocess : actor.call.process = 0)
    (hheld : world.HeldBy actor)
    {post : Except Exn SchemaChangeResponse → List (Performed Op Op.Reply Exn World) → World → Prop}
    (hpost : ∀ result path after, after.HeldBy actor → post result path after) :
    (service.ingestLocked event dedupKey).wp ((nameProof service environment).logic actor) post
      path world := by
  refine wp_ingestLocked nameProof_lenient (fun _ h _ => h) hprocess hheld
    (fun _ _ _ _ _ => hpost _ _ _ hheld) (fun _ _ _ _ _ _ _ => hpost _ _ _ hheld)
    (fun row snapshot more _ _ _ _ _ => wp_settledAdvance hheld hpost)
    fun created more _ _ hcreatable answer after hexec => ⟨?_, ?_⟩
  · exact fun _ => ⟨dedupKey, rfl, hcreatable.width⟩
  · have hheld' : after.HeldBy actor := by
      rw [World.HeldBy, (exec_append hexec).1]
      exact hheld
    cases answer with
    | error error => exact fun _ => hpost _ _ _ hheld'
    | ok recorded => exact wp_settledAdvance hheld' hpost

/-! ### Every run -/

theorem program_names (hprocess : actor.call.process = 0) (hfresh : world.Fresh actor.tid) :
    (service.program actor.call.command).wp ((nameProof service environment).logic actor)
      (fun _ _ _ => True) [] world := by
  have hlenient : (nameProof service environment).Lenient := nameProof_lenient
  cases actor.call.command with
  | ingest event =>
    rw [Service.program]
    generalize hflow : service.ingest event = flow
    have hcases := ingest_cases service event
    rw [hflow] at hcases
    have hwp : flow.wp ((nameProof service environment).logic actor) (fun _ _ _ => True) [] world := by
      rcases hcases with ⟨-, rfl⟩ | ⟨-, rfl⟩
      · refine wp_ingestKeyed hlenient (fun _ hknown _ => hknown) hprocess hfresh.lock
          (fun _ _ _ _ _ => trivial) (fun _ _ _ _ _ _ _ _ _ _ _ => trivial)
          fun more before hrely _ _ _ => ?_
        exact ingestLocked_names hprocess World.locked_heldBy fun _ _ _ hheld => ⟨hheld, trivial⟩
      · trivial
    exact wp_answer hwp (fun _ _ _ _ => trivial) fun _ _ _ _ => trivial
  | verifyDeployment caseId request =>
    have hwp : (service.verifyDeployment caseId request).wp
        ((nameProof service environment).logic actor) (fun _ _ _ => True) [] world := by
      unfold Service.verifyDeployment
      refine wp_withWorkerLock hprocess (fun _ op _ _ _ hop => ?_) fun before hrely _ _ _ => ?_
      · exact hlenient _ _ _ _ _ _ (by rcases hop with rfl | rfl <;> rfl)
      exact wp_settled (verifyDeploymentLocked_uses.mono fun _ h => h.settled)
        World.locked_heldBy fun _ _ _ hheld => ⟨hheld, trivial⟩
    rw [Service.program]
    generalize service.verifyDeployment caseId request = flow at hwp ⊢
    exact wp_answer hwp (fun _ _ _ _ => trivial) fun _ _ _ _ => trivial
  | reset reason =>
    have hwp : (resetService reason).wp ((nameProof service environment).logic actor)
        (fun _ _ _ => True) [] world := by
      refine wp_withWorkerLock hprocess (fun _ op _ _ _ hop => ?_) fun before hrely _ _ _ => ?_
      · exact hlenient _ _ _ _ _ _ (by rcases hop with rfl | rfl <;> rfl)
      refine wp_held World.locked_heldBy fun _ _ answer after hexec => ⟨trivial, ?_, trivial⟩
      have hheld : (before.locked actor).HeldBy actor := World.locked_heldBy
      rcases hexec with ⟨_, _, -, -, rfl⟩ | ⟨-, -, rfl⟩ <;> exact hheld
    rw [Service.program]
    generalize resetService reason = flow at hwp ⊢
    exact wp_answer hwp (fun _ _ _ _ => trivial) fun _ _ _ _ => trivial

/-- The discipline of the names. -/
def nameDiscipline (service : Service) {environment : Environment} (hsingle : environment.Single) :
    Discipline (service.system environment) (Ledger service environment) :=
  (nameProof service environment).discipline hsingle fun _ _ _ hprocess _ _ hfresh =>
    program_names hprocess hfresh

variable {pool : ServicePool}

theorem Service.Reachable.named (hreach : service.Reachable environment pool)
    (hsingle : environment.Single) : pool.shared.Named := by
  have hinitial : World.Named {} := fun row hrow => absurd hrow List.not_mem_nil
  have hsound : (nameDiscipline service hsingle).Sound {} pool :=
    Discipline.sound hinitial (fun tid => fresh_initial tid)
      (fun _ hreach => Service.Reachable.ledger hreach hsingle) hreach
  exact hsound.invariant

theorem IsCaseIdOf.ne_system {key : String} (h : IsCaseIdOf key caseId) : caseId ≠ "__system__" := by
  obtain ⟨width, -, rfl⟩ := h
  intro heq
  have hhead := congrArg (fun id : String => id.toList.head?) heq
  rw [caseIdOfWidth, String.toList_ofList] at hhead
  simp at hhead

theorem Service.Reachable.listed (hreach : service.Reachable environment pool)
    (hsingle : environment.Single) (hlog : pool.shared.store.log caseId ≠ []) :
    caseId ∈ pool.shared.store.activeCaseIds := by
  refine Store.mem_activeCaseIds.2 ⟨?_, hlog⟩
  obtain ⟨snapshot, hchain⟩ := (hreach.ledger hsingle).cases caseId hlog
  obtain ⟨first, rest, hrooted, hfirst, -⟩ := hchain.rooted
  have hmem : first ∈ pool.shared.store.log caseId := by
    rw [hrooted]
    exact List.mem_cons_self
  obtain ⟨row, hrow, hcase, -, rfl⟩ := Store.mem_log.1 hmem
  obtain ⟨key, -, hname⟩ := hreach.named hsingle row hrow hfirst
  rw [hcase] at hname
  exact hname.ne_system

end

end DataRescue
