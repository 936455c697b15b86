import DataRescue.Workflow.Checkpoint
import DataRescue.Workflow.Exclusive

/-!
# The ledger

The law of every visible case log: it starts with one detection, and each later event is `Allowed` for
the snapshot of the events before it, because the checkpoint machine names it, because an advance was
aborted, or because a verification takes its next step. The reasons are those of the call that wrote the
event, and lie before it (`Written`). `Ledger` says so of a whole world, and `Licence` is what one append
must satisfy to keep it.
-/

namespace DataRescue

open Python Concurrency

section

variable (service : Service) (environment : Environment) (history : List Effect)

/-- A thread made these calls, in this order and in one reset scope. -/
def Made (actor : Actor Call) (scope : Nat) (calls : List (Exchange Op Op.Reply Exn)) : Prop :=
  (calls.map fun call => (⟨actor, scope, call.1, call.2⟩ : Effect)).Sublist history

/-- An adapter gave this answer to this call. -/
def Answered (actor : Actor Call) (op : AdapterOp) (answer : Except Exn op.Reply) : Prop :=
  ∃ scope, (⟨actor, scope, .adapter op, answer⟩ : Effect) ∈ history

/-- The call delivers this event. -/
structure Delivers (actor : Actor Call) (event : SchemaChangeEvent) : Prop where
  command : actor.call.command = .ingest event
  starts : environment.commands (.ingest event)

/-- An ingest of this call has the dedup key of the case. -/
def Concerns (actor : Actor Call) (snapshot : CaseSnapshot) : Prop :=
  ∀ event, actor.call.command = .ingest event →
    schemaEventDedupKey service.sha256 event = schemaEventDedupKey service.sha256 snapshot.schemaChange

/-- What makes an advance raise: a failing transaction, an adapter, or the machine itself. -/
def Cause (caseId : String) (snapshot : CaseSnapshot) (actor : Actor Call)
    (event : SchemaChangeEvent) (error : Exn) : Prop :=
  environment.storeFails ∨ (∃ op, Answered history actor op (.error error)) ∨
    (service.advanceStep caseId event snapshot).Outcome (Answered history actor) (.error error)

/-- A verification decides on this evidence for a case, which it obtained by these calls. -/
structure Evidenced (caseId : String) (snapshot : CaseSnapshot) (actor : Actor Call)
    (evidence : DeploymentEvidence) (calls : List (Exchange Op Op.Reply Exn)) : Prop where
  request : ∃ request, actor.call.command = .verifyDeployment caseId request ∧
    (service.deploymentEvidence snapshot request).Trace calls (.ok evidence)

/-- What the policy engine makes of the evidence. -/
def DeploymentEvidence.decision (evidence : DeploymentEvidence) : PolicyDecision :=
  PolicyEngine.evaluate service.policy evidence.semanticVerdict evidence.reconciliation evidence.build
    evidence.lineageCurrent

/-- The calls that close a verified case. -/
def closingCalls (caseId : String) (snapshot : CaseSnapshot) (evidence : DeploymentEvidence)
    (writeback resolution : IntegrationResult) : List (Exchange Op Op.Reply Exn) :=
  [⟨.adapter (.writeEvidenceReport snapshot.assetUrn caseId
      (.recovered evidence.verifiedCommit (evidence.decision service).checks) false), .ok writeback⟩,
    ⟨.adapter (.resolveIncident snapshot.incidentUrn), .ok resolution⟩]

/-- The events a call may give a case with this snapshot. -/
inductive Allowed (actor : Actor Call) (caseId : String) (snapshot : CaseSnapshot) :
    EventBody → CaseState → Prop
  | advanced {event : SchemaChangeEvent} {emission : Emission} {body : EventBody} {state : CaseState}
      (hdelivers : Delivers environment actor event)
      (houtcome : (service.advanceStep caseId event snapshot).Outcome (Answered history actor)
        (.ok (some emission)))
      (hrecords : emission.Records body state) : Allowed actor caseId snapshot body state
  | aborted {event : SchemaChangeEvent} {error : Exn} (hdelivers : Delivers environment actor event)
      (hopen : ¬snapshot.state.closed)
      (hcause : Cause service environment history caseId snapshot actor event error) :
      Allowed actor caseId snapshot (.failed (some error.typeName)
        "Workflow execution failed; inspect server logs for details" none) .failed
  | deployed {scope : Nat} {evidence : DeploymentEvidence} {calls : List (Exchange Op Op.Reply Exn)}
      (hstate : snapshot.state = .prOpen) (hselected : snapshot.selectedCandidate ≠ none)
      (hevidence : Evidenced service caseId snapshot actor evidence calls)
      (hmade : Made history actor scope calls) :
      Allowed actor caseId snapshot
        (.deploymentRecorded evidence.verifiedCommit evidence.evidenceMode) .deployed
  | refused {scope : Nat} {evidence : DeploymentEvidence} {calls : List (Exchange Op Op.Reply Exn)}
      (reasons : List String) (writeback : IntegrationResult) (hstate : snapshot.state = .deployed)
      (hevidence : Evidenced service caseId snapshot actor evidence calls)
      (hmade : Made history actor scope calls)
      (hcommit : snapshot.deploymentCommit = some evidence.verifiedCommit)
      (hrejected : (evidence.decision service).accepted = false) :
      Allowed actor caseId snapshot (.contained reasons writeback 75) .contained
  | verified {scope : Nat} {evidence : DeploymentEvidence} {calls : List (Exchange Op Op.Reply Exn)}
      (hstate : snapshot.state = .deployed)
      (hevidence : Evidenced service caseId snapshot actor evidence calls)
      (hmade : Made history actor scope calls)
      (hcommit : snapshot.deploymentCommit = some evidence.verifiedCommit)
      (haccepted : (evidence.decision service).accepted = true) :
      Allowed actor caseId snapshot
        (.postDeployVerified evidence.verifiedCommit evidence.evidenceMode evidence.reconciliation
          evidence.build (evidence.decision service).checks) .postDeployVerified
  | unresolved (message : String) (integration : IntegrationResult)
      (hstate : snapshot.state = .postDeployVerified) :
      Allowed actor caseId snapshot (.failed none message (some integration)) .failed
  | resolved {scope : Nat} {evidence : DeploymentEvidence} {calls : List (Exchange Op Op.Reply Exn)}
      {writeback resolution : IntegrationResult} (hstate : snapshot.state = .postDeployVerified)
      (hevidence : Evidenced service caseId snapshot actor evidence calls)
      (hmade : Made history actor scope
        (calls ++ closingCalls service caseId snapshot evidence writeback resolution))
      (hcommit : snapshot.deploymentCommit = some evidence.verifiedCommit)
      (haccepted : (evidence.decision service).accepted = true)
      (hlive : snapshot.liveIncident = true →
        writeback.status = .succeeded ∧ resolution.status = .succeeded) :
      Allowed actor caseId snapshot (.incidentResolved resolution) .resolved

/-- A call wrote the event, which it might do at that time. -/
def Written (caseId : String) (snapshot : CaseSnapshot) (event : CaseEvent) (state : CaseState) : Prop :=
  ∃ past actor scope rest,
    history = past ++
      ⟨actor, scope, .store (.append caseId state event.body none none), .ok event⟩ :: rest ∧
    Concerns service actor snapshot ∧
    Allowed service environment past actor caseId snapshot event.body state

/-- A lawful case log and its snapshot. -/
inductive Chain (caseId : String) : List CaseEvent → CaseSnapshot → Prop
  | detected {event : CaseEvent} {schemaChange : SchemaChangeEvent}
      (hbody : event.body = detectionPayload schemaChange caseId)
      (hstate : event.state = some .detected) (hcase : event.caseId = caseId)
      (hstarts : environment.commands (.ingest schemaChange))
      (hallowed : schemaChange.entityUrn ∈ service.settings.allowedAssetUrns) :
      Chain caseId [event]
        ((CaseSnapshot.start event schemaChange ("urn:li:dataRescueIncident:" ++ caseId)).apply event)
  | step {log : List CaseEvent} {snapshot : CaseSnapshot} {event : CaseEvent} {state : CaseState}
      (h : Chain caseId log snapshot) (hcase : event.caseId = caseId)
      (hstate : event.state = some state)
      (hwritten : Written service environment history caseId snapshot event state) :
      Chain caseId (log ++ [event]) (snapshot.apply event)

end

section

variable {service : Service} {environment : Environment} {history history' : List Effect}
  {caseId : String} {snapshot : CaseSnapshot} {body : EventBody} {state : CaseState}
  {log : List CaseEvent} {actor : Actor Call} {event : SchemaChangeEvent} {error : Exn}

theorem Made.mono (hhistory : history <+: history') {scope : Nat}
    {calls : List (Exchange Op Op.Reply Exn)} (h : Made history actor scope calls) :
    Made history' actor scope calls := List.Sublist.trans h hhistory.sublist

theorem Answered.mono (hhistory : history <+: history') {op : AdapterOp} {answer : Except Exn op.Reply}
    (h : Answered history actor op answer) : Answered history' actor op answer :=
  h.imp fun _ h => hhistory.subset h

theorem Cause.mono (hhistory : history <+: history')
    (h : Cause service environment history caseId snapshot actor event error) :
    Cause service environment history' caseId snapshot actor event error :=
  h.imp_right fun h => h.imp (fun ⟨op, h⟩ => ⟨op, h.mono hhistory⟩)
    fun h => h.mono fun _ _ h => h.mono hhistory

theorem Allowed.mono (hhistory : history <+: history')
    (h : Allowed service environment history actor caseId snapshot body state) :
    Allowed service environment history' actor caseId snapshot body state := by
  cases h with
  | advanced hdelivers houtcome hrecords =>
    exact .advanced hdelivers (houtcome.mono fun _ _ h => h.mono hhistory) hrecords
  | aborted hdelivers hopen hcause => exact .aborted hdelivers hopen (hcause.mono hhistory)
  | deployed hstate hselected hevidence hmade =>
    exact .deployed hstate hselected hevidence (hmade.mono hhistory)
  | refused _ _ hstate hevidence hmade hcommit hrejected =>
    exact .refused _ _ hstate hevidence (hmade.mono hhistory) hcommit hrejected
  | verified hstate hevidence hmade hcommit haccepted =>
    exact .verified hstate hevidence (hmade.mono hhistory) hcommit haccepted
  | unresolved _ _ hstate => exact .unresolved _ _ hstate
  | resolved hstate hevidence hmade hcommit haccepted hlive =>
    exact .resolved hstate hevidence (hmade.mono hhistory) hcommit haccepted hlive

theorem Written.mono {recorded : CaseEvent} (hhistory : history <+: history')
    (h : Written service environment history caseId snapshot recorded state) :
    Written service environment history' caseId snapshot recorded state := by
  obtain ⟨past, actor, scope, rest, rfl, hconcerns, hallowed⟩ := h
  obtain ⟨more, rfl⟩ := hhistory
  exact ⟨past, actor, scope, rest ++ more, by simp, hconcerns, hallowed⟩

theorem Written.allowed {recorded : CaseEvent}
    (h : Written service environment history caseId snapshot recorded state) :
    ∃ actor, Allowed service environment history actor caseId snapshot recorded.body state := by
  obtain ⟨past, actor, scope, rest, rfl, -, hallowed⟩ := h
  exact ⟨actor, hallowed.mono (List.prefix_append ..)⟩

theorem Chain.mono (hhistory : history <+: history')
    (h : Chain service environment history caseId log snapshot) :
    Chain service environment history' caseId log snapshot := by
  induction h with
  | detected hbody hstate hcase hstarts hallowed =>
    exact .detected hbody hstate hcase hstarts hallowed
  | step _ hcase hstate hwritten ih => exact ih.step hcase hstate (hwritten.mono hhistory)

theorem Allowed.transition (h : Allowed service environment history actor caseId snapshot body state)
    (hconsistent : Consistent snapshot) : Transition (some snapshot.state) state := by
  cases h with
  | advanced _ houtcome hrecords =>
    rw [hrecords.state_eq]
    exact (advanceStep_inv houtcome).transition hconsistent
  | aborted _ hopen => exact .inr (CaseState.contained_failed_mem hopen).2
  | deployed hstate => exact .inr (by simp [hstate, CaseState.allowedTransitions])
  | refused _ _ hstate => exact .inr (by simp [hstate, CaseState.allowedTransitions])
  | verified hstate => exact .inr (by simp [hstate, CaseState.allowedTransitions])
  | unresolved _ _ hstate => exact .inr (by simp [hstate, CaseState.allowedTransitions])
  | resolved hstate => exact .inr (by simp [hstate, CaseState.allowedTransitions])

theorem Allowed.consistent (h : Allowed service environment history actor caseId snapshot body state)
    (hconsistent : Consistent snapshot) {recorded : CaseEvent} (hbody : recorded.body = body)
    (hstate : recorded.state = some state) : Consistent (snapshot.apply recorded) := by
  cases h with
  | advanced _ houtcome hrecords =>
    exact (advanceStep_inv houtcome).consistent hconsistent hrecords hbody hstate
  | _ => simp [Consistent, hstate]

theorem Allowed.eventType (h : Allowed service environment history actor caseId snapshot body state) :
    body.eventType ≠ .schemaChangeDetected ∧ body.eventType ≠ .systemReset := by
  cases h with
  | advanced _ houtcome hrecords =>
    cases advanceStep_inv houtcome <;> cases hrecords <;> simp [EventBody.eventType]
  | _ => simp [EventBody.eventType]

theorem Concerns.apply (h : Concerns service actor snapshot) (recorded : CaseEvent) :
    Concerns service actor (snapshot.apply recorded) := by
  rw [Concerns, CaseSnapshot.apply_schemaChange]
  exact h

theorem Chain.project (h : Chain service environment history caseId log snapshot) :
    projectCase log = some snapshot := by
  induction h with
  | detected hbody => exact projectCase_singleton hbody
  | step _ _ _ _ ih => exact projectCase_snoc ih _

theorem Chain.consistent (h : Chain service environment history caseId log snapshot) :
    Consistent snapshot := by
  induction h with
  | detected hbody hstate =>
    simp [Consistent, hstate, CaseSnapshot.apply, hbody, detectionPayload, CaseSnapshot.applyBody,
      CaseSnapshot.start]
  | step _ _ hstate hwritten ih =>
    obtain ⟨_, hallowed⟩ := hwritten.allowed
    exact hallowed.consistent ih rfl hstate

theorem Chain.lastState (h : Chain service environment history caseId log snapshot) :
    (log.filterMap CaseEvent.state).getLast? = some snapshot.state := by
  cases h with
  | detected _ hstate => simp [hstate]
  | step _ _ hstate => simp [hstate]

theorem Chain.id (h : Chain service environment history caseId log snapshot) :
    snapshot.id = caseId := by
  induction h with
  | detected _ _ hcase => simpa [CaseSnapshot.start] using hcase
  | step _ _ _ _ ih => simpa using ih

/-- A lawful log is rooted: a detection, and no other one. -/
theorem Chain.rooted (h : Chain service environment history caseId log snapshot) :
    ∃ first rest, log = first :: rest ∧ first.eventType = .schemaChangeDetected ∧
      ∀ event ∈ rest, event.eventType ≠ .schemaChangeDetected := by
  induction h with
  | @detected event schemaChange hbody =>
    exact ⟨event, [], rfl, by rw [CaseEvent.eventType, hbody]; rfl, by simp⟩
  | @step log snapshot event state _ _ _ hwritten ih =>
    obtain ⟨_, hallowed⟩ := hwritten.allowed
    obtain ⟨first, rest, rfl, hfirst, hrest⟩ := ih
    refine ⟨first, rest ++ [event], rfl, hfirst, fun other hother => ?_⟩
    rcases List.mem_append.1 hother with hother | hother
    · exact hrest other hother
    · rw [List.mem_singleton.1 hother]
      exact hallowed.eventType.1

end

/-- The schema change of a case is that of its detection. -/
theorem Chain.schemaChange (h : Chain service environment history caseId log snapshot)
    {recorded : CaseEvent} {detected : SchemaChangeEvent} (hmem : recorded ∈ log)
    (hbody : recorded.body = detectionPayload detected caseId) : snapshot.schemaChange = detected := by
  induction h with
  | detected hfirst =>
    obtain rfl := List.mem_singleton.1 hmem
    rw [hfirst] at hbody
    cases hbody
    simp [CaseSnapshot.start]
  | step _ _ _ hwritten ih =>
    rw [CaseSnapshot.apply_schemaChange]
    rcases List.mem_append.1 hmem with hmem | hmem
    · exact ih hmem
    · obtain ⟨_, hallowed⟩ := hwritten.allowed
      rw [← List.mem_singleton.1 hmem, hbody] at hallowed
      exact absurd rfl hallowed.eventType.1

/-! ### The invariant -/

/-- Every visible case log is lawful, and the rows with a dedup key are detections of its event. -/
structure Ledger (service : Service) (environment : Environment) (world : World) : Prop where
  coherent : world.store.Coherent
  keyed : ∀ row ∈ world.store.rows, ∀ key, row.dedupKey = some key → ∃ event : SchemaChangeEvent,
    row.body = detectionPayload event row.caseId ∧
      key = schemaEventDedupKey service.sha256 event
  cases : ∀ caseId, world.store.log caseId ≠ [] →
    ∃ snapshot, Chain service environment world.history caseId (world.store.log caseId) snapshot
  answers : ∀ actor op answer, Answered world.history actor op answer → environment.answers op answer

/-- What a call may append: the detection of its event, or an allowed event. -/
def Licence (service : Service) (environment : Environment) (actor : Actor Call) :
    (op : Op) → World → Except Exn op.Reply → Prop
  | .store (.append caseId state body dedupKey eventId), world, .ok _ =>
    (∃ event, actor.call.command = .ingest event ∧
      event.entityUrn ∈ service.settings.allowedAssetUrns ∧
      body = detectionPayload event caseId ∧ state = .detected ∧
      dedupKey = some (schemaEventDedupKey service.sha256 event) ∧ eventId = event.eventId) ∨
    (dedupKey = none ∧ eventId = none ∧ ∃ snapshot, world.store.snapshot? caseId = some snapshot ∧
      Concerns service actor snapshot ∧
      Allowed service environment world.history actor caseId snapshot body state)
  | _, _, _ => True

section

variable {service : Service} {environment : Environment} {actor : Actor Call}
  {world world' : World} {caseId : String} {state : CaseState} {body : EventBody}
  {dedupKey eventId : Option String}

theorem exec_append {answer : Except Exn CaseEvent}
    (h : (Op.store (.append caseId state body dedupKey eventId)).exec environment actor world answer
      world') :
    world'.memory = world.memory ∧
      ((∃ fresh now, world.store.FreshId fresh ∧
          world.store.Accepted caseId state body dedupKey (Store.chosenEventId eventId fresh) ∧
          Store.Extends world.store
            (world.store.appended fresh now caseId state body dedupKey eventId) world'.store ∧
          answer =
            .ok (world.store.appended fresh now caseId state body dedupKey eventId).event) ∨
        (∃ fresh now error, world.store.FreshId fresh ∧ answer = .error (.store error) ∧
          world.store.append fresh now caseId state body dedupKey eventId = .error error ∧
          world'.store = world.store) ∨
        (environment.storeFails ∧ (∃ typeName, answer = .error (.external .other typeName)) ∧
          world'.store = world.store)) := by
  rcases h with ⟨fresh, now, hfresh, hanswer, rfl⟩ | ⟨hfails, hanswer, rfl⟩
  · refine ⟨rfl, ?_⟩
    simp only [StoreOp.run] at hanswer ⊢
    cases happend : world.store.append fresh now caseId state body dedupKey eventId with
    | error error =>
      rw [happend] at hanswer
      exact .inr (.inl ⟨fresh, now, error, hfresh, hanswer, happend, rfl⟩)
    | ok written =>
      obtain ⟨recorded, written⟩ := written
      obtain ⟨haccepted, hextends, rfl⟩ := Store.append_ok.1 happend
      rw [happend] at hanswer
      exact .inl ⟨fresh, now, hfresh, haccepted, hextends, hanswer⟩
  · exact ⟨rfl, .inr (.inr ⟨hfails, hanswer, rfl⟩)⟩

theorem exec_other {op : Op} {answer : Except Exn op.Reply}
    (h : op.exec environment actor world answer world')
    (hop : ∀ caseId state body dedupKey eventId,
      op ≠ .store (.append caseId state body dedupKey eventId)) :
    world'.store = world.store ∨ ∃ fresh now reason, world.store.FreshId fresh ∧
      op = .store (.reset reason) ∧
      Store.Extends world.store (world.store.resetRow fresh now reason) world'.store := by
  cases op with
  | store op =>
    rcases h with ⟨fresh, now, hfresh, -, rfl⟩ | ⟨-, -, rfl⟩
    · cases op with
      | append caseId state body dedupKey eventId => exact absurd rfl (hop _ _ _ _ _)
      | reset reason =>
        simp only [StoreOp.run]
        cases hreset : world.store.reset fresh now reason with
        | error error => exact .inl rfl
        | ok written =>
          exact .inr ⟨fresh, now, reason, hfresh, rfl, (Store.reset_ok hreset).1⟩
      | _ => exact .inl rfl
    · exact .inl rfl
  | memory op =>
    obtain ⟨reply, memory, rfl, -, rfl⟩ := h
    exact .inl rfl
  | adapter op =>
    obtain ⟨-, rfl⟩ := h
    exact .inl rfl

theorem exec_history_grows {op : Op} {answer : Except Exn op.Reply}
    (h : op.exec environment actor world answer world') : world.history <+: world'.history := by
  rw [exec_history h]
  exact history_prefix op answer

theorem Ledger.getCase (h : Ledger service environment world) {snapshot : CaseSnapshot}
    (hsnapshot : world.store.snapshot? caseId = some snapshot) :
    Chain service environment world.history caseId (world.store.log caseId) snapshot := by
  have hlog : world.store.log caseId ≠ [] := by
    intro hlog
    rw [Store.snapshot?, hlog] at hsnapshot
    cases hsnapshot
  obtain ⟨found, hchain⟩ := h.cases caseId hlog
  have hfound := hchain.project
  rw [← Store.snapshot?, hsnapshot] at hfound
  exact Option.some.inj hfound ▸ hchain

theorem Ledger.answers_step (h : Ledger service environment world) {op : Op}
    {answer : Except Exn op.Reply} (hexec : op.exec environment actor world answer world') :
    ∀ actor op answer, Answered world'.history actor op answer → environment.answers op answer := by
  rintro caller adapter reply ⟨scope, heffect⟩
  rw [exec_history hexec] at heffect
  rcases mem_record heffect with hold | hnew
  · exact h.answers caller adapter reply ⟨scope, hold⟩
  · cases hnew
    exact hexec.1

theorem Ledger.step (h : Ledger service environment world) {op : Op} {answer : Except Exn op.Reply}
    (hstarts : environment.Starts actor.call)
    (hexec : op.exec environment actor world answer world')
    (hlicence : Licence service environment actor op world answer) :
    Ledger service environment world' := by
  have hhistory := exec_history_grows hexec
  have hanswers := h.answers_step hexec
  have hsame : world'.store = world.store → Ledger service environment world' := by
    intro hstore
    refine ⟨hstore ▸ h.coherent, hstore ▸ h.keyed, fun caseId hlog => ?_, hanswers⟩
    rw [hstore] at hlog ⊢
    obtain ⟨snapshot, hchain⟩ := h.cases caseId hlog
    exact ⟨snapshot, hchain.mono hhistory⟩
  by_cases hop : ∃ caseId state body dedupKey eventId,
      op = .store (.append caseId state body dedupKey eventId)
  · obtain ⟨caseId, state, body, dedupKey, eventId, rfl⟩ := hop
    obtain ⟨-, hwritten | ⟨_, _, _, -, -, -, hstore⟩ | ⟨-, -, hstore⟩⟩ := exec_append hexec
    · obtain ⟨fresh, now, -, haccepted, hextends, rfl⟩ := hwritten
      have htype : (world.store.appended fresh now caseId state body dedupKey eventId).eventType ≠
          .systemReset := by
        rcases hlicence with ⟨_, _, _, rfl, _⟩ | ⟨_, _, _, _, _, hallowed⟩
        · simp [Row.eventType, Store.appended, detectionPayload, EventBody.eventType]
        · exact hallowed.eventType.2
      refine ⟨h.coherent.append hextends htype rfl (by simp [Store.appended]), fun row hrow key hkey => ?_,
        fun other hlog => ?_, hanswers⟩
      · rcases hextends.mem.1 hrow with hold | rfl
        · exact h.keyed row hold key hkey
        · rcases hlicence with ⟨event, -, -, rfl, -, rfl, -⟩ | ⟨rfl, -, -⟩
          · exact ⟨event, rfl, (Option.some.inj hkey).symm⟩
          · cases hkey
      rw [hextends.log htype] at hlog ⊢
      by_cases hother : caseId = other
      · subst hother
        simp only [Store.appended, ↓reduceIte] at hlog ⊢
        rcases hlicence with ⟨event, hcommand, hurn, rfl, rfl, -, -⟩ |
          ⟨rfl, rfl, snapshot, hsnapshot, hconcerns, hallowed⟩
        · have hnone := haccepted.detection rfl
          rw [Store.currentState_eq] at hnone
          have hempty : world.store.log caseId = [] := by
            by_contra hne
            obtain ⟨snapshot, hchain⟩ := h.cases caseId hne
            rw [hchain.lastState] at hnone
            cases hnone
          rw [hempty]
          exact ⟨_, .detected rfl rfl rfl (hcommand ▸ hstarts.command) hurn⟩
        · refine ⟨_, ((h.getCase hsnapshot).mono hhistory).step rfl rfl ?_⟩
          exact ⟨world.history, actor, world.store.currentScope, [], exec_history hexec, hconcerns,
            hallowed⟩
      · simp only [Store.appended, hother, ↓reduceIte, List.append_nil] at hlog ⊢
        obtain ⟨snapshot, hchain⟩ := h.cases other hlog
        exact ⟨snapshot, hchain.mono hhistory⟩
    · exact hsame hstore
    · exact hsame hstore
  · rcases exec_other hexec (by simpa using hop) with hstore | ⟨fresh, now, reason, -, -, hextends⟩
    · exact hsame hstore
    · refine ⟨h.coherent.extends_reset hextends rfl rfl ⟨rfl, rfl⟩, fun row hrow key hkey => ?_,
        fun caseId hlog => absurd (hextends.log_reset rfl caseId) hlog, hanswers⟩
      rcases hextends.mem.1 hrow with hold | rfl
      · exact h.keyed row hold key hkey
      · cases hkey

theorem Ledger.initial : Ledger service environment {} where
  coherent := Store.coherent_empty
  keyed row hrow := absurd hrow (List.not_mem_nil)
  cases caseId hlog := absurd rfl hlog
  answers := by rintro _ _ _ ⟨_, h⟩; cases h

end

end DataRescue
