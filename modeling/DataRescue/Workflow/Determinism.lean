import DataRescue.Workflow.Containment
import Mathlib.Data.List.Induction

/-!
# One event, one case

When the adapters are functions of their arguments and one event drives the case, the checkpoint
machine names one event at each snapshot. So two logs of a case agree as far as both go, wherever the
advances that wrote them were interrupted (`Chain.agree`), and a case at rest keeps what its snapshot
says (`Chain.rest`). A containment lists reasons and a write-back that depend on the advance, so they
are left out.
-/

namespace DataRescue

open Python Concurrency

/-- What a snapshot says of the case, without the times and, for a contained case, without its reasons
and its write-back, which depend on the advance that contained it. -/
def CaseSnapshot.kept (snapshot : CaseSnapshot) : CaseSnapshot :=
  { snapshot with
    createdAt := 0
    updatedAt := 0
    events := []
    containmentReasons := []
    evidenceWriteback :=
      if snapshot.state = .contained then none else snapshot.evidenceWriteback }

/-- The events say the same, or both contain the case. -/
def CaseEvent.Same (event other : CaseEvent) : Prop :=
  event.state = other.state ∧
    (event.body = other.body ∨ event.state = some .contained ∧
      event.eventType = .contained ∧ other.eventType = .contained)

/-- The second log continues the first. -/
def Continues (log other : List CaseEvent) : Prop :=
  ∃ before after, other = before ++ after ∧ List.Forall₂ CaseEvent.Same log before

section

variable {service : Service} {environment environment' : Environment} {history history' : List Effect}
  {caseId : String} {event : SchemaChangeEvent} {snapshot snapshot' : CaseSnapshot}
  {log log' : List CaseEvent} {body body' : EventBody} {state state' : CaseState}
  {replies : AdapterAnswers} {actor : Actor Call}

/-! ### What the machine reads -/

theorem advanceStep_kept :
    service.advanceStep caseId event snapshot.kept = service.advanceStep caseId event snapshot := by
  by_cases hstate : snapshot.state = .contained
  · have hkept : snapshot.kept.state = .contained := hstate
    rw [Service.advanceStep, Service.advanceStep, hkept, hstate]
    rfl
  · have hkept : snapshot.kept = { snapshot with
        createdAt := 0, updatedAt := 0, events := [], containmentReasons := [] } := by
      rw [CaseSnapshot.kept, if_neg hstate]
    rw [hkept]
    rfl

theorem advanceStep_of_kept (h : snapshot.kept = snapshot'.kept) :
    service.advanceStep caseId event snapshot = service.advanceStep caseId event snapshot' := by
  rw [← advanceStep_kept, h, advanceStep_kept]

theorem kept_state (h : snapshot.kept = snapshot'.kept) : snapshot.state = snapshot'.state := by
  have hstate := congrArg CaseSnapshot.state h
  exact hstate

theorem kept_open (hopen : snapshot.state ≠ .contained) : snapshot.kept =
    { snapshot with createdAt := 0, updatedAt := 0, events := [], containmentReasons := [] } := by
  rw [CaseSnapshot.kept, if_neg hopen]

theorem kept_apply {recorded : CaseEvent} (hopen : snapshot.state ≠ .contained) :
    (snapshot.kept.apply recorded).kept = (snapshot.apply recorded).kept := by
  rw [kept_open hopen]
  cases hbody : recorded.body <;>
    simp [CaseSnapshot.kept, CaseSnapshot.apply, CaseSnapshot.applyBody, hbody]

theorem kept_same {recorded other : CaseEvent} (hsame : recorded.Same other) :
    (snapshot.apply recorded).kept = (snapshot.apply other).kept := by
  obtain ⟨hstate, hbody | ⟨hcontained, htype, htype'⟩⟩ := hsame
  · cases hother : other.body <;>
      simp [CaseSnapshot.kept, CaseSnapshot.apply, CaseSnapshot.applyBody, hbody, hother, hstate]
  · obtain ⟨_, _, _, hrecorded⟩ := contained_body htype
    obtain ⟨_, _, _, hother⟩ := contained_body htype'
    rw [hstate] at hcontained
    simp [CaseSnapshot.kept, CaseSnapshot.apply, CaseSnapshot.applyBody, hrecorded, hother, hstate,
      hcontained]

theorem kept_step {recorded other : CaseEvent} (hopen : snapshot.state ≠ .contained)
    (h : snapshot.kept = snapshot'.kept) (hsame : recorded.Same other) :
    (snapshot.apply recorded).kept = (snapshot'.apply other).kept := by
  have hopen' : snapshot'.state ≠ .contained := kept_state h ▸ hopen
  calc (snapshot.apply recorded).kept
      = (snapshot.kept.apply recorded).kept := (kept_apply hopen).symm
    _ = (snapshot'.kept.apply recorded).kept := by rw [h]
    _ = (snapshot'.apply recorded).kept := kept_apply hopen'
    _ = (snapshot'.apply other).kept := kept_same hsame

/-! ### One event at each snapshot -/

/-- The answers of adapters that are functions of their arguments. -/
def Replied (replies : AdapterAnswers) (op : AdapterOp) (answer : Except Exn op.Reply) : Prop :=
  answer = replies op

/-- An environment that redelivers one event, with adapters that are functions of their arguments and
do not raise, and a store that does not fail. Processes may crash. -/
structure Redelivers (environment : Environment) (event : SchemaChangeEvent)
    (replies : AdapterAnswers) : Prop where
  single : environment.Single
  reliable : ¬environment.storeFails
  commands : ∀ command, environment.commands command → command = .ingest event
  answers : ∀ op answer, environment.answers op answer → Replied replies op answer
  returns : ∀ op error, replies op ≠ .error error

/-- What an ended step of the machine appends. -/
def Appends : Except Exn (Option Emission) → EventBody → CaseState → Prop
  | .ok (some emission), body, state => emission.Records body state
  | .ok none, _, _ => False
  | .error error, body, state => state = .failed ∧ body = .failed (some error.typeName)
      "Workflow execution failed; inspect server logs for details" none

/-- The states of a verification. -/
def CaseState.verifying (state : CaseState) : Prop := state = .deployed ∨ state = .postDeployVerified

theorem replied_unique (op : AdapterOp) (answer answer' : Except Exn op.Reply)
    (h : Replied replies op answer) (h' : Replied replies op answer') : answer = answer' :=
  Eq.trans h (Eq.symm h')

theorem Allowed.determined (hredelivers : Redelivers environment event replies)
    (hanswers : ∀ actor op answer, Answered history actor op answer → environment.answers op answer)
    (hverifying : ¬snapshot.state.verifying) (htype : body.eventType ≠ .deploymentRecorded)
    (h : Allowed service environment history actor caseId snapshot body state) :
    ∃ ended, (service.advanceStep caseId event snapshot).Outcome (Replied replies) ended ∧
      Appends ended body state := by
  have hreplied : ∀ {actor : Actor Call} (op : AdapterOp) (answer : Except Exn op.Reply),
      Answered history actor op answer → Replied replies op answer :=
    fun op answer hanswered => hredelivers.answers op answer (hanswers _ op answer hanswered)
  cases h with
  | advanced hdelivers houtcome hrecords =>
    have hstarted := hredelivers.commands _ hdelivers.starts
    obtain rfl := Command.ingest.inj hstarted
    exact ⟨_, houtcome.mono hreplied, hrecords⟩
  | @aborted _ error hdelivers hopen hcause =>
    have hstarted := hredelivers.commands _ hdelivers.starts
    obtain rfl := Command.ingest.inj hstarted
    rcases hcause with hfails | ⟨op, hraised⟩ | houtcome
    · exact absurd hfails hredelivers.reliable
    · have hraises : Except.error error = replies op := hreplied op _ hraised
      exact absurd hraises.symm (hredelivers.returns op error)
    · exact ⟨_, houtcome.mono hreplied, rfl, rfl⟩
  | deployed => exact absurd rfl htype
  | refused _ _ hstate => exact absurd (.inl hstate) hverifying
  | verified hstate => exact absurd (.inl hstate) hverifying
  | unresolved _ _ hstate => exact absurd (.inr hstate) hverifying
  | resolved hstate => exact absurd (.inr hstate) hverifying

theorem Appends.same {ended : Except Exn (Option Emission)} {recorded other : CaseEvent}
    (h : Appends ended recorded.body state) (h' : Appends ended other.body state')
    (hstate : recorded.state = some state) (hstate' : other.state = some state') :
    recorded.Same other := by
  have htypes : ∀ {body : EventBody} {state : CaseState}, Emission.contain.Records body state →
      state = .contained ∧ body.eventType = .contained := by
    intro body state hrecords
    cases hrecords
    exact ⟨rfl, rfl⟩
  rw [CaseEvent.Same, hstate, hstate']
  match ended, h, h' with
  | .ok (some (.append named next)), h, h' =>
    have hbody : ∀ {body : EventBody} {state : CaseState},
        (Emission.append named next).Records body state → body = named ∧ state = next := by
      intro body state hrecords
      cases hrecords
      exact ⟨rfl, rfl⟩
    obtain ⟨hfirst, rfl⟩ := hbody h
    obtain ⟨hsecond, rfl⟩ := hbody h'
    exact ⟨rfl, .inl (hfirst.trans hsecond.symm)⟩
  | .ok (some .contain), h, h' =>
    obtain ⟨rfl, hfirst⟩ := htypes h
    obtain ⟨rfl, hsecond⟩ := htypes h'
    exact ⟨rfl, .inr ⟨rfl, hfirst, hsecond⟩⟩
  | .error error, ⟨hfirst, hbody⟩, ⟨hsecond, hbody'⟩ =>
    exact ⟨by rw [hfirst, hsecond], .inl (hbody.trans hbody'.symm)⟩

/-! ### Two logs of a case -/

theorem CaseEvent.Same.symm {recorded other : CaseEvent} (h : recorded.Same other) :
    other.Same recorded := by
  obtain ⟨hstate, hbody | ⟨hcontained, htype, htype'⟩⟩ := h
  · exact ⟨hstate.symm, .inl hbody.symm⟩
  · exact ⟨hstate.symm, .inr ⟨hstate ▸ hcontained, htype', htype⟩⟩

theorem Chain.snoc {recorded : CaseEvent}
    (h : Chain service environment history caseId (log ++ [recorded]) snapshot) (hne : log ≠ []) :
    ∃ earlier state, Chain service environment history caseId log earlier ∧
      snapshot = earlier.apply recorded ∧ recorded.state = some state ∧
      ∃ actor, Allowed service environment history actor caseId earlier recorded.body state := by
  obtain ⟨earlier, state, hearlier, hstate, hwritten⟩ := h.split rfl hne
  have hproject := projectCase_snoc hearlier.project recorded
  rw [h.project] at hproject
  exact ⟨earlier, state, hearlier, Option.some.inj hproject, hstate, hwritten.allowed⟩

theorem Chain.detection (h : Chain service environment history caseId log snapshot) :
    ∃ first rest schemaChange, log = first :: rest ∧
      first.body = detectionPayload schemaChange caseId ∧ first.state = some .detected ∧
      environment.commands (.ingest schemaChange) := by
  induction h with
  | detected hbody hstate _ hstarts => exact ⟨_, [], _, rfl, hbody, hstate, hstarts⟩
  | step _ _ _ _ ih =>
    obtain ⟨first, rest, schemaChange, rfl, hfirst⟩ := ih
    exact ⟨first, rest ++ [_], schemaChange, rfl, hfirst⟩

theorem Chain.undeployed (h : Chain service environment history caseId log snapshot)
    (htypes : ∀ recorded ∈ log, recorded.eventType ≠ .deploymentRecorded) :
    ¬snapshot.state.verifying := by
  induction h with
  | detected _ hstate =>
    rw [CaseSnapshot.apply_state, hstate, Option.getD_some]
    rintro (h | h) <;> cases h
  | @step log earlier recorded state hchain _ hstate hwritten ih =>
    obtain ⟨_, hallowed⟩ := hwritten.allowed
    have hearlier := ih fun other hother => htypes other (List.mem_append_left _ hother)
    have htype : recorded.body.eventType ≠ .deploymentRecorded := htypes recorded (by simp)
    rw [CaseSnapshot.apply_state, hstate, Option.getD_some]
    generalize recorded.body = body at hallowed htype
    rintro (rfl | rfl)
    · cases hallowed with
      | advanced _ houtcome hrecords =>
        have hsteps := advanceStep_inv houtcome
        cases hrecords
        cases hsteps
      | deployed => exact htype rfl
    · cases hallowed with
      | advanced _ houtcome hrecords =>
        have hsteps := advanceStep_inv houtcome
        cases hrecords
        cases hsteps
      | verified hstate => exact hearlier (.inl hstate)

theorem Allowed.uncontained
    (h : Allowed service environment history actor caseId snapshot body state) :
    snapshot.state ≠ .contained := by
  intro hstate
  exact h.isOpen (.inr (.inl hstate))

theorem forall₂_snoc {R : CaseEvent → CaseEvent → Prop} {recorded : CaseEvent}
    (h : List.Forall₂ R (log ++ [recorded]) log') :
    ∃ before other, log' = before ++ [other] ∧ List.Forall₂ R log before ∧ R recorded other := by
  induction log generalizing log' with
  | nil =>
    obtain ⟨other, _, hother, hnil, rfl⟩ := List.forall₂_cons_left_iff.1 h
    rw [List.forall₂_nil_left_iff.1 hnil]
    exact ⟨[], other, rfl, .nil, hother⟩
  | cons first log ih =>
    obtain ⟨first', rest, hfirst, hrest, rfl⟩ := List.forall₂_cons_left_iff.1 h
    obtain ⟨before, other, rfl, hbefore, hother⟩ := ih hrest
    exact ⟨first' :: before, other, rfl, .cons hfirst hbefore, hother⟩

theorem Chain.kept (h : Chain service environment history caseId log snapshot)
    (h' : Chain service environment' history' caseId log' snapshot')
    (hsame : List.Forall₂ CaseEvent.Same log log') : snapshot.kept = snapshot'.kept := by
  induction h generalizing log' snapshot' with
  | @detected recorded schemaChange hbody hstate hcase =>
    obtain ⟨other, _, ⟨hstates, hother⟩, hnil, rfl⟩ := List.forall₂_cons_left_iff.1 hsame
    obtain rfl := List.forall₂_nil_left_iff.1 hnil
    obtain ⟨first, rest, schemaChange', hlog, hbody', hstate', -⟩ := h'.detection
    obtain ⟨rfl, rfl⟩ := List.cons.inj hlog
    have hproject := h'.project
    rw [projectCase_singleton hbody'] at hproject
    obtain rfl := Option.some.inj hproject
    have hid : other.caseId = caseId := by
      rw [← h'.id, CaseSnapshot.apply_id]
      rfl
    rcases hother with hbodies | ⟨hcontained, -, -⟩
    · rw [hbody, hbody'] at hbodies
      obtain ⟨rfl, -⟩ := EventBody.schemaChangeDetected.inj hbodies
      simp [CaseSnapshot.kept, CaseSnapshot.apply, CaseSnapshot.applyBody, CaseSnapshot.start, hbody,
        hbody', detectionPayload, hstate, hstate', hcase, hid]
    · rw [hstate] at hcontained
      cases hcontained
  | @step log earlier recorded state hchain _ hstate hwritten ih =>
    obtain ⟨_, hallowed⟩ := hwritten.allowed
    obtain ⟨before, other, rfl, hbefore, hother⟩ := forall₂_snoc hsame
    have hne : before ≠ [] := by
      rintro rfl
      obtain ⟨first, rest, rfl, -⟩ := hchain.rooted
      cases hbefore
    obtain ⟨earlier', state', hchain', rfl, -, -⟩ := h'.snoc hne
    exact kept_step hallowed.uncontained (ih hchain' hbefore) hother

/-- What the chains of an environment that redelivers one event have in common. -/
structure Driven (environment : Environment) (event : SchemaChangeEvent) (replies : AdapterAnswers)
    (history : List Effect) (log : List CaseEvent) : Prop where
  redelivers : Redelivers environment event replies
  answers : ∀ actor op answer, Answered history actor op answer → environment.answers op answer
  types : ∀ recorded ∈ log, recorded.eventType ≠ .deploymentRecorded

theorem Driven.earlier {before : List CaseEvent}
    (h : Driven environment event replies history log) (hbefore : before ⊆ log) :
    Driven environment event replies history before :=
  ⟨h.redelivers, h.answers, fun recorded hrecorded => h.types recorded (hbefore hrecorded)⟩

theorem Driven.next {recorded : CaseEvent}
    (hdriven : Driven environment event replies history (log ++ [recorded]))
    (hchain : Chain service environment history caseId log snapshot)
    (hallowed : Allowed service environment history actor caseId snapshot recorded.body state) :
    ∃ ended, (service.advanceStep caseId event snapshot).Outcome (Replied replies) ended ∧
      Appends ended recorded.body state :=
  hallowed.determined hdriven.redelivers hdriven.answers
    (hchain.undeployed (hdriven.earlier (List.subset_append_left _ _)).types)
    (hdriven.types recorded (by simp))

/-- Two logs of a case agree as far as both go. -/
theorem Chain.agree (h : Chain service environment history caseId log snapshot)
    (hdriven : Driven environment event replies history log)
    (h' : Chain service environment' history' caseId log' snapshot')
    (hdriven' : Driven environment' event replies history' log') :
    Continues log log' ∨ Continues log' log := by
  induction h with
  | @detected recorded schemaChange hbody hstate _ hstarts =>
    obtain ⟨first, rest, schemaChange', rfl, hbody', hstate', hstarts'⟩ := h'.detection
    obtain rfl := Command.ingest.inj (hdriven.redelivers.commands _ hstarts)
    obtain rfl := Command.ingest.inj (hdriven'.redelivers.commands _ hstarts')
    refine .inl ⟨[first], rest, rfl, .cons ⟨?_, .inl ?_⟩ .nil⟩
    · rw [hstate, hstate']
    · rw [hbody, hbody']
  | @step log earlier recorded state hchain _ hstate hwritten ih =>
    obtain ⟨_, hallowed⟩ := hwritten.allowed
    have hearlier := hdriven.earlier (List.subset_append_left log [recorded])
    rcases ih hearlier with ⟨before, after, rfl, hbefore⟩ | ⟨before, after, rfl, hbefore⟩
    · rcases after with _ | ⟨other, after⟩
      · refine .inr ⟨log, [recorded], rfl, ?_⟩
        rw [List.append_nil]
        exact List.Forall₂.flip (hbefore.imp fun _ _ hsame => hsame.symm)
      · -- both logs have a next event, which one step of the machine determines
        have hne : before ≠ [] := by
          rintro rfl
          obtain ⟨first, rest, rfl, -⟩ := hchain.rooted
          cases hbefore
        obtain ⟨other', state', hchain', hstate', hwritten'⟩ := h'.split rfl hne
        obtain ⟨_, hallowed'⟩ := hwritten'.allowed
        have hsplit : before ++ other :: after = (before ++ [other]) ++ after := by simp
        have hdrivenOther : Driven environment' event replies history' (before ++ [other]) := by
          refine hdriven'.earlier ?_
          rw [hsplit]
          exact List.subset_append_left _ _
        obtain ⟨ended, houtcome, happends⟩ := hdriven.next hchain hallowed
        obtain ⟨ended', houtcome', happends'⟩ := hdrivenOther.next hchain' hallowed'
        rw [advanceStep_of_kept (hchain.kept hchain' hbefore)] at houtcome
        obtain rfl := houtcome.unique replied_unique houtcome'
        refine .inl ⟨before ++ [other], after, hsplit, ?_⟩
        exact List.rel_append hbefore (.cons (happends.same happends' hstate hstate') .nil)
    · exact .inr ⟨before, after ++ [recorded], by simp, hbefore⟩

/-! ### A case at rest -/

/-- The machine has nothing to do for the case, or would repeat the failed attempt at a draft. -/
def AtRest (service : Service) (replies : AdapterAnswers) (caseId : String)
    (event : SchemaChangeEvent) (snapshot : CaseSnapshot) : Prop :=
  snapshot.state.ingestResumable = false ∨ ∃ pullRequest, snapshot.state = .patchReady ∧
    snapshot.pullRequest = some pullRequest ∧
    (service.advanceStep caseId event snapshot).Outcome (Replied replies)
      (.ok (some (.append (.prAttempted pullRequest) .patchReady)))

theorem AtRest.of_kept (h : AtRest service replies caseId event snapshot)
    (hkept : snapshot.kept = snapshot'.kept) : AtRest service replies caseId event snapshot' := by
  have hpullRequest : snapshot.pullRequest = snapshot'.pullRequest := by
    have hfield := congrArg CaseSnapshot.pullRequest hkept
    exact hfield
  rw [AtRest, ← kept_state hkept, ← advanceStep_of_kept hkept, ← hpullRequest]
  exact h

theorem AtRest.step {recorded : CaseEvent} {ended : Except Exn (Option Emission)}
    (h : AtRest service replies caseId event snapshot) (hstate : recorded.state = some state)
    (houtcome : (service.advanceStep caseId event snapshot).Outcome (Replied replies) ended)
    (happends : Appends ended recorded.body state) :
    (snapshot.apply recorded).kept = snapshot.kept := by
  rcases h with hresumable | ⟨pullRequest, hready, hpull, hnamed⟩
  · rw [Service.advanceStep, hresumable] at houtcome
    obtain rfl : ended = .ok none := houtcome
    cases happends
  · obtain rfl := houtcome.unique replied_unique hnamed
    have hbody : recorded.body = .prAttempted pullRequest ∧ state = .patchReady := by
      generalize recorded.body = body at happends
      cases happends
      exact ⟨rfl, rfl⟩
    obtain ⟨hbody, rfl⟩ := hbody
    have hopen : snapshot.state ≠ .contained := by
      rw [hready]
      decide
    rw [kept_open hopen]
    simp [CaseSnapshot.kept, CaseSnapshot.apply, CaseSnapshot.applyBody, hbody, hstate, hready, hpull]

theorem Chain.rest {before after : List CaseEvent}
    (h : Chain service environment history caseId log snapshot)
    (hrest : AtRest service replies caseId event snapshot)
    (h' : Chain service environment' history' caseId (before ++ after) snapshot')
    (hdriven : Driven environment' event replies history' (before ++ after))
    (hsame : List.Forall₂ CaseEvent.Same log before) : snapshot'.kept = snapshot.kept := by
  induction after using List.reverseRecOn generalizing snapshot' with
  | nil =>
    rw [List.append_nil] at h'
    exact (h.kept h' hsame).symm
  | append_singleton after recorded ih =>
    rw [← List.append_assoc] at h' hdriven
    have hne : before ++ after ≠ [] := by
      intro hnil
      obtain ⟨rfl, -⟩ := List.append_eq_nil_iff.1 hnil
      obtain ⟨first, rest, rfl, -⟩ := h.rooted
      cases hsame
    obtain ⟨earlier, state, hearlier, rfl, hstate, _, hallowed⟩ := h'.snoc hne
    obtain ⟨ended, houtcome, happends⟩ := hdriven.next hearlier hallowed
    have hkept := ih hearlier (hdriven.earlier (List.subset_append_left _ _))
    rw [(hrest.of_kept hkept.symm).step hstate houtcome happends, hkept]

end

end DataRescue
