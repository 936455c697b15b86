import DataRescue.Workflow.RepairGate

/-!
# The selection

Which candidate is selected depends on the measurements alone. `Measured` says where the assessments of
every visible case come from: each is the policy engine's of an execution the executor answered with.
So two runs whose executors measure the source fields alike, and whose cases have proposals for the same
fields, select the same field and render the same patch, in whatever order the proposals came
(`selection_agrees`).
-/

namespace DataRescue

open Python Concurrency

/-- What the executor answered for a proposal; an exception counts as a failed execution. -/
def ExecutedAs (answers : (op : AdapterOp) → Except Exn op.Reply → Prop) (caseId : String)
    (proposal : CandidateProposal) (context : ContextBundle) (execution : CandidateExecution) : Prop :=
  answers (.execute .configured caseId proposal context) (.ok execution) ∨
    ∃ error : Exn, answers (.execute .configured caseId proposal context) (.error error) ∧
      execution = failedExecution error.typeName

/-- The policy engine accepts the execution. -/
def Service.accepts (service : Service) (context : ContextBundle) (execution : CandidateExecution) :
    Bool :=
  (PolicyEngine.evaluate service.policy execution.semanticVerdict execution.reconciliation
    execution.build context.lineageCurrent).accepted

/-- The assessment is that of an execution of the proposal. -/
structure AssessedAs (service : Service) (context : ContextBundle) (proposal : CandidateProposal)
    (execution : CandidateExecution) (assessment : CandidateAssessment) : Prop where
  id : assessment.id = proposal.id
  sourceField : assessment.sourceField = proposal.sourceField
  reconciliation : assessment.reconciliation = execution.reconciliation
  outcome : assessment.outcome.repairable = service.accepts context execution

/-- Where the assessments of a case come from. -/
structure Measured (service : Service) (history : List Effect) (caseId : String)
    (snapshot : CaseSnapshot) : Prop where
  origin : ∀ assessment ∈ snapshot.candidates, ∃ context proposal execution actor,
    snapshot.context = some context ∧ proposal ∈ snapshot.candidateProposals ∧
      ExecutedAs (Answered history actor) caseId proposal context execution ∧
      AssessedAs service context proposal execution assessment
  complete : snapshot.patch ≠ none → (snapshot.candidateProposals.map CandidateProposal.id).Nodup ∧
    ∀ proposal ∈ snapshot.candidateProposals, ∃ assessment ∈ snapshot.candidates,
      assessment.id = proposal.id

section

variable {service : Service} {environment environment' : Environment} {history : List Effect}
  {caseId caseId' : String} {snapshot snapshot' : CaseSnapshot} {body : EventBody}
  {state : CaseState} {actor : Actor Call} {event : SchemaChangeEvent}

theorem assessedAs_assess {context : ContextBundle} {proposal : CandidateProposal}
    {execution : CandidateExecution} :
    AssessedAs service context proposal execution (service.assess proposal context execution).1 where
  id := rfl
  sourceField := rfl
  reconciliation := rfl
  outcome := by
    rw [Service.accepts]
    simp only [Service.assess, PolicyEngine.outcome]
    split_ifs with haccepted
    · rw [haccepted]
      rfl
    · rw [Bool.not_eq_true] at haccepted
      rw [haccepted]
      rfl

theorem Measured.same (h : Measured service history caseId snapshot)
    (hsame : SameWork snapshot' snapshot) : Measured service history caseId snapshot' where
  origin := by
    rw [hsame.candidates, hsame.context, hsame.candidateProposals]
    exact h.origin
  complete := by
    rw [hsame.patch, hsame.candidates, hsame.candidateProposals]
    exact h.complete

theorem measured_empty (hcandidates : snapshot.candidates = []) (hpatch : snapshot.patch = none) :
    Measured service history caseId snapshot where
  origin := by simp [hcandidates]
  complete h := absurd hpatch h

theorem Measured.patch {best : CandidateAssessment} {patch : PatchArtifact} {recorded : CaseEvent}
    {context : ContextBundle} (h : Measured service history caseId snapshot)
    (hassessed : Assessed service snapshot context) (hbest : selectMin snapshot.eligible = some best)
    (hbody : recorded.body = .patchReady { best with outcome := .selected } patch) :
    Measured service history caseId (snapshot.apply recorded) := by
  have happly : (snapshot.apply recorded).context = snapshot.context ∧
      (snapshot.apply recorded).candidateProposals = snapshot.candidateProposals ∧
      (snapshot.apply recorded).candidates =
        replaceAssessment snapshot.candidates { best with outcome := .selected } := by
    simp [CaseSnapshot.apply, hbody, CaseSnapshot.applyBody]
  obtain ⟨hcontext, hproposals, hcandidates⟩ := happly
  obtain ⟨hfound, hrepairable⟩ := List.mem_filter.1 (selectMin_mem hbest)
  obtain ⟨other, -, hfound⟩ := List.mem_filterMap.1 hfound
  have hlisted : best ∈ snapshot.candidates :=
    (List.mem_filter.1 (List.mem_of_getLast? hfound)).1
  refine ⟨fun assessment hmem => ?_, fun _ => ⟨hproposals ▸ hassessed.nodup, ?_⟩⟩
  · rw [hcontext, hproposals]
    rw [hcandidates] at hmem
    obtain ⟨item, hitem, rfl⟩ := List.mem_map.1 hmem
    split_ifs with hid
    · obtain ⟨context, proposal, execution, caller, hpresent, hproposal, hexecuted, hbestAs⟩ :=
        h.origin best hlisted
      refine ⟨context, proposal, execution, caller, hpresent, hproposal, hexecuted, hbestAs.id,
        hbestAs.sourceField, hbestAs.reconciliation, ?_⟩
      rw [← hbestAs.outcome, hrepairable]
      rfl
    · exact h.origin item hitem
  · rw [hproposals, hcandidates]
    intro proposal hproposal
    have hnone := hassessed.assessed
    rw [CaseSnapshot.nextUnassessed, List.find?_eq_none] at hnone
    have hsome := hnone proposal hproposal
    rw [Bool.not_eq_true, ← Option.not_isSome, Bool.not_eq_false', assessmentById_isSome] at hsome
    obtain ⟨item, hitem, hitemId⟩ := hsome
    have hmapped : proposal.id ∈ (replaceAssessment snapshot.candidates
        { best with outcome := .selected }).map CandidateAssessment.id := by
      rw [replaceAssessment_id]
      exact List.mem_map.2 ⟨item, hitem, hitemId⟩
    exact List.mem_map.1 hmapped

theorem Measured.step {emission : Emission} {recorded : CaseEvent}
    (h : Measured service history caseId snapshot) (hbacked : Backed service history snapshot)
    (hconsistent : Consistent snapshot)
    (hsteps : Steps service caseId event (Answered history actor) snapshot emission)
    (hrecords : emission.Records body state) (hbody : recorded.body = body) :
    Measured service history caseId (snapshot.apply recorded) := by
  have hsource := hsteps.source hconsistent
  cases hsteps with
  | incident | refused | contained | validation | writeback | opened | attempted =>
    cases hrecords
    exact h.same (sameWork_apply hbody trivial)
  | context result hstate hincident hcontext =>
    dsimp only [Emission.Source] at hsource
    simp only [Consistent, hsource] at hconsistent
    have hnone := hbacked.no_candidates hconsistent.2.1 hconsistent.2.2
    cases hrecords
    refine measured_empty ?_ ?_ <;>
      simp [CaseSnapshot.apply, hbody, CaseSnapshot.applyBody, hnone, hconsistent.2.2]
  | proposals context generated hcontext hmissing =>
    dsimp only [Emission.Source] at hsource
    simp only [Consistent, hsource] at hconsistent
    have hnone := hbacked.no_candidates hconsistent.2.2.1 hconsistent.2.2.2
    cases hrecords
    refine measured_empty ?_ ?_ <;>
      simp [CaseSnapshot.apply, hbody, CaseSnapshot.applyBody, hnone, hconsistent.2.2.2]
  | assessment context proposal execution hproposed hstate hnext hanswer =>
    dsimp only [Emission.Source] at hsource
    simp only [Consistent, hsource] at hconsistent
    obtain ⟨-, -, -, -, hunpatched⟩ := hconsistent
    cases hrecords
    have happly : (snapshot.apply recorded).candidates =
          snapshot.candidates ++ [(service.assess proposal context execution).1] ∧
        (snapshot.apply recorded).context = snapshot.context ∧
        (snapshot.apply recorded).candidateProposals = snapshot.candidateProposals ∧
        (snapshot.apply recorded).patch = none := by
      simp [CaseSnapshot.apply, hbody, CaseSnapshot.applyBody, hunpatched]
    obtain ⟨hcandidates, hcontext, hproposals, hpatch⟩ := happly
    refine ⟨fun assessment hmem => ?_, fun hsome => absurd hpatch hsome⟩
    rw [hcontext, hproposals]
    rw [hcandidates] at hmem
    rcases List.mem_append.1 hmem with hmem | hmem
    · exact h.origin assessment hmem
    · rw [List.mem_singleton.1 hmem]
      exact ⟨context, proposal, execution, actor, hproposed.present, List.mem_of_find?_eq_some hnext,
        hanswer, assessedAs_assess⟩
  | patch context best proposal existingSql patch hassessed hmissing hbest =>
    cases hrecords
    exact h.patch hassessed hbest hbody

theorem Measured.allowed {recorded : CaseEvent} (h : Measured service history caseId snapshot)
    (hbacked : Backed service history snapshot) (hconsistent : Consistent snapshot)
    (hallowed : Allowed service environment history actor caseId snapshot body state)
    (hbody : recorded.body = body) : Measured service history caseId (snapshot.apply recorded) := by
  cases hallowed with
  | advanced _ houtcome hrecords =>
    exact h.step hbacked hconsistent (advanceStep_inv houtcome) hrecords hbody
  | _ => exact h.same (sameWork_apply hbody trivial)

theorem Chain.measured {log : List CaseEvent}
    (h : Chain service environment history caseId log snapshot) :
    Measured service history caseId snapshot := by
  induction h with
  | detected hbody =>
    have happly : ∀ event : CaseEvent, ∀ schemaChange incidentUrn, event.body =
        .schemaChangeDetected schemaChange incidentUrn →
        ((CaseSnapshot.start event schemaChange incidentUrn).apply event).candidates = [] ∧
          ((CaseSnapshot.start event schemaChange incidentUrn).apply event).patch = none := by
      intro event schemaChange incidentUrn hbody
      simp [CaseSnapshot.apply, hbody, CaseSnapshot.applyBody, CaseSnapshot.start]
    obtain ⟨hcandidates, hpatch⟩ := happly _ _ _ hbody
    exact measured_empty hcandidates hpatch
  | step hchain _ _ hwritten ih =>
    obtain ⟨_, hallowed⟩ := hwritten.allowed
    exact ih.allowed hchain.backed hchain.consistent hallowed rfl

/-! ### Two runs -/

/-- What the policy asks of an execution depends on the source field and the context alone. -/
def Environment.Measures (environment : Environment)
    (measure : ContextBundle → String → CandidateExecution) : Prop :=
  ∀ caseId proposal context execution,
    ExecutedAs environment.answers caseId proposal context execution →
      execution.semanticVerdict = (measure context proposal.sourceField).semanticVerdict ∧
      execution.reconciliation = (measure context proposal.sourceField).reconciliation ∧
      execution.build.passed = (measure context proposal.sourceField).build.passed

variable {measure : ContextBundle → String → CandidateExecution} {context : ContextBundle}

theorem accepts_congr {first second : CandidateExecution}
    (hverdict : first.semanticVerdict = second.semanticVerdict)
    (hreconciliation : first.reconciliation = second.reconciliation)
    (hpassed : first.build.passed = second.build.passed) :
    service.accepts context first = service.accepts context second := by
  rw [Bool.eq_iff_iff, Service.accepts, Service.accepts, PolicyEngine.evaluate_accepted,
    PolicyEngine.evaluate_accepted]
  simp only [PolicyEngine.evaluate, PolicyEngine.checks, List.forall_mem_cons, hverdict,
    hreconciliation, hpassed]

theorem Measured.value {assessment : CandidateAssessment}
    (h : Measured service history caseId snapshot)
    (hanswers : ∀ actor op answer, Answered history actor op answer → environment.answers op answer)
    (hmeasures : environment.Measures measure) (hcontext : snapshot.context = some context)
    (hmem : assessment ∈ snapshot.candidates) :
    assessment.reconciliation = (measure context assessment.sourceField).reconciliation ∧
      assessment.outcome.repairable =
        service.accepts context (measure context assessment.sourceField) := by
  obtain ⟨found, proposal, execution, caller, hpresent, -, hexecuted, has⟩ := h.origin assessment hmem
  rw [hcontext] at hpresent
  obtain rfl := Option.some.inj hpresent
  have hexecuted' : ExecutedAs environment.answers caseId proposal context execution :=
    hexecuted.imp (hanswers caller _ _) fun ⟨error, hanswer, heq⟩ =>
      ⟨error, hanswers caller _ _ hanswer, heq⟩
  obtain ⟨hverdict, hreconciliation, hpassed⟩ := hmeasures _ _ _ _ hexecuted'
  rw [has.sourceField, has.reconciliation, has.outcome]
  exact ⟨hreconciliation, accepts_congr hverdict hreconciliation hpassed⟩

theorem Measured.ofProposal {proposal : CandidateProposal} {assessment : CandidateAssessment}
    (h : Measured service history caseId snapshot)
    (hnodup : (snapshot.candidateProposals.map CandidateProposal.id).Nodup)
    (hproposal : proposal ∈ snapshot.candidateProposals) (hmem : assessment ∈ snapshot.candidates)
    (hid : assessment.id = proposal.id) : assessment.sourceField = proposal.sourceField := by
  obtain ⟨_, other, _, _, -, hother, -, has⟩ := h.origin assessment hmem
  have hsame : other = proposal :=
    List.inj_on_of_nodup_map hnodup hother hproposal (has.id.symm.trans hid)
  rw [has.sourceField, hsame]

theorem sourceField_of_ties {first second : CandidateAssessment} (hfirst : Ranked first)
    (hsecond : Ranked second) (h : selectionLt first second = false)
    (h' : selectionLt second first = false) : first.sourceField = second.sourceField := by
  obtain ⟨total, rows, htotal, hrows⟩ := hfirst
  obtain ⟨total', rows', htotal', hrows'⟩ := hsecond
  rw [← Bool.not_eq_true, selectionLt_iff htotal hrows htotal' hrows'] at h
  rw [← Bool.not_eq_true, selectionLt_iff htotal' hrows' htotal hrows] at h'
  simp only [not_or, not_and] at h h'
  have hsame : total = total' := le_antisymm (not_lt.1 h'.1) (not_lt.1 h.1)
  obtain ⟨hrow, hfield⟩ := h.2 hsame
  obtain ⟨hrow', hfield'⟩ := h'.2 hsame.symm
  have hsameRows : rows = rows' := le_antisymm (not_lt.1 hrow') (not_lt.1 hrow)
  exact String.le_antisymm (String.not_lt.1 (hfield' hsameRows.symm))
    (String.not_lt.1 (hfield hsameRows))

theorem renderDbtPatch_congr {first second : CandidateProposal} {sql content content' : String}
    (hfield : first.sourceField = second.sourceField) (h : renderDbtPatch first sql = .ok content)
    (h' : renderDbtPatch second sql = .ok content') : content = content' := by
  obtain ⟨field, hrequired, h⟩ := bind_eq_ok.1 h
  obtain ⟨field', hrequired', h'⟩ := bind_eq_ok.1 h'
  rw [hfield, hrequired'] at hrequired
  obtain rfl := Except.ok.inj hrequired
  obtain ⟨_, -, h⟩ := bind_eq_ok.1 h
  obtain ⟨_, -, h'⟩ := bind_eq_ok.1 h'
  exact Except.ok.inj (h.symm.trans h')

/-- The executors of two environments measure alike, and the model files read the same. -/
structure Environment.Alike (service : Service) (environment environment' : Environment) : Prop where
  single : environment.Single
  single' : environment'.Single
  measures : ∃ measure, environment.Measures measure ∧ environment'.Measures measure
  model : ∀ sql sql',
    environment.answers
      (.readText service.settings.githubRepoRoot service.settings.githubPatchPath) (.ok sql) →
    environment'.answers
      (.readText service.settings.githubRepoRoot service.settings.githubPatchPath) (.ok sql') →
    sql = sql'

theorem Service.Reachable.measured {pool : ServicePool}
    (hreach : service.Reachable environment pool) (hsingle : environment.Single)
    (hcase : pool.shared.store.snapshot? caseId = some snapshot) :
    Measured service pool.shared.history caseId snapshot ∧
      Backed service pool.shared.history snapshot ∧
      ∀ actor op answer, Answered pool.shared.history actor op answer →
        environment.answers op answer := by
  have hledger := hreach.ledger hsingle
  have hchain := hledger.getCase hcase
  exact ⟨hchain.measured, hchain.backed, hledger.answers⟩

theorem Selection.accepted {selected : CandidateAssessment} {patch : PatchArtifact}
    (h : Selection service history snapshot selected patch) :
    Ranked selected ∧ selected.outcome.repairable = true := by
  obtain ⟨assessment, hassessment, houtcome, rfl⟩ := h.assessed
  exact ⟨hassessment.ranked houtcome, rfl⟩

theorem selectionLt_congr {first second third : CandidateAssessment}
    (hreconciliation : first.reconciliation = second.reconciliation)
    (hfield : first.sourceField = second.sourceField) :
    selectionLt first third = selectionLt second third := by
  simp only [selectionLt, hreconciliation, hfield]

theorem Measured.not_smaller {other selected : CandidateAssessment} {patch : PatchArtifact}
    (h : Measured service history caseId snapshot)
    (hanswers : ∀ actor op answer, Answered history actor op answer → environment.answers op answer)
    (hmeasures : environment.Measures measure) (hcontext : snapshot.context = some context)
    (hselection : Selection service history snapshot selected patch)
    (hpatch : snapshot.patch = some patch)
    (hfield : other.sourceField ∈ snapshot.candidateProposals.map CandidateProposal.sourceField)
    (hother : other.reconciliation = (measure context other.sourceField).reconciliation)
    (haccepted : service.accepts context (measure context other.sourceField) = true) :
    selectionLt other selected = false := by
  obtain ⟨proposal, hproposal, hsame⟩ := List.mem_map.1 hfield
  obtain ⟨hnodup, hcomplete⟩ := h.complete (by simp [hpatch])
  obtain ⟨assessment, hassessment, hid⟩ := hcomplete proposal hproposal
  have hsource : assessment.sourceField = other.sourceField :=
    (h.ofProposal hnodup hproposal hassessment hid).trans hsame
  obtain ⟨hreconciliation, houtcome⟩ := h.value hanswers hmeasures hcontext hassessment
  rw [hsource] at hreconciliation houtcome
  have hleast := hselection.least assessment hassessment (houtcome.trans haccepted)
  rwa [selectionLt_congr (hreconciliation.trans hother.symm) hsource] at hleast

theorem Measured.field_mem {assessment : CandidateAssessment}
    (h : Measured service history caseId snapshot) (hmem : assessment ∈ snapshot.candidates) :
    assessment.sourceField ∈ snapshot.candidateProposals.map CandidateProposal.sourceField := by
  obtain ⟨_, proposal, _, _, -, hproposal, -, has⟩ := h.origin assessment hmem
  exact List.mem_map.2 ⟨proposal, hproposal, has.sourceField.symm⟩

theorem Selection.rendered {selected : CandidateAssessment} {patch : PatchArtifact}
    (h : Selection service history snapshot selected patch)
    (hmeasured : Measured service history caseId snapshot) (hpatch : snapshot.patch = some patch) :
    ∃ actor proposal sql content, Answered history actor
        (.readText service.settings.githubRepoRoot service.settings.githubPatchPath) (.ok sql) ∧
      proposal.sourceField = selected.sourceField ∧ renderDbtPatch proposal sql = .ok content ∧
      patch = { path := service.settings.githubPatchPath, content,
                sha256 := service.sha256 (encode content) } := by
  obtain ⟨actor, proposal, sql, hproposal, hid, hanswer, hrendered⟩ := h.patched
  obtain ⟨hnodup, -⟩ := hmeasured.complete (by simp [hpatch])
  obtain ⟨content, hcontent, hbuilt⟩ := bind_eq_ok.1 hrendered
  exact ⟨actor, proposal, sql, content, hanswer,
    (hmeasured.ofProposal hnodup hproposal h.listed hid.symm).symm, hcontent,
    (Except.ok.inj hbuilt).symm⟩

/-- The selection does not depend on the order. Two runs, with any calls, interleavings, crashes and
resets, whose executors measure a source field alike (an exception counts as a failed execution) and in
which two cases have the same context and proposals for the same fields, in any order and any number:
if the one case has a selected candidate, the other is never left without an eligible one, and if it
has selected too, it selected the same field and holds the same patch. -/
theorem selection_agrees {pool pool' : ServicePool} {selected : CandidateAssessment}
    {patch : PatchArtifact} (halike : environment.Alike service environment')
    (hreach : service.Reachable environment pool) (hreach' : service.Reachable environment' pool')
    (hcase : pool.shared.store.snapshot? caseId = some snapshot)
    (hcase' : pool'.shared.store.snapshot? caseId' = some snapshot')
    (hcontext : snapshot.context = snapshot'.context)
    (hfields : ∀ field, field ∈ snapshot.candidateProposals.map CandidateProposal.sourceField ↔
      field ∈ snapshot'.candidateProposals.map CandidateProposal.sourceField)
    (hselected : snapshot.selectedCandidate = some selected) (hpatch : snapshot.patch = some patch) :
    ((snapshot'.candidateProposals.map CandidateProposal.id).Nodup →
      snapshot'.nextUnassessed = none → snapshot'.eligible ≠ []) ∧
    ∀ selected' patch', snapshot'.selectedCandidate = some selected' →
      snapshot'.patch = some patch' →
      selected.sourceField = selected'.sourceField ∧
        selected.reconciliation = selected'.reconciliation ∧ patch = patch' := by
  obtain ⟨hmeasured, hbacked, hanswers⟩ := hreach.measured halike.single hcase
  obtain ⟨hmeasured', hbacked', hanswers'⟩ := hreach'.measured halike.single' hcase'
  obtain ⟨measure, hmeasures, hmeasures'⟩ := halike.measures
  have hselection := hbacked.selection selected patch hselected hpatch
  obtain ⟨context, _, _, _, hpresent, -⟩ := hmeasured.origin selected hselection.listed
  have hpresent' : snapshot'.context = some context := hcontext ▸ hpresent
  obtain ⟨hranked, hrepairable⟩ := hselection.accepted
  obtain ⟨hreconciliation, houtcome⟩ :=
    hmeasured.value hanswers hmeasures hpresent hselection.listed
  have hfield := (hfields selected.sourceField).1 (hmeasured.field_mem hselection.listed)
  refine ⟨fun hnodup hnone => ?_, fun selected' patch' hselected' hpatch' => ?_⟩
  · obtain ⟨proposal, hproposal, hsame⟩ := List.mem_map.1 hfield
    rw [CaseSnapshot.nextUnassessed, List.find?_eq_none] at hnone
    have hsome := hnone proposal hproposal
    rw [Bool.not_eq_true, ← Option.not_isSome, Bool.not_eq_false'] at hsome
    obtain ⟨assessment, hassessment⟩ := Option.isSome_iff_exists.1 hsome
    obtain ⟨hmem, hid⟩ := List.mem_filter.1 (List.mem_of_getLast? hassessment)
    have hsource := hmeasured'.ofProposal hnodup hproposal hmem (of_decide_eq_true hid)
    have hother := (hmeasured'.value hanswers' hmeasures' hpresent' hmem).2
    rw [hsource, hsame, ← houtcome, hrepairable] at hother
    exact List.ne_nil_of_mem
      (List.mem_filter.2 ⟨List.mem_filterMap.2 ⟨proposal, hproposal, hassessment⟩, hother⟩)
  have hselection' := hbacked'.selection selected' patch' hselected' hpatch'
  obtain ⟨hranked', hrepairable'⟩ := hselection'.accepted
  obtain ⟨hreconciliation', houtcome'⟩ :=
    hmeasured'.value hanswers' hmeasures' hpresent' hselection'.listed
  have hfield' := (hfields selected'.sourceField).2 (hmeasured'.field_mem hselection'.listed)
  have hleast := hmeasured'.not_smaller hanswers' hmeasures' hpresent' hselection' hpatch' hfield
    hreconciliation (houtcome.symm.trans hrepairable)
  have hleast' := hmeasured.not_smaller hanswers hmeasures hpresent hselection hpatch hfield'
    hreconciliation' (houtcome'.symm.trans hrepairable')
  have hsame : selected.sourceField = selected'.sourceField :=
    sourceField_of_ties hranked hranked' hleast hleast'
  refine ⟨hsame, by rw [hreconciliation, hreconciliation', hsame], ?_⟩
  obtain ⟨actor, proposal, sql, content, hanswer, hsource, hcontent, rfl⟩ :=
    hselection.rendered hmeasured hpatch
  obtain ⟨actor', proposal', sql', content', hanswer', hsource', hcontent', rfl⟩ :=
    hselection'.rendered hmeasured' hpatch'
  obtain rfl := halike.model sql sql' (hanswers _ _ _ hanswer) (hanswers' _ _ _ hanswer')
  obtain rfl := renderDbtPatch_congr (hsource.trans (hsame.trans hsource'.symm)) hcontent hcontent'
  rfl

/-- The execution of a field: only the net amount means what the model needs. -/
def fieldExecution (sourceField : String) : CandidateExecution :=
  { semanticVerdict := if sourceField = "net_amount" then .match else .conflict
    evidenceRefs := []
    reconciliation :=
      { totalVariancePct := .finite 0
        rowCountVariancePct := .finite 0
        primaryKeyOverlapPct := .finite 100
        nullRateDeltaPercentagePoints := .finite 0 }
    build := { passed := true } }

/-- Adapters that work, with these proposals. -/
def proposing (candidates : List CandidateProposal) : AdapterAnswers
  | .propose .. => .ok { candidates, integration := succeeded "propose" }
  | .execute _ _ proposal _ => .ok (fieldExecution proposal.sourceField)
  | op => workingAnswers op

def grossProposal : CandidateProposal :=
  { id := "gross", sourceField := "gross_amount", rationale := "" }

def netProposal : CandidateProposal :=
  { id := "net", sourceField := "net_amount", rationale := "" }

def proposed (candidates : List CandidateProposal) : Environment :=
  { answers := fun op answer => answer = proposing candidates op }

theorem measures_proposed {candidates : List CandidateProposal} :
    (proposed candidates).Measures fun _ => fieldExecution := by
  rintro caseId proposal context execution (h | ⟨error, h, -⟩)
  · rw [Except.ok.inj h]
    exact ⟨rfl, rfl, rfl⟩
  · cases h

theorem alike_proposed {candidates candidates' : List CandidateProposal} :
    Environment.Alike service (proposed candidates) (proposed candidates') where
  single _ h := h
  single' _ h := h
  measures := ⟨_, measures_proposed, measures_proposed⟩
  model _ _ h h' := (Except.ok.inj h).trans (Except.ok.inj h').symm

/-- What a drift with these proposals leads to. -/
def Opened (candidates : List CandidateProposal) (snapshot : CaseSnapshot) : Prop :=
  snapshot.candidateProposals = candidates ∧ snapshot.selectedCandidate.isSome = true ∧
    snapshot.patch.isSome = true ∧ snapshot.context = some (connectedService.contextBundle
      canonicalAssetUrn
      { integration := succeeded "fetchContext"
        context := [("glossary_definition", .str "net revenue"), ("lineage_current", .bool true)] })

instance (candidates : List CandidateProposal) (snapshot : CaseSnapshot) :
    Decidable (Opened candidates snapshot) := by unfold Opened; infer_instance

theorem session_proposed (candidates : List CandidateProposal)
    (h : (connectedService.session [⟨.ingest canonicalDrift, proposing candidates⟩] 0 {}).any
      (fun outcome => (outcome.2.store.snapshot? "DR-01234567").any fun snapshot =>
        Opened candidates snapshot) = true) :
    ∃ pool snapshot, connectedService.Reachable (proposed candidates) pool ∧
      pool.shared.store.snapshot? "DR-01234567" = some snapshot ∧ Opened candidates snapshot := by
  obtain ⟨⟨calls, final⟩, hvisits, hholds⟩ := (Option.any_eq_true _ _).1 h
  obtain ⟨snapshot, hsnapshot, hopened⟩ := (Option.any_eq_true _ _).1 hholds
  have hinit : connectedService.Reachable (proposed candidates) (System.init {}) := .refl
  obtain ⟨pool, hreach, -, rfl, -⟩ := Service.session_reachable_from
    (fun visit hvisit => ⟨rfl, trivial⟩)
    (fun visit hvisit op => by rw [List.mem_singleton.1 hvisit]; rfl) hinit rfl hvisits
  exact ⟨pool, snapshot, hreach, hsnapshot, of_decide_eq_true hopened⟩

/-- The same two proposals, in either order. -/
theorem selection_agrees_reordered : ∃ pool pool' snapshot snapshot' selected selected',
    connectedService.Reachable (proposed [grossProposal, netProposal]) pool ∧
    connectedService.Reachable (proposed [netProposal, grossProposal]) pool' ∧
    pool.shared.store.snapshot? "DR-01234567" = some snapshot ∧
    pool'.shared.store.snapshot? "DR-01234567" = some snapshot' ∧
    snapshot.candidateProposals = [grossProposal, netProposal] ∧
    snapshot'.candidateProposals = [netProposal, grossProposal] ∧
    snapshot.selectedCandidate = some selected ∧ snapshot'.selectedCandidate = some selected' ∧
    selected.sourceField = selected'.sourceField ∧ snapshot.patch = snapshot'.patch := by
  obtain ⟨pool, snapshot, hreach, hcase, hproposals, hselected, hpatch, hcontext⟩ :=
    session_proposed [grossProposal, netProposal] (by decide +kernel)
  obtain ⟨pool', snapshot', hreach', hcase', hproposals', hselected', hpatch', hcontext'⟩ :=
    session_proposed [netProposal, grossProposal] (by decide +kernel)
  obtain ⟨selected, hselected⟩ := Option.isSome_iff_exists.1 hselected
  obtain ⟨selected', hselected'⟩ := Option.isSome_iff_exists.1 hselected'
  obtain ⟨patch, hpatch⟩ := Option.isSome_iff_exists.1 hpatch
  obtain ⟨patch', hpatch'⟩ := Option.isSome_iff_exists.1 hpatch'
  have hfields : ∀ field, field ∈ snapshot.candidateProposals.map CandidateProposal.sourceField ↔
      field ∈ snapshot'.candidateProposals.map CandidateProposal.sourceField := by
    intro field
    simp [hproposals, hproposals', or_comm]
  obtain ⟨hfield, -, hsame⟩ := (selection_agrees alike_proposed hreach hreach' hcase hcase'
    (hcontext.trans hcontext'.symm) hfields hselected hpatch).2 selected' patch' hselected' hpatch'
  exact ⟨pool, pool', snapshot, snapshot', selected, selected', hreach, hreach', hcase, hcase',
    hproposals, hproposals', hselected, hselected', hfield, by rw [hpatch, hpatch', hsame]⟩

end

end DataRescue
