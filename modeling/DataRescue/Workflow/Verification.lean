import DataRescue.Workflow.Reading

/-!
# A proof rule for verifications

How a verification under the worker lock ends. `wp_settleDeployment` follows the part after the
evidence: the deployment record, and then the reports and events that close the case, each of them
allowed by the ledger. The case is left open only by a report that raised, or by a store that failed.
-/

namespace DataRescue

open Python Concurrency

/-- The calls of a verification that come after the deployment record. -/
def Op.reports : Op → Bool
  | .adapter (.writeEvidenceReport ..) | .adapter (.resolveIncident _) => true
  | _ => false

/-- No report raised. -/
def Undisturbed (path : List (Performed Op Op.Reply Exn World)) : Prop :=
  ∀ performed ∈ path, performed.op.reports = true → performed.answer.isOk = true

/-- The snapshots agree on what a verification reads. -/
structure SameRepair (first second : CaseSnapshot) : Prop where
  id : first.id = second.id
  assetUrn : first.assetUrn = second.assetUrn
  selectedCandidate : first.selectedCandidate = second.selectedCandidate
  patch : first.patch = second.patch
  incidentIntegration : first.incidentIntegration = second.incidentIntegration
  incidentUrn : first.incidentUrn = second.incidentUrn

section

variable {service : Service} {environment : Environment} {actor : Actor Call}
  {world : World} {caseId : String} {snapshot first second : CaseSnapshot}
  {evidence : DeploymentEvidence} {calls : List (Exchange Op Op.Reply Exn)} {scope : Nat}
  {path : List (Performed Op Op.Reply Exn World)}
  {post : Except Exn CaseSnapshot → List (Performed Op Op.Reply Exn World) → World → Prop}

theorem Undisturbed.append {more : List (Performed Op Op.Reply Exn World)} (h : Undisturbed path)
    (h' : Undisturbed more) : Undisturbed (path ++ more) := fun performed hmem =>
  (List.mem_append.1 hmem).elim (h performed) (h' performed)

theorem Undisturbed.of_append {more : List (Performed Op Op.Reply Exn World)}
    (h : Undisturbed (path ++ more)) : Undisturbed path ∧ Undisturbed more :=
  ⟨fun performed hmem => h performed (List.mem_append_left _ hmem),
    fun performed hmem => h performed (List.mem_append_right _ hmem)⟩

theorem undisturbed_single {op : Op} {answer : Except Exn op.Reply} :
    Undisturbed [⟨op, answer, world⟩] ↔ (op.reports = true → answer.isOk = true) := by
  simp [Undisturbed]

theorem ReadsIn.undisturbed {more : List (Performed Op Op.Reply Exn World)}
    (h : ReadsIn world more) : Undisturbed more := by
  intro performed hmem hreports
  have hpassive := (h performed hmem).1
  obtain ⟨op, answer, before⟩ := performed
  cases op with
  | adapter op => cases hpassive
  | store op => cases hreports
  | memory op => cases hreports

theorem SameRepair.liveIncident (h : SameRepair first second) :
    first.liveIncident = second.liveIncident := by
  rw [CaseSnapshot.liveIncident, CaseSnapshot.liveIncident, h.incidentIntegration]

theorem SameRepair.deploymentEvidence (h : SameRepair first second) (request : VerifyDeploymentRequest) :
    service.deploymentEvidence first request = service.deploymentEvidence second request := by
  unfold Service.deploymentEvidence Service.livePostDeployEvidence
  rw [h.liveIncident, h.selectedCandidate, h.patch, h.assetUrn, h.id]

theorem Evidenced.congr (h : Evidenced service caseId first actor evidence calls)
    (hsame : SameRepair first second) : Evidenced service caseId second actor evidence calls := by
  obtain ⟨request, hcommand, htrace⟩ := h.request
  exact ⟨request, hcommand, hsame.deploymentEvidence request ▸ htrace⟩

/-! ### Closing the case -/

theorem wp_close {body : EventBody} {state : CaseState}
    (hcase : Advancing service actor caseId snapshot world)
    (hallowed : Allowed service environment world.history actor caseId snapshot body state)
    (hfailed : ∀ error more after, environment.Failed error →
      Advancing service actor caseId snapshot after →
      Undisturbed more → post (.error error) (path ++ more) after)
    (hclosed : ∀ result more after current, Advancing service actor caseId current after →
      current.state = state → Undisturbed more → (∀ final, result = .ok final → final = current) →
      (∀ error, result = .error error → environment.Failed error) → post result (path ++ more) after) :
    (do
      let _ ← Flow.store (.append caseId state body none none)
      Flow.store (.getCase caseId) : Flow CaseSnapshot).wp
        ((ledgerProof service environment).logic actor) post path world := by
  rw [Program.wp_bind]
  refine wp_append hcase hallowed (fun error after hfailure hcase _ _ => ?_)
    fun recorded after hbody hstate hcase _ _ => ?_
  · exact hfailed error _ after hfailure hcase (undisturbed_single.2 nofun)
  · have hrecord : Undisturbed [⟨.store (.append caseId state body none none), .ok recorded, world⟩] :=
      undisturbed_single.2 nofun
    dsimp only
    refine wp_getCase ledgerProof_lenient (fun _ _ h => h) hcase.held
      (fun error more hfailure hmore => ?_) (fun more hmore hlog => ?_)
      fun more found hmore hfound => ?_
    · rw [List.append_assoc]
      refine hclosed (.error error) _ after _ hcase (by simp [hstate])
        (hrecord.append hmore.undisturbed) (fun final hfinal => ?_) fun found hfound => ?_
      · cases hfinal
      · exact Except.error.inj hfound ▸ hfailure
    · have hsome := hcase.snapshot
      rw [Store.snapshot?, hlog] at hsome
      cases hsome
    · obtain rfl := Option.some.inj (hfound.symm.trans hcase.snapshot)
      rw [List.append_assoc]
      refine hclosed (.ok _) _ after _ hcase (by simp [hstate])
        (hrecord.append hmore.undisturbed) (fun final hfinal => ?_) fun error herror => ?_
      · exact (Except.ok.inj hfinal).symm
      · cases herror

theorem SameRepair.refl (snapshot : CaseSnapshot) : SameRepair snapshot snapshot :=
  ⟨rfl, rfl, rfl, rfl, rfl, rfl⟩

theorem SameRepair.symm (h : SameRepair first second) : SameRepair second first :=
  ⟨h.id.symm, h.assetUrn.symm, h.selectedCandidate.symm, h.patch.symm, h.incidentIntegration.symm,
    h.incidentUrn.symm⟩

theorem SameRepair.trans {third : CaseSnapshot} (h : SameRepair first second)
    (h' : SameRepair second third) : SameRepair first third :=
  ⟨h.id.trans h'.id, h.assetUrn.trans h'.assetUrn, h.selectedCandidate.trans h'.selectedCandidate,
    h.patch.trans h'.patch, h.incidentIntegration.trans h'.incidentIntegration,
    h.incidentUrn.trans h'.incidentUrn⟩

theorem Made.snoc {history : List Effect} {op : Op} {answer : Except Exn op.Reply}
    (h : Made history actor scope calls) :
    Made (history ++ [⟨actor, scope, op, answer⟩]) actor scope (calls ++ [⟨op, answer⟩]) := by
  rw [Made, List.map_append]
  exact h.append (.refl _)

theorem SameRepair.apply {recorded : CaseEvent} (h : SameRepair first second)
    (hbody : recorded.body.eventType = .deploymentRecorded ∨
      recorded.body.eventType = .postDeployVerified) : SameRepair (first.apply recorded) second := by
  have hsame : SameRepair (first.apply recorded) first := by
    cases hrecorded : recorded.body <;> rw [hrecorded] at hbody <;>
      simp [EventBody.eventType] at hbody <;>
      constructor <;> simp [CaseSnapshot.apply, hrecorded, CaseSnapshot.applyBody]
  exact hsame.trans h

/-- The ends of a verification: the case is closed, or a report or the store left it open. -/
structure Settles (service : Service) (environment : Environment) (actor : Actor Call)
    (caseId : String) (path : List (Performed Op Op.Reply Exn World))
    (post : Except Exn CaseSnapshot → List (Performed Op Op.Reply Exn World) → World → Prop) :
    Prop where
  closed : ∀ result more after current, Advancing service actor caseId current after →
    current.state.closed →
    Undisturbed more → (∀ final, result = .ok final → final = current) →
    (∀ error, result = .error error → environment.Failed error) → post result (path ++ more) after
  stranded : ∀ error more after current, Advancing service actor caseId current after →
    current.state = .deployed ∨ current.state = .postDeployVerified →
    ¬Undisturbed more ∨ environment.Failed error → post (.error error) (path ++ more) after

theorem Settles.more {more : List (Performed Op Op.Reply Exn World)}
    (h : Settles service environment actor caseId path post) (hmore : Undisturbed more) :
    Settles service environment actor caseId (path ++ more) post where
  closed result rest after current hcase hstate hrest hok herror := by
    rw [List.append_assoc]
    exact h.closed result _ after current hcase hstate (hmore.append hrest) hok herror
  stranded error rest after current hcase hstate hcause := by
    rw [List.append_assoc]
    exact h.stranded error _ after current hcase hstate
      (hcause.imp_left fun hdisturbed hall => hdisturbed hall.of_append.2)

theorem Settles.stored {op : StoreOp} {answer : Except Exn op.Reply} {before : World}
    (h : Settles service environment actor caseId path post) :
    Settles service environment actor caseId (path ++ [⟨.store op, answer, before⟩]) post :=
  h.more (undisturbed_single.2 nofun)

theorem Settles.close {body : EventBody} {state : CaseState}
    (h : Settles service environment actor caseId path post)
    (hcase : Advancing service actor caseId snapshot world)
    (hopen : snapshot.state = .deployed ∨ snapshot.state = .postDeployVerified)
    (hclosed : state.closed)
    (hallowed : Allowed service environment world.history actor caseId snapshot body state) :
    (do
      let _ ← Flow.store (.append caseId state body none none)
      Flow.store (.getCase caseId) : Flow CaseSnapshot).wp
        ((ledgerProof service environment).logic actor) post path world :=
  wp_close hcase hallowed
    (fun error more after hfailure hcase _ => h.stranded error more after snapshot hcase hopen
      (.inr hfailure))
    fun result more after current hcase hstate hmore hok herror =>
      h.closed result more after current hcase (hstate ▸ hclosed) hmore hok herror

theorem Settles.report {op : AdapterOp} {next : op.Reply → Flow CaseSnapshot}
    (h : Settles service environment actor caseId path post)
    (hcase : Advancing service actor caseId snapshot world)
    (hreports : (Op.adapter op).reports = true)
    (hopen : snapshot.state = .deployed ∨ snapshot.state = .postDeployVerified)
    (hnext : ∀ reply after path, Advancing service actor caseId snapshot after →
      after.store = world.store →
      after.history = world.history ++ [⟨actor, world.store.currentScope, .adapter op, .ok reply⟩] →
      Settles service environment actor caseId path post →
      (next reply).wp ((ledgerProof service environment).logic actor) post path after) :
    (Flow.adapter op >>= next).wp ((ledgerProof service environment).logic actor) post path world := by
  rw [Program.wp_bind]
  refine wp_adapter hcase fun answer after hcase hstore hhistory => ?_
  cases answer with
  | error error =>
    refine h.stranded error _ after snapshot hcase hopen (.inl fun hall => ?_)
    have hok := undisturbed_single.1 hall hreports
    cases hok
  | ok reply =>
    exact hnext reply after _ hcase hstore hhistory (h.more (undisturbed_single.2 fun _ => rfl))

theorem wp_resolveDeployment {original : CaseSnapshot} {writeback : IntegrationResult}
    (h : Settles service environment actor caseId path post)
    (hcase : Advancing service actor caseId snapshot world)
    (hstate : snapshot.state = .postDeployVerified) (hsame : SameRepair snapshot original)
    (hevidence : Evidenced service caseId original actor evidence calls)
    (hcommit : snapshot.deploymentCommit = some evidence.verifiedCommit)
    (haccepted : (evidence.decision service).accepted = true)
    (hmade : Made world.history actor world.store.currentScope
      (calls ++ [⟨.adapter (.writeEvidenceReport original.assetUrn caseId
        (.recovered evidence.verifiedCommit (evidence.decision service).checks) false),
        .ok writeback⟩]))
    (hlive : original.liveIncident = true → writeback.status = .succeeded) :
    (Service.resolveDeployment original caseId).wp ((ledgerProof service environment).logic actor)
      post path world := by
  unfold Service.resolveDeployment
  refine h.report hcase rfl (.inr hstate)
    fun resolution after path hcase hstore hhistory hsettles => ?_
  split_ifs with hfailed
  · exact hsettles.close hcase (.inr hstate) (.inr (.inr rfl)) (.unresolved _ _ hstate)
  · have hcalls : closingCalls service caseId snapshot evidence writeback resolution =
        [⟨.adapter (.writeEvidenceReport original.assetUrn caseId
          (.recovered evidence.verifiedCommit (evidence.decision service).checks) false),
          .ok writeback⟩] ++ [⟨.adapter (.resolveIncident original.incidentUrn), .ok resolution⟩] := by
      rw [closingCalls, hsame.assetUrn, hsame.incidentUrn]
      rfl
    have hclosing : Made after.history actor world.store.currentScope
        (calls ++ closingCalls service caseId snapshot evidence writeback resolution) := by
      rw [hhistory, hcalls, ← List.append_assoc]
      exact hmade.snoc
    refine hsettles.close hcase (.inr hstate) (.inl rfl) (.resolved hstate
      (hevidence.congr hsame.symm) hclosing hcommit haccepted fun hsnapshot => ?_)
    rw [hsame.liveIncident] at hsnapshot
    refine ⟨hlive hsnapshot, ?_⟩
    simpa [hsnapshot] using hfailed

theorem contain_bind (caseId assetUrn : String) (reasons : List String) (next : Flow CaseSnapshot) :
    ∃ concise, (do Service.contain caseId assetUrn reasons; next) = (do
      let writeback ← Flow.adapter
        (.writeEvidenceReport assetUrn caseId (.autoRepairRefused concise) true)
      let _ ← Flow.store (.append caseId .contained (.contained concise writeback 75) none none)
      next) := by
  refine ⟨if reasons.take 20 = [] then ["No candidate satisfies recovery policy"]
    else reasons.take 20, ?_⟩
  unfold Service.contain
  simp only [Program.bind_eq, Flow.adapter, Flow.store, Program.andThen, Program.call.injEq,
    heq_eq_eq, true_and]
  funext answer
  cases answer with
  | error error => rfl
  | ok writeback =>
    simp only [Program.andThen, Program.call.injEq, heq_eq_eq, true_and]
    funext answer
    cases answer <;> rfl

theorem wp_settleDeployment (h : Settles service environment actor caseId path post)
    (hcase : Advancing service actor caseId snapshot world) (hstate : snapshot.state = .prOpen)
    (hselected : snapshot.selectedCandidate ≠ none)
    (hevidence : Evidenced service caseId snapshot actor evidence calls)
    (hmade : Made world.history actor world.store.currentScope calls)
    (hfailed : ∀ error more after, environment.Failed error →
      Advancing service actor caseId snapshot after →
      after.store = world.store → Undisturbed more → post (.error error) (path ++ more) after) :
    (service.settleDeployment snapshot caseId evidence).wp
      ((ledgerProof service environment).logic actor) post path world := by
  unfold Service.settleDeployment
  rw [Program.wp_bind]
  refine wp_append hcase (.deployed hstate hselected hevidence hmade)
    (fun error after hfailure hcase hstore _ => ?_)
    fun recorded after hbody hrecorded hcase hscope hgrows => ?_
  · exact hfailed error _ after hfailure hcase hstore (undisturbed_single.2 nofun)
  have hdeployed : (snapshot.apply recorded).state = .deployed := by simp [hrecorded]
  have hsame : SameRepair (snapshot.apply recorded) snapshot :=
    (SameRepair.refl snapshot).apply (.inl (by rw [hbody]; rfl))
  have hcommit : (snapshot.apply recorded).deploymentCommit = some evidence.verifiedCommit := by
    simp [CaseSnapshot.apply, hbody, CaseSnapshot.applyBody]
  have hmade : Made after.history actor after.store.currentScope calls :=
    hscope ▸ hmade.mono hgrows
  dsimp only
  split_ifs with haccepted
  · -- the evidence is refused: the case is contained
    have hrejected : (evidence.decision service).accepted = false :=
      (Bool.not_eq_true' _).mp haccepted
    obtain ⟨concise, hcontain⟩ := contain_bind caseId snapshot.assetUrn
      (evidence.decision service).reasons (Flow.store (.getCase caseId))
    change (do Service.contain caseId snapshot.assetUrn (evidence.decision service).reasons
               Flow.store (.getCase caseId) : Flow CaseSnapshot).wp _ _ _ _
    rw [hcontain]
    refine h.stored.report hcase rfl (.inl hdeployed)
      fun writeback after path hcase _ hhistory hsettles => ?_
    exact hsettles.close hcase (.inl hdeployed) (.inr (.inl rfl)) (.refused concise writeback hdeployed
      (hevidence.congr hsame.symm) (hmade.mono (hhistory ▸ List.prefix_append ..)) hcommit hrejected)
  · have haccepted : (evidence.decision service).accepted = true :=
      Bool.not_eq_false _ ▸ fun hrefused => haccepted (by rw [Bool.not_eq_true']; exact hrefused)
    rw [Program.wp_bind]
    refine wp_append hcase (.verified hdeployed (hevidence.congr hsame.symm) hmade hcommit haccepted)
      (fun error after hfailure hcase _ _ => ?_)
      fun verified final hbody' hverified hcase hscope' hgrows' => ?_
    · exact h.stored.stranded error _ after _ hcase (.inl hdeployed) (.inr hfailure)
    have hstate' : ((snapshot.apply recorded).apply verified).state = .postDeployVerified := by
      simp [hverified]
    have hsame' : SameRepair ((snapshot.apply recorded).apply verified) snapshot :=
      hsame.apply (.inr (by rw [hbody']; rfl))
    have hcommit' : ((snapshot.apply recorded).apply verified).deploymentCommit =
        some evidence.verifiedCommit := by
      rw [← hcommit]
      simp [CaseSnapshot.apply, hbody', CaseSnapshot.applyBody]
    have hmade' : Made final.history actor final.store.currentScope calls :=
      hscope' ▸ hmade.mono hgrows'
    refine h.stored.stored.report hcase rfl (.inr hstate')
      fun writeback later path hcase hstore hhistory hsettles => ?_
    split_ifs with hwriteback
    · exact hsettles.close hcase (.inr hstate') (.inr (.inr rfl)) (.unresolved _ _ hstate')
    · refine wp_resolveDeployment hsettles hcase hstate' hsame' hevidence hcommit' haccepted ?_
        fun hlive => by simpa [hlive] using hwriteback
      rw [hhistory, hstore]
      exact hmade'.snoc

/-! ### The whole verification -/

theorem Op.GathersEvidence.reports {op : Op} (h : op.GathersEvidence) : op.reports = false := by
  cases op with
  | store op => rfl
  | memory op => rfl
  | adapter op => cases op <;> first | rfl | cases h

theorem gathers_undisturbed {more : List (Performed Op Op.Reply Exn World)}
    (h : ∀ performed ∈ more, performed.op.GathersEvidence) : Undisturbed more := by
  intro performed hmem hreports
  rw [(h performed hmem).reports] at hreports
  cases hreports

theorem wp_refuseIf {condition : Bool} {message : String} {next : Flow CaseSnapshot}
    {logic : Logic Op Op.Reply Exn World}
    (hrefused : condition = true → post (.error (.valueError message)) path world)
    (hnext : condition = false → next.wp logic post path world) :
    (do refuseIf condition message; next).wp logic post path world := by
  rw [Program.wp_bind]
  cases condition with
  | true => exact hrefused rfl
  | false => exact hnext rfl

/-- A verification under the lock: it raises before it has written anything, or it settles the
deployment. -/
theorem wp_verifyDeploymentLocked {request : VerifyDeploymentRequest}
    (hcommand : actor.call.command = .verifyDeployment caseId request) (hheld : world.HeldBy actor)
    (hunchanged : ∀ error more after, after.HeldBy actor → after.store = world.store →
      Undisturbed more → post (.error error) (path ++ more) after)
    (h : ∀ snapshot, world.store.snapshot? caseId = some snapshot → snapshot.state = .prOpen →
      Settles service environment actor caseId path post) :
    (service.verifyDeploymentLocked caseId request).wp ((ledgerProof service environment).logic actor)
      post path world := by
  unfold Service.verifyDeploymentLocked
  rw [Program.wp_bind]
  refine wp_getCase ledgerProof_lenient (fun _ _ h => h) hheld
    (fun error more _ hmore => hunchanged error more world hheld rfl hmore.undisturbed)
    (fun more hmore _ => hunchanged _ more world hheld rfl hmore.undisturbed)
    fun more snapshot hmore hsnapshot => ?_
  have hread := hmore.undisturbed
  refine wp_refuseIf (fun _ => hunchanged _ more world hheld rfl hread) fun hstate => ?_
  refine wp_refuseIf (fun _ => hunchanged _ more world hheld rfl hread) fun hselected => ?_
  have hstate : snapshot.state = .prOpen := by simpa using hstate
  have hselected : snapshot.selectedCandidate ≠ none := by simpa using hselected
  rw [Program.wp_bind]
  have huses : (service.deploymentEvidence snapshot request).Uses Op.GathersEvidence :=
    deploymentEvidence_uses
  generalize hflow : service.deploymentEvidence snapshot request = flow at huses ⊢
  refine wp_gathers huses hheld (fun _ _ _ _ _ => trivial)
    fun calls result asked htrace hasked => ?_
  have hasks := hread.append (gathers_undisturbed hasked)
  have hheld' : (world.recordAll actor calls).HeldBy actor := hheld
  rw [List.append_assoc]
  cases result with
  | error error => exact hunchanged error _ _ hheld' rfl hasks
  | ok evidence =>
    have hmade : Made (world.recordAll actor calls).history actor world.store.currentScope calls :=
      List.sublist_append_right world.history _
    have hevidence : Evidenced service caseId snapshot actor evidence calls :=
      ⟨request, hcommand, hflow ▸ htrace⟩
    have hconcerns : Concerns service actor snapshot := by
      intro event hingest
      rw [hcommand] at hingest
      cases hingest
    refine wp_settleDeployment ((h snapshot hsnapshot hstate).more hasks)
      ⟨hheld', hsnapshot, hconcerns⟩ hstate hselected hevidence hmade
      fun error rest after _ hcase hstore hrest => ?_
    rw [List.append_assoc]
    exact hunchanged error _ after hcase.held hstore (hasks.append hrest)

end

end DataRescue
