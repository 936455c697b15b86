import DataRescue.Workflow.Ingest
import DataRescue.Workflow.Verify

/-!
# The footprint of a program

Which operations the programs of the service can call at all, whatever they are answered: an advance
reads and appends to its own case and calls the adapters of the repair, a verification those of the
deployment. The proofs follow the programs. `advance_raises` and `advance_drafts` count the two calls
that must not be repeated.
-/

namespace DataRescue

open Python Concurrency

/-- The events an advance appends. -/
def EventType.duringAdvance : EventType → Bool
  | .incidentRaised | .contextGathered | .candidatesReady | .validationStarted | .candidateAssessed
  | .patchReady | .evidenceWritten | .prAttempted | .prOpened | .contained | .failed => true
  | _ => false

/-- The events a verification appends. -/
def EventType.duringVerification : EventType → Bool
  | .deploymentRecorded | .postDeployVerified | .incidentResolved | .contained | .failed => true
  | _ => false

/-- The adapter calls of the stages between the incident and the pull request. -/
def AdapterOp.duringRepair : AdapterOp → Bool
  | .fetchContext _ | .writeEvidenceReport .. | .propose .. | .execute .. | .readText .. => true
  | _ => false

/-- The adapter calls of a verification. -/
def AdapterOp.duringVerification : AdapterOp → Bool
  | .raiseIncident .. | .createDraft .. => false
  | _ => true

/-- The adapter calls that gather the evidence for a deployment. -/
def AdapterOp.gathersEvidence : AdapterOp → Bool
  | .fetchContext _ | .execute .. | .producesLiveEvidence _ | .resolvePath _ | .makeDirectory _
  | .makeTemporaryDirectory .. | .removeTemporaryDirectory _ | .git .. | .canBindToCheckout
  | .bindToCheckout .. => true
  | _ => false

/-- The operations of those stages, for one case. -/
def Op.DuringRepair (caseId : String) : Op → Prop
  | .store (.getCase id) => id = caseId
  | .store (.append id _ body dedupKey eventId) =>
    id = caseId ∧ dedupKey = none ∧ eventId = none ∧ body.eventType.duringAdvance = true
  | .adapter op => op.duringRepair = true
  | _ => False

/-- The operations of an advance. -/
def Op.DuringAdvance (caseId : String) (op : Op) : Prop :=
  op.DuringRepair caseId ∨ (∃ assetUrn description,
    op = .adapter (.raiseIncident assetUrn caseId description)) ∨
    ∃ patch, op = .adapter (.createDraft caseId patch)

/-- The operations that gather the evidence. -/
def Op.GathersEvidence : Op → Prop
  | .adapter op => op.gathersEvidence = true
  | _ => False

/-- The operations of a verification under the lock. -/
def Op.DuringVerification (caseId : String) : Op → Prop
  | .store (.getCase id) => id = caseId
  | .store (.append id _ body dedupKey eventId) =>
    id = caseId ∧ dedupKey = none ∧ eventId = none ∧ body.eventType.duringVerification = true
  | .adapter op => op.duringVerification = true
  | _ => False

section

variable {allowed : Op → Prop} {α : Type}

theorem uses_pure {value : α} : (pure value : Flow α).Uses allowed := .done _

theorem uses_throw {error : Exn} : (Program.throw error : Flow α).Uses allowed :=
  .done _

theorem uses_store {op : StoreOp} (h : allowed (.store op)) : (Flow.store op).Uses allowed :=
  .call h fun _ => .done _

theorem uses_adapter {op : AdapterOp} (h : allowed (.adapter op)) :
    (Flow.adapter op).Uses allowed := .call h fun _ => .done _

theorem uses_exceptException {program : Flow α} {handler : Exn → Flow α}
    (h : program.Uses allowed) (hhandler : ∀ error, (handler error).Uses allowed) :
    (Flow.exceptException program handler).Uses allowed := by
  refine h.tryCatch fun error => ?_
  split_ifs
  · exact hhandler error
  · exact uses_throw

theorem uses_refuseIf {condition : Bool} {message : String} :
    (refuseIf condition message).Uses allowed := by
  unfold refuseIf
  split_ifs <;> exact .done _

end

section

variable {service : Service} {caseId : String} {event : SchemaChangeEvent}

/-! ### The parts of an ingest -/

theorem uses_checkEventId {allowed : Op → Prop} {dedupKey : String}
    (h : ∀ eventId body key, allowed (.store (.findCaseForEventId eventId caseId .detected body key))) :
    (Service.checkEventId event dedupKey caseId).Uses allowed := by
  unfold Service.checkEventId
  split
  · exact uses_pure
  · exact uses_store (h _ _ _)

theorem uses_deduplicatedResponse {allowed : Op → Prop} {dedupKey : String}
    (h : ∀ eventId body key, allowed (.store (.findCaseForEventId eventId caseId .detected body key)))
    (hread : allowed (.store (.getCase caseId))) :
    (Service.deduplicatedResponse event dedupKey caseId).Uses allowed := by
  unfold Service.deduplicatedResponse
  refine .bind (uses_checkEventId h) fun _ => .bind (.attempt (uses_store hread)) fun read => ?_
  split
  · exact uses_pure
  · exact uses_pure
  · exact uses_throw

theorem uses_availableCaseId {allowed : Op → Prop} {dedupKey : String}
    (hsearch : allowed (.store (.findCaseForDedup dedupKey)))
    (hexists : ∀ candidate, allowed (.store (.caseIdExists candidate))) :
    (Service.availableCaseId dedupKey).Uses allowed := by
  have hwidened : ∀ widths, (Service.widenedCaseId dedupKey widths).Uses allowed := by
    intro widths
    induction widths with
    | nil => exact uses_throw
    | cons width widths ih =>
      unfold Service.widenedCaseId
      dsimp only
      split_ifs
      · exact ih
      refine .bind (uses_store (hexists _)) fun occupied => ?_
      split_ifs
      · exact uses_pure
      · exact ih
  unfold Service.availableCaseId
  refine .bind (uses_store hsearch) fun existing => ?_
  cases existing with
  | some existing => exact uses_pure
  | none =>
    refine .bind (uses_store (hexists _)) fun occupied => ?_
    split_ifs
    · exact uses_pure
    · exact hwidened _

/-! ### The advance -/

theorem contain_uses {allowed : Op → Prop} {assetUrn : String} {reasons : List String}
    (hreport : ∀ report, allowed (.adapter (.writeEvidenceReport assetUrn caseId report true)))
    (happend : ∀ reasons writeback, allowed (.store (.append caseId .contained
      (.contained reasons writeback 75) none none))) :
    (Service.contain caseId assetUrn reasons).Uses allowed := by
  unfold Service.contain
  exact .bind (uses_adapter (hreport _)) fun _ => .bind (uses_store (happend _ _)) fun _ => uses_pure

theorem contain_repair {assetUrn : String} {reasons : List String} :
    (Service.contain caseId assetUrn reasons).Uses (Op.DuringRepair caseId) :=
  contain_uses (fun _ => rfl) fun _ _ => ⟨rfl, rfl, rfl, rfl⟩

theorem connectedIntegrationReady_uses {integration : IntegrationResult} {label : String} :
    (service.connectedIntegrationReady caseId integration label).Uses (Op.DuringRepair caseId) := by
  unfold Service.connectedIntegrationReady
  split_ifs
  · exact uses_pure
  · exact .bind (uses_store ⟨rfl, rfl, rfl, rfl⟩) fun _ => uses_pure

theorem contextStage_uses :
    (service.contextStage caseId event).Uses (Op.DuringRepair caseId) := by
  unfold Service.contextStage Service.context
  refine .bind (uses_store rfl) fun case => ?_
  split
  · refine .bind (.bind (uses_adapter rfl) fun _ => uses_pure) fun context => ?_
    split_ifs
    · exact .bind contain_repair fun _ => uses_pure
    · exact .bind (uses_store ⟨rfl, rfl, rfl, rfl⟩) fun _ => uses_pure
  · split_ifs
    · exact .bind contain_repair fun _ => uses_pure
    · exact uses_pure

theorem proposalStage_uses {context : ContextBundle} :
    (service.proposalStage caseId event context).Uses (Op.DuringRepair caseId) := by
  unfold Service.proposalStage
  refine .bind (uses_store rfl) fun case => ?_
  split
  · exact .bind connectedIntegrationReady_uses fun _ => uses_pure
  · refine .bind (uses_adapter rfl) fun generated =>
      .bind connectedIntegrationReady_uses fun ready => ?_
    split_ifs
    · exact uses_pure
    · exact .bind contain_repair fun _ => uses_pure
    · exact .bind (uses_store ⟨rfl, rfl, rfl, rfl⟩) fun _ => uses_pure

theorem validationStage_uses {proposals : List CandidateProposal} :
    (service.validationStage caseId proposals).Uses (Op.DuringRepair caseId) := by
  unfold Service.validationStage
  split_ifs
  · refine .bind (uses_store rfl) fun case => ?_
    split_ifs
    · exact .bind (uses_store ⟨rfl, rfl, rfl, rfl⟩) fun _ => uses_pure
    · exact uses_pure
  · exact uses_throw

theorem assessmentLoop_uses {context : ContextBundle} {proposals : List CandidateProposal}
    {known : List CandidateAssessment} {reasons : List String} :
    (service.assessmentLoop caseId context proposals known reasons).Uses
      (Op.DuringRepair caseId) := by
  induction proposals generalizing known reasons with
  | nil => exact uses_pure
  | cons proposal proposals ih =>
    unfold Service.assessmentLoop
    split
    · exact ih
    · exact .bind (uses_exceptException (uses_adapter rfl) fun _ => uses_pure) fun execution =>
        .bind (uses_store ⟨rfl, rfl, rfl, rfl⟩) fun _ => ih

theorem patchStage_uses {proposals : List CandidateProposal} {eligible : List CandidateAssessment} :
    (service.patchStage caseId proposals eligible).Uses (Op.DuringRepair caseId) := by
  unfold Service.patchStage
  refine .bind (uses_store rfl) fun case => ?_
  split
  · exact uses_pure
  split
  · exact uses_throw
  dsimp only
  split
  · exact uses_throw
  refine .bind (uses_adapter rfl) fun existingSql => ?_
  split
  · exact uses_throw
  · exact .bind (uses_store ⟨rfl, rfl, rfl, rfl⟩) fun _ => uses_pure

theorem writebackStage_uses {selected : CandidateAssessment} {patch : PatchArtifact} :
    (Service.writebackStage caseId event selected patch).Uses (Op.DuringRepair caseId) := by
  unfold Service.writebackStage
  refine .bind (uses_store rfl) fun case => ?_
  split
  · exact uses_pure
  · exact .bind (uses_adapter rfl) fun _ => .bind (uses_store ⟨rfl, rfl, rfl, rfl⟩) fun _ => uses_pure

theorem recordFailure_uses {error : Exn} :
    (Service.recordFailure caseId error).Uses (Op.DuringRepair caseId) := by
  unfold Service.recordFailure
  refine .bind (uses_store rfl) fun current => ?_
  split_ifs
  · exact uses_pure
  · exact .bind (uses_store ⟨rfl, rfl, rfl, rfl⟩) fun _ => uses_pure

theorem pullRequestStage_uses {patch : PatchArtifact} :
    (Service.pullRequestStage caseId patch).Uses fun op =>
      op.DuringRepair caseId ∨ op = .adapter (.createDraft caseId patch) := by
  unfold Service.pullRequestStage Service.recordOpened
  refine .bind (uses_store (.inl rfl)) fun case => ?_
  split
  · split_ifs
    · exact .bind (uses_store (.inl ⟨rfl, rfl, rfl, rfl⟩)) fun _ => uses_pure
    · exact uses_pure
  · refine .bind (uses_adapter (.inr rfl)) fun pullRequest => ?_
    split_ifs
    · exact .bind (uses_store (.inl ⟨rfl, rfl, rfl, rfl⟩)) fun _ => uses_pure
    · exact .bind (uses_store (.inl ⟨rfl, rfl, rfl, rfl⟩)) fun _ => uses_pure

theorem assessmentStage_uses {context : ContextBundle} {proposals : List CandidateProposal} :
    (service.assessmentStage caseId context proposals).Uses (Op.DuringRepair caseId) := by
  unfold Service.assessmentStage
  exact .bind (uses_store rfl) fun case => .bind assessmentLoop_uses fun _ => uses_pure

/-- The operations of the stages after the incident. -/
def Op.AfterIncident (caseId : String) (op : Op) : Prop :=
  op.DuringRepair caseId ∨ ∃ patch, op = .adapter (.createDraft caseId patch)

theorem repair_uses {context : ContextBundle} {proposals : List CandidateProposal} :
    (service.repair caseId event context proposals).Uses (Op.AfterIncident caseId) := by
  unfold Service.repair
  refine .bind (assessmentStage_uses.mono fun _ => .inl) fun value => ?_
  dsimp only
  split_ifs
  · exact contain_repair.mono fun _ => .inl
  refine .bind (patchStage_uses.mono fun _ => .inl) fun value =>
    .bind (writebackStage_uses.mono fun _ => .inl) fun writeback =>
      .bind (connectedIntegrationReady_uses.mono fun _ => .inl) fun ready => ?_
  split_ifs
  · exact uses_pure
  · exact pullRequestStage_uses.mono fun _ => .imp_right fun h => ⟨_, h⟩

theorem gather_uses : (service.gather caseId event).Uses (Op.AfterIncident caseId) := by
  unfold Service.gather
  refine .bind (contextStage_uses.mono fun _ => .inl) fun value => ?_
  split
  · exact uses_pure
  refine .bind (proposalStage_uses.mono fun _ => .inl) fun value => ?_
  split
  · exact uses_pure
  exact .bind (validationStage_uses.mono fun _ => .inl) fun _ => repair_uses

theorem incidentStage_uses {case : CaseSnapshot} :
    (Service.incidentStage caseId event case).Uses fun op => op.DuringRepair caseId ∨
      ∃ assetUrn description, op = .adapter (.raiseIncident assetUrn caseId description) := by
  unfold Service.incidentStage
  split
  · exact uses_pure
  · exact .bind (uses_adapter (.inr ⟨_, _, rfl⟩)) fun _ =>
      .bind (uses_store (.inl ⟨rfl, rfl, rfl, rfl⟩)) fun _ => uses_pure

theorem advance_uses : (service.advance caseId event).Uses (Op.DuringAdvance caseId) := by
  unfold Service.advance
  refine .bind (uses_store (.inl rfl)) fun case => ?_
  split_ifs
  · exact uses_pure
  refine .bind (incidentStage_uses.mono fun _ => .imp_right .inl) fun incident =>
    .bind (connectedIntegrationReady_uses.mono fun _ => .inl) fun ready => ?_
  split_ifs
  · exact uses_pure
  · exact gather_uses.mono fun _ => .imp_right .inr

/-! ### Calls that must not be repeated -/

def Op.raises : Op → Bool
  | .adapter (.raiseIncident ..) => true
  | _ => false

def Op.drafts : Op → Bool
  | .adapter (.createDraft ..) => true
  | _ => false

def Op.resolves : Op → Bool
  | .adapter (.resolveIncident _) => true
  | _ => false

theorem Op.DuringRepair.once {op : Op} (h : op.DuringRepair caseId) :
    op.raises = false ∧ op.drafts = false ∧ op.resolves = false := by
  cases op with
  | store op => exact ⟨rfl, rfl, rfl⟩
  | memory op => exact ⟨rfl, rfl, rfl⟩
  | adapter op => cases op <;> first | exact ⟨rfl, rfl, rfl⟩ | cases h

theorem Op.AfterIncident.raises {op : Op} (h : op.AfterIncident caseId) : op.raises = false := by
  rcases h with h | ⟨patch, rfl⟩
  · exact h.once.1
  · rfl

theorem Op.DuringAdvance.resolves {op : Op} (h : op.DuringAdvance caseId) : op.resolves = false := by
  rcases h with h | ⟨_, _, rfl⟩ | ⟨_, rfl⟩
  · exact h.once.2.2
  · rfl
  · rfl

theorem advance_raises : (service.advance caseId event).AtMost Op.raises 1 := by
  unfold Service.advance
  refine (Program.Uses.bind_atMost (uses_store rfl) fun case => ?_)
  split_ifs
  · exact Program.atMost_done
  refine .bind_uses ?_ fun incident =>
    .bind (connectedIntegrationReady_uses.mono fun _ h => h.once.1) fun ready => ?_
  · unfold Service.incidentStage
    split
    · exact Program.atMost_done
    · exact .bind_uses Program.atMost_perform fun _ => .bind (uses_store rfl) fun _ => uses_pure
  · split_ifs
    · exact uses_pure
    · exact gather_uses.mono fun _ h => h.raises

theorem uses_drafts {α : Type} {program : Flow α} (h : program.Uses (Op.DuringRepair caseId)) :
    program.Uses fun op => op.drafts = false := h.mono fun _ h => h.once.2.1

theorem repair_drafts {context : ContextBundle} {proposals : List CandidateProposal} :
    (service.repair caseId event context proposals).AtMost Op.drafts 1 := by
  unfold Service.repair
  refine Program.Uses.bind_atMost (uses_drafts assessmentStage_uses) fun value => ?_
  dsimp only
  split_ifs
  · exact (uses_drafts contain_repair).atMost
  refine Program.Uses.bind_atMost (uses_drafts patchStage_uses) fun value =>
    Program.Uses.bind_atMost (uses_drafts writebackStage_uses) fun writeback =>
      Program.Uses.bind_atMost (uses_drafts connectedIntegrationReady_uses) fun ready => ?_
  split_ifs
  · exact Program.atMost_done
  unfold Service.pullRequestStage Service.recordOpened
  refine Program.Uses.bind_atMost (uses_store rfl) fun case => ?_
  split
  · split_ifs
    · exact Program.Uses.bind_atMost (uses_store rfl) fun _ => Program.atMost_done
    · exact Program.atMost_done
  · refine .bind_uses Program.atMost_perform fun pullRequest => ?_
    split_ifs
    · exact .bind (uses_store rfl) fun _ => uses_pure
    · exact .bind (uses_store rfl) fun _ => uses_pure

theorem advance_drafts : (service.advance caseId event).AtMost Op.drafts 1 := by
  unfold Service.advance
  refine Program.Uses.bind_atMost (uses_store rfl) fun case => ?_
  split_ifs
  · exact Program.atMost_done
  refine Program.Uses.bind_atMost (incidentStage_uses.mono ?_) fun incident =>
    Program.Uses.bind_atMost (uses_drafts connectedIntegrationReady_uses) fun ready => ?_
  · rintro op (h | ⟨_, _, rfl⟩)
    · exact h.once.2.1
    · rfl
  split_ifs
  · exact Program.atMost_done
  unfold Service.gather
  refine Program.Uses.bind_atMost (uses_drafts contextStage_uses) fun value => ?_
  split
  · exact Program.atMost_done
  refine Program.Uses.bind_atMost (uses_drafts proposalStage_uses) fun value => ?_
  split
  · exact Program.atMost_done
  exact Program.Uses.bind_atMost (uses_drafts validationStage_uses) fun _ => repair_drafts

/-! ### The verification -/

theorem git_uses {repo : String} {arguments : List String} {timeout : Nat} :
    (git repo arguments timeout).Uses Op.GathersEvidence :=
  .tryCatch (uses_adapter rfl) fun _ => uses_throw

theorem decoded_uses {text : Option String} {message : String} {allowed : Op → Prop} :
    (decoded text message).Uses allowed := by
  unfold decoded
  split
  · exact uses_pure
  · exact uses_throw

theorem cleanupWorktree_uses {repo checkout : String} :
    (cleanupWorktree repo checkout).Uses Op.GathersEvidence := by
  have hcommand : ∀ arguments, (cleanupCommand repo arguments).Uses Op.GathersEvidence := by
    intro arguments
    refine .tryCatch (.bind (uses_adapter rfl) fun _ => uses_pure) fun error => ?_
    split_ifs
    · exact uses_pure
    · exact uses_throw
  exact .bind (hcommand _) fun _ => hcommand _

theorem revParse_uses {repo revision : String} :
    (Service.revParse repo revision).Uses Op.GathersEvidence :=
  .bind git_uses fun _ => .bind decoded_uses fun _ => uses_pure

theorem verifiedBaseTip_uses {repo mergedCommitSha : String} :
    (service.verifiedBaseTip repo mergedCommitSha).Uses Op.GathersEvidence := by
  unfold Service.verifiedBaseTip
  refine .bind git_uses fun _ => .bind ?_ fun _ => .bind git_uses fun _ => .bind git_uses fun _ =>
    .bind revParse_uses fun _ => .bind revParse_uses fun _ => .bind uses_refuseIf fun _ =>
      .bind uses_refuseIf fun _ => uses_pure
  unfold Service.checkOrigin
  refine .bind git_uses fun _ => .bind decoded_uses fun _ => ?_
  split
  · exact uses_throw
  · exact uses_refuseIf

theorem executeInCheckout_uses {repo verifiedCommit : String} {proposal : CandidateProposal}
    {context : ContextBundle} :
    (service.executeInCheckout repo caseId verifiedCommit proposal context).Uses
      Op.GathersEvidence := by
  unfold Service.executeInCheckout Service.executeVerified
  refine .bind (uses_adapter rfl) fun _ => .bind (uses_adapter rfl) fun _ =>
    .tryFinally (.bind git_uses fun _ => .tryFinally ?_ fun _ => cleanupWorktree_uses)
      fun _ => uses_adapter rfl
  exact .bind (uses_adapter rfl) fun _ => .bind uses_refuseIf fun _ =>
    .bind (uses_adapter rfl) fun _ => .bind (uses_adapter rfl) fun _ => .bind uses_refuseIf fun _ =>
      uses_exceptException (uses_adapter rfl) fun _ => uses_throw

theorem deploymentEvidence_uses {case : CaseSnapshot} {request : VerifyDeploymentRequest} :
    (service.deploymentEvidence case request).Uses Op.GathersEvidence := by
  unfold Service.deploymentEvidence
  by_cases hpostgres : service.settings.postgres = true
  · rw [if_pos hpostgres]
    refine .bind (uses_adapter rfl) fun _ => .bind uses_refuseIf fun _ => ?_
    unfold Service.livePostDeployEvidence
    split
    · exact uses_throw
    · exact uses_throw
    refine .bind (uses_adapter rfl) fun _ => .bind ?_ fun _ => .bind verifiedBaseTip_uses fun _ =>
      .bind ?_ fun _ => .bind ?_ fun _ => .bind uses_refuseIf fun _ =>
        .bind executeInCheckout_uses fun _ => uses_pure
    · exact .bind uses_refuseIf fun _ => uses_refuseIf
    · exact .bind uses_refuseIf fun _ => .bind git_uses fun _ => uses_refuseIf
    · exact .bind (uses_adapter rfl) fun _ => uses_pure
  · rw [if_neg hpostgres]
    exact .bind uses_refuseIf fun _ => uses_pure

theorem Op.GathersEvidence.duringVerification {op : Op} (h : op.GathersEvidence) :
    op.DuringVerification caseId := by
  cases op with
  | store op => cases h
  | memory op => cases h
  | adapter op => cases op <;> first | rfl | cases h

theorem resolveDeployment_uses {case : CaseSnapshot} :
    (Service.resolveDeployment case caseId).Uses (Op.DuringVerification caseId) := by
  unfold Service.resolveDeployment Service.failDeployment
  refine .bind (uses_adapter rfl) fun _ => ?_
  split_ifs
  · exact .bind (uses_store ⟨rfl, rfl, rfl, rfl⟩) fun _ => uses_store rfl
  · exact .bind (uses_store ⟨rfl, rfl, rfl, rfl⟩) fun _ => uses_store rfl

theorem settleDeployment_uses {case : CaseSnapshot} {evidence : DeploymentEvidence} :
    (service.settleDeployment case caseId evidence).Uses (Op.DuringVerification caseId) := by
  unfold Service.settleDeployment Service.failDeployment
  refine .bind (uses_store ⟨rfl, rfl, rfl, rfl⟩) fun _ => ?_
  dsimp only
  split_ifs
  · exact .bind (contain_uses (fun _ => rfl) fun _ _ => ⟨rfl, rfl, rfl, rfl⟩) fun _ =>
      uses_store rfl
  refine .bind (uses_store ⟨rfl, rfl, rfl, rfl⟩) fun _ => .bind (uses_adapter rfl) fun _ => ?_
  split_ifs
  · exact .bind (uses_store ⟨rfl, rfl, rfl, rfl⟩) fun _ => uses_store rfl
  · exact resolveDeployment_uses

theorem verifyDeploymentLocked_uses {request : VerifyDeploymentRequest} :
    (service.verifyDeploymentLocked caseId request).Uses (Op.DuringVerification caseId) := by
  unfold Service.verifyDeploymentLocked
  refine .bind (uses_store rfl) fun case => ?_
  refine .bind uses_refuseIf fun _ => ?_
  refine .bind uses_refuseIf fun _ => ?_
  refine .bind (Program.Uses.mono deploymentEvidence_uses fun _ h => h.duringVerification)
    fun evidence => ?_
  exact settleDeployment_uses

theorem settleDeployment_resolves {case : CaseSnapshot} {evidence : DeploymentEvidence} :
    (service.settleDeployment case caseId evidence).AtMost Op.resolves 1 := by
  unfold Service.settleDeployment Service.failDeployment Service.resolveDeployment
  refine Program.Uses.bind_atMost (uses_store rfl) fun _ => ?_
  dsimp only
  split_ifs
  · exact Program.Uses.atMost (.bind (contain_uses (fun _ => rfl) fun _ _ => rfl) fun _ =>
      uses_store rfl)
  refine Program.Uses.bind_atMost (uses_store rfl) fun _ =>
    Program.Uses.bind_atMost (uses_adapter rfl) fun _ => ?_
  split_ifs
  · exact Program.Uses.atMost (.bind (uses_store rfl) fun _ => uses_store rfl)
  refine .bind_uses Program.atMost_perform fun resolution => ?_
  unfold Service.failDeployment
  split_ifs
  · exact .bind (uses_store rfl) fun _ => uses_store rfl
  · exact .bind (uses_store rfl) fun _ => uses_store rfl

end

end DataRescue
