import DataRescue.Http.Runs
import DataRescue.Remediation.Candidates

/-!
# What a proposal may be

Whatever the model answers, a proposal of its own names a current column by a safe identifier and cites
what was fetched (`proposals_contract`). The proposals made without a model do so when the schema and the
fetched context allow it (`propose_contract`).
-/

namespace DataRescue

open Python Concurrency

namespace CandidateGenerator

/-! ### The contract -/

/-- What a proposal may cite. -/
def citable (event : SchemaChangeEvent) (context : ContextBundle) : List String :=
  event.entityUrn :: (context.lineageUrns ++ context.contextDocuments)

structure WellFormed (event : SchemaChangeEvent) (context : ContextBundle)
    (candidate : CandidateProposal) : Prop where
  identifier : isIdentifier candidate.sourceField = true
  field : candidate.sourceField ∈ event.afterFields.map SchemaField.name
  targetAlias : candidate.targetAlias = "revenue"
  evidence : ∀ ref ∈ candidate.semanticEvidence, ref ∈ citable event context

/-- The eight digits in the id of a candidate. -/
def candidateDigest (sourceField : String) (index : Nat) : List Char :=
  (sha256Hexdigest (encode s!"{index}:{sourceField}")).toList.take 8

/-- The candidates are well formed; their ids are distinct when the digests in them are. -/
def Contract (event : SchemaChangeEvent) (context : ContextBundle)
    (candidates : List CandidateProposal) : Prop :=
  (∀ candidate ∈ candidates, WellFormed event context candidate) ∧
    ((candidates.zipIdx.map fun (candidate, index) =>
        candidateDigest candidate.sourceField index).Nodup →
      (candidates.map CandidateProposal.id).Nodup)

/-- The proposals made without a model meet the contract: every column but the payment id has a safe
name, and the glossary term they cite when no document was fetched is known otherwise. -/
def FallbackSafe (event : SchemaChangeEvent) (context : ContextBundle) : Prop :=
  ∀ name ∈ event.afterFields.map SchemaField.name, name ≠ "payment_id" →
    isIdentifier name = true ∧
      (context.contextDocuments ≠ [] ∨
        "urn:li:glossaryTerm:NetRevenue" ∈ event.entityUrn :: context.lineageUrns)

/-! ### Ids -/

theorem candidateDigest_length (sourceField : String) (index : Nat) :
    (candidateDigest sourceField index).length = 8 := by
  have hlength := (hexdigest_digits (encode s!"{index}:{sourceField}")).1
  rw [← String.length_toList] at hlength
  rw [candidateDigest, List.length_take, hlength]
  rfl

theorem candidateId_digest (sourceField : String) (index : Nat) :
    ((candidateId sourceField index).toList.reverse.take 8).reverse =
      candidateDigest sourceField index := by
  have hid : candidateId sourceField index =
      s!"candidate-{sourceField}-" ++ String.ofList (candidateDigest sourceField index) := rfl
  have hlength : (candidateDigest sourceField index).reverse.length = 8 := by
    rw [List.length_reverse, candidateDigest_length]
  rw [hid, String.toList_append, String.toList_ofList, List.reverse_append, ← hlength, List.take_left, List.reverse_reverse]

/-- The candidate at each place has the id of its field and place. -/
def Numbered (candidates : List CandidateProposal) : Prop :=
  candidates.map CandidateProposal.id =
    candidates.zipIdx.map fun (candidate, index) => candidateId candidate.sourceField index

theorem Numbered.nodup {candidates : List CandidateProposal} (h : Numbered candidates)
    (hdigests : (candidates.zipIdx.map fun (candidate, index) =>
      candidateDigest candidate.sourceField index).Nodup) :
    (candidates.map CandidateProposal.id).Nodup := by
  refine List.Nodup.of_map (fun id : String => (id.toList.reverse.take 8).reverse) ?_
  rw [h, List.map_map]
  simpa only [Function.comp_def, candidateId_digest] using hdigests

theorem numbered_of_forall {α : Type} {items : List α} {candidates : List CandidateProposal}
    {start : Nat} (h : List.Forall₂ (fun (item : α × Nat) candidate =>
      candidate.id = candidateId candidate.sourceField item.2) (items.zipIdx start) candidates) :
    candidates.map CandidateProposal.id =
      (candidates.zipIdx start).map fun (candidate, index) => candidateId candidate.sourceField index := by
  induction items generalizing candidates start with
  | nil =>
    obtain rfl := List.forall₂_nil_left_iff.1 h
    rfl
  | cons item items ih =>
    obtain ⟨candidate, rest, hid, hrest, rfl⟩ := List.forall₂_cons_left_iff.1 h
    rw [List.map_cons, List.zipIdx_cons, List.map_cons, ih hrest, hid]

/-! ### Proposals of the model -/

variable {printing : Printing} {event : SchemaChangeEvent} {context : ContextBundle}

theorem checked_ok {α : Type} {result : Except SqlSafetyError α} {value : α} :
    checked printing result = .ok value ↔ result = .ok value := by
  rw [checked]
  cases result <;> simp [Except.mapError]

theorem forall_of_forall₂ {α β : Type} {R : α → β → Prop} {P : β → Prop} {items : List α}
    {results : List β} (h : List.Forall₂ R items results) (hP : ∀ item result, R item result → P result) :
    ∀ result ∈ results, P result := by
  induction h with
  | nil => simp
  | cons hitem _ ih => exact List.forall_mem_cons.2 ⟨hP _ _ hitem, ih⟩

theorem proposal_ok {raw : Json} {index : Nat} {candidate : CandidateProposal}
    (h : proposal printing event context raw index = .ok candidate) :
    WellFormed event context candidate ∧
      candidate.id = candidateId candidate.sourceField index := by
  unfold proposal at h
  obtain ⟨_, -, hchecks⟩ := bind_eq_ok.1 h
  obtain ⟨sourceField, hfield, hchecks⟩ := bind_eq_ok.1 hchecks
  obtain ⟨_, -, hchecks⟩ := bind_eq_ok.1 hchecks
  obtain ⟨targetAlias, halias, hchecks⟩ := bind_eq_ok.1 hchecks
  clear h
  obtain ⟨hidentifier, rfl⟩ := requireIdentifier_ok.1 (checked_ok.1 hfield)
  obtain ⟨-, rfl⟩ := requireRevenueAlias_ok.1 (checked_ok.1 halias)
  split at hchecks
  · exact absurd hchecks (by simp)
  next hknown =>
    rw [not_not] at hknown
    obtain ⟨_, -, hrest⟩ := bind_eq_ok.1 hchecks
    obtain ⟨evidence, -, hrest⟩ := bind_eq_ok.1 hrest
    dsimp only at hrest
    split at hrest
    · exact absurd hrest (by simp)
    next hcited =>
      obtain ⟨_, -, hcandidate⟩ := bind_eq_ok.1 hrest
      obtain rfl := Except.ok.inj hcandidate
      refine ⟨⟨hidentifier, hknown, rfl, fun ref href => ?_⟩, rfl⟩
      rw [ne_eq, not_not] at hcited
      by_contra hunknown
      have hkept : (!(citable event context).contains ref) = true := by
        rw [Bool.not_eq_true', ← Bool.not_eq_true, List.contains_iff_mem]
        exact hunknown
      have hmem : ref ∈ (evidence.map printing.toText).eraseDups.filter
          (!(citable event context).contains ·) :=
        List.mem_filter.2 ⟨List.mem_eraseDups.2 href, hkept⟩
      have hsorted := (sortBy_perm id _).mem_iff.2 hmem
      rw [citable, hcited] at hsorted
      exact absurd hsorted (by simp)

theorem proposals_contract {body : Json} {candidates : List CandidateProposal}
    (h : proposals printing event context body = .ok candidates) : Contract event context candidates := by
  unfold proposals at h
  obtain ⟨_, -, h⟩ := bind_eq_ok.1 h
  obtain ⟨_, -, h⟩ := bind_eq_ok.1 h
  obtain ⟨_, -, h⟩ := bind_eq_ok.1 h
  obtain ⟨raws, -, h⟩ := bind_eq_ok.1 h
  have hall := mapM_ok.1 h
  constructor
  · exact forall_of_forall₂ hall fun item candidate hitem => (proposal_ok hitem).1
  · intro hdigests
    refine Numbered.nodup ?_ hdigests
    exact numbered_of_forall (hall.imp fun item candidate hitem => (proposal_ok hitem).2)

/-! ### Proposals without a model -/

theorem mem_orderedFields {name : String} : name ∈ orderedFields event ↔
    name ∈ event.afterFields.map SchemaField.name ∧ name ≠ "payment_id" := by
  unfold orderedFields
  dsimp only
  rw [List.mem_append, (sortBy_perm id _).mem_iff]
  generalize event.afterFields.map SchemaField.name = names
  have hpreferred : ∀ other ∈ ["gross_amount", "net_amount"], other ≠ "payment_id" := by decide +kernel
  generalize ["gross_amount", "net_amount"] = preferred at hpreferred
  simp only [List.mem_filter, List.mem_eraseDups, List.contains_iff_mem, Bool.and_eq_true,
    Bool.not_eq_true', decide_eq_true_eq, ← Bool.not_eq_true]
  constructor
  · rintro (⟨hmem, hname⟩ | ⟨hname, -, hne⟩)
    · exact ⟨hname, hpreferred name hmem⟩
    · exact ⟨hname, hne⟩
  · rintro ⟨hname, hne⟩
    by_cases hmem : name ∈ preferred
    · exact .inl ⟨hmem, hname⟩
    · exact .inr ⟨hname, fun h => hmem h.1, hne⟩

/-- What the proposals without a model cite. -/
def fallbackEvidence (context : ContextBundle) : List String :=
  if context.contextDocuments = [] then ["urn:li:glossaryTerm:NetRevenue"] else context.contextDocuments

theorem fallbackEvidence_citable : (∀ ref ∈ fallbackEvidence context, ref ∈ citable event context) ↔
    context.contextDocuments ≠ [] ∨
      "urn:li:glossaryTerm:NetRevenue" ∈ event.entityUrn :: context.lineageUrns := by
  unfold fallbackEvidence citable
  split
  next hnone => simp [hnone]
  next hsome =>
    refine iff_of_true (fun ref href => ?_) (.inl hsome)
    exact List.mem_cons_of_mem _ (List.mem_append_right _ href)

theorem deterministicCandidates_mem {candidate : CandidateProposal}
    (h : candidate ∈ deterministicCandidates event context) :
    candidate.targetAlias = "revenue" ∧ candidate.semanticEvidence = fallbackEvidence context := by
  obtain ⟨item, -, rfl⟩ := List.mem_map.1 h
  exact ⟨rfl, rfl⟩

theorem deterministicCandidates_fields :
    (deterministicCandidates event context).map CandidateProposal.sourceField = orderedFields event := by
  unfold deterministicCandidates
  rw [List.map_map]
  exact List.zipIdx_map_fst 0 _

theorem deterministicCandidates_numbered : Numbered (deterministicCandidates event context) := by
  refine @numbered_of_forall _ (orderedFields event) _ 0 ?_
  unfold deterministicCandidates
  rw [List.forall₂_map_right_iff, List.forall₂_same]
  exact fun item _ => rfl

theorem deterministicCandidates_contract :
    Contract event context (deterministicCandidates event context) ↔ FallbackSafe event context := by
  constructor
  · rintro ⟨hformed, -⟩ name hname hne
    have hmem : name ∈ (deterministicCandidates event context).map CandidateProposal.sourceField := by
      rw [deterministicCandidates_fields]
      exact mem_orderedFields.2 ⟨hname, hne⟩
    obtain ⟨candidate, hcandidate, rfl⟩ := List.mem_map.1 hmem
    obtain ⟨hidentifier, -, -, hevidence⟩ := hformed candidate hcandidate
    rw [(deterministicCandidates_mem hcandidate).2] at hevidence
    exact ⟨hidentifier, fallbackEvidence_citable.1 hevidence⟩
  · intro hsafe
    refine ⟨fun candidate hcandidate => ?_, deterministicCandidates_numbered.nodup⟩
    have hmem := List.mem_map_of_mem (f := CandidateProposal.sourceField) hcandidate
    rw [deterministicCandidates_fields] at hmem
    obtain ⟨hname, hne⟩ := mem_orderedFields.1 hmem
    obtain ⟨halias, hevidence⟩ := deterministicCandidates_mem hcandidate
    obtain ⟨hidentifier, hcited⟩ := hsafe _ hname hne
    exact ⟨hidentifier, hname, halias, by rw [hevidence]; exact fallbackEvidence_citable.2 hcited⟩

/-! ### Generation -/

variable {generator : CandidateGenerator}

theorem propose_ok {calls : List HttpCall} {result : CandidateGenerationResult}
    (h : (generator.propose printing event context).Trace calls (.ok result)) :
    (∃ body, proposals printing event context body = .ok result.candidates) ∨
      result.candidates = deterministicCandidates event context := by
  unfold propose at h
  split at h
  next =>
    have hresult := Except.ok.inj (Program.trace_done.1 h).2
    exact .inr (by rw [hresult]; rfl)
  next apiKey hkey =>
    dsimp only at h
    rcases Http.reported_ok h with ⟨candidates, rfl, hbody⟩ | ⟨error, rfl⟩
    · obtain ⟨reply, -, hread⟩ := Http.trace_request_ok.1 hbody
      obtain ⟨body, -, hproposals⟩ := bind_eq_ok.1 hread
      exact .inl ⟨body, hproposals⟩
    · exact .inr rfl

theorem exists_fallback (printing : Printing) (generator : CandidateGenerator)
    (event : SchemaChangeEvent) (context : ContextBundle) : ∃ calls result, Remote calls ∧
      (generator.propose printing event context).Trace calls (.ok result) ∧
        result.candidates = deterministicCandidates event context := by
  unfold propose
  cases hkey : generator.configuredKey with
  | none => exact ⟨[], _, by simp [Remote], .done _, rfl⟩
  | some apiKey =>
    refine ⟨[⟨.post s!"{generator.baseUrl}/responses"
      [("Authorization", s!"Bearer {apiKey}"), ("Content-Type", "application/json")]
      (generator.question printing event context), .error (.httpError "")⟩], _, ?_,
      Program.trace_tryCatch.2 (.inr ⟨_, [], .httpError "", (List.append_nil _).symm,
        Program.trace_bind_error.2 (.inl (Http.trace_request.2 ⟨.error (.httpError ""), rfl, rfl⟩)),
        .done _⟩), rfl⟩
    intro op error hmem
    rw [List.mem_singleton, Sigma.mk.injEq] at hmem
    obtain ⟨rfl, hanswer⟩ := hmem
    cases eq_of_heq hanswer
    exact ⟨by simp, "", rfl⟩

/-- Every candidate that is returned meets the contract, whatever the model answers, exactly when the
candidates made without a model are safe. -/
theorem propose_contract (printing : Printing) (generator : CandidateGenerator)
    (event : SchemaChangeEvent) (context : ContextBundle) :
    (∀ calls result, Remote calls →
        (generator.propose printing event context).Trace calls (.ok result) →
          Contract event context result.candidates) ↔ FallbackSafe event context := by
  constructor
  · intro h
    obtain ⟨calls, result, hremote, htrace, hcandidates⟩ :=
      exists_fallback printing generator event context
    have hcontract := h calls result hremote htrace
    rw [hcandidates] at hcontract
    exact deterministicCandidates_contract.1 hcontract
  · intro hsafe calls result _ htrace
    rcases propose_ok htrace with ⟨body, hbody⟩ | hcandidates
    · exact proposals_contract hbody
    · rw [hcandidates]
      exact deterministicCandidates_contract.2 hsafe

theorem spacedName_length : 1 ≤ "net amount".length ∧ "net amount".length ≤ 255 := by decide

theorem unknownType_length : "unknown".length ≤ 128 := by decide

theorem spacedUrn_length :
    1 ≤ "urn:li:dataset:payments".length ∧ "urn:li:dataset:payments".length ≤ 2048 := by decide

theorem spacedSource_length : "DATAHUB_MCL".length ≤ 64 := by decide

/-- A change that leaves a column whose name is no identifier. -/
def spacedEvent : SchemaChangeEvent where
  entityUrn := "urn:li:dataset:payments"
  beforeFields := []
  afterFields :=
    [{ name := "net amount", name_length := spacedName_length, dataType_length := unknownType_length }]
  observedAt := 0
  entityUrn_length := spacedUrn_length
  source_length := spacedSource_length

/-- A context without documents. -/
def bareContext : ContextBundle where
  assetUrn := "urn:li:dataset:payments"
  source := "DATAHUB"
  integration := { status := .succeeded, operation := "fetch_context", message := "" }

/-- Without a key, a column whose name is no identifier is proposed. -/
theorem propose_counterexample :
    ¬∀ (printing : Printing) (generator : CandidateGenerator) (event : SchemaChangeEvent)
      (context : ContextBundle) (calls : List HttpCall) (result : CandidateGenerationResult),
      Remote calls → (generator.propose printing event context).Trace calls (.ok result) →
        Contract event context result.candidates := by
  intro h
  let printing : Printing :=
    { str := fun _ => "", repr := fun _ => "", dumps := fun _ => "", datetime := fun _ => ""
      loadsError := fun _ _ => "", statusError := fun _ _ => "" }
  obtain ⟨hformed, -⟩ := h printing {} spacedEvent bareContext [] _ (by simp [Remote]) (.done _)
  have hunsafe : ∃ candidate ∈ (recorded {} spacedEvent bareContext).candidates,
      isIdentifier candidate.sourceField = false := by decide +kernel
  obtain ⟨candidate, hcandidate, hname⟩ := hunsafe
  have hidentifier := (hformed candidate hcandidate).identifier
  rw [hname] at hidentifier
  exact absurd hidentifier (by decide)

end CandidateGenerator

end DataRescue
