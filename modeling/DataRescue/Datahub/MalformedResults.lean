import DataRescue.Datahub.DocumentReadback
import DataRescue.Datahub.MalformedContext

/-!
# Malformed tool results

Which answers make the MCP adapter raise: a tool result without a structured object whose content cannot
be iterated over, when it is the first of its session that is refused (`readContext_uncaught`,
`saveAndReadBack_uncaught`).
-/

namespace DataRescue

open Python Concurrency

namespace DataHubMCPAdapter

open Http

variable {printing : Printing} {adapter : DataHubMCPAdapter}

/-! ### Tool results -/

/-- A tool result without a structured object, whose `content` is there and cannot be iterated over. -/
def Unreadable (result : Json) : Prop :=
  ∃ fields content, result = .obj fields ∧
    ((getField fields "isError").getD .null).truthy = false ∧
    (∀ structured, getField fields "structuredContent" ≠ some (.obj structured)) ∧
    getField fields "content" = some content ∧ isIterable content = false

theorem contentPayload_raises (items : List Json) : Raises catches (contentPayload printing items) := by
  induction items with
  | nil => exact refuse_raises
  | cons item items ih =>
    cases item with
    | obj fields =>
      rw [contentPayload]
      repeat' split
      all_goals first | exact ih | exact raises_ok | exact raises_error rfl
    | _ => exact ih

theorem toolPayload_uncaught {result : Json} :
    Uncaught catches (toolPayload printing result) ↔ Unreadable result := by
  cases result with
  | obj fields =>
    constructor
    · intro h
      rw [toolPayload] at h
      split at h
      · exact absurd h refuse_raises.not_uncaught
      next herror =>
        split at h
        next structured hstructured =>
          refine absurd h (Raises.not_uncaught ?_)
          dsimp only
          repeat' split
          all_goals first | exact requireObject_raises | exact raises_ok
        next hstructured =>
          split at h
          next content hcontent =>
            refine ⟨fields, content, rfl, by simpa using herror, hstructured, hcontent, ?_⟩
            by_contra hiterable
            obtain ⟨items, hitems⟩ := iterate_ok (by simpa using hiterable)
            rw [hitems] at h
            exact (raises_ok.bind contentPayload_raises).not_uncaught h
          next => exact absurd h (raises_ok.bind contentPayload_raises).not_uncaught
    · rintro ⟨_, content, heq, herror, hstructured, hcontent, hiterable⟩
      cases heq
      obtain ⟨message, hmessage⟩ := iterate_error hiterable
      refine ⟨.typeError message, ?_, rfl⟩
      rw [toolPayload, if_neg (by simp [herror])]
      split
      next structured hstructured' => exact absurd hstructured' (hstructured structured)
      next =>
        rw [hcontent]
        dsimp only
        rw [hmessage]
        rfl
  | _ =>
    refine iff_of_false refuse_raises.not_uncaught ?_
    rintro ⟨_, _, heq, -⟩
    exact absurd heq (by simp)

variable (printing) in
/-- The first result that has no payload is unreadable. -/
def FirstUnreadable (results : List Json) : Prop :=
  ∃ before result after, results = before ++ result :: after ∧
    (∀ other ∈ before, ∃ payload, toolPayload printing other = .ok payload) ∧ Unreadable result

theorem payloads_uncaught {results : List Json} :
    Uncaught catches (payloads printing results) ↔ FirstUnreadable printing results := by
  constructor
  · rintro ⟨error, herror, hcatches⟩
    obtain ⟨before, result, after, rfl, hbefore, hresult⟩ := mapM_error.1 herror
    exact ⟨before, result, after, rfl, hbefore, toolPayload_uncaught.1 ⟨error, hresult, hcatches⟩⟩
  · rintro ⟨before, result, after, rfl, hbefore, hresult⟩
    obtain ⟨error, herror, hcatches⟩ := toolPayload_uncaught.2 hresult
    exact ⟨error, mapM_error.2 ⟨before, result, after, rfl, hbefore, herror⟩, hcatches⟩

/-! ### Sessions of a run -/

theorem Exchanges.length {url : String} {headers : List (String × String)} {callId : Nat}
    {tools : List ToolCall} {calls : List HttpCall} {results : List Json}
    (h : Exchanges printing url headers callId tools calls results) :
    results.length = tools.length := by
  induction h with
  | nil => rfl
  | cons _ _ ih => rw [List.length_cons, List.length_cons, ih]

theorem Session.length {tools : List ToolCall} {calls : List HttpCall} {results : List Json}
    (h : Session printing adapter tools calls results) : results.length = tools.length := by
  obtain ⟨_, _, _, _, _, -, -, -, -, hexchanges⟩ := h
  exact hexchanges.length

theorem Session.ne_nil {tools : List ToolCall} {calls : List HttpCall} {results : List Json}
    (h : Session printing adapter tools calls results) : calls ≠ [] := by
  obtain ⟨_, _, _, _, _, -, -, -, rfl, -⟩ := h
  exact List.cons_ne_nil _ _

theorem isOpening_of_isReadback {op : HttpOp} (h : isReadback op = false) : isOpening op = false := by
  cases op with
  | post url headers json => exact h
  | _ => rfl

theorem callTools_opening {url : String} (hurl : given adapter.endpoint = some url)
    {tools : List ToolCall} (hne : tools ≠ []) {calls : List HttpCall}
    {ended : Except AdapterError (List Json)} (h : (adapter.callTools printing tools).Trace calls ended) :
    ∃ opening rest, calls = opening :: rest ∧ isOpening opening.1 = true ∧
      ∀ call ∈ rest, isOpening call.1 = false := by
  have hcount := callTools_atMost calls ended h
  rw [callTools, hurl] at h
  dsimp only at h
  rw [if_neg hne] at h
  obtain ⟨first, rest, response, rfl, hfirst, -⟩ := Program.trace_andThen.1 h
  obtain rfl := Program.trace_perform.1 hfirst
  have hopening : isReadback (.post url adapter.openingHeaders initializeRequest) = true := by
    simp [isReadback]
  refine ⟨_, rest, rfl, hopening, fun call hmem => ?_⟩
  rw [List.countP_append, List.countP_singleton, if_pos hopening] at hcount
  have hrest : rest.countP (isReadback ·.1) = 0 := by omega
  exact isOpening_of_isReadback (by simpa using List.countP_eq_zero.1 hrest call hmem)

theorem session_aligned {url : String} (hurl : given adapter.endpoint = some url)
    {tools : List ToolCall} (hne : tools ≠ []) {first wait rest before session after : List HttpCall}
    {ended : Except AdapterError (List Json)} {results : List Json}
    (hfirst : (adapter.callTools printing tools).Trace first ended)
    (hwait : ∀ call ∈ wait, isOpening call.1 = false)
    (hsession : Session printing adapter tools session results)
    (heq : first ++ (wait ++ rest) = before ++ (session ++ after)) :
    ended = .ok results ∨ ∃ middle, rest = middle ++ (session ++ after) := by
  have htrace := (callTools_ok hne).2 hsession
  obtain ⟨opening, tail, rfl, -, htail⟩ := callTools_opening hurl hne hfirst
  obtain ⟨opening', tail', rfl, hopening', -⟩ := callTools_opening hurl hne htrace
  cases before with
  | nil => exact .inl (hfirst.unique htrace heq).2
  | cons call before =>
    refine .inr ?_
    rw [List.cons_append, List.cons_append, List.cons.injEq, ← List.append_assoc] at heq
    rcases List.append_eq_append_iff.1 heq.2 with ⟨middle, -, hrest⟩ | ⟨middle, hmiddle, hrest⟩
    · exact ⟨middle, hrest⟩
    · cases middle with
      | nil => exact ⟨[], hrest.symm⟩
      | cons call middle =>
        rw [List.cons_append, List.cons_append, List.cons.injEq] at hrest
        have hmem : opening' ∈ tail ++ wait := by
          rw [hmiddle, hrest.1]
          exact List.mem_append_right _ List.mem_cons_self
        rcases List.mem_append.1 hmem with hmem | hmem
        · exact absurd (htail _ hmem) (by simp [hopening'])
        · exact absurd (hwait _ hmem) (by simp [hopening'])

variable (printing adapter) in
/-- The calls have a session of these tools whose first result without a payload is unreadable. -/
def AsksUnreadable (tools : List ToolCall) (calls : List HttpCall) : Prop :=
  ∃ before session after results, calls = before ++ (session ++ after) ∧
    Session printing adapter tools session results ∧ FirstUnreadable printing results

theorem asksUnreadable_append {tools : List ToolCall} {first rest : List HttpCall}
    (h : AsksUnreadable printing adapter tools rest) :
    AsksUnreadable printing adapter tools (first ++ rest) := by
  obtain ⟨before, session, after, results, rfl, hsession, hresults⟩ := h
  exact ⟨first ++ before, session, after, results, (List.append_assoc _ _ _).symm, hsession, hresults⟩

theorem not_asksUnreadable_nil {tools : List ToolCall} :
    ¬AsksUnreadable printing adapter tools [] := by
  rintro ⟨before, session, after, results, hnil, ⟨_, _, _, _, _, -, -, -, rfl, -⟩, -⟩
  exact absurd hnil (by simp)

theorem ask_uncaught {α : Type} {url : String} (hurl : given adapter.endpoint = some url)
    {tools : List ToolCall} (hne : tools ≠ []) {next : List Json → Http α}
    (hnext : ∀ results calls ended, results.length = tools.length → Remote calls →
      (next results).Trace calls ended → (∀ call ∈ calls, isOpening call.1 = false) ∧
        (Uncaught catches ended ↔ FirstUnreadable printing results)) {calls : List HttpCall}
    {ended : Except AdapterError α} (hremote : Remote calls)
    (h : (adapter.callTools printing tools >>= next).Trace calls ended) :
    Uncaught catches ended ↔ AsksUnreadable printing adapter tools calls := by
  obtain ⟨first, second, middle, rfl, hfirst, hsecond⟩ := Program.trace_andThen.1 h
  cases middle with
  | error error =>
    obtain ⟨rfl, rfl⟩ := Program.trace_done.1 hsecond
    have hcaught := callTools_contained first error (Remote.append.1 hremote).1 hfirst
    refine iff_of_false (raises_error hcaught).not_uncaught ?_
    rintro ⟨before, session, after, results, heq, hsession, -⟩
    have hnone : first ++ ([] ++ []) = before ++ (session ++ after) := heq
    rcases session_aligned hurl hne hfirst (by simp) hsession hnone with hended | ⟨middle, hrest⟩
    · exact absurd hended (by simp)
    · exact hsession.ne_nil (List.append_eq_nil_iff.1 (List.append_eq_nil_iff.1 hrest.symm).2).1
  | ok results =>
    have hsession := (callTools_ok hne).1 hfirst
    obtain ⟨hcalls, hiff⟩ := hnext results second ended hsession.length (Remote.append.1 hremote).2
      hsecond
    rw [hiff]
    constructor
    · exact fun hresults => ⟨[], first, second, results, rfl, hsession, hresults⟩
    · rintro ⟨before, session, after, results', heq, hsession', hresults⟩
      rw [← List.append_nil second] at heq
      rcases session_aligned hurl hne hfirst hcalls hsession' heq with hended | ⟨middle, hrest⟩
      · cases hended
        exact hresults
      · exact absurd (List.append_eq_nil_iff.1 (List.append_eq_nil_iff.1 hrest.symm).2).1
          hsession'.ne_nil

/-! ### Operations -/

theorem readback_uncaught {contentResult assetResult : Json}
    {documentUrn title content assetUrn : String} :
    Uncaught catches (do
        let contentSearch ← toolPayload printing contentResult
        let assetEntity ← toolPayload printing assetResult
        validateDocumentReadback contentSearch assetEntity documentUrn title content assetUrn) ↔
      FirstUnreadable printing [contentResult, assetResult] := by
  rw [← payloads_uncaught, payloads, List.mapM_cons, List.mapM_cons, List.mapM_nil]
  cases toolPayload printing contentResult with
  | error error => exact uncaught_error.trans uncaught_error.symm
  | ok contentSearch =>
    cases toolPayload printing assetResult with
    | error error => exact uncaught_error.trans uncaught_error.symm
    | ok assetEntity =>
      exact iff_of_false validateDocumentReadback_raises.not_uncaught raises_ok.not_uncaught

theorem readDocumentOnce_uncaught {url : String} (hurl : given adapter.endpoint = some url)
    {documentUrn title content assetUrn : String} {calls : List HttpCall}
    {ended : Except AdapterError Unit} (hremote : Remote calls)
    (h : (adapter.readDocumentOnce printing documentUrn title content assetUrn).Trace calls ended) :
    Uncaught catches ended ↔
      AsksUnreadable printing adapter (readbackCalls documentUrn content assetUrn) calls := by
  refine ask_uncaught hurl (readbackCalls_ne_nil _ _ _) ?_ hremote h
  intro results second ended hlength _ htrace
  obtain ⟨rfl, rfl⟩ := trace_lift.1 htrace
  refine ⟨by simp, ?_⟩
  match results, hlength with
  | [contentResult, assetResult], _ => exact readback_uncaught

theorem retry_uncaught {url : String} (hurl : given adapter.endpoint = some url)
    {documentUrn title content assetUrn : String} {failure : Option AdapterError → AdapterError}
    (hfailure : ∀ lastError, catches (failure lastError) = true) {attempts : Nat}
    {lastError : Option AdapterError} {calls : List HttpCall} {ended : Except AdapterError Unit}
    (hremote : Remote calls)
    (h : (Http.retry adapter.readbackDelaySeconds catches
      (adapter.readDocumentOnce printing documentUrn title content assetUrn) failure attempts
      lastError).Trace calls ended) :
    Uncaught catches ended ↔
      AsksUnreadable printing adapter (readbackCalls documentUrn content assetUrn) calls := by
  induction attempts generalizing calls lastError with
  | zero =>
    obtain ⟨rfl, rfl⟩ := Program.trace_done.1 h
    exact iff_of_false (raises_error (hfailure lastError)).not_uncaught not_asksUnreadable_nil
  | succ attempts ih =>
    rcases retry_cases h with ⟨value, rfl, hattempt⟩ |
      ⟨first, error, hattempt, ⟨-, rfl, rfl⟩ | ⟨hcaught, hwaited⟩⟩
    · exact readDocumentOnce_uncaught hurl hremote hattempt
    · exact readDocumentOnce_uncaught hurl hremote hattempt
    rcases hwaited with ⟨waitError, rfl, -⟩ | ⟨wait, rest, rfl, hwait, hrest⟩
    · have hsleep := (hremote (.sleep adapter.readbackDelaySeconds) waitError (by simp)).1
      exact absurd rfl (hsleep adapter.readbackDelaySeconds)
    have hwaits : ∀ call ∈ wait, isOpening call.1 = false := by
      rcases hwait with rfl | rfl
      · simp
      · simp [isOpening]
    have hfirst := readDocumentOnce_uncaught hurl (Remote.append.1 hremote).1 hattempt
    rw [ih (Remote.append.1 (Remote.append.1 hremote).2).2 hrest]
    constructor
    · exact fun hasks => asksUnreadable_append (asksUnreadable_append hasks)
    · rintro ⟨before, session, after, results, heq, hsession, hresults⟩
      obtain ⟨asked, read, answered, rfl, hasked, hread⟩ := Program.trace_andThen.1 hattempt
      have hnone : read = [] := by
        cases answered with
        | error raised => exact (Program.trace_done.1 hread).1
        | ok results => exact (trace_lift.1 hread).1
      rw [hnone, List.append_nil] at heq
      rcases session_aligned hurl (readbackCalls_ne_nil _ _ _) hasked hwaits hsession heq with
        rfl | ⟨middle, hmiddle⟩
      · -- the attempt itself would have raised what its first results raise
        have hasks : AsksUnreadable printing adapter (readbackCalls documentUrn content assetUrn)
            (asked ++ read) :=
          ⟨[], asked, read, results, rfl, (callTools_ok (readbackCalls_ne_nil _ _ _)).1 hasked,
            hresults⟩
        exact absurd (hfirst.2 hasks) (raises_error hcaught).not_uncaught
      · exact ⟨middle, session, after, results, hmiddle, hsession, hresults⟩

theorem verifyDocumentReadback_uncaught {url : String} (hurl : given adapter.endpoint = some url)
    {documentUrn title content assetUrn : String} {calls : List HttpCall}
    {ended : Except AdapterError Unit} (hremote : Remote calls)
    (h : (adapter.verifyDocumentReadback printing documentUrn title content assetUrn).Trace calls ended) :
    Uncaught catches ended ↔ given adapter.gmsUrl = none ∧
      AsksUnreadable printing adapter (readbackCalls documentUrn content assetUrn) calls := by
  rw [verifyDocumentReadback] at h
  split at h
  next gmsUrl hgmsUrl =>
    refine iff_of_false (Raises.not_uncaught ?_) fun hnone => absurd (hgmsUrl.symm.trans hnone.1) (by simp)
    rintro error rfl
    refine (?_ : Contained catches _) calls error hremote h
    exact readGmsDocumentInfo_contained.bind fun _ => contained_done
  next hgmsUrl =>
    rw [and_iff_right hgmsUrl]
    exact retry_uncaught hurl (fun _ => rfl) hremote h

theorem readContext_uncaught {url : String} (hurl : given adapter.endpoint = some url)
    {assetUrn : String} {calls : List HttpCall} {ended : Except AdapterError NormalizedContext}
    (hremote : Remote calls) (h : (adapter.readContext printing assetUrn).Trace calls ended) :
    Uncaught catches ended ↔ AsksUnreadable printing adapter (contextCalls assetUrn) calls := by
  refine ask_uncaught hurl (List.cons_ne_nil _ _) ?_ hremote h
  intro results second ended _ hremote htrace
  obtain ⟨lifted, rest, answers, rfl, hlifted, hrest⟩ := Program.trace_andThen.1 htrace
  obtain ⟨rfl, rfl⟩ := trace_lift.1 hlifted
  rw [← payloads_uncaught]
  cases hpayloads : payloads printing results with
  | error error =>
    rw [hpayloads] at hrest
    obtain ⟨rfl, rfl⟩ := Program.trace_done.1 hrest
    exact ⟨by simp, uncaught_error.trans uncaught_error.symm⟩
  | ok answers =>
    rw [hpayloads] at hrest
    dsimp only at hrest
    refine ⟨(?_ : Program.Uses (fun op => isOpening op = false) _).trace hrest,
      iff_of_false (Raises.not_uncaught ?_) raises_ok.not_uncaught⟩
    · split
      · exact (readGmsDocumentInfo_uses.bind fun info => .done _).bind fun info => .done _
      · exact .done _
    · rintro error rfl
      refine (?_ : Contained catches _) rest error hremote hrest
      split
      · exact (readGmsDocumentInfo_contained.bind fun info => contained_done).bind fun info =>
          contained_lift contextOf_raises
      · exact contained_lift contextOf_raises

variable (printing adapter) in
/-- The answer that saves is unreadable, or a session of a later read-back over MCP has an unreadable
answer. -/
def SavesUnreadable (save : ToolCall) (assetUrn content : String) (calls : List HttpCall) : Prop :=
  ∃ saving reading saved, calls = saving ++ reading ∧ Session printing adapter [save] saving [saved] ∧
    (Unreadable saved ∨ ∃ payload documentUrn, toolPayload printing saved = .ok payload ∧
      validatedDocumentResult payload = .ok documentUrn ∧ given adapter.gmsUrl = none ∧
      AsksUnreadable printing adapter (readbackCalls documentUrn content assetUrn) reading)

theorem saveAndReadBack_uncaught {url : String} (hurl : given adapter.endpoint = some url)
    {assetUrn caseId content : String} {degraded : Bool} {calls : List HttpCall}
    {ended : Except AdapterError String} (hremote : Remote calls)
    (h : (adapter.saveAndReadBack printing assetUrn caseId content degraded).Trace calls ended) :
    Uncaught catches ended ↔ SavesUnreadable printing adapter
      (adapter.saveCall assetUrn caseId content degraded) assetUrn content calls := by
  have hne : [adapter.saveCall assetUrn caseId content degraded] ≠ [] := List.cons_ne_nil _ _
  obtain ⟨saving, reading, results, rfl, hsaving, hreading⟩ := Program.trace_andThen.1 h
  cases results with
  | error error =>
    obtain ⟨rfl, rfl⟩ := Program.trace_done.1 hreading
    have hcaught := callTools_contained saving error (Remote.append.1 hremote).1 hsaving
    refine iff_of_false (raises_error hcaught).not_uncaught ?_
    rintro ⟨saving', reading', saved, heq, hsession, -⟩
    exact absurd (hsaving.unique ((callTools_ok hne).2 hsession) heq).2 (by simp)
  | ok results =>
    have hsession := (callTools_ok hne).1 hsaving
    obtain ⟨saved, rfl⟩ := hsession.single
    have hsaves : SavesUnreadable printing adapter
        (adapter.saveCall assetUrn caseId content degraded) assetUrn content (saving ++ reading) ↔
        (Unreadable saved ∨ ∃ payload documentUrn, toolPayload printing saved = .ok payload ∧
          validatedDocumentResult payload = .ok documentUrn ∧ given adapter.gmsUrl = none ∧
          AsksUnreadable printing adapter (readbackCalls documentUrn content assetUrn) reading) := by
      refine ⟨?_, fun hsaved => ⟨saving, reading, saved, rfl, hsession, hsaved⟩⟩
      rintro ⟨saving', reading', saved', heq, hsession', hsaved⟩
      obtain ⟨rfl, hanswer⟩ := hsaving.unique ((callTools_ok hne).2 hsession') heq
      obtain rfl := List.append_cancel_left heq
      cases hanswer
      exact hsaved
    rw [hsaves]
    obtain ⟨lifted, rest, urn, rfl, hlifted, hrest⟩ := Program.trace_andThen.1 hreading
    obtain ⟨rfl, hurn⟩ := trace_lift.1 hlifted
    have hpayload : Uncaught catches (toolPayload printing saved >>= validatedDocumentResult) ↔
        Unreadable saved :=
      (uncaught_bind fun _ => validatedDocumentResult_raises).trans toolPayload_uncaught
    cases urn with
    | error error =>
      obtain ⟨rfl, rfl⟩ := Program.trace_done.1 hrest
      have hraised : toolPayload printing saved >>= validatedDocumentResult = .error error := hurn.symm
      rw [hraised, uncaught_error] at hpayload
      rw [uncaught_error, hpayload]
      refine ⟨.inl, fun h => h.elim id ?_⟩
      rintro ⟨payload, documentUrn, hsaved, hvalid, -⟩
      exact absurd (hraised.symm.trans (bind_eq_ok.2 ⟨payload, hsaved, hvalid⟩)) (by simp)
    | ok documentUrn =>
      have hreturned : toolPayload printing saved >>= validatedDocumentResult = .ok documentUrn :=
        hurn.symm
      obtain ⟨payload, hsaved, hvalid⟩ := bind_eq_ok.1 hreturned
      obtain ⟨verifying, done, verified, rfl, hverifying, hdone⟩ := Program.trace_andThen.1 hrest
      have hended : done = [] ∧ (Uncaught catches ended ↔ Uncaught catches verified) := by
        cases verified with
        | error error =>
          obtain ⟨rfl, rfl⟩ := Program.trace_done.1 hdone
          exact ⟨rfl, uncaught_error.trans uncaught_error.symm⟩
        | ok value =>
          obtain ⟨rfl, rfl⟩ := Program.trace_done.1 hdone
          exact ⟨rfl, iff_of_false raises_ok.not_uncaught raises_ok.not_uncaught⟩
      obtain ⟨rfl, hended⟩ := hended
      rw [List.nil_append, List.append_nil] at hremote ⊢
      rw [hended, verifyDocumentReadback_uncaught hurl (Remote.append.1 hremote).2 hverifying]
      constructor
      · rintro ⟨hgmsUrl, hasks⟩
        exact .inr ⟨payload, documentUrn, hsaved, hvalid, hgmsUrl, hasks⟩
      · rintro (hunreadable | ⟨payload', documentUrn', hsaved', hvalid', hgmsUrl, hasks⟩)
        · have huncaught := hpayload.2 hunreadable
          rw [hreturned] at huncaught
          exact absurd huncaught raises_ok.not_uncaught
        · cases hsaved.symm.trans hsaved'
          cases hvalid.symm.trans hvalid'
          exact ⟨hgmsUrl, hasks⟩

end DataHubMCPAdapter

end DataRescue
