import DataRescue.Datahub.McpSession
import DataRescue.Http.Runs

/-!
# Read-backs of documents

A document that is reported as written was read back, over MCP or from the GMS: an attempt ends well only
when its responses show the whole document (`readGmsDocumentInfoOnce_ok`, `readDocumentOnce_ok`).
-/

namespace DataRescue

open Python Concurrency

namespace DataHubMCPAdapter

/-! ### Sessions -/

variable (printing : Printing)

/-- The requests of the tools, in order, and responses with these results. -/
inductive Exchanges (url : String) (headers : List (String × String)) :
    Nat → List ToolCall → List HttpCall → List Json → Prop
  | nil (callId : Nat) : Exchanges url headers callId [] [] []
  | cons {callId : Nat} {tool : ToolCall} {tools : List ToolCall} {response : HttpResponse}
      {calls : List HttpCall} {result : Json} {results : List Json}
      (h : toolReply printing url callId response = .ok result)
      (hrest : Exchanges url headers (callId + 1) tools calls results) :
      Exchanges url headers callId (tool :: tools)
        (⟨.post url headers (toolRequest callId tool), .ok response⟩ :: calls) (result :: results)

variable (adapter : DataHubMCPAdapter)

/-- The calls of a session that answers the tools with these results. -/
def Session (tools : List ToolCall) (calls : List HttpCall) (results : List Json) : Prop :=
  ∃ url response protocol notification exchanges, given adapter.endpoint = some url ∧
    initialized printing url response = .ok protocol ∧
    (200 ≤ notification.status ∧ notification.status < 300) ∧
    calls = ⟨.post url adapter.openingHeaders initializeRequest, .ok response⟩ ::
      ⟨.post url (adapter.sessionHeaders protocol response) initializedNotification,
        .ok notification⟩ :: exchanges ∧
    Exchanges printing url (adapter.sessionHeaders protocol response) 2 tools exchanges results

variable {printing} {adapter}

theorem requestTools_ok {url : String} {headers : List (String × String)} {callId : Nat}
    {tools : List ToolCall} {calls : List HttpCall} {results : List Json} :
    (requestTools printing url headers callId tools).Trace calls (.ok results) ↔
      Exchanges printing url headers callId tools calls results := by
  induction tools generalizing callId calls results with
  | nil =>
    rw [requestTools, Program.pure_eq, Program.trace_done]
    constructor
    · rintro ⟨rfl, heq⟩
      cases heq
      exact .nil callId
    · rintro ⟨⟩
      exact ⟨rfl, rfl⟩
  | cons tool tools ih =>
    rw [requestTools, Http.post, Http.trace_perform_bind_ok]
    simp only [Http.trace_lift_bind_ok]
    constructor
    · rintro ⟨response, _, rfl, result, hresult, hrest⟩
      obtain ⟨exchanges, _, rest, rfl, hexchanges, hdone⟩ := Program.trace_bind_ok.1 hrest
      obtain ⟨rfl, heq⟩ := Program.trace_done.1 hdone
      cases heq
      rw [List.append_nil]
      exact .cons hresult (ih.1 hexchanges)
    · rintro (_ | ⟨hresult, hrest⟩)
      exact ⟨_, _, rfl, _, hresult, Program.trace_bind_ok.2
        ⟨_, [], _, (List.append_nil _).symm, ih.2 hrest, .done _⟩⟩

theorem callTools_ok {tools : List ToolCall} (hne : tools ≠ []) {calls : List HttpCall}
    {results : List Json} :
    (adapter.callTools printing tools).Trace calls (.ok results) ↔
      Session printing adapter tools calls results := by
  rw [callTools, Session]
  cases given adapter.endpoint with
  | none =>
    refine ⟨fun h => absurd (Program.trace_done.1 h).2 (by simp), ?_⟩
    rintro ⟨_, _, _, _, _, hurl, -⟩
    exact absurd hurl (by simp)
  | some url =>
    dsimp only
    rw [if_neg hne]
    constructor
    · intro h
      obtain ⟨response, _, rfl, hinitialized⟩ := Http.trace_perform_bind_ok.1 h
      obtain ⟨protocol, hprotocol, hnotify⟩ := Http.trace_lift_bind_ok.1 hinitialized
      obtain ⟨notification, exchanges, rfl, hnotified⟩ := Http.trace_perform_bind_ok.1 hnotify
      obtain ⟨_, hstatus, hrequests⟩ := Http.trace_lift_bind_ok.1 hnotified
      exact ⟨url, response, protocol, notification, exchanges, rfl, hprotocol,
        Http.raiseForStatus_ok.1 hstatus, rfl, requestTools_ok.1 hrequests⟩
    · rintro ⟨_, response, protocol, notification, exchanges, heq, hprotocol, hstatus, rfl, hrequests⟩
      cases heq
      refine Http.trace_perform_bind_ok.2 ⟨response, _, rfl, ?_⟩
      refine Http.trace_lift_bind_ok.2 ⟨protocol, hprotocol, ?_⟩
      refine Http.trace_perform_bind_ok.2 ⟨notification, exchanges, rfl, ?_⟩
      exact Http.trace_lift_bind_ok.2 ⟨(), Http.raiseForStatus_ok.2 hstatus,
        requestTools_ok.2 hrequests⟩

theorem Exchanges.single {url : String} {headers : List (String × String)} {callId : Nat}
    {tool : ToolCall} {calls : List HttpCall} {results : List Json}
    (h : Exchanges printing url headers callId [tool] calls results) : ∃ result, results = [result] := by
  rcases h with _ | ⟨_, ⟨⟩⟩
  exact ⟨_, rfl⟩

theorem Session.single {tool : ToolCall} {calls : List HttpCall} {results : List Json}
    (h : Session printing adapter [tool] calls results) : ∃ result, results = [result] := by
  obtain ⟨_, _, _, _, _, -, -, -, -, hexchanges⟩ := h
  exact hexchanges.single

/-! ### Documents -/

/-- The `documentInfo` has this title and text, and is about this asset. -/
structure HasDocument (info : Fields) (title content assetUrn : String) : Prop where
  title : getField info "title" = some (.str title)
  content : ∃ contents, getField info "contents" = some (.obj contents) ∧
    getField contents "text" = some (.str content)
  asset : ∃ associations association, getField info "relatedAssets" = some (.arr associations) ∧
    .obj association ∈ associations ∧ getField association "asset" = some (.str assetUrn)

/-- A request for the `documentInfo` of a document, and a response with this one. -/
def ShowsDocument (gmsUrl documentUrn : String) (info : Fields) (call : HttpCall) : Prop :=
  ∃ headers response body,
    call = ⟨.get (documentInfoUrl gmsUrl documentUrn) headers, .ok response⟩ ∧
      Http.Decoded response (.obj body) ∧ getField body "value" = some (.obj info)

/-- The search found this text in the document, under this title, and the asset lists the document. -/
structure FindsDocument (contentSearch assetEntity : Fields)
    (documentUrn title content assetUrn : String) : Prop where
  found : ∃ result excerpt, getField contentSearch "results" = some (.arr [.obj result]) ∧
    getField result "urn" = some (.str documentUrn) ∧ getField result "title" = some (.str title) ∧
    getField result "matches" = some (.arr [.obj excerpt]) ∧
    Json.isNumber (getField excerpt "position") 0 = true ∧
    getField excerpt "excerpt" = some (.str content)
  asset : getField assetEntity "urn" = some (.str assetUrn)
  linked : ∃ related documents document, getField assetEntity "relatedDocuments" = some (.obj related) ∧
    getField related "documents" = some (.arr documents) ∧ .obj document ∈ documents ∧
    getField document "urn" = some (.str documentUrn)

theorem requireObject_ok {value : Option Json} {message : String} {fields : Fields} :
    requireObject value message = .ok fields ↔ value = some (.obj fields) := by
  unfold requireObject
  split
  next => simp
  next hother => exact ⟨fun h => absurd h (by simp [refuse]), fun h => absurd h (hother fields)⟩

theorem requireArray_ok {value : Option Json} {message : String} {items : List Json} :
    requireArray value message = .ok items ↔ value = some (.arr items) := by
  unfold requireArray
  split
  next => simp
  next hother => exact ⟨fun h => absurd h (by simp [refuse]), fun h => absurd h (hother items)⟩

theorem validateGmsDocumentInfo_ok {info : Fields} {title assetUrn content : String}
    (h : validateGmsDocumentInfo info title assetUrn (some content) = .ok ()) :
    HasDocument info title content assetUrn := by
  simp only [validateGmsDocumentInfo] at h
  split at h
  · exact absurd h (by simp [refuse])
  next htitle =>
    split at h
    next contents hcontents =>
      split at h
      · exact absurd h (by simp [refuse, bind, Except.bind])
      next htext =>
        obtain ⟨associations, hassociations, h⟩ := bind_eq_ok.1 h
        split at h
        next hasset =>
          obtain ⟨association, hmem, hasset⟩ := List.any_eq_true.1 hasset
          split at hasset
          next association =>
            exact
              { title := Json.isText_iff.1 (by simpa using htitle)
                content := ⟨contents, hcontents, Json.isText_iff.1 (by simpa using htext)⟩
                asset := ⟨associations, association, requireArray_ok.1 hassociations, hmem,
                  Json.isText_iff.1 hasset⟩ }
          next => exact absurd hasset (by simp)
        next => exact absurd h (by simp [refuse])
    next => exact absurd h (by simp [refuse, bind, Except.bind])

theorem documentInfo_ok {body : Json} {info : Fields} (h : documentInfo body = .ok info) :
    ∃ fields, body = .obj fields ∧ getField fields "value" = some (.obj info) := by
  obtain ⟨fields, hfields, hvalue⟩ := bind_eq_ok.1 h
  exact ⟨fields, Option.some.inj (requireObject_ok.1 hfields), requireObject_ok.1 hvalue⟩

theorem readGmsDocumentInfo_ok {documentUrn title assetUrn content : String} {calls : List HttpCall}
    {info : Fields}
    (h : (adapter.readGmsDocumentInfo printing documentUrn title assetUrn (some content)).Trace calls
      (.ok info)) :
    ∃ gmsUrl call, given adapter.gmsUrl = some gmsUrl ∧ call ∈ calls ∧
      ShowsDocument gmsUrl documentUrn info call ∧ HasDocument info title content assetUrn := by
  rw [readGmsDocumentInfo] at h
  split at h
  next => exact absurd (Program.trace_done.1 h).2 (by simp)
  next gmsUrl hgmsUrl =>
    split at h
    · exact absurd (Program.trace_done.1 h).2 (by simp)
    · obtain ⟨before, last, rfl, hlast⟩ := Http.retry_ok h
      obtain ⟨response, rfl, hread⟩ := Http.trace_request_ok.1 hlast
      obtain ⟨body, hbody, hread⟩ := bind_eq_ok.1 hread
      obtain ⟨shown, hshown, hread⟩ := bind_eq_ok.1 hread
      obtain ⟨_, hvalid, heq⟩ := bind_eq_ok.1 hread
      cases heq
      obtain ⟨fields, rfl, hvalue⟩ := documentInfo_ok hshown
      exact ⟨gmsUrl, _, hgmsUrl, List.mem_append_right _ (List.mem_singleton_self _),
        ⟨_, response, fields, rfl, Http.jsonBody_ok.1 hbody, hvalue⟩, validateGmsDocumentInfo_ok hvalid⟩

theorem documentUrn_ok {document : Json} {urn : String} (h : documentUrn document = .ok urn) :
    ∃ fields, document = .obj fields ∧ getField fields "urn" = some (.str urn) := by
  obtain ⟨fields, hfields, h⟩ := bind_eq_ok.1 h
  refine ⟨fields, Option.some.inj (requireObject_ok.1 hfields), ?_⟩
  split at h
  next shown hshown =>
    split at h
    · cases h
      exact hshown
    · exact absurd h (by simp [refuse])
  next => exact absurd h (by simp [refuse])

theorem documentContext_ok {entity : Fields} {urns : List String} {urn : String}
    (h : documentContext entity = .ok urns) (hurn : urn ∈ urns) :
    ∃ related documents document, getField entity "relatedDocuments" = some (.obj related) ∧
      getField related "documents" = some (.arr documents) ∧ .obj document ∈ documents ∧
      getField document "urn" = some (.str urn) := by
  unfold documentContext at h
  split at h
  · cases h
    exact absurd hurn (by simp)
  · cases h
    exact absurd hurn (by simp)
  next value _ hvalue =>
    obtain ⟨related, hrelated, h⟩ := bind_eq_ok.1 h
    obtain ⟨documents, hdocuments, h⟩ := bind_eq_ok.1 h
    obtain ⟨found, hfound, heq⟩ := bind_eq_ok.1 h
    cases heq
    obtain ⟨i, hi, rfl⟩ := List.getElem_of_mem (mem_uniqueStrings.1 hurn).1
    obtain ⟨hlength, hforall⟩ := List.forall₂_iff_get.1 (mapM_ok.1 hfound)
    obtain ⟨document, hdocument, hshown⟩ := documentUrn_ok (hforall i (hlength ▸ hi) hi)
    refine ⟨related, documents, document, hvalue.trans (requireObject_ok.1 hrelated),
      requireArray_ok.1 hdocuments, hdocument ▸ List.get_mem _ _, hshown⟩

theorem validateDocumentReadback_ok {contentSearch assetEntity : Fields}
    {documentUrn title content assetUrn : String}
    (h : validateDocumentReadback contentSearch assetEntity documentUrn title content assetUrn =
      .ok ()) :
    FindsDocument contentSearch assetEntity documentUrn title content assetUrn := by
  unfold validateDocumentReadback at h
  split at h
  · exact absurd h (by simp [refuse])
  split at h
  · exact absurd h (by simp [refuse])
  split at h
  next result hresults =>
    split at h
    next result =>
      split at h
      · exact absurd h (by simp [refuse])
      next hurn =>
        split at h
        · exact absurd h (by simp [refuse])
        next htitle =>
          split at h
          · exact absurd h (by simp [refuse])
          split at h
          next excerpt hmatches =>
            split at h
            next excerpt =>
              split at h
              · exact absurd h (by simp [refuse])
              next hexcerpt =>
                split at h
                · exact absurd h (by simp [refuse])
                next hasset =>
                  obtain ⟨linked, hlinked, h⟩ := bind_eq_ok.1 h
                  split at h
                  · exact absurd h (by simp [refuse])
                  next hmem =>
                    simp only [Bool.not_eq_true', not_or, Bool.not_eq_false] at hurn htitle hexcerpt hasset
                    exact
                      { found := ⟨result, excerpt, hresults, Json.isText_iff.1 hurn, Json.isText_iff.1 htitle,
                          hmatches, hexcerpt.1, Json.isText_iff.1 hexcerpt.2⟩
                        asset := Json.isText_iff.1 hasset
                        linked := documentContext_ok hlinked (not_not.1 hmem) }
            next => exact absurd h (by simp [refuse])
          next => exact absurd h (by simp [refuse])
    next => exact absurd h (by simp [refuse])
  next => exact absurd h (by simp [refuse])

theorem readbackCalls_ne_nil (documentUrn content assetUrn : String) :
    readbackCalls documentUrn content assetUrn ≠ [] := List.cons_ne_nil _ _

theorem readDocument_ok {documentUrn title content assetUrn : String} {calls : List HttpCall}
    (h : (adapter.verifyDocumentReadback printing documentUrn title content assetUrn).Trace calls
      (.ok ())) (hgmsUrl : given adapter.gmsUrl = none) :
    ∃ before session found asset contentSearch assetEntity, calls = before ++ session ∧
      Session printing adapter (readbackCalls documentUrn content assetUrn) session [found, asset] ∧
      toolPayload printing found = .ok contentSearch ∧ toolPayload printing asset = .ok assetEntity ∧
      FindsDocument contentSearch assetEntity documentUrn title content assetUrn := by
  rw [verifyDocumentReadback, hgmsUrl] at h
  obtain ⟨before, last, rfl, hlast⟩ := Http.retry_ok h
  obtain ⟨session, _, results, rfl, hsession, hread⟩ := Program.trace_bind_ok.1 hlast
  obtain ⟨rfl, hanswered⟩ := Http.trace_lift.1 hread
  split at hanswered
  next found asset =>
    obtain ⟨contentSearch, hcontentSearch, hanswered⟩ := bind_eq_ok.1 hanswered.symm
    obtain ⟨assetEntity, hassetEntity, hvalid⟩ := bind_eq_ok.1 hanswered
    exact ⟨before, session, found, asset, contentSearch, assetEntity, by simp,
      (callTools_ok (readbackCalls_ne_nil _ _ _)).1 hsession, hcontentSearch, hassetEntity,
      validateDocumentReadback_ok hvalid⟩
  next => exact absurd hanswered.symm (by simp [throw, throwThe, MonadExceptOf.throw])

theorem validatedDocumentResult_ok {payload : Fields} {documentUrn : String}
    (h : validatedDocumentResult payload = .ok documentUrn) :
    getField payload "success" = some (.bool true) ∧ getField payload "urn" = some (.str documentUrn) ∧
      startsWith documentUrn "urn:li:document:" = true := by
  unfold validatedDocumentResult at h
  split at h
  · split at h
    · split at h <;> exact absurd h (by simp [refuse])
    · exact absurd h (by simp [refuse])
  next hsuccess =>
    split at h
    next urn hurn =>
      split at h
      next hstarts =>
        cases h
        exact ⟨not_not.1 hsuccess, hurn, hstarts⟩
      next => exact absurd h (by simp [refuse])
    next => exact absurd h (by simp [refuse])

variable (printing adapter) in
/-- A session saved the document under this URN, and the calls after it read it back: over the GMS where
one is configured, and over MCP otherwise. -/
def SavedAndShown (assetUrn caseId content : String) (degraded : Bool) (documentUrn : String)
    (calls : List HttpCall) : Prop :=
  ∃ saving reading saved payload, calls = saving ++ reading ∧
    Session printing adapter [adapter.saveCall assetUrn caseId content degraded] saving [saved] ∧
    toolPayload printing saved = .ok payload ∧
    (getField payload "success" = some (.bool true) ∧
      getField payload "urn" = some (.str documentUrn) ∧
      startsWith documentUrn "urn:li:document:" = true) ∧
    (∀ gmsUrl, given adapter.gmsUrl = some gmsUrl → ∃ call ∈ reading, ∃ info,
      ShowsDocument gmsUrl documentUrn info call ∧
        HasDocument info (reportTitle caseId) content assetUrn) ∧
    (given adapter.gmsUrl = none →
      ∃ before session found asset contentSearch assetEntity, reading = before ++ session ∧
        Session printing adapter (readbackCalls documentUrn content assetUrn) session [found, asset] ∧
        toolPayload printing found = .ok contentSearch ∧
        toolPayload printing asset = .ok assetEntity ∧
        FindsDocument contentSearch assetEntity documentUrn (reportTitle caseId) content assetUrn)

theorem saveAndReadBack_ok {assetUrn caseId content documentUrn : String} {degraded : Bool}
    {calls : List HttpCall}
    (h : (adapter.saveAndReadBack printing assetUrn caseId content degraded).Trace calls
      (.ok documentUrn)) :
    SavedAndShown printing adapter assetUrn caseId content degraded documentUrn calls := by
  obtain ⟨saving, reading, results, rfl, hsaving, hreading⟩ := Program.trace_bind_ok.1 h
  have hsession := (callTools_ok (List.cons_ne_nil _ _)).1 hsaving
  obtain ⟨saved, rfl⟩ := hsession.single
  obtain ⟨urn, hurn, hrest⟩ := Http.trace_lift_bind_ok.1 hreading
  obtain ⟨payload, hpayload, hconfirmed⟩ := bind_eq_ok.1 hurn
  obtain ⟨reading, _, _, rfl, hverified, hdone⟩ := Program.trace_bind_ok.1 hrest
  obtain ⟨rfl, heq⟩ := Program.trace_done.1 hdone
  cases heq
  refine ⟨saving, reading, saved, payload, by simp, hsession, hpayload,
    validatedDocumentResult_ok hconfirmed, ?_, ?_⟩
  · intro gmsUrl hgmsUrl
    rw [verifyDocumentReadback, hgmsUrl] at hverified
    obtain ⟨shown, _, info, rfl, hshown, -⟩ := Program.trace_bind_ok.1 hverified
    obtain ⟨gmsUrl', call, hgmsUrl', hcall, hshows⟩ := readGmsDocumentInfo_ok hshown
    obtain rfl : gmsUrl = gmsUrl' := Option.some.inj (hgmsUrl.symm.trans hgmsUrl')
    exact ⟨call, List.mem_append_left _ hcall, info, hshows⟩
  · exact readDocument_ok hverified

theorem writeEvidenceReport_ok {assetUrn caseId : String} {report : Json} {degraded : Bool}
    {calls : List HttpCall} {result : IntegrationResult}
    (h : (adapter.writeEvidenceReport printing assetUrn caseId report degraded).Trace calls
      (.ok result)) (hsucceeded : result.status = .succeeded) :
    ∃ documentUrn, result.resourceId = some documentUrn ∧
      SavedAndShown printing adapter assetUrn caseId (printing.dumps report) degraded documentUrn
        calls := by
  rw [writeEvidenceReport] at h
  split at h
  next =>
    obtain ⟨-, heq⟩ := Program.trace_done.1 h
    cases heq
    exact absurd hsucceeded (by simp [notConfigured])
  next =>
    rcases Http.reported_ok h with ⟨documentUrn, rfl, hreading⟩ | ⟨error, rfl⟩
    · exact ⟨documentUrn, rfl, saveAndReadBack_ok hreading⟩
    · exact absurd hsucceeded (by simp)

/-! ### The number of read-backs -/

/-- The start of a read-back: a request of a `documentInfo`, or of a session. -/
def isReadback : HttpOp → Bool
  | .get .. => true
  | .post _ _ json => json = initializeRequest
  | .sleep _ => false

theorem requestTools_uses {url : String} {headers : List (String × String)} {callId : Nat}
    {tools : List ToolCall} :
    (requestTools printing url headers callId tools).Uses fun op => isReadback op = false := by
  induction tools generalizing callId with
  | nil => exact .done _
  | cons tool tools ih =>
    have hrequest : isReadback (.post url headers (toolRequest callId tool)) = false := by
      simp [isReadback, toolRequest, initializeRequest]
    refine Program.Uses.bind (.call hrequest fun _ => .done _) fun response => ?_
    exact Program.Uses.bind (.done _) fun result => ih.bind fun results => .done _

theorem callTools_atMost {tools : List ToolCall} :
    (adapter.callTools printing tools).AtMost isReadback 1 := by
  rw [callTools]
  split
  · exact Program.atMost_done
  · split
    · exact Program.atMost_done
    · refine Program.AtMost.bind_uses Program.atMost_perform fun response => ?_
      refine Program.Uses.bind (.done _) fun protocol => ?_
      have hnotification : ∀ url headers,
          isReadback (.post url headers initializedNotification) = false := fun url headers => by
        simp [isReadback, initializedNotification, initializeRequest]
      refine Program.Uses.bind (.call (hnotification _ _) fun _ => .done _) fun notification => ?_
      exact Program.Uses.bind (.done _) fun _ => requestTools_uses

theorem readGmsDocumentInfo_atMost {documentUrn title assetUrn : String} {content : Option String} :
    (adapter.readGmsDocumentInfo printing documentUrn title assetUrn content).AtMost isReadback
      adapter.readbackAttempts := by
  rw [readGmsDocumentInfo]
  split
  · exact Program.atMost_done
  · split
    · exact Program.atMost_done
    · refine Http.retry_atMost ?_ rfl _ _
      exact Program.AtMost.bind_uses Program.atMost_perform fun _ => .done _

theorem verifyDocumentReadback_atMost {documentUrn title content assetUrn : String} :
    (adapter.verifyDocumentReadback printing documentUrn title content assetUrn).AtMost isReadback
      adapter.readbackAttempts := by
  rw [verifyDocumentReadback]
  split
  · exact readGmsDocumentInfo_atMost.bind_uses fun _ => .done _
  · exact Http.retry_atMost (callTools_atMost.bind_uses fun _ => .done _) rfl _ _

theorem requestTools_length {url : String} {headers : List (String × String)} {callId : Nat}
    {tools : List ToolCall} :
    (requestTools printing url headers callId tools).AtMost (fun _ => true) tools.length := by
  induction tools generalizing callId with
  | nil => exact Program.atMost_done
  | cons tool tools ih =>
    rw [requestTools, List.length_cons, Nat.add_comm]
    refine Program.atMost_perform.bind fun response => ?_
    exact Program.Uses.bind_atMost (.done _) fun result => ih.bind_uses fun results => .done _

theorem callTools_length {tools : List ToolCall} :
    (adapter.callTools printing tools).AtMost (fun _ => true) (2 + tools.length) := by
  rw [callTools]
  split
  · exact Program.atMost_done
  · split
    · exact Program.atMost_done
    · rw [show 2 + tools.length = 1 + (1 + tools.length) by omega]
      refine Program.atMost_perform.bind fun response => ?_
      refine Program.Uses.bind_atMost (.done _) fun protocol => ?_
      refine Program.atMost_perform.bind fun notification => ?_
      exact Program.Uses.bind_atMost (.done _) fun _ => requestTools_length

theorem writeEvidenceReport_readbacks {assetUrn caseId : String} {report : Json} {degraded : Bool}
    {calls : List HttpCall} {result : Except AdapterError IntegrationResult}
    (h : (adapter.writeEvidenceReport printing assetUrn caseId report degraded).Trace calls result) :
    ∃ saving reading, calls = saving ++ reading ∧ saving.length ≤ 3 ∧
      reading.countP (isReadback ·.1) ≤ adapter.readbackAttempts := by
  rw [writeEvidenceReport] at h
  split at h
  · rw [(Program.trace_done.1 h).1]
    exact ⟨[], [], rfl, Nat.zero_le _, Nat.zero_le _⟩
  · obtain ⟨ended, hbody, -⟩ := Http.reported_cases h
    obtain ⟨saving, reading, saved, rfl, hsaving, hreading⟩ := Program.trace_andThen.1 hbody
    refine ⟨saving, reading, rfl, ?_, ?_⟩
    · simpa using callTools_length saving saved hsaving
    · cases saved with
      | error error =>
        rw [(Program.trace_done.1 hreading).1]
        exact Nat.zero_le _
      | ok results =>
        refine Program.Uses.bind_atMost (.done _) (fun documentUrn => ?_) reading ended hreading
        exact verifyDocumentReadback_atMost.bind_uses fun _ => .done _

end DataHubMCPAdapter

end DataRescue
