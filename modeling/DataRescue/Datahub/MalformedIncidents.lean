import DataRescue.Datahub.IncidentReadback
import DataRescue.Http.Exceptions

/-!
# Malformed answers about incidents

Which answers make the GraphQL adapter raise: a reply to a mutation that is no object or has errors that
cannot be iterated over, and for a resolved incident a status that cannot be hashed
(`raiseAndReadBack_uncaught`, `resolveAndReadBack_uncaught`).
-/

namespace DataRescue

open Python Concurrency

namespace DataHubGraphQLAdapter

open Http (isPost posted_cons not_posted_error decoded_unique)

variable {printing : Printing} {adapter : DataHubGraphQLAdapter}

/-- The reply of a mutation that is no object, or whose `errors` are set and cannot be iterated over. -/
def MalformedReply (body : Json) : Prop :=
  (∀ fields, body ≠ .obj fields) ∨ ∃ fields errors, body = .obj fields ∧
    getField fields "errors" = some errors ∧ errors.truthy = true ∧ isIterable errors = false

/-- The status of a resolved incident that is a list or an object: neither can be hashed. -/
def MalformedStatus (data : Fields) : Prop :=
  (∃ items, getField data "updateIncidentStatus" = some (.arr items)) ∨
    ∃ fields, getField data "updateIncidentStatus" = some (.obj fields)

theorem graphQLData_uncaught {body : Json} :
    Http.Uncaught catches (graphQLData printing body) ↔ MalformedReply body := by
  cases body with
  | obj fields =>
    have hdata : Http.Raises catches (dataObject fields) := by
      unfold dataObject
      split
      · exact Http.raises_ok
      · exact Http.raises_error rfl
    constructor
    · intro h
      simp only [graphQLData] at h
      split at h
      next errors herrors =>
        split at h
        next htruthy =>
          refine .inr ⟨fields, errors, rfl, herrors, htruthy, ?_⟩
          by_contra hiterable
          obtain ⟨items, hitems⟩ := iterate_ok (by simpa using hiterable)
          rw [hitems] at h
          exact (Http.raises_error rfl).not_uncaught h
        next => exact absurd h hdata.not_uncaught
      next => exact absurd h hdata.not_uncaught
    · rintro (h | ⟨_, errors, heq, herrors, htruthy, hiterable⟩)
      · exact absurd rfl (h fields)
      · cases heq
        obtain ⟨message, hmessage⟩ := iterate_error hiterable
        refine ⟨.typeError message, ?_, rfl⟩
        simp only [graphQLData, herrors, htruthy, if_true, hmessage]
        rfl
  | _ => exact iff_of_true ⟨_, rfl, rfl⟩ (.inl (by simp))

theorem execute_cases {gmsUrl : String} (hgmsUrl : adapter.configuredUrl = some gmsUrl)
    {query : String} {queryVariables : Json} {calls : List HttpCall}
    {ended : Except AdapterError Fields}
    (h : (adapter.execute printing query queryVariables).Trace calls ended) :
    ∃ url headers json,
      (∃ error, calls = [⟨.post url headers json, .error error⟩] ∧ ended = .error error) ∨
        ∃ response, calls = [⟨.post url headers json, .ok response⟩] ∧
          ended = Http.jsonBody printing url response >>= graphQLData printing := by
  rw [execute, hgmsUrl] at h
  obtain ⟨answer, rfl, rfl⟩ := Http.trace_request.1 h
  cases answer with
  | error error => exact ⟨_, _, _, .inl ⟨error, rfl, rfl⟩⟩
  | ok response => exact ⟨_, _, _, .inr ⟨response, rfl, rfl⟩⟩

/-- A mutation and what follows it end in an exception that is not caught when the reply is malformed, or
when what follows does so with its data. -/
theorem mutation_uncaught {α : Type} {gmsUrl : String} (hgmsUrl : adapter.configuredUrl = some gmsUrl)
    {query : String} {queryVariables : Json} {next : Fields → Http α} {malformed : Fields → Prop}
    (hposts : ∀ data, (next data).Uses fun op => isPost op = false)
    (hnext : ∀ data calls ended, Remote calls → (next data).Trace calls ended →
      (Http.Uncaught catches ended ↔ malformed data)) {calls : List HttpCall}
    {ended : Except AdapterError α} (hremote : Remote calls)
    (h : (adapter.execute printing query queryVariables >>= next).Trace calls ended) :
    Http.Uncaught catches ended ↔ ∃ body, Http.Posted calls body ∧ (MalformedReply body ∨
      ∃ data, graphQLData printing body = .ok data ∧ malformed data) := by
  obtain ⟨first, second, middle, rfl, hfirst, hsecond⟩ := Program.trace_andThen.1 h
  obtain ⟨url, headers, json, ⟨error, rfl, rfl⟩ | ⟨response, rfl, hmiddle⟩⟩ :=
    execute_cases hgmsUrl hfirst
  · obtain ⟨rfl, rfl⟩ := Program.trace_done.1 hsecond
    obtain ⟨-, message, rfl⟩ := hremote _ error (List.mem_singleton_self _)
    refine iff_of_false (Http.raises_error rfl).not_uncaught ?_
    rintro ⟨body, hposted, -⟩
    exact not_posted_error hposted
  cases hbody : Http.jsonBody printing url response with
  | error error =>
    rw [hbody] at hmiddle
    obtain rfl : middle = .error error := hmiddle
    obtain ⟨rfl, rfl⟩ := Program.trace_done.1 hsecond
    refine iff_of_false (Http.Raises.not_uncaught ?_) ?_
    · exact Http.raises_error (Http.jsonBody_raises (fun _ => rfl) (fun _ => rfl) error hbody)
    · rintro ⟨body, hposted, -⟩
      have hdecoded := (posted_cons (by simp)).1 hposted
      exact absurd (hbody.symm.trans (Http.jsonBody_ok.2 hdecoded)) (by simp)
  | ok body =>
    rw [hbody] at hmiddle
    obtain rfl : middle = graphQLData printing body := hmiddle
    have hdecoded := Http.jsonBody_ok.1 hbody
    cases hdata : graphQLData printing body with
    | error error =>
      rw [hdata] at hsecond
      obtain ⟨rfl, rfl⟩ := Program.trace_done.1 hsecond
      have hiff : Http.Uncaught catches (graphQLData printing body) ↔ MalformedReply body :=
        graphQLData_uncaught
      rw [hdata, Http.uncaught_error] at hiff
      rw [Http.uncaught_error]
      constructor
      · exact fun hcatches => ⟨body, (posted_cons (by simp)).2 hdecoded, .inl (hiff.1 hcatches)⟩
      · rintro ⟨body', hposted, hmalformed⟩
        obtain rfl := decoded_unique hdecoded ((posted_cons (by simp)).1 hposted)
        rcases hmalformed with hmalformed | ⟨data, hok, -⟩
        · exact hiff.2 hmalformed
        · exact absurd (hdata.symm.trans hok) (by simp)
    | ok data =>
      rw [hdata] at hsecond
      have hrest : ∀ call ∈ second, isPost call.1 = false := (hposts data).trace hsecond
      rw [hnext data second ended (Http.Remote.append.1 hremote).2 hsecond]
      constructor
      · exact fun hmalformed =>
          ⟨body, (posted_cons hrest).2 hdecoded, .inr ⟨data, hdata, hmalformed⟩⟩
      · rintro ⟨body', hposted, hmalformed⟩
        obtain rfl := decoded_unique hdecoded ((posted_cons hrest).1 hposted)
        rcases hmalformed with hmalformed | ⟨data', hok, hmalformed⟩
        · have huncaught : Http.Uncaught catches (graphQLData printing body) :=
            graphQLData_uncaught.2 hmalformed
          rw [hdata] at huncaught
          exact absurd huncaught Http.raises_ok.not_uncaught
        · cases hdata.symm.trans hok
          exact hmalformed

/-! ### Read-backs of incidents -/

theorem validateIncidentInfo_raises {info : Fields}
    {expectedState expectedAssetUrn expectedTitle : Option String} :
    Http.Raises catches
      (validateIncidentInfo printing info expectedState expectedAssetUrn expectedTitle) := by
  rw [validateIncidentInfo]
  split
  · split
    · repeat' split
      all_goals first | exact Http.raises_ok | exact Http.raises_error rfl
    · exact Http.raises_error rfl
  · exact Http.raises_error rfl

theorem readbackInfo_raises {body : Json} : Http.Raises catches (readbackInfo body) := by
  unfold readbackInfo
  repeat' split
  all_goals first | exact Http.raises_ok | exact Http.raises_error rfl

theorem readIncidentInfo_contained {incidentUrn : String}
    {expectedState expectedAssetUrn expectedTitle : Option String} :
    Http.Contained catches (adapter.readIncidentInfo printing incidentUrn expectedState
      expectedAssetUrn expectedTitle) := by
  rw [readIncidentInfo]
  split
  · exact Http.contained_lift (Http.raises_error rfl)
  · split
    · exact Http.contained_lift (Http.raises_error rfl)
    · refine Http.Contained.retry ?_ (fun _ => rfl) _ _
      refine (Http.contained_perform fun _ => rfl).bind fun response => Http.contained_lift ?_
      refine (Http.jsonBody_raises (fun _ => rfl) fun _ => rfl).bind fun body => ?_
      refine readbackInfo_raises.bind fun info => validateIncidentInfo_raises.bind fun _ => ?_
      exact Http.raises_ok

theorem readIncidentInfo_posts {incidentUrn : String}
    {expectedState expectedAssetUrn expectedTitle : Option String} :
    (adapter.readIncidentInfo printing incidentUrn expectedState expectedAssetUrn
      expectedTitle).Uses fun op => isPost op = false := by
  rw [readIncidentInfo]
  split
  · exact .done _
  · split
    · exact .done _
    · refine Http.retry_uses (?_ : Program.Uses (fun op => isPost op = false) _) rfl _ _
      exact Program.Uses.bind (.call rfl fun _ => .done _) fun _ => .done _

theorem raiseAndReadBack_uncaught {gmsUrl : String} (hgmsUrl : adapter.configuredUrl = some gmsUrl)
    {assetUrn caseId description : String} {calls : List HttpCall}
    {ended : Except AdapterError String} (hremote : Remote calls)
    (h : (adapter.raiseAndReadBack printing assetUrn caseId description).Trace calls ended) :
    Http.Uncaught catches ended ↔ ∃ body, Http.Posted calls body ∧ MalformedReply body := by
  have hmutation : Http.Uncaught catches ended ↔ ∃ body, Http.Posted calls body ∧
      (MalformedReply body ∨ ∃ data, graphQLData printing body = .ok data ∧ False) := by
    refine mutation_uncaught hgmsUrl (fun data => ?_) (fun data second ended hremote htrace => ?_)
      hremote h
    · split
      · exact .done _
      · split
        · exact .done _
        · exact readIncidentInfo_posts.bind fun _ => .done _
    · refine iff_of_false (Http.Raises.not_uncaught ?_) id
      rintro error rfl
      refine (?_ : Http.Contained catches _) second error hremote htrace
      split
      · exact Http.contained_lift (Http.raises_error rfl)
      · split
        · exact Http.contained_lift (Http.raises_error rfl)
        · exact readIncidentInfo_contained.bind fun _ => Http.contained_done
  simpa only [and_false, exists_false, or_false] using hmutation

theorem isFalseOrNone_uncaught {data : Fields} :
    Http.Uncaught catches (isFalseOrNone (getField data "updateIncidentStatus")) ↔
      MalformedStatus data := by
  rw [MalformedStatus]
  cases getField data "updateIncidentStatus" with
  | none => exact iff_of_false Http.raises_ok.not_uncaught (by simp)
  | some value =>
    cases value with
    | arr items => exact iff_of_true ⟨_, rfl, rfl⟩ (.inl ⟨items, rfl⟩)
    | obj fields => exact iff_of_true ⟨_, rfl, rfl⟩ (.inr ⟨fields, rfl⟩)
    | _ => exact iff_of_false Http.raises_ok.not_uncaught (by simp)

theorem resolveAndReadBack_uncaught {gmsUrl : String} (hgmsUrl : adapter.configuredUrl = some gmsUrl)
    {incidentUrn : String} {calls : List HttpCall}
    {ended : Except AdapterError Unit} (hremote : Remote calls)
    (h : (adapter.resolveAndReadBack printing incidentUrn).Trace calls ended) :
    Http.Uncaught catches ended ↔ ∃ body, Http.Posted calls body ∧ (MalformedReply body ∨
      ∃ data, graphQLData printing body = .ok data ∧ MalformedStatus data) := by
  rw [resolveAndReadBack] at h
  split at h
  · obtain ⟨rfl, rfl⟩ := Program.trace_done.1 h
    refine iff_of_false (Http.raises_error rfl).not_uncaught ?_
    rintro ⟨body, ⟨_, _, _, _, hmem, -⟩, -⟩
    exact absurd hmem (by simp)
  · refine mutation_uncaught hgmsUrl (fun data => ?_) (fun data second ended hremote htrace => ?_)
      hremote h
    · refine Program.Uses.bind (.done _) fun refused => ?_
      split
      · exact .done _
      · exact readIncidentInfo_posts.bind fun _ => .done _
    · obtain ⟨first, rest, refused, rfl, hfirst, hrest⟩ := Program.trace_andThen.1 htrace
      obtain ⟨rfl, rfl⟩ := Http.trace_lift.1 hfirst
      cases hstatus : isFalseOrNone (getField data "updateIncidentStatus") with
      | error error =>
        rw [hstatus] at hrest
        obtain ⟨rfl, rfl⟩ := Program.trace_done.1 hrest
        rw [← isFalseOrNone_uncaught, hstatus, Http.uncaught_error, Http.uncaught_error]
      | ok refused =>
        rw [hstatus] at hrest
        rw [← isFalseOrNone_uncaught, hstatus]
        refine iff_of_false (Http.Raises.not_uncaught ?_) Http.raises_ok.not_uncaught
        rintro error rfl
        dsimp only at hrest
        refine (?_ : Http.Contained catches _) rest error hremote hrest
        split
        · exact Http.contained_lift (Http.raises_error rfl)
        · exact readIncidentInfo_contained.bind fun _ => Http.contained_done

end DataHubGraphQLAdapter

end DataRescue
