import DataRescue.Http.Runs

/-!
# Exceptions of an HTTP client

Which runs end in an exception that the adapter does not catch. What a computation may raise is put
together from its parts (`Raises.bind`, `uncaught_bind`), and a run with it.
-/

namespace DataRescue

open Python Concurrency

namespace Http

variable {printing : Printing} {α β : Type} {calls : List HttpCall} {delaySeconds : ℚ}
  {catches : AdapterError → Bool} {attempt : Http α} {failure : Option AdapterError → AdapterError}

/-- A response to a `POST`, with this body. -/
def Posted (calls : List HttpCall) (body : Json) : Prop :=
  ∃ url headers json response, ⟨.post url headers json, .ok response⟩ ∈ calls ∧ Decoded response body

/-- Every exception of a computation is caught. -/
def Raises (catches : AdapterError → Bool) (computed : Except AdapterError α) : Prop :=
  ∀ error, computed = .error error → catches error = true

/-- A computation or a run that ended in an exception nothing catches. -/
def Uncaught (catches : AdapterError → Bool) (ended : Except AdapterError α) : Prop :=
  ∃ error, ended = .error error ∧ catches error = false

theorem uncaught_error {error : AdapterError} :
    Uncaught catches (.error error : Except AdapterError α) ↔ catches error = false :=
  ⟨fun ⟨_, heq, h⟩ => by cases heq; exact h, fun h => ⟨error, rfl, h⟩⟩

theorem Raises.not_uncaught {ended : Except AdapterError α} (h : Raises catches ended) :
    ¬Uncaught catches ended := by
  rintro ⟨error, heq, hcatches⟩
  exact absurd (h error heq) (by simp [hcatches])

/-- Every exception of a program is caught, whatever the remote side answers. -/
def Contained (catches : AdapterError → Bool) (program : Http α) : Prop :=
  ∀ calls error, Remote calls → program.Trace calls (.error error) → catches error = true

theorem Remote.append {first second : List HttpCall} :
    Remote (first ++ second) ↔ Remote first ∧ Remote second := by
  constructor
  · exact fun h => ⟨fun op error hmem => h op error (List.mem_append_left _ hmem),
      fun op error hmem => h op error (List.mem_append_right _ hmem)⟩
  · rintro ⟨hfirst, hsecond⟩ op error hmem
    rcases List.mem_append.1 hmem with hmem | hmem
    · exact hfirst op error hmem
    · exact hsecond op error hmem

theorem raises_ok {value : α} : Raises catches (.ok value) := fun _ h => absurd h (by simp)

theorem raises_error {error : AdapterError} (h : catches error = true) :
    Raises catches (.error error : Except AdapterError α) := by
  rintro _ ⟨⟩
  exact h

theorem Raises.bind {first : Except AdapterError α} {rest : α → Except AdapterError β}
    (hfirst : Raises catches first) (hrest : ∀ value, Raises catches (rest value)) :
    Raises catches (first >>= rest) := by
  intro error h
  cases first with
  | error raised => exact hfirst error (by simpa [Bind.bind, Except.bind] using h)
  | ok value => exact hrest value error h

theorem uncaught_bind {first : Except AdapterError α} {rest : α → Except AdapterError β}
    (hrest : ∀ value, Raises catches (rest value)) :
    Uncaught catches (first >>= rest) ↔ Uncaught catches first := by
  cases first with
  | error error => exact uncaught_error.trans uncaught_error.symm
  | ok value => exact iff_of_false (hrest value).not_uncaught raises_ok.not_uncaught

theorem Raises.mapM {read : α → Except AdapterError β} (hread : ∀ item, Raises catches (read item))
    (items : List α) : Raises catches (items.mapM read) := by
  induction items with
  | nil => exact raises_ok
  | cons item items ih =>
    rw [List.mapM_cons]
    exact (hread item).bind fun value => ih.bind fun values => raises_ok

theorem raiseForStatus_raises (hhttp : ∀ message, catches (.httpError message) = true) {url : String}
    {response : HttpResponse} : Raises catches (raiseForStatus printing url response) := by
  rw [raiseForStatus]
  split
  · exact raises_ok
  · exact raises_error (hhttp _)

theorem decode_raises (hvalue : ∀ message, catches (.valueError message) = true) {text : String} :
    Raises catches (decode printing text) := by
  rw [decode]
  cases loads text with
  | ok body => exact raises_ok
  | error error => exact raises_error (hvalue _)

theorem jsonBody_raises (hhttp : ∀ message, catches (.httpError message) = true)
    (hvalue : ∀ message, catches (.valueError message) = true) {url : String}
    {response : HttpResponse} : Raises catches (jsonBody printing url response) :=
  (raiseForStatus_raises hhttp).bind fun _ => decode_raises hvalue

theorem iterate_raises (htype : ∀ message, catches (.typeError message) = true) {value : Json} :
    Raises catches (iterate value) := by
  cases value <;> first | exact raises_ok | exact raises_error (htype _)

theorem subscript_raises (htype : ∀ message, catches (.typeError message) = true)
    (hkey : ∀ key, catches (.keyError key) = true) {value : Json} {key : String} :
    Raises catches (subscript value key) := by
  unfold subscript
  repeat' split
  all_goals first | exact raises_ok | exact raises_error (hkey _) | exact raises_error (htype _)

def isPost : HttpOp → Bool
  | .post .. => true
  | _ => false

theorem posted_cons {url : String} {headers : List (String × String)} {json : Json}
    {response : HttpResponse} {rest : List HttpCall} (hrest : ∀ call ∈ rest, isPost call.1 = false)
    {body : Json} : Posted (⟨.post url headers json, .ok response⟩ :: rest) body ↔
      Decoded response body := by
  constructor
  · rintro ⟨url', headers', json', response', hmem, hbody⟩
    rcases List.mem_cons.1 hmem with heq | hmem
    · cases heq
      exact hbody
    · exact absurd (hrest _ hmem) (by simp [isPost])
  · exact fun hbody => ⟨url, headers, json, response, List.mem_cons_self, hbody⟩

theorem not_posted_error {op : HttpOp} {error : AdapterError} {body : Json} :
    ¬Posted [⟨op, .error error⟩] body := by
  rintro ⟨_, _, _, _, hmem, -⟩
  cases List.mem_singleton.1 hmem

theorem decoded_unique {response : HttpResponse} {body body' : Json} (h : Decoded response body)
    (h' : Decoded response body') : body = body' := Except.ok.inj (h.2.symm.trans h'.2)

theorem posted_uncaught (hhttp : ∀ message, catches (.httpError message) = true)
    (hvalue : ∀ message, catches (.valueError message) = true) {url requested : String}
    {headers : List (String × String)} {json : Json} {read : Json → Except AdapterError α}
    {ended : Except AdapterError α} (hremote : Remote calls)
    (h : (post url headers json >>= fun response =>
      lift (jsonBody printing requested response >>= read)).Trace calls ended) :
    Uncaught catches ended ↔ ∃ body, Posted calls body ∧ Uncaught catches (read body) := by
  obtain ⟨answer, rfl, rfl⟩ := trace_request.1 h
  cases answer with
  | error error =>
    obtain ⟨-, message, rfl⟩ := hremote _ error (List.mem_singleton_self _)
    refine iff_of_false (raises_error (hhttp message)).not_uncaught ?_
    rintro ⟨body, hposted, -⟩
    exact not_posted_error hposted
  | ok response =>
    change Uncaught catches (jsonBody printing requested response >>= read) ↔ _
    cases hbody : jsonBody printing requested response with
    | error error =>
      refine iff_of_false (raises_error (jsonBody_raises hhttp hvalue error hbody)).not_uncaught ?_
      rintro ⟨body, hposted, -⟩
      have hdecoded := (posted_cons (by simp)).1 hposted
      exact absurd (hbody.symm.trans (jsonBody_ok.2 hdecoded)) (by simp)
    | ok body =>
      have hdecoded := jsonBody_ok.1 hbody
      constructor
      · exact fun huncaught => ⟨body, (posted_cons (by simp)).2 hdecoded, huncaught⟩
      · rintro ⟨body', hposted, huncaught⟩
        obtain rfl := decoded_unique hdecoded ((posted_cons (by simp)).1 hposted)
        exact huncaught

theorem contained_lift {computed : Except AdapterError α} (h : Raises catches computed) :
    Contained catches (lift computed) :=
  fun _ error _ htrace => h error (trace_lift.1 htrace).2.symm

theorem contained_done {value : α} : Contained catches (.done (.ok value) : Http α) :=
  contained_lift raises_ok

theorem contained_perform (hhttp : ∀ message, catches (.httpError message) = true) {op : HttpOp} :
    Contained catches (Program.perform op : Http op.Reply) := by
  intro calls error hremote h
  rw [Program.trace_perform.1 h] at hremote
  obtain ⟨-, message, rfl⟩ := hremote op error (List.mem_singleton_self _)
  exact hhttp message

theorem Contained.bind {program : Http α} {next : α → Http β} (h : Contained catches program)
    (hnext : ∀ value, Contained catches (next value)) : Contained catches (program >>= next) := by
  intro calls error hremote htrace
  rcases Program.trace_bind_error.1 htrace with hfirst | ⟨first, second, value, rfl, -, hsecond⟩
  · exact h calls error hremote hfirst
  · exact hnext value second error (Remote.append.1 hremote).2 hsecond

theorem Contained.retry {caught : AdapterError → Bool} (hattempt : Contained caught attempt)
    (hfailure : ∀ lastError, caught (failure lastError) = true)
    (attempts : Nat) (lastError : Option AdapterError) :
    Contained caught (retry delaySeconds catches attempt failure attempts lastError) := by
  intro calls error hremote h
  induction attempts generalizing calls lastError with
  | zero =>
    cases (Program.trace_done.1 h).2
    exact hfailure lastError
  | succ attempts ih =>
    rcases retry_cases h with ⟨_, heq, -⟩ | ⟨first, raised, hfirst, ⟨-, rfl, heq⟩ | ⟨-, hwaited⟩⟩
    · exact absurd heq (by simp)
    · cases heq
      exact hattempt calls error hremote hfirst
    · rcases hwaited with ⟨waitError, rfl, -⟩ | ⟨wait, rest, rfl, -, hrest⟩
      · have hwait := (hremote (.sleep delaySeconds) waitError (by simp)).1
        exact absurd rfl (hwait delaySeconds)
      · exact ih _ rest (Remote.append.1 (Remote.append.1 hremote).2).2 hrest

section

variable {body : Http α} {succeeded : α → β} {failed : AdapterError → β}

theorem reported_answered {result : Except AdapterError β} (answers : β → Prop)
    (h : (Program.tryCatch (body >>= fun value => pure (succeeded value)) fun error =>
      if catches error then pure (failed error) else throw error : Http β).Trace calls result)
    (hsucceeded : ∀ value, answers (succeeded value)) (hfailed : ∀ error, answers (failed error)) :
    ∃ ended, body.Trace calls ended ∧
      ((∃ value, result = .ok value ∧ answers value) ↔ ¬Uncaught catches ended) := by
  obtain ⟨ended, hbody, hresult⟩ := reported_cases h
  refine ⟨ended, hbody, ?_⟩
  cases ended with
  | ok value => exact iff_of_true ⟨_, hresult, hsucceeded value⟩ raises_ok.not_uncaught
  | error error =>
    rw [uncaught_error, Bool.not_eq_false]
    dsimp only at hresult
    split at hresult
    next hcatches => exact iff_of_true ⟨_, hresult, hfailed error⟩ hcatches
    next hcatches =>
      refine iff_of_false ?_ hcatches
      rintro ⟨value, heq, -⟩
      exact absurd (hresult.symm.trans heq) (by simp)

end

end Http

end DataRescue
