import DataRescue.Http.Client
import DataRescue.Python.Raising

/-!
# Runs of an HTTP client

What the runs of a request and of a retried read are. A retried read returns what one of its attempts
returned, and makes no more attempts than it may (`retry_ok`, `retry_atMost`); an operation ends in a
result made of what its body returned, or of an exception it catches (`reported_cases`).
-/

namespace DataRescue

open Python Concurrency

namespace Http

/-! ### Requests -/

/-- A response whose body is this value. -/
def Decoded (response : HttpResponse) (body : Json) : Prop :=
  (200 ≤ response.status ∧ response.status < 300) ∧ loads response.text = .ok body

variable {printing : Printing}

theorem decode_ok {text : String} {body : Json} :
    decode printing text = .ok body ↔ loads text = .ok body := by
  rw [decode]
  cases loads text <;> simp [Except.mapError]

theorem raiseForStatus_ok {url : String} {response : HttpResponse} :
    raiseForStatus printing url response = .ok () ↔
      200 ≤ response.status ∧ response.status < 300 := by
  rw [raiseForStatus]
  split <;> simp_all

theorem jsonBody_ok {url : String} {response : HttpResponse} {body : Json} :
    jsonBody printing url response = .ok body ↔ Decoded response body := by
  rw [jsonBody, bind_eq_ok, Decoded]
  constructor
  · rintro ⟨⟨⟩, hstatus, hbody⟩
    exact ⟨raiseForStatus_ok.1 hstatus, decode_ok.1 hbody⟩
  · rintro ⟨hstatus, hbody⟩
    exact ⟨(), raiseForStatus_ok.2 hstatus, decode_ok.2 hbody⟩

variable {α β : Type} {calls : List HttpCall}

theorem trace_lift {computed result : Except AdapterError α} :
    (lift computed).Trace calls result ↔ calls = [] ∧ result = computed := Program.trace_done

theorem trace_lift_bind_ok {computed : Except AdapterError α} {next : α → Http β} {value : β} :
    (lift computed >>= next).Trace calls (.ok value) ↔
      ∃ middle, computed = .ok middle ∧ (next middle).Trace calls (.ok value) :=
  Program.trace_done_bind_ok

theorem trace_perform_bind_ok {op : HttpOp} {next : op.Reply → Http β} {value : β} :
    ((Program.perform op : Http op.Reply) >>= next).Trace calls (.ok value) ↔
      ∃ reply rest, calls = ⟨op, .ok reply⟩ :: rest ∧ (next reply).Trace rest (.ok value) := by
  rw [Program.trace_bind_ok]
  constructor
  · rintro ⟨first, second, reply, rfl, hfirst, hsecond⟩
    rw [Program.trace_perform.1 hfirst]
    exact ⟨reply, second, rfl, hsecond⟩
  · rintro ⟨reply, rest, rfl, hsecond⟩
    exact ⟨[_], rest, reply, rfl, Program.trace_perform.2 rfl, hsecond⟩

theorem trace_request {op : HttpOp} {read : op.Reply → Except AdapterError α}
    {result : Except AdapterError α} :
    ((Program.perform op : Http op.Reply) >>= fun reply => lift (read reply)).Trace calls result ↔
      ∃ answer, calls = [⟨op, answer⟩] ∧ result = answer.bind read := by
  rw [Program.bind_eq, Program.trace_andThen]
  constructor
  · rintro ⟨first, second, answer, rfl, hfirst, hsecond⟩
    rw [Program.trace_perform.1 hfirst]
    cases answer with
    | error error =>
      obtain ⟨rfl, rfl⟩ := Program.trace_done.1 hsecond
      exact ⟨.error error, rfl, rfl⟩
    | ok reply =>
      obtain ⟨rfl, rfl⟩ := trace_lift.1 hsecond
      exact ⟨.ok reply, rfl, rfl⟩
  · rintro ⟨answer, rfl, rfl⟩
    refine ⟨[⟨op, answer⟩], [], answer, rfl, Program.trace_perform.2 rfl, ?_⟩
    cases answer <;> exact .done _

theorem trace_request_ok {op : HttpOp} {read : op.Reply → Except AdapterError α} {value : α} :
    ((Program.perform op : Http op.Reply) >>= fun reply => lift (read reply)).Trace calls (.ok value) ↔
      ∃ reply, calls = [⟨op, .ok reply⟩] ∧ read reply = .ok value := by
  rw [trace_request]
  constructor
  · rintro ⟨answer, rfl, hread⟩
    cases answer with
    | error error => exact absurd hread (by simp [Except.bind])
    | ok reply => exact ⟨reply, rfl, hread.symm⟩
  · rintro ⟨reply, rfl, hread⟩
    exact ⟨.ok reply, rfl, hread.symm⟩

variable {delaySeconds : ℚ} {catches : AdapterError → Bool} {attempt : Http α}
  {failure : Option AdapterError → AdapterError}

theorem retry_cases {attempts : Nat} {lastError : Option AdapterError}
    {result : Except AdapterError α}
    (h : (retry delaySeconds catches attempt failure (attempts + 1) lastError).Trace calls result) :
    (∃ value, result = .ok value ∧ attempt.Trace calls (.ok value)) ∨
      ∃ first error, attempt.Trace first (.error error) ∧
        (catches error = false ∧ calls = first ∧ result = .error error ∨
          catches error = true ∧
            ((∃ waitError, calls = first ++ [⟨.sleep delaySeconds, .error waitError⟩] ∧
                result = .error waitError) ∨
              ∃ wait rest, calls = first ++ (wait ++ rest) ∧
                (wait = [] ∨ wait = [⟨.sleep delaySeconds, .ok ()⟩]) ∧
                (retry delaySeconds catches attempt failure attempts (some error)).Trace rest
                  result)) := by
  rw [retry, Program.trace_tryCatch] at h
  rcases h with hreturned | ⟨first, second, error, rfl, hattempt, hrest⟩
  · exact .inl hreturned
  refine .inr ⟨first, error, hattempt, ?_⟩
  dsimp only at hrest
  split at hrest
  next hcatches =>
    refine .inr ⟨hcatches, ?_⟩
    split at hrest
    · rw [sleep, Program.bind_eq, Program.trace_andThen] at hrest
      obtain ⟨wait, rest, waited, rfl, hwait, hrest⟩ := hrest
      rw [Program.trace_perform.1 hwait]
      cases waited with
      | error waitError =>
        obtain ⟨rfl, rfl⟩ := Program.trace_done.1 hrest
        exact .inl ⟨waitError, rfl, rfl⟩
      | ok reply => exact .inr ⟨_, rest, rfl, .inr rfl, hrest⟩
    · exact .inr ⟨[], second, rfl, .inl rfl, hrest⟩
  next hcatches =>
    obtain ⟨rfl, rfl⟩ := Program.trace_done.1 hrest
    exact .inl ⟨by simpa using hcatches, List.append_nil _, rfl⟩

theorem retry_ok {attempts : Nat} {lastError : Option AdapterError} {value : α}
    (h : (retry delaySeconds catches attempt failure attempts lastError).Trace calls (.ok value)) :
    ∃ before last, calls = before ++ last ∧ attempt.Trace last (.ok value) := by
  induction attempts generalizing calls lastError with
  | zero => exact absurd (Program.trace_done.1 h).2 (by simp)
  | succ attempts ih =>
    rcases retry_cases h with ⟨_, heq, hattempt⟩ | ⟨first, error, -, ⟨-, -, heq⟩ | ⟨-, hwaited⟩⟩
    · cases heq
      exact ⟨[], calls, rfl, hattempt⟩
    · exact absurd heq (by simp)
    · rcases hwaited with ⟨_, -, heq⟩ | ⟨wait, rest, rfl, -, hrest⟩
      · exact absurd heq (by simp)
      · obtain ⟨before, last, rfl, hlast⟩ := ih hrest
        exact ⟨first ++ wait ++ before, last, by simp only [List.append_assoc], hlast⟩

theorem retry_atMost {kind : HttpOp → Bool} (hattempt : attempt.AtMost kind 1)
    (hsleep : kind (.sleep delaySeconds) = false) (attempts : Nat) (lastError : Option AdapterError) :
    (retry delaySeconds catches attempt failure attempts lastError).AtMost kind attempts := by
  induction attempts generalizing lastError with
  | zero => exact Program.atMost_done
  | succ attempts ih =>
    rw [retry, Nat.add_comm]
    refine hattempt.andThen fun result => ?_
    cases result with
    | ok value => exact Program.atMost_done
    | error error =>
      dsimp only
      split
      · split
        · exact Program.Uses.bind_atMost (.call hsleep fun _ => .done _) fun _ => ih (some error)
        · exact ih (some error)
      · exact Program.atMost_done

theorem retry_uses {allowed : HttpOp → Prop} (hattempt : attempt.Uses allowed)
    (hsleep : allowed (.sleep delaySeconds)) (attempts : Nat) (lastError : Option AdapterError) :
    (retry delaySeconds catches attempt failure attempts lastError).Uses allowed := by
  induction attempts generalizing lastError with
  | zero => exact .done _
  | succ attempts ih =>
    refine hattempt.tryCatch fun error => ?_
    dsimp only
    split
    · split
      · exact Program.Uses.bind (.call hsleep fun _ => .done _) fun _ => ih (some error)
      · exact ih (some error)
    · exact .done _

/-! ### Results

The operations of an adapter do not raise what they catch: they end in a result that says so. -/

section

variable {body : Http α} {succeeded : α → β} {failed : AdapterError → β}

theorem reported_cases {result : Except AdapterError β}
    (h : (Program.tryCatch (body >>= fun value => pure (succeeded value)) fun error =>
      if catches error then pure (failed error) else throw error : Http β).Trace calls result) :
    ∃ ended, body.Trace calls ended ∧ result = match ended with
      | .ok value => .ok (succeeded value)
      | .error error => if catches error then .ok (failed error) else .error error := by
  rcases Program.trace_tryCatch.1 h with ⟨_, rfl, hbody⟩ | ⟨first, second, error, rfl, hbody, hhandler⟩
  · obtain ⟨first, second, value, rfl, hfirst, hdone⟩ := Program.trace_bind_ok.1 hbody
    obtain ⟨rfl, heq⟩ := Program.trace_done.1 hdone
    exact ⟨.ok value, by rwa [List.append_nil], heq⟩
  · have hfirst : body.Trace first (.error error) := by
      rcases Program.trace_bind_error.1 hbody with hbody | ⟨_, _, _, -, -, hdone⟩
      · exact hbody
      · exact absurd (Program.trace_done.1 hdone).2 (by simp)
    refine ⟨.error error, ?_, ?_⟩
    · split at hhandler <;> rwa [(Program.trace_done.1 hhandler).1, List.append_nil]
    · dsimp only
      split at hhandler
      next hcatches =>
        rw [if_pos hcatches]
        exact (Program.trace_done.1 hhandler).2
      next hcatches =>
        rw [if_neg hcatches]
        exact (Program.trace_done.1 hhandler).2

theorem reported_ok {result : β}
    (h : (Program.tryCatch (body >>= fun value => pure (succeeded value)) fun error =>
      if catches error then pure (failed error) else throw error : Http β).Trace calls (.ok result)) :
    (∃ value, result = succeeded value ∧ body.Trace calls (.ok value)) ∨
      ∃ error, result = failed error := by
  obtain ⟨ended, hbody, hresult⟩ := reported_cases h
  cases ended with
  | ok value => exact .inl ⟨value, Except.ok.inj hresult, hbody⟩
  | error error =>
    dsimp only at hresult
    split at hresult
    · exact .inr ⟨error, Except.ok.inj hresult⟩
    · exact absurd hresult (by simp)

theorem reported_atMost {kind : HttpOp → Bool} {bound : Nat} (h : body.AtMost kind bound) :
    (Program.tryCatch (body >>= fun value => pure (succeeded value)) fun error =>
      if catches error then pure (failed error) else throw error : Http β).AtMost kind bound := by
  refine (h.bind_uses fun _ => .done _).tryCatch_uses fun error => ?_
  split <;> exact .done _

end

end Http

end DataRescue
