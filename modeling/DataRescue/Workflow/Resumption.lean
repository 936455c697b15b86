import DataRescue.Workflow.Recovery
import DataRescue.Workflow.Scopes

/-!
# Resuming checkpoints

An ingest that finds its case at a resumable checkpoint asks whether its process owns the case, and
advances it if not (`decides_ingest`). Cases are owned by id, and ids come back after a reset: the
case is left alone when the process has settled one of the same id in an earlier scope, and when it is
found while the id of a new case is allocated, where nothing is asked (`resumes_iff`).
-/

namespace DataRescue

open Python Concurrency

namespace Op

/-- A search for the case of a dedup key. -/
def looksUp : Op → Bool
  | .store (.findCaseForDedup _) => true
  | _ => false

def reads : Op → Bool
  | .store (.getCase _) => true
  | _ => false

def activates : Op → Bool
  | .memory (.activate _) => true
  | _ => false

def locks : Op → Bool
  | .memory .acquire => true
  | _ => false

end Op

/-- No call of the process memory failed. -/
def Remembered (calls : List (Exchange Op Op.Reply Exn)) : Prop :=
  ∀ op answer, (⟨.memory op, answer⟩ : Exchange Op Op.Reply Exn) ∈ calls →
    ∃ reply, answer = .ok reply

/-- No case was read. -/
def Unread (calls : List (Exchange Op Op.Reply Exn)) : Prop :=
  ∀ caseId snapshot,
    (⟨.store (.getCase caseId), .ok snapshot⟩ : Exchange Op Op.Reply Exn) ∉ calls

/-- The read of a case between these calls is the first since the last search, and nothing has been
advanced before it. -/
structure Finds (earlier later : List (Exchange Op Op.Reply Exn)) : Prop where
  first : ∀ before read between, earlier = before ++ read :: between → read.1.reads = true →
    ∃ search ∈ between, search.1.looksUp = true
  waiting : ∀ call ∈ earlier, call.1.activates = false
  last : ∀ call ∈ later, call.1.looksUp = false

/-- There were `bound` searches. -/
def Searches (bound : Nat) (calls : List (Exchange Op Op.Reply Exn)) : Prop :=
  bound ≤ calls.countP fun call => call.1.looksUp

/-- The last search was the second under the lock: the one of `_available_case_id`, for the id of a
new case. -/
def Allocating (earlier : List (Exchange Op Op.Reply Exn)) : Prop :=
  Searches 2 (earlier.dropWhile fun call => !call.1.locks)

section

variable (service : Service) (caseId : String) (event : SchemaChangeEvent)

/-- Among these calls are those of an `_advance` of the case. -/
def Advances (calls : List (Exchange Op Op.Reply Exn)) : Prop :=
  ∃ before marked advance after result,
    calls = before ++ ⟨.memory (.activate caseId), marked⟩ :: (advance ++ after) ∧
      (service.advance caseId event).Trace advance result

/-- The process is asked whether it owns the case, and its answer decides on the advance. -/
inductive Asks : List (Exchange Op Op.Reply Exn) → Prop
  | free {rest : List (Exchange Op Op.Reply Exn)} (h : Advances service caseId event rest) :
      Asks (⟨.memory (.owned caseId), .ok false⟩ :: rest)
  | owned {rest : List (Exchange Op Op.Reply Exn)} (h : ∀ call ∈ rest, call.1.activates = false) :
      Asks (⟨.memory (.owned caseId), .ok true⟩ :: rest)

/-- Once its case is found at a resumable checkpoint, the process is asked, unless an id is being
allocated. -/
def Decides (allocating : List (Exchange Op Op.Reply Exn) → Prop)
    (calls : List (Exchange Op Op.Reply Exn)) : Prop :=
  ∀ earlier caseId snapshot later,
    calls = earlier ++ ⟨.store (.getCase caseId), .ok snapshot⟩ :: later →
    snapshot.state.ingestResumable = true → Finds earlier later →
      (allocating earlier → ∀ call ∈ later, call.1.activates = false) ∧
        (¬allocating earlier → Asks service caseId event later)

end

namespace World

variable (world : World) (process : Nat) (caseId : String)

/-- The process is advancing a case of this id. -/
def Busy : Prop := caseId ∈ (world.memory process).activeCases

/-- The process has settled a case of this id. -/
def SettledBy : Prop := caseId ∈ (world.memory process).settledCases

/-- It has settled it by an advance that it completed in the current scope. -/
def Completed : Prop := world.SettledBy process caseId ∧
  ∃ effect ∈ world.history, effect.actor.call.process = process ∧
    effect.scope = world.store.currentScope ∧ effect.op = .memory (.deactivate caseId true)

end World

section

variable {service : Service} {event : SchemaChangeEvent} {dedupKey caseId : String}
  {calls first second : List (Exchange Op Op.Reply Exn)}
  {allocating : List (Exchange Op Op.Reply Exn) → Prop}

theorem Remembered.of_append (h : Remembered (first ++ second)) :
    Remembered first ∧ Remembered second :=
  ⟨fun op answer hmem => h op answer (List.mem_append_left _ hmem),
    fun op answer hmem => h op answer (List.mem_append_right _ hmem)⟩

theorem Remembered.not_raised {op : MemoryOp} {error : Exn} (h : Remembered calls)
    (hraised : (Flow.memory op).Trace calls (.error error)) : False := by
  rw [Program.trace_perform.1 hraised] at h
  obtain ⟨reply, hreply⟩ := h _ _ (List.mem_singleton_self _)
  cases hreply

/-- A call of two lists is one of the first or one of the second. -/
theorem append_eq_split {earlier later : List (Exchange Op Op.Reply Exn)}
    {call : Exchange Op Op.Reply Exn} (h : first ++ second = earlier ++ call :: later) :
    (∃ rest, first = earlier ++ call :: rest ∧ later = rest ++ second) ∨
      ∃ before, earlier = first ++ before ∧ second = before ++ call :: later := by
  rcases List.append_eq_append_iff.1 h with ⟨before, rfl, hsecond⟩ | ⟨rest, rfl, hrest⟩
  · exact .inr ⟨before, rfl, hsecond⟩
  · cases rest with
    | nil => exact .inr ⟨[], by simp, by simpa using hrest.symm⟩
    | cons other rest =>
      obtain ⟨rfl, rfl⟩ := List.cons.inj hrest
      exact .inl ⟨rest, rfl, rfl⟩

theorem Finds.of_append {earlier later : List (Exchange Op Op.Reply Exn)}
    (h : Finds (first ++ earlier) later) : Finds earlier later where
  first before read between hearlier hreads := by
    subst hearlier
    exact h.first (first ++ before) read between (List.append_assoc ..).symm hreads
  waiting call hcall := h.waiting call (List.mem_append_right _ hcall)
  last := h.last

/-! ### Calls that find no case -/

theorem Unread.of_reads (h : ∀ call ∈ calls, call.1.reads = false) : Unread calls := by
  intro caseId snapshot hmem
  have hread := h _ hmem
  cases hread

theorem Unread.decides (h : Unread calls) : Decides service event allocating calls := by
  rintro earlier caseId snapshot later rfl
  exact absurd (by simp) (h caseId snapshot)

/-- The reads before another search do not count. -/
theorem Decides.prepend {allocating' : List (Exchange Op Op.Reply Exn) → Prop}
    (h : Decides service event allocating' second)
    (hfirst : (∃ call ∈ second, call.1.looksUp = true) ∨ Unread first)
    (hallocating : ∀ earlier, allocating (first ++ earlier) ↔ allocating' earlier) :
    Decides service event allocating (first ++ second) := by
  intro earlier caseId snapshot later hcalls hstate hfinds
  rcases append_eq_split hcalls with ⟨rest, rfl, rfl⟩ | ⟨before, rfl, hsecond⟩
  · rcases hfirst with ⟨call, hcall, hsearch⟩ | hfirst
    · rw [hfinds.last call (List.mem_append_right _ hcall)] at hsearch
      cases hsearch
    · exact absurd (by simp) (hfirst caseId snapshot)
  · rw [hallocating]
    exact h before caseId snapshot later hsecond hstate hfinds.of_append

theorem Advances.append (h : Advances service caseId event first) :
    Advances service caseId event (first ++ second) := by
  obtain ⟨before, marked, advance, after, result, rfl, htrace⟩ := h
  exact ⟨before, marked, advance, after ++ second, result, by simp, htrace⟩

theorem Advances.prepend (h : Advances service caseId event second) :
    Advances service caseId event (first ++ second) := by
  obtain ⟨before, marked, advance, after, result, rfl, htrace⟩ := h
  exact ⟨first ++ before, marked, advance, after, result, by simp, htrace⟩

theorem Asks.append (h : Asks service caseId event first)
    (hsecond : ∀ call ∈ second, call.1.activates = false) :
    Asks service caseId event (first ++ second) := by
  cases h with
  | free h => exact .free h.append
  | owned h =>
    refine .owned fun call hcall => ?_
    rcases List.mem_append.1 hcall with hcall | hcall
    · exact h call hcall
    · exact hsecond call hcall

theorem Decides.append (h : Decides service event allocating first)
    (hunread : Unread second) (hactivates : ∀ call ∈ second, call.1.activates = false) :
    Decides service event allocating (first ++ second) := by
  intro earlier caseId snapshot later hcalls hstate hfinds
  rcases append_eq_split hcalls with ⟨rest, rfl, rfl⟩ | ⟨before, rfl, rfl⟩
  · have hrest : Finds earlier rest := ⟨hfinds.first, hfinds.waiting, fun call hcall =>
      hfinds.last call (List.mem_append_left _ hcall)⟩
    obtain ⟨hidle, hasks⟩ := h earlier caseId snapshot rest rfl hstate hrest
    refine ⟨fun hallocating call hcall => ?_, fun hallocating => (hasks hallocating).append hactivates⟩
    rcases List.mem_append.1 hcall with hcall | hcall
    · exact hidle hallocating call hcall
    · exact hactivates call hcall
  · exact absurd (by simp) (hunread caseId snapshot)

/-! ### Creating a case -/

/-- What is read before an advance is read last. -/
def Quiet (calls : List (Exchange Op Op.Reply Exn)) : Prop :=
  ∀ earlier read later, calls = earlier ++ read :: later → read.1.reads = true →
    (∀ call ∈ earlier, call.1.activates = false) → later = []

theorem Quiet.prepend (h : Quiet second) (hfirst : ∀ call ∈ first, call.1.reads = false) :
    Quiet (first ++ second) := by
  intro earlier read later hcalls hread hwaiting
  rcases append_eq_split hcalls with ⟨rest, rfl, rfl⟩ | ⟨before, rfl, hsecond⟩
  · rw [hfirst read (by simp)] at hread
    cases hread
  · exact h before read later hsecond hread fun call hcall =>
      hwaiting call (List.mem_append_right _ hcall)

theorem quiet_nil : Quiet [] := by
  intro earlier read later hcalls
  simp at hcalls

theorem quiet_of_reads (h : ∀ call ∈ calls, call.1.reads = false) : Quiet calls := by
  simpa using quiet_nil.prepend h

theorem quiet_activated {id : String} {marked : Except Exn Unit}
    {rest : List (Exchange Op Op.Reply Exn)} :
    Quiet (⟨.memory (.activate id), marked⟩ :: rest) := by
  intro earlier read later hcalls hread hwaiting
  cases earlier with
  | nil =>
    obtain ⟨rfl, -⟩ := List.cons.inj hcalls
    cases hread
  | cons call earlier =>
    obtain ⟨rfl, -⟩ := List.cons.inj hcalls
    have hactivate := hwaiting _ List.mem_cons_self
    cases hactivate

theorem quiet_respond {deduplicated : Bool} {result : Except Exn SchemaChangeResponse}
    (h : (Service.respond caseId deduplicated).Trace calls result) : Quiet calls := by
  have hcalls : ∃ answer, calls = [⟨.store (.getCase caseId), answer⟩] := by
    rw [Service.respond] at h
    rcases trace_bind_cases h with ⟨⟨error, hread⟩, -⟩ | ⟨first, rest, case, rfl, hread, h⟩
    · exact ⟨_, Program.trace_perform.1 hread⟩
    · rw [Program.trace_perform.1 hread, (Program.trace_done.1 h).1]
      exact ⟨_, rfl⟩
  obtain ⟨answer, rfl⟩ := hcalls
  intro earlier read later hcalls _ _
  cases earlier with
  | nil => exact (List.cons.inj hcalls).2.symm
  | cons call earlier => simp at hcalls

theorem trace_advanceSafelyLocked {result : Except Exn Unit} (hremembered : Remembered calls)
    (h : (service.advanceSafelyLocked caseId event).Trace calls result) :
    ∃ marked advance after ended, calls = ⟨.memory (.activate caseId), marked⟩ :: (advance ++ after) ∧
      (service.advance caseId event).Trace advance ended := by
  rw [Service.advanceSafelyLocked] at h
  rcases trace_bind_cases h with ⟨⟨error, hactivate⟩, -⟩ | ⟨first, rest, _, rfl, hactivate, h⟩
  · exact (hremembered.not_raised hactivate).elim
  rw [Program.trace_perform.1 hactivate]
  rw [Program.tryFinally, Program.trace_andThen] at h
  obtain ⟨guarded, final, ended, rfl, hguarded, -⟩ := h
  rcases Program.trace_tryCatch.1 hguarded with ⟨_, -, hadvance⟩ |
    ⟨advance, handled, error, rfl, hadvance, -⟩
  · exact ⟨_, _, final, _, rfl, hadvance⟩
  · exact ⟨_, advance, handled ++ final, _, by rw [List.append_assoc]; rfl, hadvance⟩

theorem trace_resumed {deduplicated : Bool} {result : Except Exn SchemaChangeResponse}
    (hremembered : Remembered calls)
    (h : (do
      service.advanceSafelyLocked caseId event
      Service.respond caseId deduplicated : Flow SchemaChangeResponse).Trace calls result) :
    ∃ marked advance after ended, calls = ⟨.memory (.activate caseId), marked⟩ :: (advance ++ after) ∧
      (service.advance caseId event).Trace advance ended := by
  rcases trace_bind_cases h with ⟨⟨error, hraised⟩, -⟩ | ⟨first, second, _, rfl, hok, -⟩
  · exact trace_advanceSafelyLocked hremembered hraised
  · obtain ⟨marked, advance, after, ended, rfl, hadvance⟩ :=
      trace_advanceSafelyLocked hremembered.of_append.1 hok
    exact ⟨marked, advance, after ++ second, ended, by simp, hadvance⟩

theorem quiet_resumed {deduplicated : Bool} {result : Except Exn SchemaChangeResponse}
    (hremembered : Remembered calls)
    (h : (do
      service.advanceSafelyLocked caseId event
      Service.respond caseId deduplicated : Flow SchemaChangeResponse).Trace calls result) :
    Quiet calls := by
  obtain ⟨marked, advance, after, ended, rfl, -⟩ := trace_resumed hremembered h
  exact quiet_activated

theorem reads_checkEventId {result : Except Exn (Option String)}
    (h : (Service.checkEventId event dedupKey caseId).Trace calls result) :
    ∀ call ∈ calls, call.1.reads = false := by
  have huses : (Service.checkEventId event dedupKey caseId).Uses fun op => op.reads = false :=
    uses_checkEventId fun _ _ _ => rfl
  exact Program.Uses.trace huses h

theorem reads_availableCaseId {result : Except Exn String}
    (h : (Service.availableCaseId dedupKey).Trace calls result) :
    ∀ call ∈ calls, call.1.reads = false := by
  have huses : (Service.availableCaseId dedupKey).Uses fun op => op.reads = false :=
    uses_availableCaseId rfl fun _ => rfl
  exact Program.Uses.trace huses h

theorem quiet_detectionLoop (remaining : Nat) {result : Except Exn SchemaChangeResponse}
    (hremembered : Remembered calls)
    (h : (service.detectionLoop event dedupKey remaining caseId).Trace calls result) :
    Quiet calls := by
  induction remaining generalizing caseId calls with
  | zero => exact quiet_resumed hremembered h
  | succ remaining ih =>
    rw [Service.detectionLoop] at h
    rcases trace_bind_cases h with ⟨⟨error, hfailed⟩, -⟩ | ⟨first, rest, duplicate, rfl, hcheck, h⟩
    · exact quiet_of_reads (reads_checkEventId hfailed)
    refine Quiet.prepend ?_ (reads_checkEventId hcheck)
    have hrest := hremembered.of_append.2
    cases duplicate with
    | some duplicateCase => exact quiet_respond h
    | none =>
      obtain ⟨written, rest, appended, rfl, hwritten, h⟩ := Program.trace_attempt_bind.1 h
      have happend : ∀ call ∈ written, call.1.reads = false := by
        rw [Program.trace_perform.1 hwritten]
        simp [Op.reads]
      refine Quiet.prepend ?_ happend
      have hrest := hrest.of_append.2
      split at h
      · exact quiet_resumed hrest h
      · exact quiet_respond h
      · split_ifs at h
        · rw [(Program.trace_done.1 h).1]
          exact quiet_nil
        · rcases trace_bind_cases h with ⟨⟨error, hfailed⟩, -⟩ | ⟨first, rest, caseId, rfl, hok, h⟩
          · exact quiet_of_reads (reads_availableCaseId hfailed)
          · exact Quiet.prepend (ih hrest.of_append.2 h) (reads_availableCaseId hok)
      · rw [(Program.trace_done.1 h).1]
        exact quiet_nil

theorem Quiet.decides (h : Quiet calls) (hallocating : ∀ earlier read later,
    calls = earlier ++ read :: later → read.1.reads = true → allocating earlier) :
    Decides service event allocating calls := by
  intro earlier caseId snapshot later hcalls _ hfinds
  have hlater := h earlier _ later hcalls rfl hfinds.waiting
  refine ⟨fun _ => by simp [hlater], fun hidle => ?_⟩
  exact absurd (hallocating earlier _ later hcalls rfl) hidle

/-- A case that is read while an id is allocated is not advanced. -/
theorem decides_createCase {result : Except Exn SchemaChangeResponse}
    (hremembered : Remembered calls)
    (h : (service.createCase event dedupKey).Trace calls result) :
    Decides service event (Searches 1) calls := by
  rw [Service.createCase] at h
  rcases trace_bind_cases h with ⟨⟨error, hfailed⟩, -⟩ | ⟨available, rest, caseId, rfl, hok, h⟩
  · exact (Unread.of_reads (reads_availableCaseId hfailed)).decides
  have hquiet : Quiet (available ++ rest) :=
    (quiet_detectionLoop 8 hremembered.of_append.2 h).prepend (reads_availableCaseId hok)
  refine hquiet.decides fun earlier read later hcalls hread => ?_
  rcases append_eq_split hcalls with ⟨after, rfl, -⟩ | ⟨before, rfl, -⟩
  · rw [reads_availableCaseId hok read (by simp)] at hread
    cases hread
  · have hsearched : ∃ call ∈ available ++ before, call.1.looksUp = true := by
      rw [Service.availableCaseId] at hok
      obtain ⟨search, others, _, rfl, hsearch, -⟩ := Program.trace_bind_ok.1 hok
      rw [Program.trace_perform.1 hsearch]
      exact ⟨_, List.mem_cons_self, rfl⟩
    exact List.countP_pos_iff.2 hsearched

/-! ### The programs of an ingest -/

/-- A known case is read once. -/
theorem trace_deduplicatedResponse {result : Except Exn (Option SchemaChangeResponse)}
    (h : (Service.deduplicatedResponse event dedupKey caseId).Trace calls result) :
    (∃ duplicate checks, result = .ok (some duplicate) ∧
      calls = checks ++ [⟨.store (.getCase caseId), .ok duplicate.case⟩] ∧ Unread checks) ∨
      (∀ duplicate, result ≠ .ok (some duplicate)) ∧ Unread calls := by
  rw [Service.deduplicatedResponse] at h
  rcases trace_bind_cases h with ⟨⟨error, hfailed⟩, herror⟩ | ⟨checks, rest, _, rfl, hok, h⟩
  · refine .inr ⟨?_, .of_reads (reads_checkEventId hfailed)⟩
    rintro duplicate rfl
    cases herror
  have hchecks : Unread checks := .of_reads (reads_checkEventId hok)
  obtain ⟨read, rest, answer, rfl, hread, h⟩ := Program.trace_attempt_bind.1 h
  rw [Program.trace_perform.1 hread]
  cases answer with
  | ok snapshot =>
    obtain ⟨rfl, rfl⟩ := Program.trace_done.1 h
    exact .inl ⟨_, checks, rfl, by simp, hchecks⟩
  | error error =>
    have hend : rest = [] ∧ ∀ duplicate, result ≠ .ok (some duplicate) := by
      split at h
      · cases ‹Except.error error = Except.ok _›
      · obtain ⟨rfl, rfl⟩ := Program.trace_done.1 h
        exact ⟨rfl, by simp⟩
      · obtain ⟨rfl, rfl⟩ := Program.trace_done.1 h
        exact ⟨rfl, by simp⟩
    refine .inr ⟨hend.2, fun id snapshot hmem => ?_⟩
    rw [hend.1] at hmem
    simp only [List.append_nil, List.mem_append, List.mem_singleton] at hmem
    rcases hmem with hmem | hmem
    · exact hchecks id snapshot hmem
    · simp at hmem

theorem deduplicatedResponse_unsearched {result : Except Exn (Option SchemaChangeResponse)}
    (h : (Service.deduplicatedResponse event dedupKey caseId).Trace calls result) :
    ∀ call ∈ calls, call.1.looksUp = false ∧ call.1.locks = false := by
  have huses : (Service.deduplicatedResponse event dedupKey caseId).Uses fun op =>
      op.looksUp = false ∧ op.locks = false :=
    uses_deduplicatedResponse (fun _ _ _ => ⟨rfl, rfl⟩) ⟨rfl, rfl⟩
  exact Program.Uses.trace huses h

theorem searches_prepend {bound : Nat} {earlier : List (Exchange Op Op.Reply Exn)}
    (h : ∀ call ∈ calls, call.1.looksUp = false ∧ call.1.locks = false) :
    Searches bound (calls ++ earlier) ↔ Searches bound earlier := by
  have hnone : (calls.countP fun call => call.1.looksUp) = 0 :=
    List.countP_eq_zero.2 fun call hcall => by simp [(h call hcall).1]
  rw [Searches, List.countP_append, hnone, Nat.zero_add]
  rfl

theorem trace_search {result : Except Exn (Option String)}
    (h : (Flow.store (.findCaseForDedup dedupKey)).Trace calls result) :
    Unread calls ∧ (∀ call ∈ calls, call.1.locks = false) ∧ ∀ bound earlier,
      Searches (bound + 1) (calls ++ earlier) ↔ Searches bound earlier := by
  rw [Program.trace_perform.1 h]
  refine ⟨.of_reads (by simp [Op.reads]), by simp [Op.locks], fun bound earlier => ?_⟩
  rw [Searches, List.countP_append, Nat.add_comm bound]
  exact Nat.add_le_add_iff_left

theorem asks_resume {result : Except Exn SchemaChangeResponse}
    (hremembered : Remembered calls)
    (h : (do
      let owned : Bool ← Flow.memory (.owned caseId)
      if !owned then service.advanceSafelyLocked caseId event
      Service.respond caseId true : Flow SchemaChangeResponse).Trace calls result) :
    Asks service caseId event calls := by
  rcases trace_bind_cases h with ⟨⟨error, hquery⟩, -⟩ | ⟨first, rest, owned, rfl, hquery, h⟩
  · exact (hremembered.not_raised hquery).elim
  rw [Program.trace_perform.1 hquery]
  cases owned with
  | false =>
    obtain ⟨marked, advance, after, ended, rfl, hadvance⟩ :=
      trace_resumed hremembered.of_append.2 h
    exact .free ⟨[], marked, advance, after, ended, rfl, hadvance⟩
  | true =>
    have hrespond : (Service.respond caseId true).Uses fun op => op.activates = false :=
      .bind (uses_store rfl) fun _ => uses_pure
    exact .owned (Program.Uses.trace hrespond h)

/-- After the read that follows the last search, no other counts. -/
theorem decides_read {snapshot : CaseSnapshot} {checks rest : List (Exchange Op Op.Reply Exn)}
    (h : snapshot.state.ingestResumable = true → Asks service caseId event rest)
    (hchecks : Unread checks) (hidle : ¬allocating checks)
    (hrest : ∀ call ∈ rest, call.1.looksUp = false) :
    Decides service event allocating
      (checks ++ [⟨.store (.getCase caseId), .ok snapshot⟩] ++ rest) := by
  rw [List.append_assoc, List.singleton_append]
  intro earlier id read later hcalls hstate hfinds
  rcases append_eq_split hcalls with ⟨after, rfl, -⟩ | ⟨before, rfl, hsecond⟩
  · exact absurd (by simp) (hchecks id read)
  cases before with
  | nil =>
    obtain ⟨hread, rfl⟩ := List.cons.inj hsecond
    cases hread
    rw [List.append_nil]
    exact ⟨fun hallocating => absurd hallocating hidle, fun _ => h hstate⟩
  | cons call before =>
    obtain ⟨rfl, rfl⟩ := List.cons.inj hsecond
    obtain ⟨search, hmem, hsearch⟩ := hfinds.first checks _ before rfl rfl
    rw [hrest search (List.mem_append_left _ hmem)] at hsearch
    cases hsearch

theorem respond_unsearched {deduplicated : Bool} :
    (Service.respond caseId deduplicated).Uses fun op => op.looksUp = false :=
  .bind (uses_store rfl) fun _ => uses_pure

theorem resume_unsearched {result : Except Exn SchemaChangeResponse}
    (h : (do
      let owned : Bool ← Flow.memory (.owned caseId)
      if !owned then service.advanceSafelyLocked caseId event
      Service.respond caseId true : Flow SchemaChangeResponse).Trace calls result) :
    ∀ call ∈ calls, call.1.looksUp = false := by
  have hmemory : ∀ op : MemoryOp, (Flow.memory op).Uses fun op => op.looksUp = false :=
    fun op => .call rfl fun answer => .done answer
  have hadvance : ∀ op : Op, op.DuringAdvance caseId → op.looksUp = false := by
    rintro op (hop | ⟨_, _, rfl⟩ | ⟨_, rfl⟩)
    · cases op with
      | store op => cases op <;> first | rfl | cases hop
      | memory op => rfl
      | adapter op => rfl
    · rfl
    · rfl
  have hadvances : (service.advanceSafelyLocked caseId event).Uses fun op => op.looksUp = false :=
    .bind (hmemory _) fun _ => .tryFinally (uses_exceptException
      (advance_uses.mono hadvance) fun error => recordFailure_uses.mono fun op hop =>
        hadvance op (.inl hop)) fun result => hmemory _
  refine Program.Uses.trace (Program.Uses.bind (hmemory _) fun owned => ?_) h
  cases owned with
  | true => exact respond_unsearched
  | false => exact .bind hadvances fun _ => respond_unsearched

theorem decides_ingestLocked {result : Except Exn SchemaChangeResponse}
    (hremembered : Remembered calls)
    (h : (service.ingestLocked event dedupKey).Trace calls result) :
    Decides service event (Searches 2) calls := by
  rw [Service.ingestLocked] at h
  rcases trace_bind_cases h with ⟨⟨error, hfailed⟩, -⟩ | ⟨first, rest, existing, rfl, hfound, h⟩
  · exact (trace_search hfailed).1.decides
  obtain ⟨hunread, -, hsearches⟩ := trace_search hfound
  refine Decides.prepend ?_ (.inr hunread) (hsearches 1)
  have hrest := hremembered.of_append.2
  cases existing with
  | none => exact decides_createCase hrest h
  | some existing =>
    rcases trace_bind_cases h with ⟨⟨error, hfailed⟩, -⟩ | ⟨second, rest, duplicate, rfl, hread, h⟩
    · rcases trace_deduplicatedResponse hfailed with ⟨_, _, hresult, -⟩ | ⟨-, hunread⟩
      · cases hresult
      · exact hunread.decides
    have hafter := hrest.of_append.2
    have hunsearched := deduplicatedResponse_unsearched hread
    rcases trace_deduplicatedResponse hread with
      ⟨duplicate, checks, hresult, rfl, hchecks⟩ | ⟨hnone, hunread⟩
    · cases hresult
      have hidle : ¬Searches 1 checks := by
        rw [← List.append_nil checks, searches_prepend fun call hcall => hunsearched call (by simp [hcall])]
        exact Nat.not_succ_le_zero 0
      dsimp only at h
      split_ifs at h with hstate
      · exact decides_read (fun _ => asks_resume hafter h) hchecks hidle (resume_unsearched h)
      · exact decides_read (fun hresumable => absurd hresumable hstate) hchecks hidle
          (Program.Uses.trace respond_unsearched h)
    · cases duplicate with
      | some duplicate => exact absurd rfl (hnone duplicate)
      | none => exact (decides_createCase hafter h).prepend (.inr hunread) fun earlier =>
          searches_prepend hunsearched

theorem Allocating.prepend {earlier : List (Exchange Op Op.Reply Exn)}
    (h : ∀ call ∈ calls, call.1.locks = false) : Allocating (calls ++ earlier) ↔ Allocating earlier := by
  rw [Allocating, Allocating, List.dropWhile_append_of_pos fun call hcall => by simp [h call hcall]]

theorem not_allocating (h : ∀ call ∈ calls, call.1.locks = false) : ¬Allocating calls := by
  rw [← List.append_nil calls, Allocating.prepend h]
  exact Nat.not_succ_le_zero 1

theorem trace_withWorkerLock {α : Type} {body : Flow α} {result : Except Exn α}
    (hremembered : Remembered calls) (h : (withWorkerLock body).Trace calls result) :
    ∃ inside ended release, calls = ⟨.memory .acquire, .ok ()⟩ :: (inside ++ release) ∧
      body.Trace inside ended ∧ ∀ call ∈ release, call.1 = .memory .release := by
  rw [withWorkerLock] at h
  rcases trace_bind_cases h with ⟨⟨error, hlock⟩, -⟩ | ⟨first, rest, _, rfl, hlock, h⟩
  · exact (hremembered.not_raised hlock).elim
  rw [Program.trace_perform.1 hlock]
  rw [Program.tryFinally, Program.trace_andThen] at h
  obtain ⟨inside, rest, ended, rfl, hinside, h⟩ := h
  obtain ⟨release, rest, final, rfl, hrelease, h⟩ := Program.trace_andThen.1 h
  have hrest : rest = [] := by
    cases final with
    | ok _ => exact (Program.trace_done.1 h).1
    | error error => exact (Program.trace_done.1 h).1
  refine ⟨inside, ended, release, by simp [hrest], hinside, fun call hcall => ?_⟩
  rw [Program.trace_perform.1 hrelease, List.mem_singleton] at hcall
  rw [hcall]

theorem decides_locked {result : Except Exn SchemaChangeResponse} (hremembered : Remembered calls)
    (h : (withWorkerLock (service.ingestLocked event dedupKey)).Trace calls result) :
    Decides service event Allocating calls ∧ ∃ call ∈ calls, call.1.looksUp = true := by
  obtain ⟨inside, ended, release, rfl, hinside, hrelease⟩ := trace_withWorkerLock hremembered h
  constructor
  · have hremembered : Remembered inside := fun op answer hmem =>
      hremembered op answer (List.mem_cons_of_mem _ (List.mem_append_left _ hmem))
    have hdecides : Decides service event (Searches 2) (inside ++ release) := by
      refine (decides_ingestLocked hremembered hinside).append (.of_reads fun call hcall => ?_)
        fun call hcall => ?_
      · rw [hrelease call hcall]
        rfl
      · rw [hrelease call hcall]
        rfl
    have hlock : Unread [⟨.memory .acquire, .ok ()⟩] := .of_reads (by simp [Op.reads])
    exact hdecides.prepend (.inr hlock) fun earlier => Iff.rfl
  · rw [Service.ingestLocked] at hinside
    rcases trace_bind_cases hinside with ⟨⟨error, hfailed⟩, -⟩ | ⟨first, rest, found, rfl, hfound, -⟩
    · rw [Program.trace_perform.1 hfailed]
      exact ⟨⟨.store (.findCaseForDedup dedupKey), .error error⟩, by simp, rfl⟩
    · rw [Program.trace_perform.1 hfound]
      exact ⟨⟨.store (.findCaseForDedup dedupKey), .ok found⟩, by simp, rfl⟩

theorem decides_ingestKeyed {result : Except Exn SchemaChangeResponse}
    (hremembered : Remembered calls)
    (h : (service.ingestKeyed event dedupKey).Trace calls result) :
    Decides service event Allocating calls := by
  rw [Service.ingestKeyed] at h
  rcases trace_bind_cases h with ⟨⟨error, hfailed⟩, -⟩ | ⟨first, rest, existing, rfl, hfound, h⟩
  · exact (trace_search hfailed).1.decides
  obtain ⟨hunread, hunlocked, -⟩ := trace_search hfound
  refine Decides.prepend ?_ (.inr hunread) fun earlier => Allocating.prepend hunlocked
  have hrest := hremembered.of_append.2
  cases existing with
  | none => exact (decides_locked hrest h).1
  | some existing =>
    rcases trace_bind_cases h with ⟨⟨error, hfailed⟩, -⟩ | ⟨second, rest, duplicate, rfl, hread, h⟩
    · rcases trace_deduplicatedResponse hfailed with ⟨_, _, hresult, -⟩ | ⟨-, hunread⟩
      · cases hresult
      · exact hunread.decides
    have hafter := hrest.of_append.2
    have hunlocked : ∀ call ∈ second, call.1.locks = false := fun call hcall =>
      (deduplicatedResponse_unsearched hread call hcall).2
    rcases trace_deduplicatedResponse hread with
      ⟨duplicate, checks, hresult, rfl, hchecks⟩ | ⟨hnone, hunread⟩
    · cases hresult
      have hidle : ¬Allocating checks := not_allocating fun call hcall =>
        hunlocked call (List.mem_append_left _ hcall)
      dsimp only at h
      split_ifs at h with hstate
      · rw [(Program.trace_done.1 h).1]
        refine decides_read (fun hresumable => ?_) hchecks hidle (by simp)
        simp [hresumable] at hstate
      rcases trace_bind_cases h with ⟨⟨error, hquery⟩, -⟩ | ⟨third, rest, owned, rfl, hquery, h⟩
      · exact (hafter.not_raised hquery).elim
      rw [Program.trace_perform.1 hquery] at hafter ⊢
      cases owned with
      | true =>
        rw [(Program.trace_done.1 h).1]
        exact decides_read (fun _ => .owned (by simp)) hchecks hidle (by simp [Op.looksUp])
      | false =>
        obtain ⟨hdecides, search, hsearch, hlooks⟩ := decides_locked hafter.of_append.2 h
        have hquery : Unread [⟨.memory (.owned existing), .ok false⟩] :=
          .of_reads (by simp [Op.reads])
        have hunasked : Decides service event Allocating
            ([⟨.memory (.owned existing), .ok false⟩] ++ rest) :=
          hdecides.prepend (.inr hquery) fun earlier => Allocating.prepend (by simp [Op.locks])
        exact hunasked.prepend (.inl ⟨search, List.mem_cons_of_mem _ hsearch, hlooks⟩)
          fun earlier => Allocating.prepend hunlocked
    · cases duplicate with
      | some duplicate => exact absurd rfl (hnone duplicate)
      | none => exact (decides_locked hafter h).1.prepend (.inr hunread) fun earlier =>
          Allocating.prepend hunlocked

/-- What an ingest does with the case that it finds. -/
theorem decides_ingest {flow : Flow SchemaChangeResponse} (hflow : service.ingest event = flow)
    {result : Except Exn SchemaChangeResponse} (hremembered : Remembered calls)
    (h : flow.Trace calls result) : Decides service event Allocating calls := by
  have hcases := ingest_cases service event
  rw [hflow] at hcases
  rcases hcases with ⟨-, rfl⟩ | ⟨-, rfl⟩
  · exact decides_ingestKeyed hremembered h
  · rw [(Program.trace_done.1 h).1]
    intro earlier caseId snapshot later hcalls
    simp at hcalls

theorem trace_answer {α : Type} {flow : Flow α} {wrap : α → Response} {result : Except Exn Response}
    (h : (do let value ← flow; pure (wrap value) : Flow Response).Trace calls result) :
    ∃ ended : Except Exn α, flow.Trace calls ended ∧ ended.isOk = result.isOk := by
  rcases trace_bind_cases h with ⟨⟨error, hraised⟩, hfailed⟩ | ⟨first, rest, value, rfl, hok, hanswer⟩
  · exact ⟨_, hraised, hfailed.symm⟩
  · obtain ⟨rfl, rfl⟩ := Program.trace_done.1 hanswer
    rw [List.append_nil]
    exact ⟨_, hok, rfl⟩

theorem decides_program {result : Except Exn Response} (hremembered : Remembered calls)
    (h : (service.program (.ingest event)).Trace calls result) :
    Decides service event Allocating calls := by
  rw [Service.program] at h
  generalize hflow : service.ingest event = flow at h
  obtain ⟨ended, htrace, -⟩ := trace_answer h
  exact decides_ingest hflow hremembered htrace

/-! ### Every run -/

variable {environment : Environment} {pool : ServicePool}

theorem remembered_of_executed {actor : Actor Call} {path : List (Performed Op Op.Reply Exn World)}
    (h : ∀ performed ∈ path, ∃ after,
      performed.op.exec environment actor performed.before performed.answer after) :
    Remembered (exchanges path) := by
  intro op answer hmem
  obtain ⟨⟨performed, reply, before⟩, hperformed, heq⟩ := List.mem_map.1 hmem
  obtain ⟨rfl, hanswer⟩ := Sigma.mk.inj heq
  obtain rfl := eq_of_heq hanswer
  obtain ⟨after, hexec⟩ := h _ hperformed
  obtain ⟨value, memory, hvalue, -, -⟩ := hexec
  exact ⟨value, hvalue⟩

theorem CaseState.ingestResumable_iff {state : CaseState} : state.ingestResumable = true ↔
    state ∈ [.detected, .contextGathered, .candidatesReady, .validating, .patchReady] := by
  cases state <;> simp [CaseState.ingestResumable]

theorem Advances.activates (h : Advances service caseId event calls) :
    ∃ call ∈ calls, call.1.activates = true := by
  obtain ⟨before, marked, advance, after, result, rfl, -⟩ := h
  exact ⟨⟨.memory (.activate caseId), marked⟩, by simp, rfl⟩

/-- The answer to the question is what the sets of the process held. -/
theorem Asks.answered {actor : Actor Call} {later : List (Performed Op Op.Reply Exn World)}
    (h : Asks service caseId event (exchanges later))
    (hexecuted : ∀ performed ∈ later, ∃ after,
      performed.op.exec environment actor performed.before performed.answer after) :
    ∃ answer world rest, later = ⟨.memory (.owned caseId), answer, world⟩ :: rest ∧
      (Advances service caseId event (exchanges later) ↔
        ¬(world.Busy actor.call.process caseId ∨ world.SettledBy actor.call.process caseId)) := by
  obtain ⟨owned, calls, hlater, hadvances⟩ : ∃ owned calls,
      exchanges later = ⟨.memory (.owned caseId), .ok owned⟩ :: calls ∧
        (Advances service caseId event (exchanges later) ↔ owned = false) := by
    generalize exchanges later = calls at h
    cases h with
    | @free rest hadvances =>
      have hextended : Advances service caseId event ([⟨.memory (.owned caseId), .ok false⟩] ++ rest) :=
        hadvances.prepend
      exact ⟨_, rest, rfl, iff_of_true hextended rfl⟩
    | owned hidle =>
      refine ⟨_, _, rfl, iff_of_false (fun hadvances => ?_) (by simp)⟩
      obtain ⟨call, hcall, hactivate⟩ := hadvances.activates
      rcases List.mem_cons.1 hcall with rfl | hcall
      · cases hactivate
      · rw [hidle call hcall] at hactivate
        cases hactivate
  obtain ⟨⟨op, answer, world⟩, rest, rfl, hfirst, -⟩ := List.map_eq_cons_iff.1 hlater
  cases hfirst
  obtain ⟨after, reply, memory, hanswer, ⟨hreply, -⟩, -⟩ := hexecuted _ List.mem_cons_self
  cases hanswer
  refine ⟨_, world, rest, rfl, ?_⟩
  rw [hadvances, ← Bool.not_eq_true, hreply, Bool.or_eq_true, decide_eq_true_iff,
    decide_eq_true_iff]
  rfl

theorem resumes_unless {busy settled completed advances allocating : Prop}
    (hidle : allocating → ¬advances) (h : ¬allocating → (advances ↔ ¬(busy ∨ settled))) :
    (¬busy → ¬completed → advances) ↔ ¬((settled ∨ allocating) ∧ ¬completed ∧ ¬busy) := by
  tauto

/-- When an ingest has found its case at a resumable checkpoint: unless it is allocating an id, it
asks whether its process owns the case; and a process that is not advancing the case and has not
completed an advance of it in the current scope lets the call advance it, exactly when no id is being
allocated and the process has not settled a case of that id in an earlier scope. -/
theorem resumes_iff (hreach : service.Reachable environment pool) :
    ∀ finished ∈ pool.finished, ∀ event, finished.actor.call.command = .ingest event →
      ∀ earlier caseId snapshot read later,
        finished.path = earlier ++ ⟨.store (.getCase caseId), .ok snapshot, read⟩ :: later →
        Finds (exchanges earlier) (exchanges later) →
        snapshot.state ∈ [.detected, .contextGathered, .candidatesReady, .validating, .patchReady] →
        ∃ world : World,
          (Allocating (exchanges earlier) → world = read) ∧
          (¬Allocating (exchanges earlier) → ∃ answer rest,
            later = ⟨.memory (.owned caseId), answer, world⟩ :: rest) ∧
          ((¬world.Busy finished.actor.call.process caseId →
              ¬world.Completed finished.actor.call.process caseId →
              Advances service caseId event (exchanges later)) ↔
            ¬((world.SettledBy finished.actor.call.process caseId ∨
                Allocating (exchanges earlier)) ∧
              ¬world.Completed finished.actor.call.process caseId ∧
              ¬world.Busy finished.actor.call.process caseId)) := by
  intro finished hmem event hcommand earlier caseId snapshot read later hpath hfinds hstate
  have hfollows := hreach.traced.finished finished hmem
  have hexecuted : ∀ performed ∈ finished.path, ∃ after, performed.op.exec environment
      finished.actor performed.before performed.answer after := hfollows.executed
  -- the trace of the ingest decides on the read
  have hwhole : (service.program finished.actor.call.command).Trace (exchanges finished.path)
      finished.result := hfollows.done
  rw [hcommand] at hwhole
  have hdecides : Decides service event Allocating (exchanges finished.path) :=
    decides_program (remembered_of_executed hexecuted) hwhole
  have hsplit : exchanges finished.path =
      exchanges earlier ++ ⟨.store (.getCase caseId), .ok snapshot⟩ :: exchanges later := by
    rw [hpath, exchanges, List.map_append, List.map_cons]
    rfl
  obtain ⟨hidle, hasks⟩ := hdecides _ _ _ _ hsplit (CaseState.ingestResumable_iff.2 hstate) hfinds
  by_cases hallocating : Allocating (exchanges earlier)
  · refine ⟨read, fun _ => rfl, fun h => absurd hallocating h, ?_⟩
    have hleft : ¬Advances service caseId event (exchanges later) := by
      intro hadvances
      obtain ⟨call, hcall, hactivate⟩ := hadvances.activates
      rw [hidle hallocating call hcall] at hactivate
      cases hactivate
    exact resumes_unless (fun _ => hleft) fun h => absurd hallocating h
  · obtain ⟨answer, world, rest, hlater, hadvances⟩ := (hasks hallocating).answered
      fun performed hperformed => hexecuted performed (by rw [hpath]; simp [hperformed])
    refine ⟨world, fun h => absurd h hallocating, fun _ => ⟨answer, rest, hlater⟩, ?_⟩
    exact resumes_unless (fun h => absurd h hallocating) fun _ => hadvances

end

/-- The process exits while it raises an incident. -/
def exitingAnswers : AdapterAnswers
  | .raiseIncident .. => .error (.exit "SystemExit")
  | op => workingAnswers op

/-- The case that a call read. -/
def Op.snapshot? : (op : Op) → Except Exn op.Reply → Option CaseSnapshot
  | .store (.getCase _), .ok snapshot => some snapshot
  | _, _ => none

theorem Finds.of_search {before later : List (Exchange Op Op.Reply Exn)}
    {search : Exchange Op Op.Reply Exn} (hsearch : search.1.looksUp = true)
    (hwaiting : ∀ call ∈ before ++ [search], call.1.activates = false)
    (hlast : ∀ call ∈ later, call.1.looksUp = false) : Finds (before ++ [search]) later where
  first := by
    intro earlier read between hcalls hread
    rcases append_eq_split hcalls with ⟨rest, -, rfl⟩ | ⟨earlier, -, hsingle⟩
    · exact ⟨search, List.mem_append_right _ (List.mem_singleton_self _), hsearch⟩
    · cases earlier with
      | nil =>
        obtain ⟨rfl, -⟩ := List.cons.inj hsingle
        cases hop : search.1 with
        | store op => cases op <;> simp_all [Op.reads, Op.looksUp]
        | memory op => simp_all [Op.reads]
        | adapter op => simp_all [Op.reads]
      | cons call earlier => simp at hsingle
  waiting := hwaiting
  last := hlast

/-- A redelivery resumes a case whose advance was cut short. -/
theorem resumes_interrupted : ∃ pool, connectedService.Reachable {} pool ∧
    ∃ finished ∈ pool.finished, ∃ earlier snapshot read later,
      finished.path =
        earlier ++ ⟨.store (.getCase "DR-01234567"), .ok snapshot, read⟩ :: later ∧
      ∃ world : World,
        (Allocating (exchanges earlier) → world = read) ∧
        (¬Allocating (exchanges earlier) → ∃ answer rest,
          later = ⟨.memory (.owned "DR-01234567"), answer, world⟩ :: rest) ∧
        ((¬world.Busy finished.actor.call.process "DR-01234567" →
            ¬world.Completed finished.actor.call.process "DR-01234567" →
            Advances connectedService "DR-01234567" canonicalDrift (exchanges later)) ↔
          ¬((world.SettledBy finished.actor.call.process "DR-01234567" ∨
              Allocating (exchanges earlier)) ∧
            ¬world.Completed finished.actor.call.process "DR-01234567" ∧
            ¬world.Busy finished.actor.call.process "DR-01234567")) := by
  have hsession : (connectedService.session
      [⟨.ingest canonicalDrift, exitingAnswers⟩, openingVisit] 0 {}).any (fun outcome =>
        outcome.1.any fun served => served.call.command = .ingest canonicalDrift ∧
          (served.path[4]?.any fun search => search.op.looksUp) = true ∧
          (served.path[5]?.any fun read => read.op = .store (.getCase "DR-01234567") ∧
            (read.op.snapshot? read.answer).map CaseSnapshot.state = some .detected) = true ∧
          ((served.path.take 5).all fun performed => !performed.op.activates) = true ∧
          ((served.path.drop 6).all fun performed => !performed.op.looksUp) = true) = true := by
    decide +kernel
  obtain ⟨pool, hreach, -, hserved⟩ := Service.session_reaches permits_default hsession
  obtain ⟨call, hcall, hholds⟩ := List.any_eq_true.1 hserved
  obtain ⟨finished, hfinished, rfl⟩ := List.mem_map.1 hcall
  obtain ⟨hcommand, hsearch, hread, hwaiting, hlast⟩ := of_decide_eq_true hholds
  obtain ⟨search, hat, hsearch⟩ := (Option.any_eq_true _ _).1 hsearch
  obtain ⟨⟨op, answer, read⟩, hread, hfound⟩ := (Option.any_eq_true _ _).1 hread
  obtain ⟨rfl, hstate⟩ := of_decide_eq_true hfound
  cases answer with
  | error error => cases hstate
  | ok snapshot =>
  have hpath : finished.path = finished.path.take 4 ++ [search] ++
      ⟨.store (.getCase "DR-01234567"), .ok snapshot, read⟩ :: finished.path.drop 6 := by
    calc finished.path = finished.path.take 5 ++ finished.path.drop 5 :=
        (List.take_append_drop 5 _).symm
      _ = _ := by
        rw [List.take_add_one, hat, List.drop_eq_getElem?_toList_append, hread]
        rfl
  have hearlier : exchanges (finished.path.take 4 ++ [search]) =
      exchanges (finished.path.take 4) ++ [⟨search.op, search.answer⟩] := by simp [exchanges]
  refine ⟨pool, hreach, finished, hfinished, _, snapshot, read, _, hpath, ?_⟩
  refine resumes_iff hreach finished hfinished _ hcommand _ _ _ _ _ hpath ?_ ?_
  · rw [hearlier]
    refine .of_search hsearch (fun call hcall => ?_) fun call hcall => ?_
    · rw [← hearlier] at hcall
      obtain ⟨performed, hperformed, rfl⟩ := List.mem_map.1 hcall
      have hmem : performed ∈ finished.path.take 5 := by
        rw [List.take_add_one, hat]
        exact hperformed
      simpa using List.all_eq_true.1 hwaiting performed hmem
    · obtain ⟨performed, hperformed, rfl⟩ := List.mem_map.1 hcall
      simpa using List.all_eq_true.1 hlast performed hperformed
  · have hdetected : snapshot.state = .detected := Option.some.inj hstate
    simp [hdetected]

/-- After a reset, a case of an id that the process has settled before is left as it is. -/
theorem resumes_stale : ∃ pool, connectedService.Reachable {} pool ∧
    ∃ finished ∈ pool.finished, finished.actor.call = ⟨0, .ingest canonicalDrift⟩ ∧
      ∃ earlier answer world,
        finished.path = earlier ++ [⟨.memory (.owned "DR-01234567"), answer, world⟩] ∧
        ¬world.Busy 0 "DR-01234567" ∧ ¬world.Completed 0 "DR-01234567" ∧
        (world.store.snapshot? "DR-01234567").map CaseSnapshot.state = some .detected := by
  have hsession : (connectedService.session [openingVisit, ⟨.reset "demo", workingAnswers⟩,
      ⟨.ingest canonicalDrift, exitingAnswers⟩, openingVisit] 0 {}).any (fun outcome =>
        outcome.1.any fun served => served.call = ⟨0, .ingest canonicalDrift⟩ ∧
          served.path.getLast?.any fun performed =>
            performed.op = .memory (.owned "DR-01234567") ∧
            "DR-01234567" ∉ (performed.before.memory 0).activeCases ∧
            (∀ effect ∈ performed.before.history,
              ¬(effect.scope = performed.before.store.currentScope ∧
                effect.op = .memory (.deactivate "DR-01234567" true))) ∧
            (performed.before.store.snapshot? "DR-01234567").map CaseSnapshot.state =
              some .detected) = true := by decide +kernel
  obtain ⟨pool, hreach, -, hserved⟩ := Service.session_reaches permits_default hsession
  obtain ⟨call, hcall, hholds⟩ := List.any_eq_true.1 hserved
  obtain ⟨finished, hfinished, rfl⟩ := List.mem_map.1 hcall
  obtain ⟨hcommand, hlast⟩ := of_decide_eq_true hholds
  obtain ⟨⟨op, answer, world⟩, hfirst, hworld⟩ := (Option.any_eq_true _ _).1 hlast
  obtain ⟨rfl, hidle, hincomplete, hstate⟩ := of_decide_eq_true hworld
  refine ⟨pool, hreach, finished, hfinished, hcommand, _, answer, world,
    (List.dropLast_append_getLast? _ hfirst).symm, hidle, ?_, hstate⟩
  rintro ⟨-, effect, heffect, -, hscope, hop⟩
  exact hincomplete effect heffect ⟨hscope, hop⟩

end DataRescue
