import DataRescue.Api.StoreRuns

/-!
# The event stream of a case

`case_events` of `apps/api/main.py`: a connection asks the store again and again for the events after its
cursor and sends them, and a client that lost a connection opens the same URL again with the id of the last
event it received. Whatever happens in between, one connection delivers the events after its start once and
in order, and so do all of them together as long as `after` is not set (`stream_exactly_once`): where it is
set, it goes before the header, and a reconnection starts over.
-/

namespace DataRescue

open Python

/-! ### The start of a connection -/

def sqliteMaxInteger : Nat := 2 ^ 63 - 1

/-- An `HTTPException`. -/
structure HTTPException where
  statusCode : Nat
  detail : String
  deriving DecidableEq

/-- Digits in groups, as `int` reads them. -/
def digitGroups (text : List Char) : Option Nat :=
  let digits := text.filter (· ≠ '_')
  if (text.splitOn '_').all fun digits => digits ≠ [] && digits.all Char.isDigit then
    if digits.length ≤ maxIntDigits then some (Nat.ofDigitChars 10 digits 0) else none
  else none

/-- `int(text, 10)` of a stripped header: its characters are below 256, where the digits are those of
ASCII. -/
def parseInt : List Char → Option Int
  | '+' :: text => (digitGroups text).map Int.ofNat
  | '-' :: text => (digitGroups text).map fun value => -(value : Int)
  | text => (digitGroups text).map Int.ofNat

def invalidCursor : HTTPException := ⟨400, "Invalid Last-Event-ID cursor"⟩

/-- `_sse_cursor` -/
def sseCursor (after : Nat) (headerCursor : Option String) : Except HTTPException Nat :=
  if sqliteMaxInteger < after then .error ⟨400, "SSE cursor exceeds SQLite integer range"⟩
  else if after ≠ 0 then .ok after
  else match headerCursor with
    | none => .ok 0
    | some header =>
      if strip header = "" then .ok 0
      else match parseInt (strip header).toList with
        | none => .error invalidCursor
        | some cursor =>
          if 0 ≤ cursor ∧ cursor ≤ sqliteMaxInteger then .ok cursor.toNat else .error invalidCursor

/-! ### Connections -/

def maxFollowTicks : Nat := 4800

/-- The generator `stream` between two of its steps: at the top of its loop, or in a batch. -/
structure Generator where
  cursor : Nat
  idleTicks : Nat := 0
  batch : Option (List CaseEvent) := none

/-- A connection: the generator until it returns, and the ids of the events under way to the client. -/
structure Connection where
  generator : Option Generator
  transit : List Nat := []

/-- The server's store and connection, and the ids the client received, over earlier connections and over
the present or last one. -/
structure Feed where
  store : Store
  connection : Option Connection := none
  earlier : List Nat := []
  current : List Nat := []

/-- What can happen: a call of any process, and the steps of the client and of the server. A keep-alive is a
comment, which a client passes over. -/
inductive FeedStep
  | call (call : StoreCall)
  | connect
  | poll
  | send
  | pause (disconnected : Bool)
  | receive
  | disconnect

namespace Feed

/-- All ids received, in the order of their receipt. -/
def received (feed : Feed) : List Nat := feed.earlier ++ feed.current

/-- The `Last-Event-ID` of a reconnection. -/
def lastEventId (feed : Feed) : Option String := feed.received.getLast?.map toString

def withGenerator (feed : Feed) (step : Generator → Option Generator) : Feed :=
  match feed.connection with
  | some { generator := some generator, transit } =>
    { feed with connection := some { generator := step generator, transit } }
  | _ => feed

/-- One step of the stream of a case at a URL with `after` and `follow`. A step that cannot be taken leaves
everything as it is. -/
def step (caseId : String) (after : Nat) (follow : Bool) (feed : Feed) : FeedStep → Feed
  | .call call => { feed with store := (call.exec feed.store).2 }
  | .connect =>
    match feed.connection with
    | some _ => feed
    | none =>
      match feed.store.getCase caseId with
      | .error _ => feed
      | .ok _ =>
        match sseCursor after feed.lastEventId with
        | .error _ => feed
        | .ok start =>
          { feed with
            connection := some { generator := some { cursor := start } }
            earlier := feed.received
            current := [] }
  | .poll => feed.withGenerator fun generator =>
    match generator.batch with
    | none => some { generator with batch := some (feed.store.eventsForCase caseId generator.cursor) }
    | some _ => some generator
  | .send =>
    match feed.connection with
    | some { generator := some { cursor := _, idleTicks, batch := some (event :: rest) }, transit } =>
      { feed with
        connection := some {
          generator := some { cursor := event.sequence, idleTicks, batch := some rest }
          transit := transit ++ [event.sequence] } }
    | _ => feed
  | .pause disconnected => feed.withGenerator fun generator =>
    match generator.batch with
    | some [] =>
      if !follow || disconnected || maxFollowTicks ≤ generator.idleTicks + 1 then none
      else some { generator with idleTicks := generator.idleTicks + 1, batch := none }
    | _ => some generator
  | .receive =>
    match feed.connection with
    | some { generator, transit := id :: transit } =>
      { feed with connection := some { generator, transit }, current := feed.current ++ [id] }
    | _ => feed
  | .disconnect => { feed with connection := none }

def run (caseId : String) (after : Nat) (follow : Bool) (feed : Feed) (steps : List FeedStep) : Feed :=
  steps.foldl (step caseId after follow) feed

end Feed

/-! ### The header of a reconnection -/

theorem strip_plain {text : List Char} (h : ∀ c ∈ text, isSpace c = false) :
    strip (String.ofList text) = String.ofList text := by
  have hkeep : ∀ letters : List Char, (∀ c ∈ letters, isSpace c = false) →
      letters.dropWhile isSpace = letters := by
    intro letters hletters
    cases letters with
    | nil => rfl
    | cons c letters => rw [List.dropWhile_cons, if_neg (by simp [hletters c List.mem_cons_self])]
  rw [strip, String.toList_ofList, stripWhere, hkeep text h,
    hkeep text.reverse (fun c hc => h c (List.mem_reverse.1 hc)), List.reverse_reverse]

theorem digitGroups_toDigits (n : Nat) : digitGroups (Nat.toDigits 10 n) =
    if (Nat.toDigits 10 n).length ≤ maxIntDigits then some n else none := by
  have hdigit : ∀ c ∈ Nat.toDigits 10 n, c.isDigit = true :=
    fun c hc => Nat.isDigit_of_mem_toDigits (by decide) (by decide) hc
  have hno : ∀ c ∈ Nat.toDigits 10 n, c ≠ '_' := by
    rintro c hc rfl
    exact absurd (hdigit _ hc) (by decide)
  have hsplit : (Nat.toDigits 10 n).splitOn '_' = [Nat.toDigits 10 n] := by
    rw [List.splitOn_eq_splitOnP]
    exact List.splitOnP_eq_singleton fun c hc => by simpa using hno c hc
  have hfilter : (Nat.toDigits 10 n).filter (· ≠ '_') = Nat.toDigits 10 n :=
    List.filter_eq_self.2 fun c hc => by simpa using hno c hc
  rw [digitGroups, hsplit, hfilter, Nat.ofDigitChars_ten_toDigits, if_pos]
  simpa [Nat.toDigits_ne_nil] using hdigit

theorem parseInt_toString {n : Nat} {value : Int} (h : parseInt (toString n).toList = some value) :
    value = n := by
  have hdigits : (toString n).toList = Nat.toDigits 10 n := by
    rw [Nat.toString_eq_ofList_toDigits, String.toList_ofList]
  have hsign : ∀ c ∈ Nat.toDigits 10 n, c ≠ '+' ∧ c ≠ '-' := by
    intro c hc
    have hdigit := Nat.isDigit_of_mem_toDigits (by decide) (by decide) hc
    constructor
    · rintro rfl
      exact absurd hdigit (by decide)
    · rintro rfl
      exact absurd hdigit (by decide)
  rw [hdigits, parseInt, digitGroups_toDigits] at h
  · split_ifs at h
    · exact (Option.some.inj h).symm
    · cases h
  · intro text htext
    exact (hsign '+' (htext ▸ List.mem_cons_self)).1 rfl
  · intro text htext
    exact (hsign '-' (htext ▸ List.mem_cons_self)).2 rfl

theorem sseCursor_header {n start : Nat} (h : sseCursor 0 (some (toString n)) = .ok start) :
    start = n := by
  have hspace : ∀ c ∈ Nat.toDigits 10 n, isSpace c = false := by
    intro c hc
    have hdigit := Nat.isDigit_of_mem_toDigits (by decide) (by decide) hc
    simp only [Char.isDigit, Bool.and_eq_true, decide_eq_true_eq, ge_iff_le,
      UInt32.le_iff_toNat_le] at hdigit
    have hlow : 48 ≤ c.toNat := hdigit.1
    have hhigh : c.toNat ≤ 57 := hdigit.2
    simp only [isSpace, whitespace, List.contains_eq_mem, List.mem_cons, List.not_mem_nil, or_false,
      decide_eq_false_iff_not]
    omega
  have hstrip : strip (toString n) = toString n := by
    rw [Nat.toString_eq_ofList_toDigits]
    exact strip_plain hspace
  have hne : toString n ≠ "" := by
    intro hempty
    have hlist := congrArg String.toList hempty
    rw [Nat.toString_eq_ofList_toDigits, String.toList_ofList] at hlist
    exact Nat.toDigits_ne_nil hlist
  rw [sseCursor, if_neg (by decide), if_neg (by decide)] at h
  simp only [hstrip, if_neg hne] at h
  cases hparsed : parseInt (toString n).toList with
  | none =>
    rw [hparsed] at h
    cases h
  | some cursor =>
    obtain rfl := parseInt_toString hparsed
    simp only [hparsed] at h
    split at h
    · simpa using (Except.ok.inj h).symm
    · cases h

/-! ### Events after a cursor -/

namespace Store

variable {store : Store} {caseId : String} {after cursor : Nat}

/-- The ids of the events of a case after a cursor. -/
def idsAfter (store : Store) (caseId : String) (after : Nat) : List Nat :=
  (store.eventsForCase caseId after).map CaseEvent.sequence

theorem idsAfter_eq (store : Store) (caseId : String) (after : Nat) :
    store.idsAfter caseId after = (store.idsAfter caseId 0).filter (after < ·) := by
  change _ = ((store.log caseId).map CaseEvent.sequence).filter (after < ·)
  rw [log_eq, idsAfter, eventsForCase, List.map_map, List.map_map, List.filter_map]
  rfl

theorem idsAfter_sorted (store : Store) (caseId : String) (after : Nat) :
    (store.idsAfter caseId after).Pairwise (· < ·) := by
  have hrows : (store.rows.map Row.sequence).Pairwise (· < ·) := by
    rw [store.sequences]
    exact List.pairwise_lt_range'
  refine hrows.sublist ?_
  rw [idsAfter, eventsForCase, List.map_map]
  exact (List.filter_sublist.trans List.filter_sublist).map _

theorem lt_of_mem_idsAfter {id : Nat} (h : id ∈ store.idsAfter caseId after) : after < id := by
  rw [idsAfter_eq, List.mem_filter] at h
  exact of_decide_eq_true h.2

theorem idsAfter_filter (h : after ≤ cursor) :
    store.idsAfter caseId cursor = (store.idsAfter caseId after).filter (cursor < ·) := by
  rw [idsAfter_eq store caseId cursor, idsAfter_eq store caseId after, List.filter_filter]
  refine List.filter_congr fun id _ => ?_
  have hlt : cursor < id → after < id := fun hid => Nat.lt_of_le_of_lt h hid
  by_cases hid : cursor < id <;> simp [hid, hlt]

theorem idsAfter_exec {call : StoreCall} (h : ∀ fresh now reason, call ≠ .reset fresh now reason) :
    store.idsAfter caseId after <+: (call.exec store).2.idsAfter caseId after := by
  have hlog : store.log caseId <+: (call.exec store).2.log caseId := by
    cases call with
    | append fresh now other state body dedupKey eventId htype =>
      cases happend : store.append fresh now other state body dedupKey eventId with
      | error error =>
        simp only [StoreCall.exec, happend]
        exact List.prefix_refl _
      | ok result =>
        simp only [StoreCall.exec, happend]
        rw [(append_ok.1 happend).2.1.log htype]
        exact List.prefix_append _ _
    | reset fresh now reason => exact absurd rfl (h fresh now reason)
    | _ => exact List.prefix_refl _
  rw [idsAfter_eq, idsAfter_eq _ _ after]
  exact (hlog.map _).filter _

end Store

theorem append_filter_last {ids lead : List Nat} {start : Nat} (hsorted : ids.Pairwise (· < ·))
    (hstart : ∀ id ∈ ids, start < id) (hlead : lead <+: ids) :
    lead ++ ids.filter (lead.getLast?.getD start < ·) = ids := by
  obtain ⟨rest, rfl⟩ := hlead
  rcases List.eq_nil_or_concat' lead with rfl | ⟨before, last, rfl⟩
  · exact List.filter_eq_self.2 fun id hid => decide_eq_true (hstart id hid)
  · rw [List.getLast?_concat, Option.getD_some, List.filter_append]
    obtain ⟨hbefore, -, hrest⟩ := List.pairwise_append.1 hsorted
    have hnone : (before ++ [last]).filter (last < ·) = [] := by
      rw [List.filter_eq_nil_iff]
      intro id hid
      have hle : id ≤ last := by
        rcases List.mem_append.1 hid with hid | hid
        · exact Nat.le_of_lt ((List.pairwise_append.1 hbefore).2.2 id hid last (by simp))
        · exact Nat.le_of_eq (List.mem_singleton.1 hid)
      simpa using hle
    have hall : rest.filter (last < ·) = rest :=
      List.filter_eq_self.2 fun id hid => decide_eq_true (hrest last (by simp) id hid)
    rw [hnone, hall, List.nil_append]

/-! ### What is delivered -/

/-- Strictly increasing, and a beginning of the list: nothing is lost or doubled. -/
structure ExactlyOnce (ids all : List Nat) : Prop where
  increasing : ids.Pairwise (· < ·)
  nodup : ids.Nodup
  leading : ids <+: all

theorem ExactlyOnce.of_leading {ids all : List Nat} (h : ids <+: all) (hall : all.Pairwise (· < ·)) :
    ExactlyOnce ids all where
  increasing := hall.sublist h.sublist
  nodup := (hall.sublist h.sublist).imp Nat.ne_of_lt
  leading := h

/-- No reset. -/
def FeedStep.Keeps : FeedStep → Prop
  | .call made => ∀ fresh now reason, made ≠ .reset fresh now reason
  | _ => True

/-- A step of the delivery of a batch, or a call between two of them. -/
def FeedStep.Delivers : FeedStep → Prop
  | .call made => ∀ fresh now reason, made ≠ .reset fresh now reason
  | .send | .receive => True
  | _ => False

def Generator.pending (generator : Generator) : List Nat :=
  (generator.batch.getD []).map CaseEvent.sequence

def Connection.pending (connection : Connection) : List Nat :=
  match connection.generator with
  | some generator => generator.pending
  | none => []

namespace Feed

variable {caseId : String} {after : Nat} {follow : Bool} {feed : Feed}

/-- The ids received from the start that a new connection has: without `after`, all of them. -/
def counted (after : Nat) (feed : Feed) : List Nat :=
  if after = 0 then feed.received else feed.current

/-- The ids under way to the client. -/
def transit (feed : Feed) : List Nat :=
  match feed.connection with
  | some connection => connection.transit
  | none => []

/-- The ids of the batch that are still to be sent. -/
def pending (feed : Feed) : List Nat :=
  match feed.connection with
  | some connection => connection.pending
  | none => []

def promised (after : Nat) (feed : Feed) : List Nat :=
  feed.counted after ++ feed.transit ++ feed.pending

/-- The connection goes through the events of the case in order, and its cursor is where it is. -/
structure Faithful (caseId : String) (after : Nat) (feed : Feed) : Prop where
  promised : feed.promised after <+: feed.store.idsAfter caseId after
  cursor : ∀ connection generator, feed.connection = some connection →
    connection.generator = some generator →
    generator.cursor = (feed.counted after ++ connection.transit).getLast?.getD after

/-- The generator is at the top of its loop. -/
def AtTop (feed : Feed) : Prop :=
  ∃ generator transit, feed.connection = some { generator := some generator, transit } ∧
    generator.batch = none

/-- Everything sent is received, and nothing of the batch is left to send. -/
def Settled (feed : Feed) : Prop := feed.transit = [] ∧ feed.pending = []

theorem Faithful.counted_le (h : feed.Faithful caseId after) :
    feed.counted after ++ feed.transit <+: feed.store.idsAfter caseId after :=
  (List.prefix_append _ _).trans h.promised

theorem Faithful.polled (h : feed.Faithful caseId after) {generator : Generator} {transit : List Nat}
    (hconnection : feed.connection = some { generator := some generator, transit }) :
    feed.counted after ++ transit ++ feed.store.idsAfter caseId generator.cursor =
      feed.store.idsAfter caseId after := by
  have hlead := h.counted_le
  have htransit : feed.transit = transit := by rw [Feed.transit, hconnection]
  rw [htransit] at hlead
  have hcursor := h.cursor _ generator hconnection rfl
  have hle : after ≤ generator.cursor := by
    rw [hcursor]
    cases hlast : (feed.counted after ++ transit).getLast? with
    | none => exact Nat.le_refl _
    | some id =>
      have hmem := hlead.subset (List.mem_of_getLast? hlast)
      exact Nat.le_of_lt (Store.lt_of_mem_idsAfter hmem)
  rw [Store.idsAfter_filter hle, hcursor]
  exact append_filter_last (Store.idsAfter_sorted _ _ _) (fun id hid => Store.lt_of_mem_idsAfter hid)
    hlead

theorem Faithful.call (h : feed.Faithful caseId after) {call : StoreCall}
    (hcall : ∀ fresh now reason, call ≠ .reset fresh now reason) :
    (feed.step caseId after follow (.call call)).Faithful caseId after :=
  ⟨h.promised.trans (Store.idsAfter_exec hcall), h.cursor⟩

theorem start_eq {start : Nat} (h : sseCursor after feed.lastEventId = .ok start) :
    start = if after = 0 then feed.received.getLast?.getD 0 else after := by
  by_cases hafter : after = 0
  · subst hafter
    rw [if_pos rfl]
    unfold lastEventId at h
    cases hlast : feed.received.getLast? with
    | none =>
      rw [hlast] at h
      exact (Except.ok.inj h).symm
    | some id =>
      rw [hlast] at h
      exact sseCursor_header h
  · rw [if_neg hafter]
    unfold sseCursor at h
    by_cases hmax : sqliteMaxInteger < after
    · rw [if_pos hmax] at h
      cases h
    · rw [if_neg hmax, if_pos hafter] at h
      exact (Except.ok.inj h).symm

theorem Faithful.connect (h : feed.Faithful caseId after) :
    (feed.step caseId after follow .connect).Faithful caseId after := by
  simp only [step]
  split
  · exact h
  next hnone =>
    split
    · exact h
    next =>
      split
      · exact h
      next start hstart =>
        have hcounted := (List.prefix_append _ _).trans h.counted_le
        have hstart := start_eq hstart
        constructor
        · change Feed.counted after _ ++ [] ++ [] <+: _
          rw [List.append_nil, List.append_nil]
          by_cases hafter : after = 0
          · rw [Feed.counted, if_pos hafter] at hcounted
            simpa [Feed.counted, received, hafter] using hcounted
          · simp [Feed.counted, hafter]
        · intro connection generator hconnection hgenerator
          obtain rfl := Option.some.inj hconnection
          obtain rfl := Option.some.inj hgenerator
          by_cases hafter : after = 0
          · simpa [Feed.counted, received, hafter] using hstart
          · simpa [Feed.counted, hafter] using hstart

theorem Faithful.poll (h : feed.Faithful caseId after) :
    (feed.step caseId after follow .poll).Faithful caseId after := by
  simp only [step, withGenerator]
  split
  next generator transit hconnection =>
    have hcursor := h.cursor _ generator hconnection rfl
    split
    next hbatch =>
      refine ⟨List.prefix_rfl.trans (h.polled hconnection ▸ List.prefix_rfl), ?_⟩
      rintro connection other hother hgenerator
      obtain rfl := Option.some.inj hother
      obtain rfl := Option.some.inj hgenerator
      exact hcursor
    next events hbatch =>
      rw [← hconnection]
      exact h
  next => exact h

theorem Faithful.pause (h : feed.Faithful caseId after) {disconnected : Bool} :
    (feed.step caseId after follow (.pause disconnected)).Faithful caseId after := by
  simp only [step, withGenerator]
  split
  next generator transit hconnection =>
    have hcursor := h.cursor _ generator hconnection rfl
    have hcounted := h.counted_le
    rw [Feed.transit, hconnection] at hcounted
    split
    next hbatch =>
      split
      · refine ⟨?_, ?_⟩
        · change feed.counted after ++ transit ++ [] <+: _
          rwa [List.append_nil]
        · rintro connection other hother hgenerator
          obtain rfl := Option.some.inj hother
          cases hgenerator
      · refine ⟨?_, ?_⟩
        · change feed.counted after ++ transit ++ [] <+: _
          rwa [List.append_nil]
        · rintro connection other hother hgenerator
          obtain rfl := Option.some.inj hother
          obtain rfl := Option.some.inj hgenerator
          exact hcursor
    next hbatch =>
      rw [← hconnection]
      exact h
  next => exact h

theorem send_eq {cursor idleTicks : Nat} {event : CaseEvent} {rest : List CaseEvent} {transit : List Nat}
    (h : feed.connection = some
      { generator := some { cursor, idleTicks, batch := some (event :: rest) }, transit }) :
    feed.step caseId after follow .send =
      { feed with
        connection := some {
          generator := some { cursor := event.sequence, idleTicks, batch := some rest }
          transit := transit ++ [event.sequence] } } := by
  simp only [step, h]

theorem Faithful.send (h : feed.Faithful caseId after) :
    (feed.step caseId after follow .send).Faithful caseId after ∧
      (feed.step caseId after follow .send).promised after = feed.promised after := by
  simp only [step]
  split
  next cursor idleTicks event rest transit hconnection =>
    have hsame : feed.promised after =
        feed.counted after ++ (transit ++ [event.sequence]) ++ rest.map CaseEvent.sequence := by
      simp [Feed.promised, Feed.transit, Feed.pending, Connection.pending, Generator.pending,
        hconnection]
    refine ⟨⟨?_, ?_⟩, hsame.symm⟩
    · change feed.counted after ++ (transit ++ [event.sequence]) ++ rest.map CaseEvent.sequence <+: _
      exact hsame ▸ h.promised
    · rintro connection other hother hgenerator
      obtain rfl := Option.some.inj hother
      obtain rfl := Option.some.inj hgenerator
      change event.sequence = (feed.counted after ++ (transit ++ [event.sequence])).getLast?.getD after
      rw [← List.append_assoc, List.getLast?_concat]
      rfl
  next => exact ⟨h, rfl⟩

theorem counted_receive (after : Nat) (feed : Feed) (connection : Option Connection) (id : Nat) :
    counted after { feed with connection, current := feed.current ++ [id] } =
      feed.counted after ++ [id] := by
  by_cases hafter : after = 0
  · simp [counted, received, hafter]
  · simp [counted, hafter]

theorem Faithful.receive (h : feed.Faithful caseId after) :
    (feed.step caseId after follow .receive).Faithful caseId after ∧
      (feed.step caseId after follow .receive).promised after = feed.promised after := by
  simp only [step]
  split
  next generator id transit hconnection =>
    have hmoved : feed.counted after ++ [id] ++ transit = feed.counted after ++ (id :: transit) := by
      rw [List.append_assoc, List.singleton_append]
    have hsame : Feed.promised after
        { feed with connection := some { generator, transit }, current := feed.current ++ [id] } =
          feed.promised after := by
      have htransit : feed.transit = id :: transit := by rw [Feed.transit, hconnection]
      have hpending : feed.pending = Connection.pending { generator, transit } := by
        rw [Feed.pending, hconnection]
        rfl
      change Feed.counted after _ ++ transit ++ Connection.pending { generator, transit } = _
      rw [counted_receive, hmoved, Feed.promised, htransit, hpending]
    refine ⟨⟨?_, ?_⟩, hsame⟩
    · rw [hsame]
      exact h.promised
    · rintro connection other hother hgenerator
      obtain rfl := Option.some.inj hother
      rw [counted_receive, hmoved]
      exact h.cursor _ other hconnection hgenerator
  next => exact ⟨h, rfl⟩

theorem Faithful.disconnect (h : feed.Faithful caseId after) :
    (feed.step caseId after follow .disconnect).Faithful caseId after := by
  refine ⟨?_, fun _ _ hconnection _ => nomatch hconnection⟩
  change feed.counted after ++ [] ++ [] <+: _
  rw [List.append_nil, List.append_nil]
  exact (List.prefix_append _ _).trans h.counted_le

theorem Faithful.step (h : feed.Faithful caseId after) {made : FeedStep} (hmade : made.Keeps) :
    (feed.step caseId after follow made).Faithful caseId after := by
  cases made with
  | call made => exact h.call hmade
  | connect => exact h.connect
  | poll => exact h.poll
  | send => exact h.send.1
  | pause disconnected => exact h.pause
  | receive => exact h.receive.1
  | disconnect => exact h.disconnect

theorem Faithful.run {steps : List FeedStep} (h : feed.Faithful caseId after)
    (hsteps : ∀ made ∈ steps, made.Keeps) :
    (feed.run caseId after follow steps).Faithful caseId after := by
  induction steps generalizing feed with
  | nil => exact h
  | cons made steps ih =>
    exact ih (h.step (hsteps made List.mem_cons_self)) fun other hother =>
      hsteps other (List.mem_cons_of_mem _ hother)

theorem faithful_initial (store : Store) (caseId : String) (after : Nat) :
    Faithful caseId after { store } := by
  refine ⟨?_, fun _ _ hconnection _ => nomatch hconnection⟩
  by_cases hafter : after = 0 <;>
    simp [Feed.promised, Feed.transit, Feed.pending, Feed.counted, received, hafter]

theorem Faithful.deliveries {steps : List FeedStep} (h : feed.Faithful caseId after)
    (hsteps : ∀ made ∈ steps, made.Delivers) :
    (feed.run caseId after follow steps).promised after = feed.promised after := by
  induction steps generalizing feed with
  | nil => rfl
  | cons made steps ih =>
    have hmade := hsteps made List.mem_cons_self
    have hrest := fun other hother => hsteps other (List.mem_cons_of_mem made hother)
    have hkeeps : made.Keeps := by
      cases made with
      | call made => exact hmade
      | send | receive => trivial
      | connect | poll | pause | disconnect => exact hmade.elim
    refine (ih (h.step hkeeps) hrest).trans ?_
    cases made with
    | call made => rfl
    | send => exact h.send.2
    | receive => exact h.receive.2
    | connect | poll | pause | disconnect => exact hmade.elim

theorem transit_cons {id : Nat} {rest : List Nat} (h : feed.transit = id :: rest) :
    ∃ generator, feed.connection = some { generator, transit := id :: rest } := by
  unfold Feed.transit at h
  split at h
  next connection hconnection => exact ⟨connection.generator, h ▸ hconnection⟩
  next => cases h

theorem pending_cons {id : Nat} {rest : List Nat} (h : feed.pending = id :: rest) :
    ∃ cursor idleTicks event events transit, feed.connection = some
      { generator := some { cursor, idleTicks, batch := some (event :: events) }, transit } := by
  unfold Feed.pending at h
  split at h
  next connection hconnection =>
    obtain ⟨generator, transit⟩ := connection
    cases generator with
    | none => cases h
    | some generator =>
      obtain ⟨cursor, idleTicks, batch⟩ := generator
      cases batch with
      | none => cases h
      | some events =>
        cases events with
        | nil => cases h
        | cons event events => exact ⟨cursor, idleTicks, event, events, transit, hconnection⟩
  next => cases h

theorem settles (caseId : String) (after : Nat) (follow : Bool) (feed : Feed) :
    ∃ steps : List FeedStep, (∀ made ∈ steps, made = .send ∨ made = .receive) ∧
      (feed.run caseId after follow steps).Settled := by
  induction hn : 2 * feed.pending.length + feed.transit.length using Nat.strong_induction_on
    generalizing feed with
  | _ n ih =>
    have hafter : ∀ made : FeedStep, (made = .send ∨ made = .receive) →
        2 * (feed.step caseId after follow made).pending.length +
          (feed.step caseId after follow made).transit.length < n →
        ∃ steps : List FeedStep, (∀ made ∈ steps, made = .send ∨ made = .receive) ∧
          (feed.run caseId after follow steps).Settled := by
      intro made hmade hless
      obtain ⟨steps, hsteps, hsettled⟩ := ih _ hless _ rfl
      refine ⟨made :: steps, fun other hother => ?_, hsettled⟩
      rcases List.mem_cons.1 hother with rfl | hother
      · exact hmade
      · exact hsteps other hother
    cases hpending : feed.pending with
    | cons id rest =>
      refine hafter .send (.inl rfl) ?_
      obtain ⟨cursor, idleTicks, event, events, transit, hconnection⟩ := pending_cons hpending
      have htransit : feed.transit = transit := by rw [Feed.transit, hconnection]
      have hrest : feed.pending = event.sequence :: events.map CaseEvent.sequence := by
        rw [Feed.pending, hconnection]
        rfl
      rw [hrest, htransit, List.length_cons] at hn
      rw [send_eq hconnection]
      change 2 * (events.map CaseEvent.sequence).length + (transit ++ [event.sequence]).length < n
      rw [List.length_append, List.length_singleton]
      omega
    | nil =>
      cases htransit : feed.transit with
      | cons id rest =>
        refine hafter .receive (.inr rfl) ?_
        obtain ⟨generator, hconnection⟩ := transit_cons htransit
        have hsame : feed.pending = Connection.pending { generator, transit := rest } := by
          rw [Feed.pending, hconnection]
          rfl
        rw [htransit, hsame, List.length_cons] at hn
        simp only [step, hconnection]
        change 2 * (Connection.pending { generator, transit := rest }).length + rest.length < n
        omega
      | nil =>
        refine ⟨[], ?_, htransit, hpending⟩
        intro made hmade
        cases hmade

end Feed

open Feed

/-- The event stream: over all connections together without `after`, and over each connection with it,
a client receives the events of the case after its start once and in order, and after a full poll all of
them. -/
theorem stream_exactly_once (caseId : String) (after : Nat) (follow : Bool) (store : Store)
    (steps : List FeedStep) (hsteps : ∀ made ∈ steps, made.Keeps) :
    let feed := Feed.run caseId after follow { store } steps
    (after = 0 ∨ feed.earlier = [] →
      ExactlyOnce feed.received (feed.store.idsAfter caseId after)) ∧
    (after ≠ 0 → ExactlyOnce feed.current (feed.store.idsAfter caseId after)) ∧
    (feed.AtTop →
      (∃ deliveries : List FeedStep, (∀ made ∈ deliveries, made.Delivers) ∧
        (Feed.run caseId after follow feed (.poll :: deliveries)).Settled) ∧
      ∀ deliveries : List FeedStep, (∀ made ∈ deliveries, made.Delivers) →
        (Feed.run caseId after follow feed (.poll :: deliveries)).Settled →
        (Feed.run caseId after follow feed (.poll :: deliveries)).counted after =
          feed.store.idsAfter caseId after) := by
  have hfaithful : (Feed.run caseId after follow { store } steps).Faithful caseId after :=
    (faithful_initial store caseId after).run hsteps
  generalize Feed.run caseId after follow { store } steps = feed at hfaithful
  have hsorted := feed.store.idsAfter_sorted caseId after
  have hcounted := (List.prefix_append _ _).trans hfaithful.counted_le
  refine ⟨fun h => .of_leading ?_ hsorted, fun h => .of_leading ?_ hsorted, fun htop => ⟨?_, ?_⟩⟩
  · rcases h with hafter | hearlier
    · rwa [Feed.counted, if_pos hafter] at hcounted
    · have hsame : feed.received = feed.counted after := by
        unfold Feed.counted received
        split
        · rfl
        · rw [hearlier, List.nil_append]
      rwa [hsame]
  · rwa [Feed.counted, if_neg h] at hcounted
  · obtain ⟨deliveries, hdeliveries, hsettled⟩ :=
      settles caseId after follow (feed.step caseId after follow .poll)
    refine ⟨deliveries, fun made hmade => ?_, hsettled⟩
    rcases hdeliveries made hmade with rfl | rfl <;> trivial
  · intro deliveries hdeliveries hsettled
    obtain ⟨generator, transit, hconnection, hbatch⟩ := htop
    have hpolled := hfaithful.polled hconnection
    have hpoll : (feed.step caseId after follow .poll).Faithful caseId after := hfaithful.poll
    have hpromised : (Feed.run caseId after follow feed (.poll :: deliveries)).promised after =
        (feed.step caseId after follow .poll).promised after := hpoll.deliveries hdeliveries
    have hall : (feed.step caseId after follow .poll).promised after =
        feed.store.idsAfter caseId after := by
      rw [← hpolled]
      simp only [step, withGenerator, hconnection, hbatch]
      rfl
    rw [hall, Feed.promised, hsettled.1, hsettled.2, List.append_nil, List.append_nil] at hpromised
    exact hpromised

/-- A case with two events. -/
def twoEvents : Store :=
  let detected : SchemaChangeEvent :=
    { entityUrn := "urn", beforeFields := [], afterFields := [], observedAt := 0,
      entityUrn_length := by decide, source_length := by decide }
  Store.empty.after
    [.append "first" 0 "case" .detected (.schemaChangeDetected detected "urn") none none (by decide),
      .append "second" 1 "case" .detected
        (.incidentRaised ⟨.succeeded, "raise_incident", "", none, [], []⟩) none none (by decide)]

/-- A client that loses the connection after each event. -/
def interrupted : List FeedStep :=
  [.connect, .poll, .send, .receive, .disconnect, .connect, .poll, .send, .receive]

theorem interrupted_keeps : ∀ made ∈ interrupted, made.Keeps := by
  simp [interrupted, FeedStep.Keeps]

theorem stream_exactly_once_interrupted :
    ExactlyOnce (Feed.run "case" 0 true { store := twoEvents } interrupted).received
      ((Feed.run "case" 0 true { store := twoEvents } interrupted).store.idsAfter "case" 0) :=
  (stream_exactly_once "case" 0 true twoEvents interrupted interrupted_keeps).1 (.inl rfl)

/-- With `after` the second connection delivers the event again. -/
theorem stream_exactly_once_counterexample :
    (∀ made ∈ interrupted, made.Keeps) ∧ 1 ≤ sqliteMaxInteger ∧
      ¬ExactlyOnce (Feed.run "case" 1 true { store := twoEvents } interrupted).received
        ((Feed.run "case" 1 true { store := twoEvents } interrupted).store.idsAfter "case" 1) := by
  have hreceived : (Feed.run "case" 1 true { store := twoEvents } interrupted).received = [2, 2] := by
    decide +kernel
  refine ⟨interrupted_keeps, by decide, fun h => ?_⟩
  have hnodup := h.nodup
  rw [hreceived] at hnodup
  exact absurd hnodup (by decide)

end DataRescue
