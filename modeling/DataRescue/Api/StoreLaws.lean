import DataRescue.Api.Store

/-!
# Laws of the event store

What one transaction does to the table. `Extends` says that a store is another one with one more row;
`append_ok` and `reset_ok` reduce the two writing methods to it, and the visible log of every case
(`Store.log`) follows: an append lengthens one log by one event, a reset empties all of them.
`Coherent` relates the two notions of the current scope, by `reset_scope` and by sequence number.
-/

namespace DataRescue

namespace Store

variable {store store' : Store} {row other : Row}

/-! ### Sequence numbers -/

theorem sequence_getElem {i : Nat} (h : i < store.rows.length) :
    (store.rows[i]).sequence = i + 1 := by
  have hmap : (store.rows.map Row.sequence)[i]? = (List.range' 1 store.rows.length)[i]? := by
    rw [store.sequences]
  rw [List.getElem?_map, List.getElem?_eq_getElem h, List.getElem?_range' h] at hmap
  simp only [Option.map_some, Option.some.injEq] at hmap
  omega

theorem sequence_bounds (h : row ∈ store.rows) :
    1 ≤ row.sequence ∧ row.sequence ≤ store.rows.length := by
  obtain ⟨i, hi, rfl⟩ := List.mem_iff_getElem.1 h
  rw [sequence_getElem hi]
  omega

/-! ### The current scope -/

theorem currentScope_eq {scope : Nat}
    (hmem : scope = 0 ∨ ∃ row ∈ store.rows, row.eventType = .systemReset ∧ row.sequence = scope)
    (hmax : ∀ row ∈ store.rows, row.eventType = .systemReset → row.sequence ≤ scope) :
    store.currentScope = scope := by
  unfold currentScope
  cases hm : ((store.rows.filter (·.eventType = .systemReset)).map Row.sequence).max? with
  | none =>
    simp only [List.max?_eq_none_iff, List.map_eq_nil_iff, List.filter_eq_nil_iff,
      decide_eq_true_eq] at hm
    rcases hmem with rfl | ⟨row, hrow, hreset, -⟩
    · rfl
    · exact absurd hreset (hm row hrow)
  | some top =>
    obtain ⟨htop, hle⟩ := List.max?_eq_some_iff.1 hm
    simp only [List.mem_map, List.mem_filter, decide_eq_true_eq] at htop hle
    obtain ⟨row, ⟨hrow, hreset⟩, rfl⟩ := htop
    have hupper := hmax row hrow hreset
    rcases hmem with rfl | ⟨other, hother, hotherReset, rfl⟩
    · exact Nat.le_zero.1 hupper
    · exact le_antisymm hupper (hle _ ⟨other, ⟨hother, hotherReset⟩, rfl⟩)

theorem currentScope_mem (store : Store) :
    store.currentScope = 0 ∨ ∃ row ∈ store.rows, row.eventType = .systemReset ∧
      row.sequence = store.currentScope := by
  unfold currentScope
  cases hm : ((store.rows.filter (·.eventType = .systemReset)).map Row.sequence).max? with
  | none => exact .inl rfl
  | some top =>
    obtain ⟨htop, -⟩ := List.max?_eq_some_iff.1 hm
    simp only [List.mem_map, List.mem_filter, decide_eq_true_eq] at htop
    obtain ⟨row, ⟨hrow, hreset⟩, rfl⟩ := htop
    exact .inr ⟨row, hrow, hreset, rfl⟩

theorem sequence_le_currentScope (hrow : row ∈ store.rows) (hreset : row.eventType = .systemReset) :
    row.sequence ≤ store.currentScope := by
  unfold currentScope
  have hmem : row.sequence ∈ (store.rows.filter (·.eventType = .systemReset)).map Row.sequence :=
    List.mem_map.2 ⟨row, List.mem_filter.2 ⟨hrow, by simpa using hreset⟩, rfl⟩
  cases hm : ((store.rows.filter (·.eventType = .systemReset)).map Row.sequence).max? with
  | none => simp [List.max?_eq_none_iff.1 hm] at hmem
  | some top => exact (List.max?_eq_some_iff.1 hm).2 _ hmem

theorem currentScope_le (store : Store) : store.currentScope ≤ store.rows.length := by
  rcases currentScope_mem store with h | ⟨row, hrow, -, h⟩
  · omega
  · exact h ▸ (sequence_bounds hrow).2

/-! ### One more row -/

/-- `store'` is `store` with `row` appended. -/
structure Extends (store : Store) (row : Row) (store' : Store) : Prop where
  rows : store'.rows = store.rows ++ [row]
  sequence : row.sequence = store.rows.length + 1

theorem Extends.mem (h : Extends store row store') :
    other ∈ store'.rows ↔ other ∈ store.rows ∨ other = row := by simp [h.rows]

theorem Extends.currentScope_lt (h : Extends store row store') :
    store.currentScope < row.sequence := by
  rw [h.sequence]
  exact Nat.lt_succ_of_le store.currentScope_le

theorem Extends.currentScope (h : Extends store row store') (hrow : row.eventType ≠ .systemReset) :
    store'.currentScope = store.currentScope := by
  refine currentScope_eq ?_ ?_
  · rcases currentScope_mem store with h0 | ⟨other, hother, hreset, heq⟩
    · exact .inl h0
    · exact .inr ⟨other, h.mem.2 (.inl hother), hreset, heq⟩
  · intro other hother hreset
    rcases h.mem.1 hother with hother | rfl
    · exact sequence_le_currentScope hother hreset
    · exact absurd hreset hrow

theorem Extends.currentScope_reset (h : Extends store row store')
    (hrow : row.eventType = .systemReset) : store'.currentScope = row.sequence := by
  refine currentScope_eq (.inr ⟨row, h.mem.2 (.inr rfl), hrow, rfl⟩) ?_
  intro other hother _
  rcases h.mem.1 hother with hother | rfl
  · rw [h.sequence]
    exact Nat.le_succ_of_le (sequence_bounds hother).2
  · exact le_rfl

theorem insert_some {eventId caseId : String} {state : Option CaseState} {body : EventBody}
    {dedupKey : Option String} {scope : Nat} {createdAt : Timestamp}
    (h : store.insert eventId caseId state body dedupKey scope createdAt = some store') :
    Extends store ⟨store.rows.length + 1, eventId, caseId, state, body, dedupKey, scope, createdAt⟩
      store' := by
  simp only [insert] at h
  split at h
  · rw [← Option.some.inj h]
    exact ⟨rfl, rfl⟩
  · cases h

/-! ### Append -/

/-- The row an append writes. -/
def appended (store : Store) (fresh : String) (now : Timestamp) (caseId : String)
    (state : CaseState) (body : EventBody) (dedupKey eventId : Option String) : Row where
  sequence := store.rows.length + 1
  eventId := chosenEventId eventId fresh
  caseId := caseId
  state := some state
  body := body
  dedupKey := dedupKey
  resetScope := store.currentScope
  createdAt := now

section

variable {fresh caseId key : String} {now : Timestamp} {state : CaseState} {body : EventBody}
  {dedupKey eventId : Option String} {event : CaseEvent} {error : StoreError}

theorem rowForEventId_none {scope : Nat} :
    store.rowForEventId key scope = none ↔
      ∀ row ∈ store.rows, row.resetScope = scope → row.eventId ≠ key := by
  simp only [rowForEventId, List.find?_eq_none, decide_eq_true_eq, not_and]
  exact forall₂_congr fun _ _ => ⟨fun h hs he => h he hs, fun h he hs => h hs he⟩

theorem rowForDedup_none {scope : Nat} :
    store.rowForDedup key scope = none ↔
      ∀ row ∈ store.rows, row.resetScope = scope → row.dedupKey ≠ some key := by
  simp only [rowForDedup, List.find?_eq_none, decide_eq_true_eq, not_and]
  exact forall₂_congr fun _ _ => ⟨fun h hs he => h he hs, fun h he hs => h hs he⟩

theorem rowForEventId_some {scope : Nat} (h : store.rowForEventId key scope = some row) :
    row ∈ store.rows ∧ row.eventId = key ∧ row.resetScope = scope := by
  have hprop := List.find?_some h
  simp only [decide_eq_true_eq] at hprop
  exact ⟨List.mem_of_find?_eq_some h, hprop⟩

theorem rowForDedup_some {scope : Nat} (h : store.rowForDedup key scope = some row) :
    row ∈ store.rows ∧ row.dedupKey = some key ∧ row.resetScope = scope := by
  have hprop := List.find?_some h
  simp only [decide_eq_true_eq] at hprop
  exact ⟨List.mem_of_find?_eq_some h, hprop⟩

/-- What an append that succeeds has checked. -/
structure Accepted (store : Store) (caseId : String) (state : CaseState) (body : EventBody)
    (dedupKey : Option String) (eventId : String) : Prop where
  eventId : ∀ row ∈ store.rows, row.resetScope = store.currentScope → row.eventId ≠ eventId
  dedupKey : ∀ key, dedupKey = some key →
    ∀ row ∈ store.rows, row.resetScope = store.currentScope → row.dedupKey ≠ some key
  detection : body.eventType = .schemaChangeDetected →
    store.currentState caseId store.currentScope = none
  transition : Transition (store.currentState caseId store.currentScope) state

theorem Accepted.insert (h : Accepted store caseId state body dedupKey key) (now : Timestamp) :
    (store.insert key caseId (some state) body dedupKey store.currentScope now).isSome = true := by
  have hid : ∀ other ∈ store.rows, other.idApart
      ⟨store.rows.length + 1, key, caseId, some state, body, dedupKey, store.currentScope, now⟩ :=
    fun other hother hsame => h.eventId other hother hsame.2 hsame.1
  have hkey : ∀ other ∈ store.rows, other.keyApart
      ⟨store.rows.length + 1, key, caseId, some state, body, dedupKey, store.currentScope, now⟩ := by
    rintro other hother ⟨hsome, hsame, hscope⟩
    obtain ⟨key, hkey⟩ := Option.ne_none_iff_exists'.1 hsome
    exact h.dedupKey key (hsame.symm.trans hkey) other hother hscope hkey
  simp only [Store.insert]
  rw [dif_pos ⟨hid, hkey⟩]
  rfl

theorem dedup_none_iff :
    dedupKey.bind (store.rowForDedup · store.currentScope) = none ↔
      ∀ key, dedupKey = some key →
        ∀ row ∈ store.rows, row.resetScope = store.currentScope → row.dedupKey ≠ some key := by
  cases dedupKey with
  | none => simp
  | some key => simp [rowForDedup_none]

/-- An append succeeds exactly when its checks pass, and then it adds one row. The integrity
branch is never taken: the checks are those of the two indexes. -/
theorem append_ok :
    store.append fresh now caseId state body dedupKey eventId = .ok (event, store') ↔
      Accepted store caseId state body dedupKey (chosenEventId eventId fresh) ∧
        Extends store (store.appended fresh now caseId state body dedupKey eventId) store' ∧
        event = (store.appended fresh now caseId state body dedupKey eventId).event := by
  constructor
  · intro h
    unfold append at h
    simp only at h
    split at h
    · cases h
    next hid =>
      split at h
      · cases h
      next hkey =>
        split at h
        · cases h
        next hdetected =>
          split at h
          · cases h
          next htransition =>
            split at h
            next inserted hinsert =>
              obtain ⟨rfl, rfl⟩ := Prod.mk.inj (Except.ok.inj h)
              refine ⟨⟨rowForEventId_none.1 hid, dedup_none_iff.1 hkey, fun hbody => ?_,
                validateTransition_ok.1 htransition⟩, insert_some hinsert, rfl⟩
              by_contra hcurrent
              exact hdetected ⟨hbody, hcurrent⟩
            next =>
              split at h
              · cases h
              · split at h <;> cases h
  · rintro ⟨haccepted, hextends, rfl⟩
    obtain ⟨inserted, hinsert⟩ := Option.isSome_iff_exists.1 (haccepted.insert now)
    have hopen : ¬(body.eventType = .schemaChangeDetected ∧
        store.currentState caseId store.currentScope ≠ none) :=
      fun hbody => hbody.2 (haccepted.detection hbody.1)
    simp only [append, rowForEventId_none.2 haccepted.eventId,
      dedup_none_iff.2 haccepted.dedupKey, if_neg hopen,
      validateTransition_ok.2 haccepted.transition, hinsert]
    obtain rfl : inserted = store' := Store.ext ((insert_some hinsert).rows.trans hextends.rows.symm)
    rfl

theorem Accepted.append
    (h : Accepted store caseId state body dedupKey (chosenEventId eventId fresh)) (now : Timestamp) :
    ∃ store', store.append fresh now caseId state body dedupKey eventId =
      .ok ((store.appended fresh now caseId state body dedupKey eventId).event, store') := by
  obtain ⟨inserted, hinsert⟩ := Option.isSome_iff_exists.1 (h.insert now)
  exact ⟨inserted, append_ok.2 ⟨h, insert_some hinsert, rfl⟩⟩

end

/-! ### Reset -/

/-- The row a reset writes. -/
def resetRow (store : Store) (fresh : String) (now : Timestamp) (reason : String) : Row where
  sequence := store.rows.length + 1
  eventId := fresh
  caseId := "__system__"
  state := none
  body := .systemReset reason
  dedupKey := none
  resetScope := store.currentScope
  createdAt := now

theorem reset_ok {fresh reason : String} {now : Timestamp} {sequence : Nat}
    (h : store.reset fresh now reason = .ok (sequence, store')) :
    Extends store (store.resetRow fresh now reason) store' ∧ sequence = store.rows.length + 1 := by
  unfold reset at h
  split at h
  next inserted hinsert =>
    obtain ⟨rfl, rfl⟩ := Prod.mk.inj (Except.ok.inj h)
    exact ⟨insert_some hinsert, rfl⟩
  next => cases h

end Store

end DataRescue
