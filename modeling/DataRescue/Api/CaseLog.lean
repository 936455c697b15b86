import DataRescue.Api.StoreLaws

/-!
# Case logs

The visible events of a case, and what the reading methods say about them. A store is `Coherent` when
the two notions of the current scope agree and only resets lack a state; every transaction keeps it
so, whatever its arguments.
-/

namespace DataRescue

namespace Store

variable {store store' : Store} {row other : Row} {caseId key : String}

/-- The visible events of a case. -/
def log (store : Store) (caseId : String) : List CaseEvent := store.eventsForCase caseId 0

/-- The read model of a case, if its log has one. -/
def snapshot? (store : Store) (caseId : String) : Option CaseSnapshot :=
  projectCase (store.log caseId)

theorem log_eq (store : Store) (caseId : String) :
    store.log caseId = (store.caseRows caseId store.currentScope).map Row.event := by
  unfold log eventsForCase
  congr 1
  refine List.filter_eq_self.2 fun row hrow => ?_
  simp only [caseRows, List.mem_filter] at hrow
  exact decide_eq_true (sequence_bounds hrow.1).1

theorem mem_log {event : CaseEvent} :
    event ∈ store.log caseId ↔ ∃ row ∈ store.rows, row.caseId = caseId ∧
      store.currentScope < row.sequence ∧ row.event = event := by
  simp only [log_eq, caseRows, List.mem_map, List.mem_filter, decide_eq_true_eq]
  exact ⟨fun ⟨row, ⟨hrow, hcase, hscope⟩, he⟩ => ⟨row, hrow, hcase, hscope, he⟩,
    fun ⟨row, hrow, hcase, hscope, he⟩ => ⟨row, ⟨hrow, hcase, hscope⟩, he⟩⟩

theorem Extends.log (h : Extends store row store') (hrow : row.eventType ≠ .systemReset)
    (caseId : String) :
    store'.log caseId =
      store.log caseId ++ if row.caseId = caseId then [row.event] else [] := by
  rw [log_eq, log_eq, h.currentScope hrow, caseRows, caseRows, h.rows, List.filter_append,
    List.map_append]
  have hlt := h.currentScope_lt
  by_cases hcase : row.caseId = caseId <;> simp [hcase, hlt]

theorem Extends.log_reset (h : Extends store row store') (hrow : row.eventType = .systemReset)
    (caseId : String) : store'.log caseId = [] := by
  rw [log_eq, h.currentScope_reset hrow, caseRows, h.rows, List.map_eq_nil_iff,
    List.filter_eq_nil_iff]
  intro other hother
  rcases List.mem_append.1 hother with hother | hother
  · have := (sequence_bounds hother).2
    simp [h.sequence]
    omega
  · rw [List.mem_singleton.1 hother]
    simp

theorem currentState_eq (store : Store) (caseId : String) :
    store.currentState caseId store.currentScope =
      ((store.log caseId).filterMap CaseEvent.state).getLast? := by
  rw [log_eq, List.filterMap_map]
  rfl

theorem caseIdExists_iff : store.caseIdExists caseId = true ↔ store.log caseId ≠ [] := by
  simp [caseIdExists, log_eq]

/-! ### Reading a case -/

theorem getCase_ok {snapshot : CaseSnapshot} :
    store.getCase caseId = .ok snapshot ↔ store.snapshot? caseId = some snapshot := by
  unfold getCase snapshot? log
  split
  next h => simp [h, projectCase]
  next first rest h =>
    rw [h, project]
    split <;> simp_all

theorem getCase_caseNotFound {missing : String} :
    store.getCase caseId = .error (.caseNotFound missing) ↔
      store.log caseId = [] ∧ missing = caseId := by
  unfold getCase log
  split
  next h => simp [h, eq_comm]
  next first rest h =>
    rw [h, project]
    split <;> simp [projectionError]

theorem getCase_error {error : StoreError} (h : store.getCase caseId = .error error) :
    (store.log caseId = [] ∧ error = .caseNotFound caseId) ∨
      (store.log caseId ≠ [] ∧ store.snapshot? caseId = none ∧ error = projectionError) := by
  unfold getCase at h
  unfold log snapshot? log
  split at h
  next hlog => exact .inl ⟨hlog, (Except.error.inj h).symm⟩
  next first rest hlog =>
    rw [project] at h
    split at h
    · cases h
    next hproject =>
      exact .inr ⟨by simp [hlog], by rw [hlog, hproject],
        (Except.error.inj h).symm⟩

/-! ### Coherence -/

/-- The visible rows are those of the current reset scope, and the resets are the rows with no
state. -/
structure Coherent (store : Store) : Prop where
  bounded : ∀ row ∈ store.rows, row.resetScope ≤ store.currentScope
  scope : ∀ row ∈ store.rows, row.eventType ≠ .systemReset →
    (row.resetScope = store.currentScope ↔ store.currentScope < row.sequence)
  state : ∀ row ∈ store.rows, row.eventType ≠ .systemReset → row.state ≠ none
  reset : ∀ row ∈ store.rows, row.eventType = .systemReset → row.state = none ∧ row.dedupKey = none

theorem coherent_empty : Coherent empty :=
  ⟨by simp [empty], by simp [empty], by simp [empty], by simp [empty]⟩

theorem Coherent.append (h : store.Coherent) (hextends : Extends store row store')
    (htype : row.eventType ≠ .systemReset) (hscope : row.resetScope = store.currentScope)
    (hstate : row.state ≠ none) : store'.Coherent where
  bounded other hother := by
    rw [hextends.currentScope htype]
    rcases hextends.mem.1 hother with hother | rfl
    · exact h.bounded other hother
    · exact hscope.le
  scope other hother hotherType := by
    rw [hextends.currentScope htype]
    rcases hextends.mem.1 hother with hother | rfl
    · exact h.scope other hother hotherType
    · exact iff_of_true hscope hextends.currentScope_lt
  state other hother hotherType := by
    rcases hextends.mem.1 hother with hother | rfl
    · exact h.state other hother hotherType
    · exact hstate
  reset other hother hotherType := by
    rcases hextends.mem.1 hother with hother | rfl
    · exact h.reset other hother hotherType
    · exact absurd hotherType htype

theorem Coherent.extends_reset (h : store.Coherent) (hextends : Extends store row store')
    (htype : row.eventType = .systemReset) (hscope : row.resetScope = store.currentScope)
    (hstate : row.state = none ∧ row.dedupKey = none) : store'.Coherent where
  bounded other hother := by
    rw [hextends.currentScope_reset htype]
    have hlt := hextends.currentScope_lt
    rcases hextends.mem.1 hother with hother | rfl
    · exact (h.bounded other hother).trans hlt.le
    · omega
  scope other hother hotherType := by
    rw [hextends.currentScope_reset htype]
    rcases hextends.mem.1 hother with hother | rfl
    · have hbounded := h.bounded other hother
      have hlt := hextends.currentScope_lt
      have hlength := (sequence_bounds hother).2
      have hsequence := hextends.sequence
      exact iff_of_false (by omega) (by omega)
    · exact absurd htype hotherType
  state other hother hotherType := by
    rcases hextends.mem.1 hother with hother | rfl
    · exact h.state other hother hotherType
    · exact absurd htype hotherType
  reset other hother hotherType := by
    rcases hextends.mem.1 hother with hother | rfl
    · exact h.reset other hother hotherType
    · exact hstate

end Store

end DataRescue
