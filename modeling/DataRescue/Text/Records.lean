import Mathlib.Data.List.Basic

/-!
# Records between closing marks

A reader that goes through marks: it gathers values until a mark closes the record, and a record without
values is dropped. Two readings of one source agree part by part when one of them never finds less than
the other (`parts_eq`).
-/

namespace Records

variable {α β γ : Type*}

/-- What the reader makes of a line. -/
inductive Mark (α : Type*)
  | value (v : α)
  | close
  | skip

def Mark.values : List (Mark α) → List α
  | [] => []
  | .value v :: rest => v :: values rest
  | .close :: rest => values rest
  | .skip :: rest => values rest

/-- A record, unless it is empty. -/
def emit : List α → List (List α)
  | [] => []
  | v :: values => [v :: values]

/-- The records of a list of marks, with the values of the current one. -/
def records (current : List α) : List (Mark α) → List (List α)
  | [] => emit current
  | .value v :: rest => records (current ++ [v]) rest
  | .close :: rest => emit current ++ records [] rest
  | .skip :: rest => records current rest

theorem emit_flatten (values : List α) : (emit values).flatten = values := by
  cases values with
  | nil => rfl
  | cons v values => simp [emit]

theorem emit_of_ne_nil {values : List α} (h : values ≠ []) : emit values = [values] := by
  obtain ⟨v, rest, rfl⟩ := List.exists_cons_of_ne_nil h
  rfl

theorem mem_emit {record values : List α} : record ∈ emit values ↔ record = values ∧ values ≠ [] := by
  cases values with
  | nil => simp [emit]
  | cons v values => simp [emit]

theorem Mark.values_append (marks more : List (Mark α)) :
    values (marks ++ more) = values marks ++ values more := by
  induction marks with
  | nil => rfl
  | cons mark marks ih => cases mark <;> simp [values, ih]

theorem Mark.values_flatMap (parts : List β) (marks : β → List (Mark α)) :
    values (parts.flatMap marks) = parts.flatMap fun part => values (marks part) := by
  induction parts with
  | nil => rfl
  | cons part parts ih => rw [List.flatMap_cons, values_append, ih, List.flatMap_cons]

theorem records_flatten (marks : List (Mark α)) (current : List α) :
    (records current marks).flatten = current ++ Mark.values marks := by
  induction marks generalizing current with
  | nil => simp [records, emit_flatten, Mark.values]
  | cons mark marks ih =>
    cases mark with
    | value v => rw [records, ih, Mark.values, List.append_assoc, List.singleton_append]
    | close => rw [records, List.flatten_append, emit_flatten, ih, List.nil_append, Mark.values]
    | skip => rw [records, ih, Mark.values]

theorem records_close (marks more : List (Mark α)) (current : List α) :
    records current (marks ++ .close :: more) = records current marks ++ records [] more := by
  induction marks generalizing current with
  | nil => rfl
  | cons mark marks ih =>
    cases mark with
    | value v => exact ih _
    | close => rw [List.cons_append, records, records, ih, List.append_assoc]
    | skip => exact ih _

theorem ne_nil_of_mem_records {marks : List (Mark α)} {current record : List α}
    (h : record ∈ records current marks) : record ≠ [] := by
  induction marks generalizing current with
  | nil =>
    obtain ⟨rfl, hne⟩ := mem_emit.1 h
    exact hne
  | cons mark marks ih =>
    cases mark with
    | value v => exact ih h
    | close =>
      rcases List.mem_append.1 h with h | h
      · obtain ⟨rfl, hne⟩ := mem_emit.1 h
        exact hne
      · exact ih h
    | skip => exact ih h

theorem records_ne_nil {marks : List (Mark α)} (h : Mark.values marks ≠ []) :
    records [] marks ≠ [] := by
  intro hnil
  have hflatten := records_flatten marks []
  rw [hnil, List.nil_append] at hflatten
  exact h hflatten.symm

theorem records_quiet {marks : List (Mark α)} (h : Mark.values marks = []) (more : List (Mark α))
    (current : List α) :
    (.close ∉ marks → records current (marks ++ more) = records current more) ∧
      (.close ∈ marks → records current (marks ++ more) = emit current ++ records [] more) := by
  induction marks generalizing current with
  | nil => exact ⟨fun _ => rfl, fun hmem => nomatch hmem⟩
  | cons mark marks ih =>
    cases mark with
    | value v => exact absurd h (List.cons_ne_nil _ _)
    | skip =>
      obtain ⟨hopen, hclose⟩ := ih h current
      refine ⟨fun hmem => hopen fun h => hmem (List.mem_cons_of_mem _ h), fun hmem => hclose ?_⟩
      simpa using hmem
    | close =>
      refine ⟨fun hmem => absurd List.mem_cons_self hmem, fun _ => ?_⟩
      obtain ⟨hopen, hclose⟩ := ih h []
      rw [List.cons_append, records]
      by_cases hmem : .close ∈ marks
      · rw [hclose hmem]
        rfl
      · rw [hopen hmem]

theorem records_flatMap (parts : List β) (marks : β → List (Mark α)) (more : List (Mark α)) :
    records [] (parts.flatMap (fun part => marks part ++ [.close]) ++ more) =
      parts.flatMap (fun part => records [] (marks part)) ++ records [] more := by
  induction parts with
  | nil => rfl
  | cons part parts ih =>
    rw [List.flatMap_cons, List.flatMap_cons, List.append_assoc, List.append_assoc,
      List.singleton_append, records_close, ih, List.append_assoc]

/-! ### Split texts -/

theorem mem_splitOnP {p : α → Bool} {text part : List α} (h : part ∈ text.splitOnP p) :
    ∀ c ∈ part, c ∈ text ∧ p c = false := by
  induction text generalizing part with
  | nil =>
    obtain rfl : part = [] := by simpa using h
    exact fun _ hc => nomatch hc
  | cons d text ih =>
    intro c hc
    rw [List.splitOnP_cons_eq_if_modifyHead] at h
    by_cases hd : p d = true
    · rw [if_pos hd] at h
      rcases List.mem_cons.1 h with rfl | h
      · exact nomatch hc
      · exact ⟨List.mem_cons_of_mem _ (ih h c hc).1, (ih h c hc).2⟩
    · rw [if_neg hd] at h
      obtain ⟨first, rest, hparts⟩ := List.exists_cons_of_ne_nil (List.splitOnP_ne_nil p text)
      rw [hparts, List.modifyHead_cons] at h
      rcases List.mem_cons.1 h with rfl | h
      · rcases List.mem_cons.1 hc with rfl | hc
        · exact ⟨List.mem_cons_self, by simpa using hd⟩
        · have hfirst := ih (by rw [hparts]; exact List.mem_cons_self) c hc
          exact ⟨List.mem_cons_of_mem _ hfirst.1, hfirst.2⟩
      · have hrest := ih (by rw [hparts]; exact List.mem_cons_of_mem _ h) c hc
        exact ⟨List.mem_cons_of_mem _ hrest.1, hrest.2⟩

/-! ### Part by part -/

/-- Two readings of equal length in total, of which one never finds less, find equally much in each
part. -/
theorem lengths_eq {parts : List β} {found told : β → List γ}
    (hle : ∀ part ∈ parts, (told part).length ≤ (found part).length)
    (h : (parts.flatMap found).length = (parts.flatMap told).length) :
    ∀ part ∈ parts, (found part).length = (told part).length := by
  have htotal : ∀ rest : List β, (∀ part ∈ rest, (told part).length ≤ (found part).length) →
      (rest.flatMap told).length ≤ (rest.flatMap found).length := by
    intro rest hrest
    induction rest with
    | nil => exact Nat.le_refl _
    | cons part rest ih =>
      have hpart := hrest part List.mem_cons_self
      have htail := ih fun other hother => hrest other (List.mem_cons_of_mem _ hother)
      simp only [List.flatMap_cons, List.length_append]
      omega
  induction parts with
  | nil => exact fun _ hmem => nomatch hmem
  | cons part parts ih =>
    have hpart := hle part List.mem_cons_self
    have hrest := fun other hother => hle other (List.mem_cons_of_mem part hother)
    have htail := htotal parts hrest
    simp only [List.flatMap_cons, List.length_append] at h
    intro other hother
    rcases List.mem_cons.1 hother with rfl | hother
    · omega
    · exact ih hrest (by omega) other hother

theorem parts_eq {parts : List β} {found told : β → List γ}
    (hle : ∀ part ∈ parts, (told part).length ≤ (found part).length)
    (h : parts.flatMap found = parts.flatMap told) : ∀ part ∈ parts, found part = told part := by
  have hlengths := lengths_eq hle (congrArg List.length h)
  induction parts with
  | nil => exact fun _ hmem => nomatch hmem
  | cons part parts ih =>
    rw [List.flatMap_cons, List.flatMap_cons] at h
    obtain ⟨hpart, htail⟩ := List.append_inj h (hlengths part List.mem_cons_self)
    intro other hother
    rcases List.mem_cons.1 hother with rfl | hother
    · exact hpart
    · exact ih (fun other hother => hle other (List.mem_cons_of_mem _ hother)) htail
        (fun other hother => hlengths other (List.mem_cons_of_mem _ hother)) other hother

end Records
