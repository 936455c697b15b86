import Mathlib.Data.List.Infix

/-!
# Occurrences of a word

The number of positions of a text at which a word starts, and what a replacement does to it. A word
whose first letter does not recur in it cannot overlap another word that starts with the letter
(`occurrences_append`), so a word put in the place of another neither makes nor destroys an occurrence
across its ends (`occurrences_replace`).
-/

namespace Occurrences

variable {α : Type*}

/-- The number of positions at which `word` starts. -/
def occurrences [DecidableEq α] (word : List α) : List α → Nat
  | [] => if word = [] then 1 else 0
  | c :: text => (if word <+: c :: text then 1 else 0) + occurrences word text

/-- The word starts with this letter, which does not recur in it. -/
def Marked (mark : α) (word : List α) : Prop := ∃ rest, word = mark :: rest ∧ mark ∉ rest

variable {mark : α} {word other text first last : List α}

theorem Marked.ne_nil (h : Marked mark word) : word ≠ [] := by
  obtain ⟨rest, rfl, -⟩ := h
  exact List.cons_ne_nil _ _

theorem prefix_before_mark {c : α} (h : Marked mark word)
    (hlead : word <+: c :: (first ++ mark :: last)) : word <+: c :: first := by
  obtain ⟨rest, rfl, hrest⟩ := h
  rw [List.cons_prefix_cons] at hlead ⊢
  refine ⟨hlead.1, ?_⟩
  rcases List.prefix_or_prefix_of_prefix hlead.2 (List.prefix_append first (mark :: last)) with
    hshort | ⟨middle, rfl⟩
  · exact hshort
  · cases middle with
    | nil => simp
    | cons d middle =>
      obtain ⟨-, hmiddle⟩ := hlead
      rw [List.prefix_append_right_inj, List.cons_prefix_cons] at hmiddle
      exact absurd (hmiddle.1 ▸ List.mem_append_right first (List.mem_cons_self ..)) hrest

/-- Two marked words that do not begin with one another. -/
def Apart (word other : List α) : Prop := ¬word <+: other ∧ ¬other <+: word

theorem Apart.symm (h : Apart word other) : Apart other word := ⟨h.2, h.1⟩

variable [DecidableEq α]

theorem occurrences_cons_of_ne {c : α} (h : Marked mark word) (hc : c ≠ mark) :
    occurrences word (c :: text) = occurrences word text := by
  obtain ⟨rest, rfl, -⟩ := h
  have hno : ¬mark :: rest <+: c :: text := by
    rw [List.cons_prefix_cons]
    exact fun hlead => hc hlead.1.symm
  rw [occurrences, if_neg hno, Nat.zero_add]

theorem occurrences_unmarked_append (h : Marked mark word) (hfirst : mark ∉ first) :
    occurrences word (first ++ text) = occurrences word text := by
  induction first with
  | nil => rfl
  | cons c first ih =>
    rw [List.mem_cons, not_or] at hfirst
    rw [List.cons_append, occurrences_cons_of_ne h (Ne.symm hfirst.1), ih hfirst.2]

theorem occurrences_append (h : Marked mark word) :
    occurrences word (first ++ mark :: last) =
      occurrences word first + occurrences word (mark :: last) := by
  induction first with
  | nil => simp [occurrences, h.ne_nil]
  | cons c first ih =>
    have hsame : word <+: c :: (first ++ mark :: last) ↔ word <+: c :: first :=
      ⟨prefix_before_mark h, fun hlead => hlead.trans ⟨mark :: last, rfl⟩⟩
    rw [List.cons_append, occurrences, occurrences, ih, Nat.add_assoc]
    simp only [hsame]

theorem occurrences_split (h : Marked mark word) (hother : Marked mark other) :
    occurrences word (first ++ (other ++ last)) =
      occurrences word first + (if word <+: other ++ last then 1 else 0) + occurrences word last := by
  obtain ⟨rest, rfl, hrest⟩ := hother
  rw [List.cons_append, occurrences_append h, occurrences, occurrences_unmarked_append h hrest,
    Nat.add_assoc]

theorem occurrences_self (h : Marked mark word) :
    occurrences word (first ++ (word ++ last)) =
      occurrences word first + 1 + occurrences word last := by
  rw [occurrences_split h h, if_pos (List.prefix_append word last)]

theorem occurrences_other (h : Marked mark word) (hother : Marked mark other)
    (hapart : Apart word other) :
    occurrences word (first ++ (other ++ last)) = occurrences word first + occurrences word last := by
  have hno : ¬word <+: other ++ last := by
    intro hlead
    rcases List.prefix_or_prefix_of_prefix hlead (List.prefix_append other last) with hshort | hlong
    · exact hapart.1 hshort
    · exact hapart.2 hlong
  rw [occurrences_split h hother, if_neg hno, Nat.add_zero]

theorem exists_split (h : 0 < occurrences word text) :
    ∃ first last, text = first ++ (word ++ last) := by
  induction text with
  | nil =>
    by_cases hword : word = []
    · exact ⟨[], [], by simp [hword]⟩
    · rw [occurrences, if_neg hword] at h
      exact absurd h (Nat.lt_irrefl 0)
  | cons c text ih =>
    by_cases hlead : word <+: c :: text
    · obtain ⟨last, heq⟩ := hlead
      exact ⟨[], last, heq.symm⟩
    · rw [occurrences, if_neg hlead, Nat.zero_add] at h
      obtain ⟨first, last, rfl⟩ := ih h
      exact ⟨c :: first, last, rfl⟩

theorem occurrences_pos (hword : word ≠ []) : 0 < occurrences word (first ++ (word ++ last)) := by
  induction first with
  | nil =>
    cases word with
    | nil => exact absurd rfl hword
    | cons c word =>
      have hlead : c :: word <+: c :: (word ++ last) := ⟨last, rfl⟩
      rw [List.nil_append, List.cons_append, occurrences, if_pos hlead]
      omega
  | cons c first ih =>
    rw [List.cons_append, occurrences]
    omega

theorem split_unique {first' last' : List α} (hword : word ≠ []) (hone : occurrences word text = 1)
    (h : text = first ++ (word ++ last)) (h' : text = first' ++ (word ++ last')) :
    first = first' ∧ last = last' := by
  have hfirst : first = first' := by
    induction text generalizing first first' with
    | nil => simp_all
    | cons c text ih =>
      rw [occurrences] at hone
      match first, first' with
      | [], [] => rfl
      | [], d :: first' =>
        have hlead : word <+: c :: text := ⟨last, h.symm⟩
        rw [List.cons_append, List.cons.injEq] at h'
        have hpos : 0 < occurrences word (first' ++ (word ++ last')) := occurrences_pos hword
        rw [if_pos hlead, h'.2] at hone
        omega
      | d :: first, [] =>
        have hlead : word <+: c :: text := ⟨last', h'.symm⟩
        rw [List.cons_append, List.cons.injEq] at h
        have hpos : 0 < occurrences word (first ++ (word ++ last)) := occurrences_pos hword
        rw [if_pos hlead, h.2] at hone
        omega
      | d :: first, d' :: first' =>
        rw [List.cons_append, List.cons.injEq] at h h'
        obtain ⟨rfl, htext⟩ := h
        obtain ⟨rfl, htext'⟩ := h'
        have hpos : 0 < occurrences word (first ++ (word ++ last)) := occurrences_pos hword
        rw [← htext] at hpos
        have htail : occurrences word text = 1 := by omega
        rw [ih htail htext htext']
  subst hfirst
  rw [h, List.append_cancel_left_eq, List.append_cancel_left_eq] at h'
  exact ⟨rfl, h'⟩

theorem occurrences_replace (h : Marked mark word) (hother : Marked mark other)
    (hapart : Apart word other) (hone : occurrences word (first ++ (word ++ last)) = 1)
    (hnone : occurrences other (first ++ (word ++ last)) = 0) :
    occurrences word (first ++ (other ++ last)) = 0 ∧
      occurrences other (first ++ (other ++ last)) = 1 := by
  rw [occurrences_self h] at hone
  rw [occurrences_other hother h hapart.symm] at hnone
  rw [occurrences_other h hother hapart, occurrences_self hother]
  omega

end Occurrences
