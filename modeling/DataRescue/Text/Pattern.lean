import Mathlib.Data.List.Forall2
import Mathlib.Data.List.TakeWhile
import Mathlib.Order.Lattice

/-!
# Patterns without alternatives

A pattern is a sequence of words, letter by letter of some class each, and of runs of one class with
bounds on their length. `fullmatch` looks for a match as a backtracking engine does, the longest run
first; it finds one when there is one (`exists_fullmatch`). A pattern is separated when no run can go on
with a letter that may start what follows it; a text then matches in one way (`Matches.unique`), so the
match found is the match (`fullmatch_iff`).
-/

namespace Pattern

variable {α : Type*}

inductive Piece (α : Type*) where
  | word (letters : List (α → Bool))
  | run (accepts : α → Bool) (least : Nat) (most : Option Nat)

namespace Piece

/-- The piece matches this part of a text. -/
def Admits : Piece α → List α → Prop
  | word letters, part => List.Forall₂ (fun accepts c => accepts c = true) letters part
  | run accepts least most, part =>
    least ≤ part.length ∧ (∀ bound, most = some bound → part.length ≤ bound) ∧
      ∀ c ∈ part, accepts c = true

/-- The number of letters a run can take from a text. -/
def longest (accepts : α → Bool) (most : Option Nat) (text : List α) : Nat :=
  match most with
  | some bound => min bound (text.takeWhile accepts).length
  | none => (text.takeWhile accepts).length

/-- The lengths a piece can take from a text, the longest first. -/
def lengths : Piece α → List α → List Nat
  | word letters, text =>
    if letters.length ≤ text.length ∧ (List.zipWith (fun accepts c => accepts c) letters text).all id
    then [letters.length] else []
  | run accepts least most, text =>
    ((List.range (longest accepts most text + 1)).filter (least ≤ ·)).reverse

end Piece

/-- The parts of the first match of a whole text. -/
def fullmatch : List (Piece α) → List α → Option (List (List α))
  | [], text => if text.isEmpty then some [] else none
  | piece :: pieces, text =>
    (piece.lengths text).findSome? fun length =>
      (fullmatch pieces (text.drop length)).map (text.take length :: ·)

/-- The parts match the pieces, and are the text together. -/
def Matches (pieces : List (Piece α)) (text : List α) (parts : List (List α)) : Prop :=
  List.Forall₂ Piece.Admits pieces parts ∧ parts.flatten = text

/-! ### One piece -/

theorem zipWith_all_iff {letters : List (α → Bool)} {text : List α}
    (h : letters.length ≤ text.length) :
    (List.zipWith (fun accepts c => accepts c) letters text).all id = true ↔
      List.Forall₂ (fun accepts c => accepts c = true) letters (text.take letters.length) := by
  induction letters generalizing text with
  | nil => simp
  | cons accepts letters ih =>
    cases text with
    | nil => exact absurd h (by simp)
    | cons c text =>
      rw [List.length_cons, List.length_cons] at h
      rw [List.zipWith_cons_cons, List.all_cons, List.length_cons, List.take_succ_cons,
        List.forall₂_cons, Bool.and_eq_true, ih (Nat.le_of_succ_le_succ h), id]

theorem take_takeWhile {accepts : α → Bool} {text : List α} {length : Nat}
    (h : length ≤ (text.takeWhile accepts).length) : ∀ c ∈ text.take length, accepts c = true := by
  intro c hc
  have hlead : text.take length <+: text.takeWhile accepts :=
    List.prefix_of_prefix_length_le (List.take_prefix length text) (List.takeWhile_prefix accepts)
      (by rw [List.length_take]; omega)
  exact List.mem_takeWhile_imp (hlead.subset hc)

theorem length_le_takeWhile {accepts : α → Bool} {part rest : List α}
    (h : ∀ c ∈ part, accepts c = true) :
    part.length ≤ ((part ++ rest).takeWhile accepts).length := by
  have hlead : part <+: (part ++ rest).takeWhile accepts := by
    rw [List.takeWhile_append_of_pos h]
    exact List.prefix_append _ _
  exact hlead.length_le

theorem mem_lengths {piece : Piece α} {text : List α} {length : Nat} :
    length ∈ piece.lengths text ↔ length ≤ text.length ∧ piece.Admits (text.take length) := by
  cases piece with
  | word letters =>
    simp only [Piece.lengths, Piece.Admits]
    constructor
    · intro h
      split at h
      next hwhole =>
        obtain rfl := List.mem_singleton.1 h
        exact ⟨hwhole.1, (zipWith_all_iff hwhole.1).1 hwhole.2⟩
      next => exact absurd h (by simp)
    · rintro ⟨hlength, hadmits⟩
      have heq : letters.length = length := by
        rw [hadmits.length_eq, List.length_take]
        omega
      subst heq
      rw [if_pos ⟨hlength, (zipWith_all_iff hlength).2 hadmits⟩]
      exact List.mem_singleton_self _
  | run accepts least most =>
    have hle : length ≤ Piece.longest accepts most text ↔
        length ≤ (text.takeWhile accepts).length ∧ ∀ bound, most = some bound → length ≤ bound := by
      cases most with
      | none => simp [Piece.longest]
      | some bound => simp [Piece.longest, and_comm]
    simp only [Piece.lengths, Piece.Admits, List.mem_reverse, List.mem_filter, List.mem_range,
      Nat.lt_succ_iff, decide_eq_true_eq, hle]
    constructor
    · rintro ⟨⟨hrun, hbound⟩, hleast⟩
      have hlength := Nat.le_trans hrun (List.takeWhile_prefix accepts).length_le
      rw [List.length_take, Nat.min_eq_left hlength]
      exact ⟨hlength, hleast, hbound, take_takeWhile hrun⟩
    · rintro ⟨hlength, hleast, hbound, hall⟩
      rw [List.length_take, Nat.min_eq_left hlength] at hleast hbound
      have hrun := @length_le_takeWhile _ accepts _ (text.drop length) hall
      rw [List.take_append_drop, List.length_take, Nat.min_eq_left hlength] at hrun
      exact ⟨⟨hrun, hbound⟩, hleast⟩

/-! ### All pieces -/

theorem matches_cons {piece : Piece α} {pieces : List (Piece α)} {text : List α}
    {parts : List (List α)} : Matches (piece :: pieces) text parts ↔
      ∃ part rest, parts = part :: rest ∧ part ++ rest.flatten = text ∧ piece.Admits part ∧
        List.Forall₂ Piece.Admits pieces rest := by
  rw [Matches, List.forall₂_cons_left_iff]
  constructor
  · rintro ⟨⟨part, rest, hpart, hrest, rfl⟩, htext⟩
    exact ⟨part, rest, rfl, htext, hpart, hrest⟩
  · rintro ⟨part, rest, rfl, htext, hpart, hrest⟩
    exact ⟨⟨part, rest, hpart, hrest, rfl⟩, htext⟩

theorem fullmatch_matches {pieces : List (Piece α)} {text : List α} {parts : List (List α)}
    (h : fullmatch pieces text = some parts) : Matches pieces text parts := by
  induction pieces generalizing text parts with
  | nil =>
    rw [fullmatch] at h
    split at h
    next hempty =>
      cases h
      exact ⟨.nil, (List.isEmpty_iff.1 hempty).symm⟩
    next => exact absurd h (by simp)
  | cons piece pieces ih =>
    rw [fullmatch] at h
    obtain ⟨length, hlength, hrest⟩ := List.exists_of_findSome?_eq_some h
    obtain ⟨rest, hfound, rfl⟩ := Option.map_eq_some_iff.1 hrest
    obtain ⟨hadmits, hflatten⟩ := ih hfound
    refine matches_cons.2 ⟨_, rest, rfl, ?_, (mem_lengths.1 hlength).2, hadmits⟩
    rw [hflatten, List.take_append_drop]

theorem exists_fullmatch {pieces : List (Piece α)} {text : List α} {parts : List (List α)}
    (h : Matches pieces text parts) : ∃ found, fullmatch pieces text = some found := by
  induction pieces generalizing text parts with
  | nil =>
    obtain ⟨hparts, rfl⟩ := h
    obtain rfl := List.forall₂_nil_left_iff.1 hparts
    exact ⟨[], rfl⟩
  | cons piece pieces ih =>
    obtain ⟨part, rest, rfl, rfl, hpart, hrest⟩ := matches_cons.1 h
    obtain ⟨found, hfound⟩ := ih ⟨hrest, rfl⟩
    have hlength : part.length ∈ piece.lengths (part ++ rest.flatten) := by
      refine mem_lengths.2 ⟨by simp, ?_⟩
      rwa [List.take_left]
    rw [fullmatch, ← Option.isSome_iff_exists, List.findSome?_isSome_iff]
    refine ⟨part.length, hlength, ?_⟩
    rw [List.drop_left, hfound]
    rfl

/-! ### Separated patterns -/

/-- A letter that may start a text of the pieces. -/
def Starts : List (Piece α) → α → Prop
  | [], _ => False
  | .word [] :: pieces, c => Starts pieces c
  | .word (accepts :: _) :: _, c => accepts c = true
  | .run accepts least _ :: pieces, c => accepts c = true ∨ least = 0 ∧ Starts pieces c

/-- No run of the pattern can go on with a letter that may start what follows it. -/
def Separated : List (Piece α) → Prop
  | [] => True
  | .word _ :: pieces => Separated pieces
  | .run accepts _ _ :: pieces => (∀ c, accepts c = true → ¬Starts pieces c) ∧ Separated pieces

theorem starts_of_cons {pieces : List (Piece α)} {parts : List (List α)} {c : α} {rest : List α}
    (h : List.Forall₂ Piece.Admits pieces parts) (htext : parts.flatten = c :: rest) :
    Starts pieces c := by
  induction h with
  | nil => exact absurd htext (by simp)
  | @cons piece part pieces parts hpart hparts ih =>
    rw [List.flatten_cons] at htext
    cases piece with
    | word letters =>
      cases hpart with
      | nil => exact ih htext
      | cons haccepts _ =>
        rw [List.cons_append, List.cons.injEq] at htext
        exact htext.1 ▸ haccepts
    | run accepts least most =>
      obtain ⟨hleast, -, hall⟩ := hpart
      cases part with
      | nil => exact .inr ⟨Nat.le_zero.1 hleast, ih htext⟩
      | cons d part =>
        rw [List.cons_append, List.cons.injEq] at htext
        exact .inl (htext.1 ▸ hall d (List.mem_cons_self ..))

/-- A part that is shorter than another one of the same piece is followed by what the piece goes on
with. -/
theorem part_le {piece : Piece α} {pieces : List (Piece α)} {first second rest : List α}
    {parts : List (List α)} (hsep : Separated (piece :: pieces)) (hfirst : piece.Admits first)
    (hsecond : piece.Admits second) (hparts : List.Forall₂ Piece.Admits pieces parts)
    (h : first ++ parts.flatten = second ++ rest) : second.length ≤ first.length := by
  cases piece with
  | word letters => exact Nat.le_of_eq (hsecond.length_eq.symm.trans hfirst.length_eq)
  | run accepts least most =>
    by_contra hlt
    rw [not_le] at hlt
    obtain ⟨more, rfl⟩ : first <+: second :=
      List.prefix_of_prefix_length_le (List.prefix_append first parts.flatten)
        (h ▸ List.prefix_append second rest) hlt.le
    cases more with
    | nil => exact absurd hlt (by simp)
    | cons c more =>
      rw [List.append_assoc, List.append_cancel_left_eq, List.cons_append] at h
      have haccepts : accepts c = true := hsecond.2.2 c (by simp)
      exact hsep.1 c haccepts (starts_of_cons hparts h)

theorem Separated.tail {piece : Piece α} {pieces : List (Piece α)}
    (h : Separated (piece :: pieces)) : Separated pieces := by
  cases piece with
  | word letters => exact h
  | run accepts least most => exact h.2

theorem Matches.unique {pieces : List (Piece α)} {text : List α} {parts parts' : List (List α)}
    (hsep : Separated pieces) (h : Matches pieces text parts) (h' : Matches pieces text parts') :
    parts = parts' := by
  induction pieces generalizing text parts parts' with
  | nil =>
    rw [List.forall₂_nil_left_iff.1 h.1, List.forall₂_nil_left_iff.1 h'.1]
  | cons piece pieces ih =>
    obtain ⟨part, rest, rfl, htext, hpart, hrest⟩ := matches_cons.1 h
    obtain ⟨part', rest', rfl, htext', hpart', hrest'⟩ := matches_cons.1 h'
    have hlength : part.length = part'.length :=
      le_antisymm (part_le hsep hpart' hpart hrest' (htext'.trans htext.symm))
        (part_le hsep hpart hpart' hrest (htext.trans htext'.symm))
    obtain ⟨rfl, hflatten⟩ := List.append_inj (htext.trans htext'.symm) hlength
    rw [ih hsep.tail ⟨hrest, rfl⟩ ⟨hrest', hflatten.symm⟩]

theorem fullmatch_iff {pieces : List (Piece α)} {text : List α} {parts : List (List α)}
    (hsep : Separated pieces) :
    fullmatch pieces text = some parts ↔ Matches pieces text parts := by
  refine ⟨fullmatch_matches, fun h => ?_⟩
  obtain ⟨found, hfound⟩ := exists_fullmatch h
  rw [hfound, (fullmatch_matches hfound).unique hsep h]

end Pattern
