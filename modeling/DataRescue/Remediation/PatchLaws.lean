import DataRescue.Remediation.SqlSafety
import DataRescue.Python.Raising
import DataRescue.Text.Occurrences

/-!
# The patch is a single edit

A revenue default starts with the only opening brace in it, so the default of one column and that of
another never overlap. Rendering a patch replaces the one default of the model, and rendering it again
changes nothing (`renderDbtPatch_single`).
-/

namespace DataRescue

open Python Occurrences

/-! ### Counting and replacing -/

theorem countFrom_skip (needle first text : List Char) :
    countFrom needle first.length (first ++ text) = countFrom needle 0 text := by
  induction first with
  | nil => rfl
  | cons c first ih => rw [List.length_cons, List.cons_append, countFrom, ih]

/-- `text.count(needle)` is the number of positions at which the needle starts, when occurrences cannot
overlap. -/
theorem countFrom_eq {mark : Char} {needle : List Char} (h : Marked mark needle) (text : List Char) :
    countFrom needle 0 text = occurrences needle text := by
  induction hlength : text.length using Nat.strong_induction_on generalizing text with
  | h length ih =>
    cases text with
    | nil => rw [countFrom, occurrences, if_neg h.ne_nil]
    | cons c text =>
      rw [countFrom, occurrences]
      rw [List.length_cons] at hlength
      by_cases hlead : needle <+: c :: text
      · rw [if_pos (List.isPrefixOf_iff_prefix.2 hlead), if_pos hlead]
        have hmarked := h
        obtain ⟨rest, rfl, hrest⟩ := h
        obtain ⟨last, hlast⟩ := hlead
        rw [List.cons_append, List.cons.injEq] at hlast
        obtain ⟨rfl, rfl⟩ := hlast
        have hshorter : last.length < length := by
          rw [List.length_append] at hlength
          omega
        rw [List.length_cons, Nat.add_sub_cancel, countFrom_skip,
          occurrences_unmarked_append hmarked hrest, ih last.length hshorter last rfl, Nat.add_comm]
      · rw [if_neg fun hno => hlead (List.isPrefixOf_iff_prefix.1 hno), if_neg hlead, Nat.zero_add,
          ih text.length (by omega) text rfl]

theorem replaceFirst_split {old new : List Char} {text : List Char} (hold : old ≠ [])
    (h : 0 < occurrences old text) : ∃ first last, text = first ++ (old ++ last) ∧
      replaceFirst old new text = first ++ (new ++ last) := by
  induction text with
  | nil =>
    rw [occurrences, if_neg hold] at h
    exact absurd h (Nat.lt_irrefl 0)
  | cons c text ih =>
    rw [replaceFirst]
    by_cases hlead : old <+: c :: text
    · obtain ⟨last, hlast⟩ := hlead
      refine ⟨[], last, hlast.symm, ?_⟩
      rw [if_pos (List.isPrefixOf_iff_prefix.2 ⟨last, hlast⟩), ← hlast, List.drop_left]
      rfl
    · rw [occurrences, if_neg hlead, Nat.zero_add] at h
      obtain ⟨first, last, htext, hreplaced⟩ := ih h
      refine ⟨c :: first, last, by rw [htext]; rfl, ?_⟩
      rw [if_neg fun hno => hlead (List.isPrefixOf_iff_prefix.1 hno), hreplaced]
      rfl

/-! ### Revenue defaults -/

/-- The letters of a revenue default between its opening brace and the field. -/
def defaultHead : List Char :=
  "% set revenue_column = env_var(\"DATARESCUE_REVENUE_COLUMN\", \"".toList

/-- The letters of a revenue default after the quote that closes the field. -/
def defaultTail : List Char := ") %\x7d".toList

theorem append_toList {before field after : String} {head tail : List Char}
    (hbefore : before.toList = '{' :: head) (hafter : after.toList = tail) :
    (before ++ field ++ after).toList = '{' :: (head ++ (field.toList ++ tail)) := by
  rw [String.toList_append, String.toList_append, hbefore, hafter, List.append_assoc, List.cons_append]

theorem revenueDefault_toList (sourceField : String) : (revenueDefault sourceField).toList =
    '{' :: (defaultHead ++ (sourceField.toList ++ '"' :: defaultTail)) :=
  append_toList (by decide +kernel) (by decide +kernel)

theorem not_identifier_letter {c : Char} (hc : isIdentifierRest c = false) {field : String}
    (h : isIdentifier field = true) : c ∉ field.toList := by
  unfold isIdentifier at h
  split at h
  · exact absurd h (by simp)
  next first rest heq =>
    simp only [Bool.and_eq_true, List.all_eq_true] at h
    rw [heq, List.mem_cons, not_or]
    constructor
    · rintro rfl
      rw [isIdentifierRest, h.1.1] at hc
      exact absurd hc (by simp)
    · intro hmem
      exact absurd (h.1.2 c hmem) (by simp [hc])

theorem revenueDefault_marked {field : String} (h : isIdentifier field = true) :
    Marked '{' (revenueDefault field).toList := by
  refine ⟨_, revenueDefault_toList field, ?_⟩
  have hfield : '{' ∉ field.toList := not_identifier_letter (by decide) h
  have hends : '{' ∉ defaultHead ∧ '{' ∉ '"' :: defaultTail := by decide +kernel
  rw [List.mem_append, List.mem_append, not_or, not_or]
  exact ⟨hends.1, hfield, hends.2⟩

theorem field_eq_of_leading {field other rest rest' : List Char} (hfield : '"' ∉ field)
    (hother : '"' ∉ other) (h : field ++ '"' :: rest <+: other ++ '"' :: rest') : field = other := by
  induction field generalizing other with
  | nil =>
    cases other with
    | nil => rfl
    | cons c other =>
      rw [List.nil_append, List.cons_append, List.cons_prefix_cons] at h
      exact absurd (h.1 ▸ List.mem_cons_self ..) hother
  | cons c field ih =>
    cases other with
    | nil =>
      rw [List.nil_append, List.cons_append, List.cons_prefix_cons] at h
      exact absurd (h.1 ▸ List.mem_cons_self ..) hfield
    | cons d other =>
      rw [List.cons_append, List.cons_append, List.cons_prefix_cons] at h
      rw [List.mem_cons, not_or] at hfield hother
      rw [h.1, ih hfield.2 hother.2 h.2]

theorem revenueDefault_leading {field other : String} (hfield : isIdentifier field = true)
    (hother : isIdentifier other = true)
    (h : (revenueDefault field).toList <+: (revenueDefault other).toList) : field = other := by
  rw [revenueDefault_toList, revenueDefault_toList, List.cons_prefix_cons,
    List.prefix_append_right_inj] at h
  have hquote : ∀ {name : String}, isIdentifier name = true → '"' ∉ name.toList :=
    not_identifier_letter (by decide)
  exact String.toList_injective (field_eq_of_leading (hquote hfield) (hquote hother) h.2)

theorem revenueDefault_apart {field other : String} (hfield : isIdentifier field = true)
    (hother : isIdentifier other = true) (hne : field ≠ other) :
    Apart (revenueDefault field).toList (revenueDefault other).toList :=
  ⟨fun h => hne (revenueDefault_leading hfield hother h),
    fun h => hne (revenueDefault_leading hother hfield h).symm⟩

theorem count_eq {field : String} (h : isIdentifier field = true) (text : String) :
    count text (revenueDefault field) = occurrences (revenueDefault field).toList text.toList :=
  countFrom_eq (revenueDefault_marked h) text.toList

/-! ### Rendering -/

/-- A proposal whose field is an identifier and whose alias is `revenue`. -/
def Renderable (proposal : CandidateProposal) : Prop :=
  isIdentifier proposal.sourceField = true ∧ proposal.targetAlias = "revenue"

/-- The occurrences, in a text, of the default of the original column. -/
def originals (text : String) : Nat := count text (revenueDefault "amount")

/-- The occurrences, in a text, of the default a proposal asks for. -/
def desireds (proposal : CandidateProposal) (text : String) : Nat :=
  count text (revenueDefault proposal.sourceField)

variable {proposal : CandidateProposal} {text rendered : String}

theorem amount_identifier : isIdentifier "amount" = true := by decide +kernel

theorem originals_eq (text : String) :
    originals text = occurrences (revenueDefault "amount").toList text.toList :=
  count_eq amount_identifier text

theorem desireds_eq (h : Renderable proposal) (text : String) :
    desireds proposal text = occurrences (revenueDefault proposal.sourceField).toList text.toList :=
  count_eq h.1 text

/-- The text is `first`, the original default and `last`, and the result has the desired default in its
place. -/
def EditsAt (proposal : CandidateProposal) (text rendered : String) (first last : List Char) : Prop :=
  text.toList = first ++ ((revenueDefault "amount").toList ++ last) ∧
    rendered.toList = first ++ ((revenueDefault proposal.sourceField).toList ++ last)

theorem EditsAt.counts {first last : List Char} (h : Renderable proposal)
    (hedit : EditsAt proposal text rendered first last) (hone : originals text = 1)
    (hnone : desireds proposal text = 0) :
    originals rendered = 0 ∧ desireds proposal rendered = 1 := by
  have hne : "amount" ≠ proposal.sourceField := by
    intro heq
    rw [originals, heq] at hone
    rw [desireds] at hnone
    omega
  rw [originals_eq, hedit.1] at hone
  rw [desireds_eq h, hedit.1] at hnone
  rw [originals_eq, desireds_eq h, hedit.2]
  exact occurrences_replace (revenueDefault_marked amount_identifier) (revenueDefault_marked h.1)
    (revenueDefault_apart amount_identifier h.1 hne) hone hnone

theorem renderDbtPatch_eq (h : Renderable proposal) (text : String) :
    renderDbtPatch proposal text =
      if originals text = 0 ∧ desireds proposal text = 1 then .ok text
      else if originals text ≠ 1 ∨ desireds proposal text ≠ 0 then .error .ambiguousModel
      else
        let patched := String.ofList (replaceFirst (revenueDefault "amount").toList
          (revenueDefault proposal.sourceField).toList text.toList)
        if patched = text then .error .patchMadeNoChange else .ok patched := by
  have hfield : requireIdentifier proposal.sourceField "source field" = .ok proposal.sourceField := by
    rw [requireIdentifier, if_pos h.1]
  have halias : requireRevenueAlias proposal.targetAlias = .ok "revenue" := by
    rw [h.2]
    decide +kernel
  unfold renderDbtPatch
  rw [hfield, halias]
  rfl

/-- What rendering does: nothing to a text that has the desired default already, and else one
edit. -/
theorem renderDbtPatch_ok (h : Renderable proposal) :
    renderDbtPatch proposal text = .ok rendered ↔
      (originals text = 0 ∧ desireds proposal text = 1 ∧ rendered = text) ∨
      originals text = 1 ∧ desireds proposal text = 0 ∧
        ∃ first last, EditsAt proposal text rendered first last := by
  rw [renderDbtPatch_eq h]
  by_cases hdone : originals text = 0 ∧ desireds proposal text = 1
  · rw [if_pos hdone]
    constructor
    · intro heq
      exact .inl ⟨hdone.1, hdone.2, (Except.ok.inj heq).symm⟩
    · rintro (⟨-, -, rfl⟩ | ⟨hone, -⟩)
      · rfl
      · omega
  rw [if_neg hdone]
  by_cases hedit : originals text = 1 ∧ desireds proposal text = 0
  · have hpos : 0 < occurrences (revenueDefault "amount").toList text.toList := by
      rw [← originals_eq, hedit.1]
      omega
    have hnil : (revenueDefault "amount").toList ≠ [] :=
      (revenueDefault_marked amount_identifier).ne_nil
    obtain ⟨first, last, htext, hreplaced⟩ := @replaceFirst_split _
      (revenueDefault proposal.sourceField).toList _ hnil hpos
    have hpatched : EditsAt proposal text (String.ofList (replaceFirst
        (revenueDefault "amount").toList (revenueDefault proposal.sourceField).toList text.toList))
        first last := ⟨htext, by rw [hreplaced, String.toList_ofList]⟩
    rw [if_neg (by omega)]
    dsimp only
    rw [if_neg]
    · constructor
      · intro heq
        cases heq
        exact .inr ⟨hedit.1, hedit.2, first, last, hpatched⟩
      · rintro (⟨hnone, -⟩ | ⟨-, -, first', last', hother⟩)
        · omega
        · have hone := hedit.1
          rw [originals_eq] at hone
          obtain ⟨rfl, rfl⟩ := split_unique hnil hone htext hother.1
          rw [String.toList_injective (hpatched.2.trans hother.2.symm)]
    · intro hsame
      have hcounts := hpatched.counts h hedit.1 hedit.2
      rw [hsame] at hcounts
      omega
  · rw [if_pos (by omega)]
    constructor
    · intro heq
      exact absurd heq (by simp)
    · rintro (⟨hnone, hone, -⟩ | ⟨hone, hnone, -⟩)
      · exact absurd ⟨hnone, hone⟩ hdone
      · exact absurd ⟨hone, hnone⟩ hedit

/-- Rendering is a single exact edit, and rendering again changes nothing. -/
theorem renderDbtPatch_single (proposal : CandidateProposal) (text : String)
    (h : Renderable proposal) :
    (∀ rendered, renderDbtPatch proposal text = .ok rendered →
      (desireds proposal rendered = 1 ∧ originals rendered = 0) ∧
      (rendered = text ∨ ∃ first last, EditsAt proposal text rendered first last ∧
        ∀ first' last', text.toList = first' ++ ((revenueDefault "amount").toList ++ last') →
          first' = first ∧ last' = last) ∧
      renderDbtPatch proposal rendered = .ok rendered) ∧
    ((∃ error, renderDbtPatch proposal text = .error error) ↔
      ¬(originals text = 1 ∧ desireds proposal text = 0) ∧
        ¬(originals text = 0 ∧ desireds proposal text = 1)) ∧
    (proposal.sourceField = "amount" → ∃ error, renderDbtPatch proposal text = .error error) := by
  have hraises : (∃ error, renderDbtPatch proposal text = .error error) ↔
      ¬(originals text = 1 ∧ desireds proposal text = 0) ∧
        ¬(originals text = 0 ∧ desireds proposal text = 1) := by
    cases hrendered : renderDbtPatch proposal text with
    | ok rendered =>
      have hcases := (renderDbtPatch_ok h).1 hrendered
      exact ⟨fun ⟨_, heq⟩ => absurd heq (by simp), fun ⟨hone, hdone⟩ => by
        rcases hcases with ⟨hnone, hdesired, -⟩ | ⟨horiginal, hnone, -⟩
        · exact absurd ⟨hnone, hdesired⟩ hdone
        · exact absurd ⟨horiginal, hnone⟩ hone⟩
    | error error =>
      refine ⟨fun _ => ⟨?_, ?_⟩, fun _ => ⟨error, rfl⟩⟩
      · rintro ⟨hone, hnone⟩
        have hpos : 0 < occurrences (revenueDefault "amount").toList text.toList := by
          rw [← originals_eq, hone]
          omega
        obtain ⟨first, last, htext⟩ := exists_split hpos
        have hok := (renderDbtPatch_ok h).2 (.inr ⟨hone, hnone, first, last, htext,
          String.toList_ofList (l := first ++ ((revenueDefault proposal.sourceField).toList ++ last))⟩)
        rw [hok] at hrendered
        exact absurd hrendered (by simp)
      · rintro ⟨hnone, hone⟩
        rw [(renderDbtPatch_ok h).2 (.inl ⟨hnone, hone, rfl⟩)] at hrendered
        exact absurd hrendered (by simp)
  refine ⟨fun rendered hrendered => ?_, hraises, fun hamount => hraises.2 ?_⟩
  · have hcounts : originals rendered = 0 ∧ desireds proposal rendered = 1 := by
      rcases (renderDbtPatch_ok h).1 hrendered with ⟨hnone, hone, rfl⟩ |
        ⟨hone, hnone, first, last, hedit⟩
      · exact ⟨hnone, hone⟩
      · exact hedit.counts h hone hnone
    refine ⟨hcounts.symm, ?_, (renderDbtPatch_ok h).2 (.inl ⟨hcounts.1, hcounts.2, rfl⟩)⟩
    rcases (renderDbtPatch_ok h).1 hrendered with ⟨-, -, rfl⟩ | ⟨hone, -, first, last, hedit⟩
    · exact .inl rfl
    · refine .inr ⟨first, last, hedit, fun first' last' hsplit => ?_⟩
      rw [originals_eq] at hone
      exact split_unique (revenueDefault_marked amount_identifier).ne_nil hone hsplit hedit.1
  · rw [originals, desireds, hamount]
    omega

theorem renderDbtPatch_single_model :
    desireds { id := "c", sourceField := "net_amount", rationale := "" }
        ("-- model\n" ++ revenueDefault "net_amount") = 1 ∧
      originals ("-- model\n" ++ revenueDefault "net_amount") = 0 :=
  ((renderDbtPatch_single { id := "c", sourceField := "net_amount", rationale := "" }
    ("-- model\n" ++ revenueDefault "amount") ⟨by decide +kernel, rfl⟩).1 _ (by decide +kernel)).1

end DataRescue
