import DataRescue.Python.Sha256
import DataRescue.Remediation.RemoteUrl
import DataRescue.Remediation.SqlGate
import Mathlib.Data.List.DropRight

/-!
# The schema of a candidate

`_candidate_schema` of `packages/evidence/executor.py`. A name is made of the case id and of the source
field, folded and stripped; a long one is shortened and ends in a digest. Two fields of one case get two
names when what is left of them differs and neither spells the shortened name of the other
(`candidateSchema_distinct`).
-/

namespace DataRescue

open Python

/-! ### The name -/

/-- `[a-z0-9_]` -/
def isSchemaChar (c : Char) : Bool :=
  ('a' ≤ c && c ≤ 'z') || ('0' ≤ c && c ≤ '9') || c == '_'

/-- The pattern `[^a-z0-9_]+` replaced by `_`; `inRun` says that the current run is replaced already. -/
def underscored (inRun : Bool) : List Char → List Char
  | [] => []
  | c :: rest =>
    if isSchemaChar c then c :: underscored false rest
    else if inRun then underscored true rest
    else '_' :: underscored true rest

/-- The part of the name for the case or for the field. -/
def schemaPart (value : String) : List Char :=
  stripWhere (· == '_') (underscored false (casefold value).toList)

/-- The name before it is shortened. -/
def normalizedSchema (caseId sourceField : String) : List Char :=
  "candidate_".toList ++ schemaPart caseId ++ '_' :: schemaPart sourceField

/-- The digest in a shortened name. -/
def schemaDigest (normalized : List Char) : List Char :=
  (sha256Hexdigest (encode (String.ofList normalized))).toList.take 12

/-- The end of a shortened name. -/
def schemaSuffix (sourcePart normalized : List Char) : List Char :=
  '_' :: sourcePart.take 16 ++ '_' :: schemaDigest normalized

/-- `normalized[: 63 - len(suffix)].rstrip("_") + suffix` -/
def shortened (sourcePart normalized : List Char) : List Char :=
  (normalized.take (63 - (schemaSuffix sourcePart normalized).length)).rdropWhile (· == '_') ++
    schemaSuffix sourcePart normalized

/-- `_candidate_schema` -/
def candidateSchema (caseId sourceField : String) : Except SqlSafetyError String :=
  let normalized := normalizedSchema caseId sourceField
  let name := if 63 < normalized.length then shortened (schemaPart sourceField) normalized else normalized
  requireIdentifier (String.ofList name) "candidate schema"

example : candidateSchema "DR-996C48F0" "net_amount" = .ok "candidate_dr_996c48f0_net_amount" ∧
    candidateSchema "DR-996C48F0996C48F0996C48F0996C48F0996C48F0" "net_amount" =
      .ok "candidate_dr_996c48f0996c48f0996c48f099_net_amount_232cc78ec2ef" := by
  decide +kernel

/-! ### The parts of a name -/

theorem schemaChar_ascii {c : Char} (h : isSchemaChar c = true) : c.toNat < 128 := by
  refine ascii_of_identifierRest ?_
  simp only [isSchemaChar, isIdentifierRest, isIdentifierStart, Bool.or_eq_true] at h ⊢
  rcases h with (h | h) | h
  · exact .inl (.inl (.inr h))
  · exact .inr h
  · exact .inl (.inr h)

theorem schemaChar_of_identifier {c : Char} (h : isIdentifierRest c = true) :
    isSchemaChar c.toLower = true :=
  of_codes (P := fun c => isIdentifierRest c = true → isSchemaChar c.toLower = true)
    (by decide +kernel) (List.mem_range.2 (ascii_of_identifierRest h)) h

theorem schemaChar_of_hexDigit {c : Char} (h : isHexDigit c = true) :
    isIdentifierRest c = true ∧ c.toLower ≠ '_' := by
  have hrest : isIdentifierRest c = true := by
    simp only [isHexDigit, isIdentifierRest, isIdentifierStart, Bool.or_eq_true, Bool.and_eq_true,
      decide_eq_true_eq, beq_iff_eq] at h ⊢
    rcases h with (h | h) | h
    · exact .inr h
    · exact .inl (.inl (.inr ⟨h.1, Char.le_trans h.2 (by decide)⟩))
    · exact .inl (.inl (.inl ⟨h.1, Char.le_trans h.2 (by decide)⟩))
  exact ⟨hrest, of_codes (P := fun c => isHexDigit c = true → c.toLower ≠ '_')
    (by decide +kernel) (List.mem_range.2 (ascii_of_identifierRest hrest)) h⟩

theorem underscored_of_safe {text : List Char} (h : ∀ c ∈ text, isSchemaChar c = true) (inRun : Bool) :
    underscored inRun text = text := by
  induction text generalizing inRun with
  | nil => rfl
  | cons c text ih =>
    obtain ⟨hc, htext⟩ := List.forall_mem_cons.1 h
    rw [underscored, if_pos hc, ih htext]

theorem schemaPart_identifier {value : String} (h : isIdentifier value = true) :
    schemaPart value = stripWhere (· == '_') (value.toList.map Char.toLower) := by
  obtain ⟨first, rest, hvalue, hfirst, hrest, -⟩ := isIdentifier_cons h
  have hall : ∀ c ∈ value.toList, isIdentifierRest c = true := by
    rw [hvalue, List.forall_mem_cons]
    exact ⟨by rw [isIdentifierRest, hfirst, Bool.true_or], hrest⟩
  rw [schemaPart, casefold, String.toList_ofList,
    flatMap_casefold_of_ascii fun c hc => ascii_of_identifierRest (hall c hc)]
  rw [underscored_of_safe]
  intro c hc
  obtain ⟨d, hd, rfl⟩ := List.mem_map.1 hc
  exact schemaChar_of_identifier (hall d hd)

theorem stripWhere_leading (p : Char → Bool) (text : List Char) :
    stripWhere p text <+: text.dropWhile p := by
  rw [stripWhere, ← List.reverse_suffix, List.reverse_reverse]
  exact List.dropWhile_suffix p

theorem stripWhere_mem {p : Char → Bool} {text : List Char} {c : Char} (h : c ∈ stripWhere p text) :
    c ∈ text :=
  (List.dropWhile_suffix p).subset ((stripWhere_leading p text).subset h)

theorem stripWhere_head {p : Char → Bool} {text rest : List Char} {c : Char}
    (h : stripWhere p text = c :: rest) : p c = false := by
  obtain ⟨more, hmore⟩ := stripWhere_leading p text
  have hhead := List.head?_dropWhile_not p text
  rw [← hmore, h, List.cons_append] at hhead
  exact hhead

theorem sourcePart_safe {value : String} (h : isIdentifier value = true) :
    (∀ c ∈ schemaPart value, isSchemaChar c = true) ∧
      ∀ c rest, schemaPart value = c :: rest → c ≠ '_' := by
  constructor
  · intro c hc
    rw [schemaPart_identifier h] at hc
    obtain ⟨d, hd, rfl⟩ := List.mem_map.1 (stripWhere_mem hc)
    obtain ⟨first, rest, hvalue, hfirst, hrest, -⟩ := isIdentifier_cons h
    rw [hvalue, List.mem_cons] at hd
    rcases hd with rfl | hd
    · exact schemaChar_of_identifier (by rw [isIdentifierRest, hfirst, Bool.true_or])
    · exact schemaChar_of_identifier (hrest d hd)
  · intro c rest heq
    have hhead := @stripWhere_head (· == '_') _ rest c heq
    exact ne_of_beq_false hhead

/-- A case id: `DR-` and 8 to 64 hexadecimal digits. -/
def IsCaseId (caseId : String) (digits : List Char) : Prop :=
  caseId.toList = "DR-".toList ++ digits ∧ 8 ≤ digits.length ∧ digits.length ≤ 64 ∧
    ∀ c ∈ digits, isHexDigit c = true

theorem casePart_eq {caseId : String} {digits : List Char} (h : IsCaseId caseId digits) :
    schemaPart caseId = "dr_".toList ++ digits.map Char.toLower := by
  obtain ⟨htext, hshort, -, hdigits⟩ := h
  have hdr : "DR-".toList = ['D', 'R', '-'] := by simp
  have hlower : "dr_".toList = ['d', 'r', '_'] := by simp
  have hascii : ∀ c ∈ caseId.toList, c.toNat < 128 := by
    rw [htext, hdr, List.forall_mem_append]
    exact ⟨by decide, fun c hc => ascii_of_identifierRest (schemaChar_of_hexDigit (hdigits c hc)).1⟩
  have hsafe : ∀ c ∈ digits.map Char.toLower, isSchemaChar c = true := by
    intro c hc
    obtain ⟨d, hd, rfl⟩ := List.mem_map.1 hc
    exact schemaChar_of_identifier (schemaChar_of_hexDigit (hdigits d hd)).1
  have hunder : underscored false (caseId.toList.map Char.toLower) =
      "dr_".toList ++ digits.map Char.toLower := by
    rw [htext, hdr, hlower, List.map_append]
    change 'd' :: 'r' :: '_' :: underscored true (digits.map Char.toLower) = _
    rw [underscored_of_safe hsafe]
    rfl
  rw [schemaPart, casefold, String.toList_ofList, flatMap_casefold_of_ascii hascii, hunder, hlower]
  have hne : digits.map Char.toLower ≠ [] := by
    rw [ne_eq, List.map_eq_nil_iff]
    rintro rfl
    exact absurd hshort (by decide)
  obtain ⟨init, last, hlast⟩ := List.eq_nil_or_concat' (digits.map Char.toLower) |>.resolve_left hne
  have hmem : last ∈ digits.map Char.toLower := hlast ▸ by simp
  obtain ⟨d, hd, rfl⟩ := List.mem_map.1 hmem
  have hstrip := @stripWhere_append (· == '_') [] (['d', 'r', '_'] ++ digits.map Char.toLower) [] 'd'
    d.toLower (by simp) (by simp) rfl (by rw [hlast, ← List.append_assoc, List.getLast?_concat])
    (by decide) (beq_false_of_ne (schemaChar_of_hexDigit (hdigits d hd)).2)
  rwa [List.nil_append, List.append_nil] at hstrip

/-! ### Long names -/

theorem rdropWhile_append_of_not {p : Char → Bool} {first rest : List Char} {last : Char}
    (h : p last = false) :
    (first ++ last :: rest).rdropWhile p = first ++ last :: rest.rdropWhile p := by
  induction rest using List.reverseRecOn with
  | nil =>
    rw [List.rdropWhile_nil, List.rdropWhile_concat_neg _ _ _ (by simp [h])]
  | append_singleton rest c ih =>
    rw [← List.cons_append, ← List.append_assoc]
    by_cases hc : p c = true
    · rw [List.rdropWhile_concat_pos _ _ _ hc, List.rdropWhile_concat_pos _ _ _ hc, ih]
    · rw [List.rdropWhile_concat_neg _ _ _ hc, List.rdropWhile_concat_neg _ _ _ hc]
      simp

theorem schemaDigest_length (normalized : List Char) : (schemaDigest normalized).length = 12 := by
  have hlength := (hexdigest_digits (encode (String.ofList normalized))).1
  rw [← String.length_toList] at hlength
  rw [schemaDigest, List.length_take, hlength]
  rfl

theorem schemaSuffix_length (part normalized : List Char) :
    (schemaSuffix part normalized).length = 14 + min 16 part.length := by
  rw [schemaSuffix, List.length_append, List.length_cons, List.length_cons, List.length_take,
    schemaDigest_length]
  omega

/-- What a field spells, after the case of a short id, to get the shortened name of another one. -/
def imitation (digits : Nat) (part normalized : List Char) : List Char :=
  (if digits ≤ 18 then (part.take (19 - digits)).rdropWhile (· == '_') ++ ['_'] else []) ++
    part.take 16 ++ '_' :: schemaDigest normalized

/-- `candidate_dr_` -/
def casePrefix : List Char := ['c', 'a', 'n', 'd', 'i', 'd', 'a', 't', 'e', '_', 'd', 'r', '_']

theorem casePrefix_length : casePrefix.length = 13 := rfl

/-- The name of a field before it is shortened, for the digits of a case id. -/
def fullName (hex part : List Char) : List Char := casePrefix ++ hex ++ '_' :: part

variable {hex part : List Char}

theorem fullName_length (hex part : List Char) :
    (fullName hex part).length = 14 + hex.length + part.length := by
  rw [fullName, List.length_append, List.length_append, List.length_cons, casePrefix_length]
  omega

theorem shortened_of_long_id (hhex : ∀ c ∈ hex, c ≠ '_') (hlong : 63 < (fullName hex part).length)
    (hid : 20 < hex.length) : ∃ cut rest, cut < hex.length ∧
      shortened part (fullName hex part) = casePrefix ++ hex.take cut ++ '_' :: rest := by
  rw [fullName_length] at hlong
  have hcut : 63 - (schemaSuffix part (fullName hex part)).length = 13 + (36 - min 16 part.length) := by
    rw [schemaSuffix_length]
    omega
  refine ⟨36 - min 16 part.length, part.take 16 ++ '_' :: schemaDigest (fullName hex part), by omega, ?_⟩
  rw [shortened, hcut]
  generalize hsize : 36 - min 16 part.length = cut
  have hlt : cut < hex.length := by omega
  have htake : (fullName hex part).take (13 + cut) = casePrefix ++ hex.take cut := by
    rw [fullName, List.append_assoc, ← casePrefix_length, List.take_length_add_append,
      List.take_append_of_le_length (by omega)]
  obtain ⟨init, last, hlast⟩ := List.eq_nil_or_concat' (hex.take cut) |>.resolve_left fun hnil => by
    have hlength := congrArg List.length hnil
    rw [List.length_take, List.length_nil] at hlength
    omega
  have hne : last ≠ '_' := hhex last (List.mem_of_mem_take (hlast ▸ by simp : last ∈ hex.take cut))
  rw [htake, hlast, ← List.append_assoc, List.rdropWhile_concat_neg _ _ _ (by simpa using hne)]
  rfl

theorem shortened_of_short_id (hhex : ∀ c ∈ hex, c ≠ '_') (hne : hex ≠ [])
    (hpart : ∀ c rest, part = c :: rest → c ≠ '_') (hlong : 63 < (fullName hex part).length)
    (hid : hex.length ≤ 20) :
    shortened part (fullName hex part) =
      fullName hex (imitation hex.length part (fullName hex part)) := by
  rw [fullName_length] at hlong
  have hcut : 63 - (schemaSuffix part (fullName hex part)).length = 13 + 20 := by
    rw [schemaSuffix_length]
    omega
  have htake : (fullName hex part).take (13 + 20) = casePrefix ++ (hex ++ '_' :: part).take 20 := by
    rw [fullName, List.append_assoc, ← casePrefix_length, List.take_length_add_append]
  have hhead : (casePrefix ++ hex).rdropWhile (· == '_') = casePrefix ++ hex := by
    obtain ⟨init, last, rfl⟩ := List.eq_nil_or_concat' hex |>.resolve_left hne
    have hlast : last ≠ '_' := hhex last (by simp)
    rw [← List.append_assoc, List.rdropWhile_concat_neg _ _ _ (by simpa using hlast)]
  rw [shortened, hcut, htake, imitation]
  by_cases hsmall : hex.length ≤ 18
  · obtain ⟨c, rest, rfl⟩ : ∃ c rest, part = c :: rest := by
      cases part with
      | nil => exact absurd hlong (by simp; omega)
      | cons c rest => exact ⟨c, rest, rfl⟩
    have hc : (c == '_') = false := beq_false_of_ne (hpart c rest rfl)
    obtain ⟨count, hcount⟩ : ∃ count, 19 - hex.length = count + 1 := ⟨18 - hex.length, by omega⟩
    have hinner : (hex ++ '_' :: c :: rest).take 20 = hex ++ '_' :: c :: rest.take count := by
      rw [show 20 = hex.length + (count + 1 + 1) by omega, List.take_length_add_append,
        List.take_succ_cons, List.take_succ_cons]
    have hwhole := @rdropWhile_append_of_not (· == '_') (casePrefix ++ hex ++ ['_']) (rest.take count) c hc
    have hpart := @rdropWhile_append_of_not (· == '_') [] (rest.take count) c hc
    rw [List.nil_append, List.nil_append] at hpart
    rw [if_pos hsmall, hinner, hcount, List.take_succ_cons, hpart, fullName, schemaSuffix]
    simp only [List.append_assoc, List.nil_append, List.cons_append] at hwhole ⊢
    rw [hwhole]
    simp [fullName]
  · have hinner : ((casePrefix ++ (hex ++ '_' :: part).take 20)).rdropWhile (· == '_') =
        casePrefix ++ hex := by
      by_cases hlength : hex.length = 20
      · rw [← hlength, List.take_left, hhead]
      · rw [show 20 = hex.length + 1 by omega, List.take_length_add_append, List.take_succ_cons,
          List.take_zero, ← List.append_assoc, List.rdropWhile_concat_pos _ _ _ (by decide), hhead]
    rw [if_neg hsmall, hinner, schemaSuffix, List.nil_append]
    simp [fullName]

/-! ### Every name is a lower-case identifier -/

/-- A lower-case identifier that PostgreSQL does not truncate. -/
def IsSchemaName (name : String) : Prop :=
  isIdentifier name = true ∧ name.length ≤ 63 ∧ ∀ c ∈ name.toList, isSchemaChar c = true

theorem isIdentifier_of_safe {first : Char} {rest : List Char}
    (hfirst : isIdentifierStart first = true) (hrest : ∀ c ∈ rest, isSchemaChar c = true)
    (hlength : rest.length ≤ 127) : isIdentifier (String.ofList (first :: rest)) = true := by
  have hall : ∀ c ∈ rest, isIdentifierRest c = true := by
    intro c hc
    have hsafe := hrest c hc
    exact of_codes (P := fun c => isSchemaChar c = true → isIdentifierRest c = true) (by decide +kernel)
      (List.mem_range.2 (schemaChar_ascii hsafe)) hsafe
  rw [isIdentifier, String.toList_ofList]
  simp only [hfirst, Bool.true_and, Bool.and_eq_true, List.all_eq_true, decide_eq_true_eq]
  exact ⟨hall, hlength⟩

/-- The name of a field, for the digits of a case id. -/
def schemaName (hex part : List Char) : List Char :=
  if 63 < (fullName hex part).length then shortened part (fullName hex part) else fullName hex part

theorem fullName_safe (hhex : ∀ c ∈ hex, isSchemaChar c = true)
    (hpart : ∀ c ∈ part, isSchemaChar c = true) : ∀ c ∈ fullName hex part, isSchemaChar c = true := by
  rw [fullName, List.forall_mem_append, List.forall_mem_append, List.forall_mem_cons]
  exact ⟨⟨by decide, hhex⟩, by decide, hpart⟩

theorem schemaSuffix_safe {normalized : List Char} (hpart : ∀ c ∈ part, isSchemaChar c = true) :
    ∀ c ∈ schemaSuffix part normalized, isSchemaChar c = true := by
  have hdigits : ∀ c ∈ Sha256.hexDigits, isSchemaChar c = true := by decide +kernel
  rw [schemaSuffix, List.cons_append, List.forall_mem_cons, List.forall_mem_append,
    List.forall_mem_cons]
  refine ⟨by decide, fun c hc => hpart c (List.mem_of_mem_take hc), by decide, fun c hc => ?_⟩
  exact hdigits c ((hexdigest_digits _).2 c (List.mem_of_mem_take hc))

theorem shortened_cons {first : Char} {rest : List Char} (hfirst : (first == '_') = false)
    (part : List Char) : ∃ more, shortened part (first :: rest) = first :: more ∧
      (shortened part (first :: rest)).length ≤ 63 ∧
        ∀ c ∈ more, c ∈ rest ∨ c ∈ schemaSuffix part (first :: rest) := by
  have hlength := schemaSuffix_length part (first :: rest)
  obtain ⟨count, hcount⟩ : ∃ count,
      63 - (schemaSuffix part (first :: rest)).length = count + 1 :=
    ⟨62 - (schemaSuffix part (first :: rest)).length, by omega⟩
  have hdrop := @rdropWhile_append_of_not (· == '_') [] (rest.take count) first hfirst
  rw [List.nil_append, List.nil_append] at hdrop
  have hlead := List.rdropWhile_prefix (· == '_') (rest.take count)
  refine ⟨(rest.take count).rdropWhile (· == '_') ++ schemaSuffix part (first :: rest), ?_, ?_, ?_⟩
  · rw [shortened, hcount, List.take_succ_cons, hdrop, List.cons_append]
  · have hle := hlead.length_le
    rw [List.length_take] at hle
    rw [shortened, hcount, List.take_succ_cons, hdrop, List.length_append, List.length_cons]
    omega
  · intro c hc
    rw [List.mem_append] at hc
    exact hc.imp_left fun hmem => List.mem_of_mem_take (hlead.subset hmem)

theorem schemaName_valid (hhex : ∀ c ∈ hex, isSchemaChar c = true)
    (hpart : ∀ c ∈ part, isSchemaChar c = true) : IsSchemaName (String.ofList (schemaName hex part)) := by
  have hsafe := fullName_safe hhex hpart
  obtain ⟨rest, hcons⟩ : ∃ rest, fullName hex part = 'c' :: rest := ⟨_, rfl⟩
  unfold schemaName
  split
  next hlong =>
    rw [hcons] at hsafe ⊢
    obtain ⟨more, hmore, hlength, hmem⟩ := @shortened_cons 'c' rest (by decide) part
    have hsafe' : ∀ c ∈ more, isSchemaChar c = true := by
      intro c hc
      rcases hmem c hc with hc | hc
      · exact hsafe c (List.mem_cons_of_mem _ hc)
      · exact schemaSuffix_safe hpart c hc
    rw [hmore] at hlength ⊢
    rw [List.length_cons] at hlength
    refine ⟨isIdentifier_of_safe (by decide) hsafe' (by omega), ?_, ?_⟩
    · rw [String.length_ofList, List.length_cons]
      exact hlength
    · rw [String.toList_ofList, List.forall_mem_cons]
      exact ⟨by decide, hsafe'⟩
  next hshort =>
    rw [hcons] at hsafe hshort ⊢
    rw [List.length_cons] at hshort
    refine ⟨isIdentifier_of_safe (by decide) (List.forall_mem_cons.1 hsafe).2 (by omega), ?_, ?_⟩
    · rw [String.length_ofList, List.length_cons]
      omega
    · rwa [String.toList_ofList]

/-! ### Names are distinct -/

variable {caseId field other : String} {digits : List Char}

theorem normalizedSchema_eq (h : IsCaseId caseId digits) :
    normalizedSchema caseId field = fullName (digits.map Char.toLower) (schemaPart field) := by
  have hlead : "candidate_".toList ++ "dr_".toList = casePrefix := by simp [casePrefix]
  have happend : ∀ {first second middle rest : List Char}, first ++ second = casePrefix →
      first ++ (second ++ middle) ++ '_' :: rest = fullName middle rest := by
    intro first second middle rest heq
    rw [← List.append_assoc, heq, fullName]
  unfold normalizedSchema
  exact (congrArg (fun part => "candidate_".toList ++ part ++ '_' :: schemaPart field)
    (casePart_eq h)).trans (happend hlead)

theorem caseDigits (h : IsCaseId caseId digits) :
    (∀ c ∈ digits.map Char.toLower, isSchemaChar c = true ∧ c ≠ '_') ∧
      digits.map Char.toLower ≠ [] := by
  obtain ⟨-, hshort, -, hdigits⟩ := h
  constructor
  · intro c hc
    obtain ⟨d, hd, rfl⟩ := List.mem_map.1 hc
    have hdigit := schemaChar_of_hexDigit (hdigits d hd)
    exact ⟨schemaChar_of_identifier hdigit.1, hdigit.2⟩
  · rw [ne_eq, List.map_eq_nil_iff]
    rintro rfl
    exact absurd hshort (by decide)

theorem candidateSchema_eq (hcase : IsCaseId caseId digits) (hfield : isIdentifier field = true) :
    candidateSchema caseId field =
        .ok (String.ofList (schemaName (digits.map Char.toLower) (schemaPart field))) ∧
      IsSchemaName (String.ofList (schemaName (digits.map Char.toLower) (schemaPart field))) := by
  have hvalid := schemaName_valid (fun c hc => ((caseDigits hcase).1 c hc).1) (sourcePart_safe hfield).1
  refine ⟨?_, hvalid⟩
  rw [candidateSchema, normalizedSchema_eq hcase]
  exact requireIdentifier_ok.2 ⟨hvalid.1, rfl⟩

/-- A field is spelled like the shortened name of another one, after a case id of at most 20 digits. -/
def Imitates (digits : List Char) (caseId field other : String) : Prop :=
  digits.length ≤ 20 ∧ 49 < digits.length + (schemaPart other).length ∧
    schemaPart field = imitation digits.length (schemaPart other) (normalizedSchema caseId other)

theorem fullName_inj {hex part part' : List Char} : fullName hex part = fullName hex part' ↔
    part = part' := by
  simp [fullName]

theorem fullName_eq_shortened {hex part part' : List Char} (hhex : ∀ c ∈ hex, c ≠ '_') (hne : hex ≠ [])
    (hpart' : ∀ c rest, part' = c :: rest → c ≠ '_') (hlong : 63 < (fullName hex part').length) :
    fullName hex part = shortened part' (fullName hex part') ↔
      hex.length ≤ 20 ∧ part = imitation hex.length part' (fullName hex part') := by
  by_cases hid : hex.length ≤ 20
  · rw [shortened_of_short_id hhex hne hpart' hlong hid, fullName_inj]
    exact (and_iff_right hid).symm
  · refine iff_of_false (fun heq => ?_) fun h => hid h.1
    obtain ⟨cut, rest, hcut, hname⟩ := shortened_of_long_id hhex hlong (Nat.not_le.1 hid)
    -- Where the shortened name goes on after the id, the other one still has a digit.
    rw [hname, fullName, List.append_assoc, List.append_assoc, List.append_cancel_left_eq,
      ← List.take_append_drop cut hex, List.append_assoc, List.take_append_drop,
      List.append_cancel_left_eq] at heq
    cases hdrop : hex.drop cut with
    | nil =>
      have hlength := congrArg List.length hdrop
      rw [List.length_drop, List.length_nil] at hlength
      omega
    | cons c tail =>
      rw [hdrop, List.cons_append, List.cons.injEq] at heq
      exact hhex c (List.mem_of_mem_drop (hdrop ▸ by simp : c ∈ hex.drop cut)) heq.1

theorem schemaDigest_of_eq {part part' normalized normalized' : List Char}
    (h : shortened part normalized = shortened part' normalized') :
    schemaDigest normalized = schemaDigest normalized' := by
  have hend : ∀ part normalized, ∃ first, shortened part normalized = first ++ schemaDigest normalized := by
    intro part normalized
    rw [shortened]
    generalize (normalized.take _).rdropWhile (· == '_') = kept
    exact ⟨kept ++ ('_' :: part.take 16 ++ ['_']), by simp [schemaSuffix]⟩
  obtain ⟨first, hfirst⟩ := hend part normalized
  obtain ⟨second, hsecond⟩ := hend part' normalized'
  rw [hfirst, hsecond] at h
  exact (List.append_inj' h (by rw [schemaDigest_length, schemaDigest_length])).2

theorem imitation_length {count : Nat} (hcount : count ≤ 20) (part normalized : List Char) :
    count + (imitation count part normalized).length ≤ 49 := by
  have hkept := (List.rdropWhile_prefix (· == '_') (part.take (19 - count))).length_le
  rw [List.length_take] at hkept
  rw [imitation, List.length_append, List.length_append, List.length_cons, List.length_take,
    schemaDigest_length]
  split
  · rw [List.length_append, List.length_singleton]
    omega
  · rw [List.length_nil]
    omega

/-- A part of a name imitates another one. -/
def Spells (hex part part' : List Char) : Prop :=
  hex.length ≤ 20 ∧ 49 < hex.length + part'.length ∧
    part = imitation hex.length part' (fullName hex part')

theorem schemaName_eq_iff {hex part part' : List Char} (hhex : ∀ c ∈ hex, c ≠ '_') (hne : hex ≠ [])
    (hpart : ∀ c rest, part = c :: rest → c ≠ '_') (hpart' : ∀ c rest, part' = c :: rest → c ≠ '_')
    (hdigest : fullName hex part ≠ fullName hex part' →
      schemaDigest (fullName hex part) ≠ schemaDigest (fullName hex part')) :
    schemaName hex part = schemaName hex part' ↔
      part = part' ∨ Spells hex part part' ∨ Spells hex part' part := by
  have hfull := fullName_length hex part
  have hfull' := fullName_length hex part'
  have hlong : ∀ {first second : List Char}, Spells hex first second →
      hex.length + first.length ≤ 49 ∧ 49 < hex.length + second.length := by
    rintro first second ⟨hid, hsecond, rfl⟩
    exact ⟨imitation_length hid _ _, hsecond⟩
  unfold schemaName
  by_cases hfits : 63 < (fullName hex part).length
  · rw [if_pos hfits]
    have hno : ¬Spells hex part part' := fun h => by have hle := (hlong h).1; omega
    by_cases hfits' : 63 < (fullName hex part').length
    · rw [if_pos hfits']
      have hno' : ¬Spells hex part' part := fun h => by have hle := (hlong h).1; omega
      simp only [hno, hno', or_false]
      constructor
      · intro heq
        by_contra hdistinct
        exact hdigest (fun hsame => hdistinct (fullName_inj.1 hsame)) (schemaDigest_of_eq heq)
      · rintro rfl
        rfl
    · rw [if_neg hfits', eq_comm, fullName_eq_shortened hhex hne hpart hfits]
      have hdistinct : part ≠ part' := by
        rintro rfl
        exact hfits' hfits
      simp only [hno, hdistinct, false_or]
      rw [Spells]
      refine and_congr_right fun _ => (and_iff_right ?_).symm
      omega
  · rw [if_neg hfits]
    have hno' : ¬Spells hex part' part := fun h => by have hlt := (hlong h).2; omega
    by_cases hfits' : 63 < (fullName hex part').length
    · rw [if_pos hfits', fullName_eq_shortened hhex hne hpart' hfits']
      have hdistinct : part ≠ part' := by
        rintro rfl
        exact hfits hfits'
      simp only [hno', hdistinct, false_or, or_false]
      rw [Spells]
      refine and_congr_right fun _ => (and_iff_right ?_).symm
      omega
    · have hno : ¬Spells hex part part' := fun h => by have hlt := (hlong h).2; omega
      rw [if_neg hfits', fullName_inj]
      simp only [hno, hno', or_false]

/-- Two fields of one case get two schemas, lower-case identifiers of at most 63 characters, exactly
when what is left of the fields differs and neither imitates the other. -/
theorem candidateSchema_distinct (caseId field other : String) (digits : List Char)
    (hcase : IsCaseId caseId digits) (hfield : isIdentifier field = true)
    (hother : isIdentifier other = true)
    (hdigest : normalizedSchema caseId field ≠ normalizedSchema caseId other →
      schemaDigest (normalizedSchema caseId field) ≠ schemaDigest (normalizedSchema caseId other)) :
    (∃ name name', candidateSchema caseId field = .ok name ∧ candidateSchema caseId other = .ok name' ∧
        IsSchemaName name ∧ IsSchemaName name' ∧ name ≠ name') ↔
      schemaPart field ≠ schemaPart other ∧ ¬Imitates digits caseId field other ∧
        ¬Imitates digits caseId other field := by
  obtain ⟨hname, hvalid⟩ := candidateSchema_eq hcase hfield
  obtain ⟨hname', hvalid'⟩ := candidateSchema_eq hcase hother
  obtain ⟨hdigits, hne⟩ := caseDigits hcase
  have hlength : digits.length = (digits.map Char.toLower).length := (List.length_map ..).symm
  simp only [normalizedSchema_eq hcase] at hdigest
  have hsame := schemaName_eq_iff (fun c hc => (hdigits c hc).2) hne (sourcePart_safe hfield).2
    (sourcePart_safe hother).2 hdigest
  rw [Imitates, Imitates, normalizedSchema_eq hcase, normalizedSchema_eq hcase, hlength, ← not_or,
    ← not_or]
  have hiff := not_congr hsame
  unfold Spells at hiff
  rw [← hiff, hname, hname']
  constructor
  · rintro ⟨_, _, heq, heq', -, -, hdistinct⟩
    cases heq
    cases heq'
    exact fun hsame => hdistinct (congrArg String.ofList hsame)
  · intro hdistinct
    refine ⟨_, _, rfl, rfl, hvalid, hvalid', fun heq => hdistinct ?_⟩
    rwa [← String.toList_inj, String.toList_ofList, String.toList_ofList] at heq

theorem candidateSchema_distinct_amounts :
    ∃ name name', candidateSchema "DR-996C48F0" "net_amount" = .ok name ∧
      candidateSchema "DR-996C48F0" "gross_amount" = .ok name' ∧ IsSchemaName name ∧
        IsSchemaName name' ∧ name ≠ name' := by
  have hcase : IsCaseId "DR-996C48F0" "996C48F0".toList := by
    unfold IsCaseId
    decide +kernel
  have hdiffer : schemaPart "net_amount" ≠ schemaPart "gross_amount" := by decide +kernel
  refine (candidateSchema_distinct _ _ _ _ hcase (by decide +kernel) (by decide +kernel)
    fun _ => by decide +kernel).2 ⟨hdiffer, fun h => absurd h.2.1 ?_, fun h => absurd h.2.1 ?_⟩
  · decide +kernel
  · decide +kernel

/-- Two columns whose names differ in case share a schema. -/
theorem candidateSchema_counterexample :
    "Amount" ≠ "amount" ∧ isIdentifier "Amount" = true ∧ isIdentifier "amount" = true ∧
      IsCaseId "DR-996C48F0" "996C48F0".toList ∧
        candidateSchema "DR-996C48F0" "Amount" = .ok "candidate_dr_996c48f0_amount" ∧
          candidateSchema "DR-996C48F0" "amount" = .ok "candidate_dr_996c48f0_amount" := by
  unfold IsCaseId
  decide +kernel

end DataRescue
