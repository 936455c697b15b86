import DataRescue.Remediation.SqlSafety
import DataRescue.Python.Raising
import DataRescue.Text.Pattern
import Mathlib.Data.List.Infix

/-!
# The SQL gate

`validate_candidate_sql` of `packages/remediation/sql_safety.py`. Its pattern is separated, so it reads a
query in one way (`candidatePattern_separated`), and the gate accepts the rendered shape with its words
compared as `re.IGNORECASE` compares letters (`validateCandidateSql_ok`). This goes beyond the case of
ASCII letters by four letters outside ASCII (`validateCandidateSql_iff`).
-/

namespace DataRescue

open Python Pattern

/-! ### The gate -/

/-- The lower-casing under which `re.IGNORECASE` compares letters. Of the letters outside ASCII, these
four fold into ASCII. -/
def foldLetter (c : Char) : Char :=
  if c.toNat = 0x130 ∨ c.toNat = 0x131 then 'i'
  else if c.toNat = 0x17f then 's'
  else if c.toNat = 0x212a then 'k'
  else c.toLower

def ignoringCase (literal c : Char) : Bool := foldLetter c == foldLetter literal

/-- A word of the pattern, ignoring case. -/
def keyword (literal : String) : Piece Char := .word (literal.toList.map ignoringCase)

/-- `\s*` and `\s+`. -/
def space (least : Nat) : Piece Char := .run isSpace least none

/-- `[A-Za-z_]`, ignoring case. -/
def identifierStart : Piece Char := .word [fun c => isIdentifierStart (foldLetter c)]

/-- `[A-Za-z0-9_]{0,127}`, ignoring case. -/
def identifierRest : Piece Char := .run (fun c => isIdentifierRest (foldLetter c)) 0 (some 127)

def candidatePattern (relation : String) : List (Piece Char) :=
  [space 0, keyword "SELECT", space 1, keyword "payment_id", space 0, keyword ",", space 0,
   identifierStart, identifierRest, space 1, keyword "AS", space 1, identifierStart, identifierRest,
   space 1, keyword "FROM", space 1, keyword relation, space 0]

/-- `match.group` for the identifier that starts at this piece. -/
def identifierGroup (parts : List (List Char)) (piece : Nat) : String :=
  String.ofList ((parts.drop piece).take 2).flatten

def forbiddenMarks : List String := [";", "--", "/*", "*/"]

def validateCandidateSql (sql relation : String) : Except SqlSafetyError String := do
  let relation ← requireRelation relation
  if forbiddenMarks.any fun mark => mark.toList <:+: sql.toList then throw .commentOrStatement
  else
    match fullmatch (candidatePattern relation) sql.toList with
    | none => throw .shapeMismatch
    | some parts =>
      let _ ← requireIdentifier (identifierGroup parts 7) "source field"
      let _ ← requireRevenueAlias (identifierGroup parts 12)
      pure sql

example : validateCandidateSql " select payment_id ,\tnet_amount as revenue\nfrom Raw.Payments\n"
    "raw.payments" = .ok " select payment_id ,\tnet_amount as revenue\nfrom Raw.Payments\n" ∧
    validateCandidateSql "SELECT payment_id, net_amount AS Revenue FROM raw.payments" "raw.payments" =
      .error .aliasNotRevenue := by
  decide +kernel

/-! ### The shape of a query -/

/-- The words of a query. -/
structure QueryWords where
  selectWord : List Char
  paymentId : List Char
  field : List Char
  asWord : List Char
  target : List Char
  fromWord : List Char
  relation : List Char

/-- The white space of a query. -/
structure QuerySpaces where
  leading : List Char
  afterSelect : List Char
  beforeComma : List Char
  afterComma : List Char
  beforeAs : List Char
  afterAs : List Char
  beforeFrom : List Char
  afterFrom : List Char
  trailing : List Char

/-- The white space of `render_candidate_sql`. -/
def rendererSpaces : QuerySpaces where
  leading := []
  afterSelect := "\n    ".toList
  beforeComma := []
  afterComma := "\n    ".toList
  beforeAs := [' ']
  afterAs := [' ']
  beforeFrom := ['\n']
  afterFrom := [' ']
  trailing := []

namespace QuerySpaces

/-- White space where some is needed. -/
def Gap (gap : List Char) : Prop := gap ≠ [] ∧ ∀ c ∈ gap, isSpace c = true

instance (gap : List Char) : Decidable (Gap gap) := inferInstanceAs (Decidable (_ ∧ _))

/-- White space at the ends and around the comma, if any, and between any other two words. -/
structure Valid (spaces : QuerySpaces) : Prop where
  leading : ∀ c ∈ spaces.leading, isSpace c = true
  afterSelect : Gap spaces.afterSelect
  beforeComma : ∀ c ∈ spaces.beforeComma, isSpace c = true
  afterComma : ∀ c ∈ spaces.afterComma, isSpace c = true
  beforeAs : Gap spaces.beforeAs
  afterAs : Gap spaces.afterAs
  beforeFrom : Gap spaces.beforeFrom
  afterFrom : Gap spaces.afterFrom
  trailing : ∀ c ∈ spaces.trailing, isSpace c = true

end QuerySpaces

namespace QueryWords

/-- The text of a query. -/
def text (words : QueryWords) (spaces : QuerySpaces) : List Char :=
  spaces.leading ++ (words.selectWord ++ (spaces.afterSelect ++ (words.paymentId ++
    (spaces.beforeComma ++ ([','] ++ (spaces.afterComma ++ (words.field ++ (spaces.beforeAs ++
      (words.asWord ++ (spaces.afterAs ++ (words.target ++ (spaces.beforeFrom ++ (words.fromWord ++
        (spaces.afterFrom ++ (words.relation ++ spaces.trailing)))))))))))))))

/-- The same query in the renderer's words. -/
def standard (words : QueryWords) (relation : String) : QueryWords where
  selectWord := "SELECT".toList
  paymentId := "payment_id".toList
  field := words.field
  asWord := "AS".toList
  target := words.target
  fromWord := "FROM".toList
  relation := relation.toList

-- An equation of its own: the generated one decodes the literals.
theorem standard_eq (words : QueryWords) (relation : String) : words.standard relation =
    { selectWord := "SELECT".toList, paymentId := "payment_id".toList, field := words.field
      asWord := "AS".toList, target := words.target, fromWord := "FROM".toList
      relation := relation.toList } := by
  delta standard
  rfl

/-- The words other than the field and the alias. -/
def fixed (words : QueryWords) : List (List Char) :=
  [words.selectWord, words.paymentId, words.asWord, words.fromWord, words.relation]

/-- The words are the renderer's after a change of letters. -/
def Respells (change : Char → Char) (words : QueryWords) (relation : String) : Prop :=
  words.fixed.map (·.map change) = (words.standard relation).fixed.map (·.map change)

instance (change : Char → Char) (words : QueryWords) (relation : String) :
    Decidable (words.Respells change relation) := inferInstanceAs (Decidable (_ = _))

end QueryWords

/-- The query is a rendered one after a change of letters of its fixed words and of white space. -/
def Shaped (change : Char → Char) (sql relation : String) : Prop :=
  ∃ (words : QueryWords) (spaces : QuerySpaces), sql.toList = words.text spaces ∧ spaces.Valid ∧
    words.Respells change relation ∧ ∃ proposal, renderCandidateSql proposal relation =
      .ok (String.ofList ((words.standard relation).text rendererSpaces))

/-- A letter outside ASCII that the pattern takes for an ASCII letter. -/
def IsForeign (c : Char) : Prop := c.toNat ∈ [0x130, 0x131, 0x17f, 0x212a]

/-- The query has the rendered shape when it is read with `re.IGNORECASE`, and one of its fixed words is
spelled with a letter outside ASCII. -/
def ForeignSpelling (sql relation : String) : Prop :=
  ∃ (words : QueryWords) (spaces : QuerySpaces), sql.toList = words.text spaces ∧ spaces.Valid ∧
    words.Respells foldLetter relation ∧ isIdentifier (String.ofList words.field) = true ∧
      words.target = "revenue".toList ∧ ∃ word ∈ words.fixed, ∃ c ∈ word, IsForeign c

/-! ### Letters -/

theorem foldLetter_of_isSpace {c : Char} (h : isSpace c = true) : foldLetter c = c :=
  of_codes (P := fun c => foldLetter c = c) (by decide) (List.contains_iff_mem.1 h)

theorem not_identifier_of_isSpace {c : Char} (h : isSpace c = true) : isIdentifierRest c = false :=
  of_codes (P := fun c => isIdentifierRest c = false) (by decide) (List.contains_iff_mem.1 h)

theorem foldLetter_cases (c : Char) :
    foldLetter c = c ∨ 97 ≤ (foldLetter c).toNat ∧ (foldLetter c).toNat ≤ 122 := by
  unfold foldLetter
  split
  · exact .inr (by decide)
  split
  · exact .inr (by decide)
  split
  · exact .inr (by decide)
  exact toLower_cases c

theorem keyword_admits {literal : String} {part : List Char} :
    (keyword literal).Admits part ↔ part.map foldLetter = literal.toList.map foldLetter := by
  rw [keyword, Piece.Admits, List.forall₂_map_left_iff, ← List.forall₂_eq_eq_eq,
    List.forall₂_map_left_iff, List.forall₂_map_right_iff]
  simp only [ignoringCase, beq_iff_eq]
  exact ⟨fun h => h.flip, fun h => h.flip⟩

/-! ### The pattern is separated -/

theorem space_apart_keyword {literal : String} {pieces : List (Piece Char)}
    (h : ∃ first rest, literal.toList = first :: rest ∧ isSpace (foldLetter first) = false) :
    ∀ c, isSpace c = true → ¬Starts (keyword literal :: pieces) c := by
  intro c hc hstarts
  obtain ⟨first, rest, hliteral, hfirst⟩ := h
  rw [keyword, hliteral, List.map_cons, Starts, ignoringCase, beq_iff_eq,
    foldLetter_of_isSpace hc] at hstarts
  rw [← hstarts, hc] at hfirst
  exact absurd hfirst (by decide)

theorem space_apart_identifier {pieces : List (Piece Char)} :
    ∀ c, isSpace c = true → ¬Starts (identifierStart :: pieces) c := by
  intro c hc hstarts
  rw [identifierStart, Starts, foldLetter_of_isSpace hc] at hstarts
  have hrest := not_identifier_of_isSpace hc
  rw [isIdentifierRest, hstarts, Bool.true_or] at hrest
  exact absurd hrest (by decide)

theorem identifier_apart_space {pieces : List (Piece Char)} :
    ∀ c, isIdentifierRest (foldLetter c) = true → ¬Starts (space 1 :: pieces) c := by
  rintro c hc (hspace | ⟨hleast, -⟩)
  · rw [foldLetter_of_isSpace hspace, not_identifier_of_isSpace hspace] at hc
    exact absurd hc (by decide)
  · exact absurd hleast (by decide)

theorem candidatePattern_separated {relation : String}
    (h : ∃ first rest, relation.toList = first :: rest ∧ isSpace (foldLetter first) = false) :
    Separated (candidatePattern relation) := by
  refine ⟨space_apart_keyword ⟨_, _, rfl, by decide⟩, space_apart_keyword ⟨_, _, rfl, by decide⟩,
    space_apart_keyword ⟨_, _, rfl, by decide⟩, space_apart_identifier, identifier_apart_space,
    space_apart_keyword ⟨_, _, rfl, by decide⟩, space_apart_identifier, identifier_apart_space,
    space_apart_keyword ⟨_, _, rfl, by decide⟩, space_apart_keyword h, ?_, trivial⟩
  exact fun c _ hstarts => hstarts

/-! ### Relations -/

theorem mapM_requireIdentifier_ok {parts out : List String} {label : String} :
    parts.mapM (fun part => requireIdentifier part label) = .ok out ↔
      (∀ part ∈ parts, isIdentifier part = true) ∧ out = parts := by
  rw [mapM_ok]
  induction parts generalizing out with
  | nil => simp
  | cons part parts ih =>
    rw [List.forall₂_cons_left_iff]
    constructor
    · rintro ⟨result, results, hpart, hparts, rfl⟩
      obtain ⟨hpart, rfl⟩ := requireIdentifier_ok.1 hpart
      obtain ⟨hparts, rfl⟩ := ih.1 hparts
      exact ⟨List.forall_mem_cons.2 ⟨hpart, hparts⟩, rfl⟩
    · rintro ⟨hall, rfl⟩
      obtain ⟨hpart, hparts⟩ := List.forall_mem_cons.1 hall
      exact ⟨part, parts, requireIdentifier_ok.2 ⟨hpart, rfl⟩, ih.2 ⟨hparts, rfl⟩, rfl⟩

theorem intercalate_split (separator : Char) (text : String) :
    (String.singleton separator).intercalate (split separator text) = text := by
  have hparts : (split separator text).map String.toList = text.toList.splitOn separator := by
    simp [split, List.map_map, Function.comp_def]
  rw [← String.toList_inj, String.toList_intercalate, hparts, String.toList_singleton,
    List.intercalate_splitOn]

theorem mem_intercalate {separator c : Char} {parts : List (List Char)}
    (h : c ∈ [separator].intercalate parts) : c = separator ∨ ∃ part ∈ parts, c ∈ part := by
  induction parts with
  | nil => exact absurd h (by simp)
  | cons part parts ih =>
    by_cases hnil : parts = []
    · subst hnil
      exact .inr ⟨part, by simp, by simpa using h⟩
    · rw [List.intercalate_cons_of_ne_nil hnil, List.append_assoc, List.mem_append,
        List.mem_append] at h
      rcases h with hpart | hseparator | hrest
      · exact .inr ⟨part, by simp, hpart⟩
      · exact .inl (List.mem_singleton.1 hseparator)
      · exact (ih hrest).imp_right fun ⟨other, hother, hc⟩ => ⟨other, by simp [hother], hc⟩

theorem requireRelation_ok {relation out : String} (h : requireRelation relation = .ok out) :
    out = relation ∧ (∃ first rest, relation.toList = first :: rest ∧
      isIdentifierStart first = true) ∧
      ∀ c ∈ relation.toList, c = '.' ∨ isIdentifierRest c = true := by
  have hjoin := intercalate_split '.' relation
  have hparts : ∃ part parts, split '.' relation = part :: parts := by
    rw [← List.ne_nil_iff_exists_cons]
    simp [split, List.splitOn_ne_nil]
  unfold requireRelation at h
  dsimp only at h
  split at h
  next =>
    obtain ⟨names, hnames, hout⟩ := bind_eq_ok.1 h
    obtain ⟨hall, rfl⟩ := mapM_requireIdentifier_ok.1 hnames
    obtain rfl : relation = out := hjoin.symm.trans (Except.ok.inj hout)
    rw [← String.toList_inj, String.toList_intercalate, String.toList_singleton] at hjoin
    refine ⟨rfl, ?_, fun c hc => ?_⟩
    · obtain ⟨part, parts, hsplit⟩ := hparts
      obtain ⟨first, rest, hpart, hfirst, -⟩ := isIdentifier_cons (hall part (by simp [hsplit]))
      rw [hsplit, List.map_cons, hpart] at hjoin
      by_cases hnil : parts.map String.toList = []
      · rw [hnil] at hjoin
        exact ⟨first, rest, by rw [← hjoin]; simp, hfirst⟩
      · rw [List.intercalate_cons_of_ne_nil hnil, List.cons_append, List.cons_append] at hjoin
        exact ⟨first, _, hjoin.symm, hfirst⟩
    · rw [← hjoin] at hc
      rcases mem_intercalate hc with rfl | ⟨letters, hletters, hc⟩
      · exact .inl rfl
      · obtain ⟨part, hpart, rfl⟩ := List.mem_map.1 hletters
        obtain ⟨first, rest, heq, hfirst, hrest, -⟩ := isIdentifier_cons (hall part hpart)
        rw [heq, List.mem_cons] at hc
        rcases hc with rfl | hc
        · exact .inr (by rw [isIdentifierRest, hfirst, Bool.true_or])
        · exact .inr (hrest c hc)
  next => exact absurd h (by simp [throw, throwThe, MonadExceptOf.throw])

/-! ### The match -/

/-- What the pattern takes for an identifier. -/
def ReadsIdentifier (word : List Char) : Prop :=
  identifierStart.Admits (word.take 1) ∧ identifierRest.Admits (word.drop 1)

/-- The parts of a match, the identifiers in two parts. -/
def QueryWords.parts (words : QueryWords) (spaces : QuerySpaces) : List (List Char) :=
  [spaces.leading, words.selectWord, spaces.afterSelect, words.paymentId, spaces.beforeComma, [','],
   spaces.afterComma, words.field.take 1, words.field.drop 1, spaces.beforeAs, words.asWord,
   spaces.afterAs, words.target.take 1, words.target.drop 1, spaces.beforeFrom, words.fromWord,
   spaces.afterFrom, words.relation, spaces.trailing]

variable {sql relation : String} {words : QueryWords} {spaces : QuerySpaces}

theorem parts_flatten (words : QueryWords) (spaces : QuerySpaces) :
    (words.parts spaces).flatten = words.text spaces := by
  simp only [QueryWords.parts, QueryWords.text, List.flatten_cons, List.flatten_nil, List.append_nil]
  rw [← List.append_assoc (words.field.take 1), List.take_append_drop,
    ← List.append_assoc (words.target.take 1), List.take_append_drop]

theorem space_admits_zero {part : List Char} :
    (space 0).Admits part ↔ ∀ c ∈ part, isSpace c = true := by
  simp [space, Piece.Admits]

theorem space_admits_one {part : List Char} : (space 1).Admits part ↔ QuerySpaces.Gap part := by
  rw [QuerySpaces.Gap, ← List.length_pos_iff]
  simp [space, Piece.Admits, Nat.succ_le_iff]

theorem comma_admits {part : List Char} : (keyword ",").Admits part ↔ part = [','] := by
  rw [keyword_admits]
  constructor
  · intro h
    obtain ⟨c, rfl, hc⟩ := List.map_eq_singleton_iff.1 h
    rcases foldLetter_cases c with hsame | hletter
    · rw [← hsame, hc]
      rfl
    · rw [hc] at hletter
      exact absurd hletter (by decide)
  · rintro rfl
    rfl

theorem matches_parts {text : List Char} : Matches (candidatePattern relation) text (words.parts spaces) ↔
    text = words.text spaces ∧ spaces.Valid ∧ words.Respells foldLetter relation ∧
      ReadsIdentifier words.field ∧ ReadsIdentifier words.target := by
  rw [Matches, parts_flatten, candidatePattern, QueryWords.parts]
  simp only [List.forall₂_cons, List.Forall₂.nil, and_true, space_admits_zero, space_admits_one,
    keyword_admits, ReadsIdentifier, QueryWords.Respells, QueryWords.fixed, QueryWords.standard_eq,
    List.map_cons, List.map_nil, List.cons.injEq]
  constructor
  · rintro ⟨⟨h0, h1, h2, h3, h4, -, h6, h7, h8, h9, h10, h11, h12, h13, h14, h15, h16, h17, h18⟩, h⟩
    exact ⟨h.symm, ⟨h0, h2, h4, h6, h9, h11, h14, h16, h18⟩, ⟨h1, h3, h10, h15, h17⟩, ⟨h7, h8⟩, h12, h13⟩
  · rintro ⟨h, ⟨h0, h2, h4, h6, h9, h11, h14, h16, h18⟩, ⟨h1, h3, h10, h15, h17⟩, ⟨h7, h8⟩, h12, h13⟩
    exact ⟨⟨h0, h1, h2, h3, h4, rfl, h6, h7, h8, h9, h10, h11, h12, h13, h14, h15, h16, h17, h18⟩,
      h.symm⟩

theorem identifier_parts {start rest : List Char} (h : identifierStart.Admits start) :
    (start ++ rest).take 1 = start ∧ (start ++ rest).drop 1 = rest := by
  have hlength : start.length = 1 := by
    have hall : List.Forall₂ _ _ _ := h
    exact hall.length_eq.symm
  exact ⟨by rw [← hlength, List.take_left], by rw [← hlength, List.drop_left]⟩

theorem exists_words {text : List Char} {parts : List (List Char)}
    (h : Matches (candidatePattern relation) text parts) :
    ∃ (words : QueryWords) (spaces : QuerySpaces), parts = words.parts spaces := by
  have hall := h.1
  unfold candidatePattern at hall
  obtain _ | @⟨_, s0, _, _, -, hall⟩ := hall
  obtain _ | @⟨_, w1, _, _, -, hall⟩ := hall
  obtain _ | @⟨_, s2, _, _, -, hall⟩ := hall
  obtain _ | @⟨_, w3, _, _, -, hall⟩ := hall
  obtain _ | @⟨_, s4, _, _, -, hall⟩ := hall
  obtain _ | @⟨_, comma, _, _, hcomma, hall⟩ := hall
  obtain _ | @⟨_, s6, _, _, -, hall⟩ := hall
  obtain _ | @⟨_, start, _, _, hstart, hall⟩ := hall
  obtain _ | @⟨_, rest, _, _, -, hall⟩ := hall
  obtain _ | @⟨_, s9, _, _, -, hall⟩ := hall
  obtain _ | @⟨_, w10, _, _, -, hall⟩ := hall
  obtain _ | @⟨_, s11, _, _, -, hall⟩ := hall
  obtain _ | @⟨_, start', _, _, hstart', hall⟩ := hall
  obtain _ | @⟨_, rest', _, _, -, hall⟩ := hall
  obtain _ | @⟨_, s14, _, _, -, hall⟩ := hall
  obtain _ | @⟨_, w15, _, _, -, hall⟩ := hall
  obtain _ | @⟨_, s16, _, _, -, hall⟩ := hall
  obtain _ | @⟨_, w17, _, _, -, hall⟩ := hall
  obtain _ | @⟨_, s18, _, _, -, hall⟩ := hall
  obtain _ | _ := hall
  refine ⟨⟨w1, w3, start ++ rest, w10, start' ++ rest', w15, w17⟩,
    ⟨s0, s2, s4, s6, s9, s11, s14, s16, s18⟩, ?_⟩
  simp only [QueryWords.parts, identifier_parts hstart, identifier_parts hstart',
    comma_admits.1 hcomma]

/-! ### Identifiers -/

theorem ascii_of_identifierRest {c : Char} (h : isIdentifierRest c = true) : c.toNat < 128 := by
  simp only [isIdentifierRest, isIdentifierStart, Bool.or_eq_true, Bool.and_eq_true,
    decide_eq_true_eq, beq_iff_eq, Char.le_def, UInt32.le_iff_toNat_le] at h
  change c.val.toNat < 128
  rcases h with ((h | h) | rfl) | h
  · exact Nat.lt_of_le_of_lt h.2 (by decide)
  · exact Nat.lt_of_le_of_lt h.2 (by decide)
  · decide
  · exact Nat.lt_of_le_of_lt h.2 (by decide)

theorem identifier_foldLetter {c : Char} (hc : c.toNat < 128) :
    isIdentifierStart (foldLetter c) = isIdentifierStart c ∧
      isIdentifierRest (foldLetter c) = isIdentifierRest c :=
  of_codes (P := fun c => isIdentifierStart (foldLetter c) = isIdentifierStart c ∧
    isIdentifierRest (foldLetter c) = isIdentifierRest c) (by decide +kernel) (List.mem_range.2 hc)

theorem readsIdentifier {word : List Char} (h : isIdentifier (String.ofList word) = true) :
    ReadsIdentifier word := by
  obtain ⟨first, rest, hword, hfirst, hrest, hlength⟩ := isIdentifier_cons h
  rw [String.toList_ofList] at hword
  subst hword
  have hascii : first.toNat < 128 :=
    ascii_of_identifierRest (by rw [isIdentifierRest, hfirst, Bool.true_or])
  refine ⟨?_, Nat.zero_le _, ?_, ?_⟩
  · refine .cons ?_ .nil
    show isIdentifierStart (foldLetter first) = true
    rw [(identifier_foldLetter hascii).1, hfirst]
  · intro bound hbound
    cases hbound
    exact hlength
  · intro c hc
    show isIdentifierRest (foldLetter c) = true
    rw [(identifier_foldLetter (ascii_of_identifierRest (hrest c hc))).2, hrest c hc]

theorem reads_revenue : ReadsIdentifier "revenue".toList :=
  readsIdentifier (by simp [isIdentifier, isIdentifierRest, isIdentifierStart])

theorem renderCandidateSql_ok {proposal : CandidateProposal} {rendered : String}
    (hrelation : requireRelation relation = .ok relation) :
    renderCandidateSql proposal relation = .ok rendered ↔
      isIdentifier proposal.sourceField = true ∧ proposal.targetAlias = "revenue" ∧
        rendered = "SELECT\n    payment_id,\n    " ++ proposal.sourceField ++ " AS " ++ "revenue" ++
          "\nFROM " ++ relation := by
  simp only [renderCandidateSql, bind_eq_ok, requireIdentifier_ok, requireRevenueAlias_ok, hrelation]
  constructor
  · rintro ⟨_, ⟨hfield, rfl⟩, _, ⟨halias, rfl⟩, _, hname, hrendered⟩
    cases hname
    exact ⟨hfield, halias, (Except.ok.inj hrendered).symm⟩
  · rintro ⟨hfield, halias, rfl⟩
    exact ⟨_, ⟨hfield, rfl⟩, _, ⟨halias, rfl⟩, _, rfl, rfl⟩

theorem standard_text : String.ofList ((words.standard relation).text rendererSpaces) =
    "SELECT\n    payment_id,\n    " ++ String.ofList words.field ++ " AS " ++
      String.ofList words.target ++ "\nFROM " ++ relation := by
  have hhead : "SELECT\n    payment_id,\n    ".toList = "SELECT".toList ++ (rendererSpaces.afterSelect ++
      ("payment_id".toList ++ ([','] ++ rendererSpaces.afterComma))) := by decide
  have has : " AS ".toList = [' '] ++ ("AS".toList ++ [' ']) := by simp
  have hfrom : "\nFROM ".toList = ['\n'] ++ ("FROM".toList ++ [' ']) := by simp
  rw [← String.toList_inj, String.toList_ofList]
  simp only [String.toList_append, String.toList_ofList, hhead, has, hfrom, List.append_assoc,
    QueryWords.text, QueryWords.standard_eq, rendererSpaces, List.nil_append, List.append_nil]

theorem words_of_joined {field target name other : List Char} (hname : ' ' ∉ name)
    (hother : ' ' ∉ other)
    (h : field ++ (' ' :: 'A' :: 'S' :: ' ' :: target) = name ++ (' ' :: 'A' :: 'S' :: ' ' :: other)) :
    field = name ∧ target = other := by
  have hcount := congrArg (List.count ' ') h
  simp only [List.count_append, List.count_cons, List.count_eq_zero_of_not_mem hname,
    List.count_eq_zero_of_not_mem hother] at hcount
  have hfield : ' ' ∉ field := by
    rw [← List.count_eq_zero]
    omega
  have htake : ∀ {word rest : List Char}, ' ' ∉ word →
      (word ++ (' ' :: rest)).takeWhile (· ≠ ' ') = word := by
    intro word rest hword
    have hall : ∀ c ∈ word, decide (c ≠ ' ') = true := by
      intro c hc
      exact decide_eq_true (ne_of_mem_of_not_mem hc hword)
    rw [List.takeWhile_append_of_pos hall]
    simp
  have hsame : field = name := by rw [← htake hfield, h, htake hname]
  subst hsame
  simpa using h

theorem space_not_mem {value : String} (h : isIdentifier value = true) : ' ' ∉ value.toList := by
  obtain ⟨first, rest, hvalue, hfirst, hrest, -⟩ := isIdentifier_cons h
  rw [hvalue, List.mem_cons, not_or]
  constructor
  · rintro rfl
    exact absurd hfirst (by decide)
  · intro hmem
    exact absurd (hrest ' ' hmem) (by decide)

theorem rendered_iff (hrelation : requireRelation relation = .ok relation) :
    (∃ proposal, renderCandidateSql proposal relation =
        .ok (String.ofList ((words.standard relation).text rendererSpaces))) ↔
      isIdentifier (String.ofList words.field) = true ∧ words.target = "revenue".toList := by
  simp only [renderCandidateSql_ok hrelation, standard_text]
  constructor
  · rintro ⟨proposal, hfield, -, htext⟩
    have hjoined : words.field ++ (" AS ".toList ++ words.target) =
        proposal.sourceField.toList ++ (" AS ".toList ++ "revenue".toList) := by
      have hlist := congrArg String.toList htext
      simp only [String.toList_append, String.toList_ofList, List.append_assoc,
        List.append_cancel_left_eq] at hlist
      simp only [← List.append_assoc] at hlist
      have hcancel := List.append_cancel_right (List.append_cancel_right hlist)
      simpa only [List.append_assoc] using hcancel
    have has : " AS ".toList = [' ', 'A', 'S', ' '] := by simp
    rw [has] at hjoined
    obtain ⟨hsame, htarget⟩ := words_of_joined (space_not_mem hfield) (by simp) hjoined
    exact ⟨by rwa [hsame, String.ofList_toList], htarget⟩
  · rintro ⟨hfield, htarget⟩
    exact ⟨{ id := "", sourceField := String.ofList words.field, rationale := "" }, hfield, rfl,
      by rw [htarget, String.ofList_toList]⟩

/-! ### What the gate accepts -/

/-- The letters of a query of the shape. -/
def QueryLetter (c : Char) : Prop :=
  isSpace c = true ∨ isIdentifierRest (foldLetter c) = true ∨ foldLetter c = '.' ∨ c = ','

theorem QueryLetter.of_fold {literal : String} {word : List Char}
    (h : word.map foldLetter = literal.toList.map foldLetter)
    (hliteral : ∀ d ∈ literal.toList, d = '.' ∨ isIdentifierRest d = true) :
    ∀ c ∈ word, QueryLetter c := by
  intro c hc
  have hmem : foldLetter c ∈ literal.toList.map foldLetter := h ▸ List.mem_map_of_mem hc
  obtain ⟨d, hd, hfold⟩ := List.mem_map.1 hmem
  rw [QueryLetter, ← hfold]
  rcases hliteral d hd with rfl | hrest
  · exact .inr (.inr (.inl rfl))
  · exact .inr (.inl ((identifier_foldLetter (ascii_of_identifierRest hrest)).2.trans hrest))

theorem QueryLetter.of_reads {word : List Char} (h : ReadsIdentifier word) :
    ∀ c ∈ word, QueryLetter c := by
  intro c hc
  rw [← List.take_append_drop 1 word, List.mem_append] at hc
  obtain ⟨hstart, -, -, hrest⟩ := h
  rcases hc with hc | hc
  · have hall : List.Forall₂ _ _ _ := hstart
    obtain ⟨first, rest, hfirst, hnil, hword⟩ := List.forall₂_cons_left_iff.1 hall
    obtain rfl := List.forall₂_nil_left_iff.1 hnil
    rw [hword, List.mem_singleton] at hc
    subst hc
    have hfirst : isIdentifierStart (foldLetter c) = true := hfirst
    exact .inr (.inl (by rw [isIdentifierRest, hfirst, Bool.true_or]))
  · exact .inr (.inl (hrest c hc))

theorem fixed_letters : ∀ word ∈ ["SELECT".toList, "payment_id".toList, "AS".toList, "FROM".toList],
    ∀ c ∈ word, isIdentifierRest c = true := by
  simp [isIdentifierRest, isIdentifierStart]

theorem text_letters (hletters : ∀ c ∈ relation.toList, c = '.' ∨ isIdentifierRest c = true)
    (hspaces : spaces.Valid) (hwords : words.Respells foldLetter relation)
    (hfield : ReadsIdentifier words.field) (htarget : ReadsIdentifier words.target) :
    ∀ c ∈ words.text spaces, QueryLetter c := by
  simp only [QueryWords.Respells, QueryWords.fixed, QueryWords.standard_eq, List.map_cons, List.map_nil,
    List.cons.injEq, and_true] at hwords
  obtain ⟨hselect, hpayment, has, hfrom, hrelation⟩ := hwords
  have hgap : ∀ {gap : List Char}, (∀ c ∈ gap, isSpace c = true) → ∀ c ∈ gap, QueryLetter c :=
    fun h c hc => .inl (h c hc)
  have hfixed : ∀ word ∈ ["SELECT".toList, "payment_id".toList, "AS".toList, "FROM".toList],
      ∀ c ∈ word, c = '.' ∨ isIdentifierRest c = true :=
    fun word hword c hc => .inr (fixed_letters word hword c hc)
  simp only [QueryWords.text, List.forall_mem_append]
  refine ⟨hgap hspaces.leading, .of_fold hselect (hfixed _ (by simp)), hgap hspaces.afterSelect.2,
    .of_fold hpayment (hfixed _ (by simp)), hgap hspaces.beforeComma, ?_, hgap hspaces.afterComma,
    .of_reads hfield, hgap hspaces.beforeAs.2, .of_fold has (hfixed _ (by simp)),
    hgap hspaces.afterAs.2, .of_reads htarget, hgap hspaces.beforeFrom.2,
    .of_fold hfrom (hfixed _ (by simp)), hgap hspaces.afterFrom.2, .of_fold hrelation hletters,
    hgap hspaces.trailing⟩
  intro c hc
  exact .inr (.inr (.inr (List.mem_singleton.1 hc)))

theorem not_forbidden {text : List Char} (h : ∀ c ∈ text, QueryLetter c) :
    ¬forbiddenMarks.any (fun mark => mark.toList <:+: text) = true := by
  intro hany
  obtain ⟨mark, hmark, hinfix⟩ := List.any_eq_true.1 hany
  have hletter : ∀ c ∈ mark.toList, QueryLetter c :=
    fun c hc => h c ((of_decide_eq_true hinfix).subset hc)
  have hmarks : ∀ mark ∈ forbiddenMarks, ∃ c ∈ mark.toList, isSpace c = false ∧
      isIdentifierRest (foldLetter c) = false ∧ foldLetter c ≠ '.' ∧ c ≠ ',' := by decide
  obtain ⟨c, hc, hspace, hrest, hdot, hcomma⟩ := hmarks mark hmark
  rcases hletter c hc with hall | hall | hall | hall
  · rw [hspace] at hall
    exact absurd hall (by decide)
  · rw [hrest] at hall
    exact absurd hall (by decide)
  · exact hdot hall
  · exact hcomma hall

theorem pattern_separated (hrelation : requireRelation relation = .ok relation) :
    Separated (candidatePattern relation) := by
  obtain ⟨-, ⟨first, rest, hletters, hfirst⟩, -⟩ := requireRelation_ok hrelation
  refine candidatePattern_separated ⟨first, rest, hletters, ?_⟩
  have hascii : first.toNat < 128 :=
    ascii_of_identifierRest (by rw [isIdentifierRest, hfirst, Bool.true_or])
  rw [← (identifier_foldLetter hascii).1] at hfirst
  by_contra hspace
  rw [Bool.not_eq_false] at hspace
  have hrest := not_identifier_of_isSpace hspace
  rw [isIdentifierRest, hfirst, Bool.true_or] at hrest
  exact absurd hrest (by decide)

theorem identifierGroup_parts : identifierGroup (words.parts spaces) 7 = String.ofList words.field ∧
    identifierGroup (words.parts spaces) 12 = String.ofList words.target := by
  simp only [identifierGroup, QueryWords.parts, List.drop_succ_cons, List.drop_zero,
    List.take_succ_cons, List.take_zero, List.flatten_cons, List.flatten_nil, List.append_nil,
    List.take_append_drop, and_self]

/-- The gate accepts the rendered shape, its fixed words compared as `re.IGNORECASE` does. -/
theorem validateCandidateSql_ok (hrelation : requireRelation relation = .ok relation) :
    (∃ out, validateCandidateSql sql relation = .ok out) ↔ Shaped foldLetter sql relation := by
  simp only [Shaped, rendered_iff hrelation, validateCandidateSql, hrelation, bind_eq_ok]
  constructor
  · rintro ⟨_, _, hsame, h⟩
    cases hsame
    split at h
    · exact absurd h (by simp [throw, throwThe, MonadExceptOf.throw])
    split at h
    · exact absurd h (by simp [throw, throwThe, MonadExceptOf.throw])
    next parts hfound =>
      have hmatches := fullmatch_matches hfound
      obtain ⟨words, spaces, rfl⟩ := exists_words hmatches
      simp only [bind_eq_ok, identifierGroup_parts, requireIdentifier_ok, requireRevenueAlias_ok] at h
      obtain ⟨_, ⟨hfield, -⟩, _, ⟨halias, -⟩, -⟩ := h
      obtain ⟨htext, hspaces, hwords, -, -⟩ := matches_parts.1 hmatches
      exact ⟨words, spaces, htext, hspaces, hwords, hfield, by rw [← halias, String.toList_ofList]⟩
  · rintro ⟨words, spaces, htext, hspaces, hwords, hfield, htarget⟩
    have hreads := readsIdentifier hfield
    have hreads' : ReadsIdentifier words.target := by
      rw [htarget]
      exact reads_revenue
    have hfound : fullmatch (candidatePattern relation) sql.toList = some (words.parts spaces) :=
      (fullmatch_iff (pattern_separated hrelation)).2
        (matches_parts.2 ⟨htext, hspaces, hwords, hreads, hreads'⟩)
    have hletters := (requireRelation_ok hrelation).2.2
    have hmarks := not_forbidden (text_letters hletters hspaces hwords hreads hreads')
    rw [← htext] at hmarks
    refine ⟨sql, relation, rfl, ?_⟩
    rw [if_neg hmarks, hfound]
    simp only [bind_eq_ok, identifierGroup_parts, requireIdentifier_ok, requireRevenueAlias_ok]
    exact ⟨_, ⟨hfield, rfl⟩, _, ⟨by rw [htarget, String.ofList_toList], rfl⟩, rfl⟩

/-! ### Letters outside ASCII -/

theorem foldLetter_eq {c : Char} (h : ¬IsForeign c) : foldLetter c = c.toLower := by
  simp only [IsForeign, List.mem_cons, List.not_mem_nil, or_false, not_or] at h
  rw [foldLetter, if_neg (by omega), if_neg h.2.2.1, if_neg h.2.2.2]

theorem foreign_toLower {c : Char} (h : IsForeign c) : 128 ≤ c.toLower.toNat :=
  of_codes (P := fun c => 128 ≤ c.toLower.toNat) (by decide) h

theorem ascii_toLower {c : Char} (h : c.toNat < 128) : c.toLower.toNat < 128 :=
  of_codes (P := fun c => c.toLower.toNat < 128) (by decide +kernel) (List.mem_range.2 h)

/-- No letter of the words is foreign. -/
def Plain (words : List (List Char)) : Prop := ∀ word ∈ words, ∀ c ∈ word, ¬IsForeign c

theorem Plain.map_fold {fixed : List (List Char)} (h : Plain fixed) :
    fixed.map (·.map foldLetter) = fixed.map (·.map Char.toLower) :=
  List.map_congr_left fun word hword => List.map_congr_left fun c hc => foldLetter_eq (h word hword c hc)

theorem standard_ascii (hletters : ∀ c ∈ relation.toList, c = '.' ∨ isIdentifierRest c = true) :
    ∀ word ∈ (words.standard relation).fixed, ∀ c ∈ word, c.toNat < 128 := by
  have hwords : ∀ word ∈ ["SELECT".toList, "payment_id".toList, "AS".toList, "FROM".toList],
      ∀ c ∈ word, c.toNat < 128 :=
    fun word hword c hc => ascii_of_identifierRest (fixed_letters word hword c hc)
  intro word hword c hc
  simp only [QueryWords.fixed, QueryWords.standard_eq, List.mem_cons, List.not_mem_nil, or_false] at hword
  rcases hword with rfl | rfl | rfl | rfl | rfl
  · exact hwords _ (by simp) c hc
  · exact hwords _ (by simp) c hc
  · exact hwords _ (by simp) c hc
  · exact hwords _ (by simp) c hc
  · rcases hletters c hc with rfl | hrest
    · decide
    · exact ascii_of_identifierRest hrest

theorem plain_of_ascii {fixed : List (List Char)} (h : ∀ word ∈ fixed, ∀ c ∈ word, c.toNat < 128) :
    Plain fixed := by
  intro word hword c hc hforeign
  have hlow := ascii_toLower (h word hword c hc)
  have hhigh := foreign_toLower hforeign
  omega

theorem plain_of_respells (hletters : ∀ c ∈ relation.toList, c = '.' ∨ isIdentifierRest c = true)
    (h : words.Respells Char.toLower relation) : Plain words.fixed := by
  intro word hword c hc hforeign
  have hmem : word.map Char.toLower ∈ (words.standard relation).fixed.map (·.map Char.toLower) :=
    h ▸ List.mem_map_of_mem hword
  obtain ⟨literal, hliteral, hsame⟩ := List.mem_map.1 hmem
  have hlower : c.toLower ∈ literal.map Char.toLower := hsame ▸ List.mem_map_of_mem hc
  obtain ⟨d, hd, heq⟩ := List.mem_map.1 hlower
  have hlow := ascii_toLower (standard_ascii hletters literal hliteral d hd)
  have hhigh := foreign_toLower hforeign
  rw [heq] at hlow
  omega

theorem respells_iff (hletters : ∀ c ∈ relation.toList, c = '.' ∨ isIdentifierRest c = true)
    (h : Plain words.fixed) :
    words.Respells foldLetter relation ↔ words.Respells Char.toLower relation := by
  rw [QueryWords.Respells, QueryWords.Respells, h.map_fold,
    (plain_of_ascii (standard_ascii hletters)).map_fold]

theorem words_unique {words' : QueryWords} {spaces' : QuerySpaces}
    (h : words.parts spaces = words'.parts spaces') : words = words' := by
  simp only [QueryWords.parts, List.cons.injEq, and_true, true_and] at h
  obtain ⟨-, hselect, -, hpayment, -, -, hfield, hfield', -, has, -, htarget, htarget', -, hfrom, -,
    hrelation, -⟩ := h
  have hfields : words.field = words'.field := by
    rw [← List.take_append_drop 1 words.field, hfield, hfield', List.take_append_drop]
  have htargets : words.target = words'.target := by
    rw [← List.take_append_drop 1 words.target, htarget, htarget', List.take_append_drop]
  obtain ⟨_, _, _, _, _, _, _⟩ := words
  obtain ⟨_, _, _, _, _, _, _⟩ := words'
  simp only at hselect hpayment hfields has htargets hfrom hrelation
  rw [hselect, hpayment, hfields, has, htargets, hfrom, hrelation]

theorem shaped_iff (hrelation : requireRelation relation = .ok relation)
    (hshaped : Shaped foldLetter sql relation) :
    Shaped Char.toLower sql relation ↔ ¬ForeignSpelling sql relation := by
  have hletters := (requireRelation_ok hrelation).2.2
  have hrevenue : ReadsIdentifier "revenue".toList := reads_revenue
  constructor
  · rintro ⟨words, spaces, htext, hspaces, hwords, hrendered⟩
    rintro ⟨words', spaces', htext', hspaces', hwords', hfield', htarget', word, hword, c, hc, hforeign⟩
    obtain ⟨hfield, htarget⟩ := (rendered_iff hrelation).1 hrendered
    have hplain := plain_of_respells hletters hwords
    have hread : Matches (candidatePattern relation) sql.toList (words.parts spaces) :=
      matches_parts.2 ⟨htext, hspaces, (respells_iff hletters hplain).2 hwords, readsIdentifier hfield,
        htarget ▸ hrevenue⟩
    have hread' : Matches (candidatePattern relation) sql.toList (words'.parts spaces') :=
      matches_parts.2 ⟨htext', hspaces', hwords', readsIdentifier hfield', htarget' ▸ hrevenue⟩
    obtain rfl := words_unique (hread.unique (pattern_separated hrelation) hread')
    exact hplain word hword c hc hforeign
  · intro hnone
    obtain ⟨words, spaces, htext, hspaces, hwords, hrendered⟩ := hshaped
    obtain ⟨hfield, htarget⟩ := (rendered_iff hrelation).1 hrendered
    have hplain : Plain words.fixed := fun word hword c hc hforeign =>
      hnone ⟨words, spaces, htext, hspaces, hwords, hfield, htarget, word, hword, c, hc, hforeign⟩
    exact ⟨words, spaces, htext, hspaces, (respells_iff hletters hplain).1 hwords, hrendered⟩

theorem ForeignSpelling.shaped (hrelation : requireRelation relation = .ok relation)
    (h : ForeignSpelling sql relation) : Shaped foldLetter sql relation := by
  obtain ⟨words, spaces, htext, hspaces, hwords, hfield, htarget, -⟩ := h
  exact ⟨words, spaces, htext, hspaces, hwords, (rendered_iff hrelation).2 ⟨hfield, htarget⟩⟩

theorem Shaped.fold (hrelation : requireRelation relation = .ok relation)
    (h : Shaped Char.toLower sql relation) : Shaped foldLetter sql relation := by
  obtain ⟨words, spaces, htext, hspaces, hwords, hrendered⟩ := h
  have hletters := (requireRelation_ok hrelation).2.2
  exact ⟨words, spaces, htext, hspaces,
    (respells_iff hletters (plain_of_respells hletters hwords)).2 hwords, hrendered⟩

/-- The gate accepts the rendered shape exactly, unless a fixed word is spelled with a foreign
letter. -/
theorem validateCandidateSql_iff (sql relation : String)
    (h : ∃ name, requireRelation relation = .ok name) :
    ((∃ out, validateCandidateSql sql relation = .ok out) ↔ Shaped Char.toLower sql relation) ↔
      ¬ForeignSpelling sql relation := by
  obtain ⟨name, hname⟩ := h
  have hrelation : requireRelation relation = .ok relation := by
    rw [hname, (requireRelation_ok hname).1]
  rw [validateCandidateSql_ok hrelation]
  constructor
  · intro hiff hforeign
    have hshaped := hforeign.shaped hrelation
    exact (shaped_iff hrelation hshaped).1 (hiff.1 hshaped) hforeign
  · intro hnone
    exact ⟨fun hshaped => (shaped_iff hrelation hshaped).2 hnone, fun hshaped => hshaped.fold hrelation⟩

theorem validateCandidateSql_iff_rendered :
    ((∃ out, validateCandidateSql "SELECT\n    payment_id,\n    net_amount AS revenue\nFROM payments_raw"
        "payments_raw" = .ok out) ↔
      Shaped Char.toLower "SELECT\n    payment_id,\n    net_amount AS revenue\nFROM payments_raw"
        "payments_raw") ↔
      ¬ForeignSpelling "SELECT\n    payment_id,\n    net_amount AS revenue\nFROM payments_raw"
        "payments_raw" :=
  validateCandidateSql_iff _ "payments_raw" ⟨"payments_raw", by decide⟩

/-- The relation `paymentſ_raw`, with a long s, is accepted for `payments_raw`. -/
theorem validateCandidateSql_counterexample :
    (∃ out, validateCandidateSql "SELECT payment_id, net_amount AS revenue FROM paymentſ_raw"
        "payments_raw" = .ok out) ∧
      ¬Shaped Char.toLower "SELECT payment_id, net_amount AS revenue FROM paymentſ_raw"
        "payments_raw" := by
  have hrelation : requireRelation "payments_raw" = .ok "payments_raw" := by decide
  have hforeign : ForeignSpelling "SELECT payment_id, net_amount AS revenue FROM paymentſ_raw"
      "payments_raw" :=
    ⟨⟨"SELECT".toList, "payment_id".toList, "net_amount".toList, "AS".toList, "revenue".toList,
      "FROM".toList, "paymentſ_raw".toList⟩,
      ⟨[], [' '], [], [' '], [' '], [' '], [' '], [' '], []⟩, by decide,
      by constructor <;> decide, by rw [QueryWords.Respells, QueryWords.standard_eq]; decide,
      by decide, rfl,
      "paymentſ_raw".toList, by decide, 'ſ', by decide,
      show 'ſ'.toNat ∈ [0x130, 0x131, 0x17f, 0x212a] by decide⟩
  have hshaped := hforeign.shaped hrelation
  exact ⟨(validateCandidateSql_ok hrelation).2 hshaped,
    fun hascii => (shaped_iff hrelation hshaped).1 hascii hforeign⟩

end DataRescue
