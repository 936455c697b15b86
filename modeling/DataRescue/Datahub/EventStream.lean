import DataRescue.Datahub.Mcp
import DataRescue.Text.Records

/-!
# Event streams

The event-stream format as a writer uses it, and `_sse_data_frames` as its reader. A line of the format ends
with `\n`, `\r` or `\r\n`; the reader takes its lines from `str.splitlines`, which ends a line at eight more
characters. `sseDataFrames_contract` says which streams the reader still reads right, and that `_rpc_body`
then finds the answer to a request.
-/

namespace DataRescue

open Python Records DataHubMCPAdapter

/-! ### The format -/

inductive LineEnd
  | lf
  | cr
  | crlf
  deriving DecidableEq

def LineEnd.text : LineEnd → List Char
  | .lf => ['\n']
  | .cr => ['\x0d']
  | .crlf => ['\x0d', '\n']

/-- A line of an event: a line of its message, with or without the optional space, or a comment or another
field. -/
inductive EventLine
  | data (value : List Char) (spaced : Bool)
  | other (text : List Char)
  deriving DecidableEq

def dataField : List Char := "data:".toList

def EventLine.text : EventLine → List Char
  | .data value spaced => dataField ++ (if spaced then ' ' :: value else value)
  | .other text => text

def EventLine.values : EventLine → List (List Char)
  | .data value _ => [value]
  | .other _ => []

/-- The text has no line end of the format. -/
def OneLine (text : List Char) : Prop := '\n' ∉ text ∧ '\x0d' ∉ text

/-- The line is what it says: the space is not optional before a value that starts with one, and a comment
or another field has a name other than `data`. -/
def EventLine.WellFormed : EventLine → Prop
  | .data value spaced => OneLine value ∧ (spaced = false → value.head? ≠ some ' ')
  | .other text =>
    OneLine text ∧ text ≠ [] ∧ text.takeWhile (· ≠ ':') ≠ ['d', 'a', 't', 'a']

/-- The lines of an event and the end of the blank line after it. -/
structure Event where
  lines : List (EventLine × LineEnd)
  blank : LineEnd

/-- Events, and comments and other fields after the last of them. -/
structure EventStream where
  events : List Event
  tail : List (EventLine × LineEnd) := []

def Event.texts (event : Event) : List (List Char × LineEnd) :=
  event.lines.map (fun line => (line.1.text, line.2)) ++ [([], event.blank)]

/-- The message of an event: its data lines, joined. -/
def message (values : List (List Char)) : String :=
  "\n".intercalate (values.map String.ofList)

namespace EventStream

/-- The lines of the stream with their ends. -/
def texts (stream : EventStream) : List (List Char × LineEnd) :=
  stream.events.flatMap Event.texts ++ stream.tail.map fun line => (line.1.text, line.2)

def text (stream : EventStream) : String :=
  String.ofList (stream.texts.flatMap fun line => line.1 ++ line.2.text)

/-- The lines of each event, and those after the last. -/
def blocks (stream : EventStream) : List (List EventLine) :=
  stream.events.map (fun event => event.lines.map Prod.fst) ++ [stream.tail.map Prod.fst]

/-- The messages of the stream: an event without data lines has none. -/
def messages (stream : EventStream) : List String :=
  (stream.blocks.flatMap fun block => emit (block.flatMap EventLine.values)).map message

/-- Every line is well formed, there is no data after the last event, and no `\r` and `\n` that end two
lines stand next to one another, where they would end one. -/
structure WellFormed (stream : EventStream) : Prop where
  lines : ∀ block ∈ stream.blocks, ∀ line ∈ block, line.WellFormed
  tail : ∀ line ∈ stream.tail, line.1.values = []
  ends : stream.texts.IsChain fun line next => ¬(line.2 = .cr ∧ next = ([], .lf))

end EventStream

/-! ### The reader's lines -/

/-- The characters that end a line for `str.splitlines` only: VT, FF, FS, GS, RS, NEL, LS and PS. -/
def isExtraBreak (c : Char) : Bool := [11, 12, 28, 29, 30, 133, 8232, 8233].contains c.toNat

/-- The parts of a line of the format that the reader takes for lines. -/
def pieces (text : List Char) : List (List Char) := text.splitOnP isExtraBreak

/-- What the reader makes of a line. -/
def readLine (line : List Char) : Mark (List Char) :=
  if line = [] then .close
  else if dataField.isPrefixOf line then
    let value := line.drop 5
    .value (if value.head? = some ' ' then value.drop 1 else value)
  else .skip

/-- What the reader makes of a line of an event. -/
def EventLine.read (line : EventLine) : List (Mark (List Char)) := (pieces line.text).map readLine

theorem lineBreaks_eq {c : Char} (hlf : c ≠ '\n') (hcr : c ≠ '\x0d') :
    lineBreaks.contains c.toNat = isExtraBreak c := by
  have hten : c.toNat ≠ 10 := fun h => hlf (Char.toNat_inj.1 h)
  have hthirteen : c.toNat ≠ 13 := fun h => hcr (Char.toNat_inj.1 h)
  simp [lineBreaks, isExtraBreak, hten, hthirteen]

theorem splitlinesFrom_end {ending : LineEnd} {more : List Char}
    (h : ending = .cr → more.head? ≠ some '\n') (line : List Char) :
    splitlinesFrom line (ending.text ++ more) =
      String.ofList line.reverse :: splitlinesFrom [] more := by
  cases ending with
  | lf => exact splitlinesFrom_break (by decide) (by decide) line more
  | crlf => rfl
  | cr =>
    change splitlinesFrom line ('\x0d' :: more) = _
    rw [splitlinesFrom]
    · rw [if_pos (by decide)]
    · rintro rest - rfl
      exact h rfl rfl

theorem splitlinesFrom_append {text : List Char} (htext : OneLine text) {ending : LineEnd}
    {more : List Char} (h : ending = .cr → more.head? ≠ some '\n') (line : List Char) :
    splitlinesFrom line (text ++ (ending.text ++ more)) =
      ((pieces text).modifyHead (line.reverse ++ ·)).map String.ofList ++ splitlinesFrom [] more := by
  induction text generalizing line with
  | nil =>
    rw [List.nil_append, splitlinesFrom_end h]
    simp [pieces]
  | cons c text ih =>
    have hlf : c ≠ '\n' := fun hc => htext.1 (hc ▸ List.mem_cons_self)
    have hcr : c ≠ '\x0d' := fun hc => htext.2 (hc ▸ List.mem_cons_self)
    have hrest : OneLine text :=
      ⟨fun hmem => htext.1 (List.mem_cons_of_mem _ hmem), fun hmem => htext.2 (List.mem_cons_of_mem _ hmem)⟩
    have hbreak := lineBreaks_eq hlf hcr
    rw [pieces, List.splitOnP_cons_eq_if_modifyHead, List.cons_append]
    by_cases hc : isExtraBreak c = true
    · rw [splitlinesFrom_break hcr (hbreak.trans hc), ih hrest, if_pos hc]
      have hhead : ∀ parts : List (List Char), parts.modifyHead ([].reverse ++ ·) = parts := by
        intro parts
        cases parts <;> rfl
      rw [hhead]
      simp [pieces]
    · rw [Bool.not_eq_true] at hc
      rw [splitlinesFrom_cons (hbreak.trans hc), ih hrest, if_neg (by rw [hc]; decide),
        List.modifyHead_modifyHead]
      congr 3
      funext piece
      simp

theorem splitlinesFrom_texts : ∀ {lines : List (List Char × LineEnd)},
    (∀ line ∈ lines, OneLine line.1) →
    lines.IsChain (fun line next => ¬(line.2 = .cr ∧ next = ([], .lf))) →
    splitlinesFrom [] (lines.flatMap fun line => line.1 ++ line.2.text) =
      lines.flatMap fun line => (pieces line.1).map String.ofList := by
  intro lines
  induction lines with
  | nil => exact fun _ _ => rfl
  | cons line lines ih =>
    intro hlines hchain
    have hhead : line.2 = .cr →
        (lines.flatMap fun line => line.1 ++ line.2.text).head? ≠ some '\n' := by
      intro hcr
      cases lines with
      | nil => simp
      | cons next lines =>
        obtain ⟨text, ending⟩ := next
        have happart := (List.isChain_cons_cons.1 hchain).1
        rw [List.flatMap_cons]
        cases text with
        | cons c text =>
          have hc := (hlines (c :: text, ending) (by simp)).1
          intro hlf
          exact hc (by simp [Option.some.inj hlf])
        | nil =>
          cases ending with
          | lf => exact absurd ⟨hcr, rfl⟩ happart
          | cr => simp [LineEnd.text]
          | crlf => simp [LineEnd.text]
    have hkeep : ∀ parts : List (List Char), parts.modifyHead ([].reverse ++ ·) = parts := by
      intro parts
      cases parts <;> rfl
    rw [List.flatMap_cons, List.flatMap_cons, List.append_assoc,
      splitlinesFrom_append (hlines line List.mem_cons_self) hhead, hkeep,
      ih (fun other hother => hlines other (List.mem_cons_of_mem _ hother)) hchain.of_cons]

theorem dataFrames_eq (lines current : List (List Char)) :
    dataFrames (current.map String.ofList) (lines.map String.ofList) =
      (records current (lines.map readLine)).map message := by
  induction lines generalizing current with
  | nil => cases current <;> rfl
  | cons line lines ih =>
    have hempty : String.ofList line = "" ↔ line = [] :=
      ⟨fun h => String.ofList_injective h, fun h => h ▸ rfl⟩
    have hstart : startsWith (String.ofList line) "data:" = dataField.isPrefixOf line := by
      change dataField.isPrefixOf (String.ofList line).toList = _
      rw [String.toList_ofList]
    rw [List.map_cons, List.map_cons, dataFrames, hstart, String.toList_ofList]
    by_cases hline : line = []
    · rw [if_pos (hempty.2 hline), readLine, if_pos hline, records]
      cases current with
      | nil => exact ih []
      | cons value current => exact congrArg (List.cons _) (ih [])
    · rw [if_neg (mt hempty.1 hline), readLine, if_neg hline]
      by_cases hdata : dataField.isPrefixOf line = true
      · rw [if_pos hdata, if_pos hdata, records, ← ih, List.map_append]
        rfl
      · rw [if_neg hdata, if_neg hdata, records, ih]

/-! ### A line of an event -/

theorem pieces_append {start text : List Char} (h : ∀ c ∈ start, isExtraBreak c = false) :
    pieces (start ++ text) = (pieces text).modifyHead (start ++ ·) := by
  induction start with
  | nil =>
    cases hparts : pieces text <;> simp [hparts]
  | cons c start ih =>
    have hc : ¬isExtraBreak c = true := by simp [h c List.mem_cons_self]
    rw [List.cons_append, pieces, List.splitOnP_cons_eq_if_modifyHead, if_neg hc, ← pieces,
      ih fun d hd => h d (List.mem_cons_of_mem _ hd), List.modifyHead_modifyHead]
    rfl

theorem pieces_ne_nil (text : List Char) : pieces text ≠ [] := List.splitOnP_ne_nil isExtraBreak text

theorem pieces_clean {text : List Char} (h : ∀ c ∈ text, isExtraBreak c = false) :
    pieces text = [text] := List.splitOnP_eq_singleton h

theorem readLine_data (value : List Char) : readLine (dataField ++ value) =
    .value (if value.head? = some ' ' then value.drop 1 else value) := by
  have hstart : dataField.isPrefixOf (dataField ++ value) = true := by simp
  have hne : dataField ++ value ≠ [] := by simp [dataField]
  rw [readLine, if_neg hne, if_pos hstart]
  rfl

theorem dataField_clean : ∀ c ∈ dataField, isExtraBreak c = false := by decide

theorem read_data {value : List Char} {spaced : Bool} (hwell : (EventLine.data value spaced).WellFormed)
    (h : ∀ c ∈ value, isExtraBreak c = false) :
    (EventLine.data value spaced).read = [.value value] := by
  have hclean : ∀ c ∈ (EventLine.data value spaced).text, isExtraBreak c = false := by
    intro c hc
    rcases List.mem_append.1 hc with hc | hc
    · exact dataField_clean c hc
    · cases spaced with
      | false => exact h c hc
      | true =>
        rcases List.mem_cons.1 hc with rfl | hc
        · decide
        · exact h c hc
  rw [EventLine.read, pieces_clean hclean, List.map_singleton, EventLine.text, readLine_data]
  cases spaced with
  | false => simp [hwell.2 rfl]
  | true => simp

theorem values_length_le (line : EventLine) :
    line.values.length ≤ (Mark.values line.read).length := by
  cases line with
  | other text => exact Nat.zero_le _
  | data value spaced =>
    obtain ⟨first, rest, hparts⟩ :=
      List.exists_cons_of_ne_nil (pieces_ne_nil (if spaced then ' ' :: value else value))
    rw [EventLine.read, EventLine.text, pieces_append dataField_clean, hparts, List.modifyHead_cons,
      List.map_cons, readLine_data]
    simp [Mark.values, EventLine.values]

theorem mem_values_readLine {lines : List (List Char)} {value : List Char}
    (h : value ∈ Mark.values (lines.map readLine)) : ∃ line ∈ lines, ∀ c ∈ value, c ∈ line := by
  induction lines with
  | nil => exact nomatch h
  | cons line lines ih =>
    have hrest : value ∈ Mark.values (lines.map readLine) →
        ∃ other ∈ line :: lines, ∀ c ∈ value, c ∈ other := by
      intro h
      obtain ⟨other, hother, hvalue⟩ := ih h
      exact ⟨other, List.mem_cons_of_mem _ hother, hvalue⟩
    rw [List.map_cons, readLine] at h
    split at h
    · exact hrest h
    · split at h
      · rcases List.mem_cons.1 h with rfl | h
        · refine ⟨line, List.mem_cons_self, fun c hc => ?_⟩
          split at hc
          · exact List.mem_of_mem_drop (List.mem_of_mem_drop hc)
          · exact List.mem_of_mem_drop hc
        · exact hrest h
      · exact hrest h

theorem values_readLine_eq_nil {lines : List (List Char)} :
    Mark.values (lines.map readLine) = [] ↔ ∀ line ∈ lines, dataField.isPrefixOf line = false := by
  induction lines with
  | nil => simp [Mark.values]
  | cons line lines ih =>
    rw [List.map_cons, List.forall_mem_cons, readLine, ← ih]
    split
    next h =>
      subst h
      exact (and_iff_right (by decide)).symm
    next =>
      split
      next h => simp [Mark.values, h]
      next h => simp [Mark.values, h]

theorem close_mem_readLine {lines : List (List Char)} : .close ∈ lines.map readLine ↔ [] ∈ lines := by
  rw [List.mem_map]
  constructor
  · rintro ⟨line, hline, hclose⟩
    rw [readLine] at hclose
    split at hclose
    next h => exact h ▸ hline
    next => split at hclose <;> cases hclose
  · exact fun h => ⟨[], h, rfl⟩

/-! ### What the reader reads right -/

/-- The reader gets a block right when no line of its message has an extra break, no part of another line
after an extra break reads as data, and no empty part of one stands between two data lines. -/
structure Intact (block : List EventLine) : Prop where
  data : ∀ value spaced, .data value spaced ∈ block → ∀ c ∈ value, isExtraBreak c = false
  other : ∀ text, .other text ∈ block → ∀ piece ∈ pieces text, dataField.isPrefixOf piece = false
  joined : ∀ before text after, block = before ++ .other text :: after → [] ∈ pieces text →
    before.flatMap EventLine.values = [] ∨ after.flatMap EventLine.values = []

def EventStream.Intact (stream : EventStream) : Prop := ∀ block ∈ stream.blocks, DataRescue.Intact block

/-! ### Block by block -/

theorem values_cons (line : EventLine) (block : List EventLine) :
    (line :: block).flatMap EventLine.values = line.values ++ block.flatMap EventLine.values :=
  List.flatMap_cons

theorem records_intact {block : List EventLine} (hwell : ∀ line ∈ block, line.WellFormed)
    (hdata : ∀ value spaced, .data value spaced ∈ block → ∀ c ∈ value, isExtraBreak c = false)
    (hother : ∀ text, .other text ∈ block → ∀ piece ∈ pieces text, dataField.isPrefixOf piece = false)
    (current : List (List Char))
    (hjoined : ∀ before text after, block = before ++ .other text :: after → [] ∈ pieces text →
      current ++ before.flatMap EventLine.values = [] ∨ after.flatMap EventLine.values = []) :
    records current (block.flatMap EventLine.read) =
      emit (current ++ block.flatMap EventLine.values) := by
  induction block generalizing current with
  | nil => simp [records]
  | cons line block ih =>
    have hwell' := fun other hmem => hwell other (List.mem_cons_of_mem line hmem)
    have hdata' := fun value spaced hmem => hdata value spaced (List.mem_cons_of_mem line hmem)
    have hother' := fun text hmem => hother text (List.mem_cons_of_mem line hmem)
    rw [List.flatMap_cons, values_cons]
    cases line with
    | data value spaced =>
      rw [read_data (hwell _ List.mem_cons_self) (hdata value spaced List.mem_cons_self),
        List.singleton_append, records]
      have htail := ih hwell' hdata' hother' (current ++ [value]) ?_
      · rw [htail, List.append_assoc]
        rfl
      · rintro before text after rfl hpiece
        have hcase := hjoined (.data value spaced :: before) text after rfl hpiece
        rwa [values_cons, ← List.append_assoc] at hcase
    | other text =>
      have hquiet := records_quiet (values_readLine_eq_nil.2 (hother text List.mem_cons_self))
        (block.flatMap EventLine.read) current
      change records current ((pieces text).map readLine ++ _) = emit (current ++ _)
      by_cases hclose : [] ∈ pieces text
      · rw [hquiet.2 (close_mem_readLine.2 hclose), ih hwell' hdata' hother' []]
        · rcases hjoined [] text block rfl hclose with hcurrent | hblock
          · rw [List.flatMap_nil, List.append_nil] at hcurrent
            subst hcurrent
            rfl
          · change emit current ++ emit (block.flatMap EventLine.values) = emit (current ++ _)
            rw [hblock]
            simp [EventLine.values, emit]
        · rintro before text' after rfl hpiece
          rcases hjoined (.other text :: before) text' after rfl hpiece with hcase | hcase
          · exact .inl (List.append_eq_nil_iff.1 hcase).2
          · exact .inr hcase
      · rw [hquiet.1 (mt close_mem_readLine.1 hclose), ih hwell' hdata' hother' current]
        · rfl
        · rintro before text' after rfl hpiece
          exact hjoined (.other text :: before) text' after rfl hpiece

theorem found_length {block : List EventLine} :
    (block.flatMap EventLine.values).length ≤ (Mark.values (block.flatMap EventLine.read)).length := by
  rw [Mark.values_flatMap]
  induction block with
  | nil => exact Nat.le_refl _
  | cons line block ih =>
    have hline := values_length_le line
    simp only [List.flatMap_cons, List.length_append]
    omega

/-- A block is read right exactly when it is intact. -/
theorem block_read {block : List EventLine} (hwell : ∀ line ∈ block, line.WellFormed) :
    records [] (block.flatMap EventLine.read) = emit (block.flatMap EventLine.values) ↔
      Intact block := by
  constructor
  · intro h
    have hvalues : block.flatMap (fun line => Mark.values line.read) =
        block.flatMap EventLine.values := by
      have hflatten := congrArg List.flatten h
      rwa [records_flatten, emit_flatten, List.nil_append, Mark.values_flatMap] at hflatten
    have hline := parts_eq (fun line _ => values_length_le line) hvalues
    refine ⟨fun value spaced hmem c hc => ?_, fun text hmem => ?_, ?_⟩
    · have hread : value ∈ Mark.values (EventLine.data value spaced).read := by
        rw [hline _ hmem]
        exact List.mem_cons_self
      obtain ⟨piece, hpiece, hvalue⟩ := mem_values_readLine hread
      exact (mem_splitOnP hpiece c (hvalue c hc)).2
    · exact values_readLine_eq_nil.1 (hline _ hmem)
    · rintro before text after rfl hpiece
      have hbefore : Mark.values (before.flatMap EventLine.read) = before.flatMap EventLine.values := by
        rw [Mark.values_flatMap]
        exact List.flatMap_congr fun line hmem => hline line (List.mem_append_left _ hmem)
      have hafter : Mark.values (after.flatMap EventLine.read) = after.flatMap EventLine.values := by
        rw [Mark.values_flatMap]
        exact List.flatMap_congr fun line hmem =>
          hline line (List.mem_append_right _ (List.mem_cons_of_mem _ hmem))
      by_contra hboth
      rw [not_or] at hboth
      obtain ⟨marks, more, hsplit⟩ := List.append_of_mem (close_mem_readLine.2 hpiece)
      have hread : (before ++ .other text :: after).flatMap EventLine.read =
          (before.flatMap EventLine.read ++ marks) ++
            .close :: (more ++ after.flatMap EventLine.read) := by
        rw [List.flatMap_append, List.flatMap_cons]
        change _ ++ ((pieces text).map readLine ++ _) = _
        rw [hsplit]
        simp
      have hfirst : records [] (before.flatMap EventLine.read ++ marks) ≠ [] := by
        apply records_ne_nil
        rw [Mark.values_append, hbefore]
        exact List.append_ne_nil_of_left_ne_nil hboth.1 _
      have hsecond : records [] (more ++ after.flatMap EventLine.read) ≠ [] := by
        apply records_ne_nil
        rw [Mark.values_append, hafter]
        exact List.append_ne_nil_of_right_ne_nil _ hboth.2
      rw [hread, records_close] at h
      have hlength := congrArg List.length h
      have hone : (emit ((before ++ .other text :: after).flatMap EventLine.values)).length ≤ 1 := by
        cases (before ++ .other text :: after).flatMap EventLine.values <;> simp [emit]
      have hfirst' := List.length_pos_iff.2 hfirst
      have hsecond' := List.length_pos_iff.2 hsecond
      rw [List.length_append] at hlength
      omega
  · intro h
    exact records_intact hwell h.data h.other [] h.joined

theorem intact_of_clean {block : List EventLine} (hwell : ∀ line ∈ block, line.WellFormed)
    (h : ∀ line ∈ block, ∀ c ∈ line.text, isExtraBreak c = false) : Intact block := by
  refine ⟨fun value spaced hmem c hc => ?_, fun text hmem piece hpiece => ?_, ?_⟩
  · refine h _ hmem c (List.mem_append_right _ ?_)
    cases spaced with
    | false => exact hc
    | true => exact List.mem_cons_of_mem _ hc
  · rw [show pieces text = [text] from pieces_clean (h _ hmem)] at hpiece
    obtain rfl := List.mem_singleton.1 hpiece
    rw [Bool.eq_false_iff]
    intro hstart
    obtain ⟨rest, hrest⟩ := List.isPrefixOf_iff_prefix.1 hstart
    have hname : piece.takeWhile (· ≠ ':') = ['d', 'a', 't', 'a'] := by
      rw [← hrest]
      simp [dataField]
    exact (hwell _ hmem).2.2 hname
  · rintro before text after rfl hpiece
    have hmem : EventLine.other text ∈ before ++ .other text :: after := by simp
    rw [show pieces text = [text] from pieces_clean (h _ hmem)] at hpiece
    exact absurd (List.mem_singleton.1 hpiece).symm (hwell _ hmem).2.1

theorem blocks_read {blocks : List (List EventLine)}
    (hwell : ∀ block ∈ blocks, ∀ line ∈ block, line.WellFormed) :
    (blocks.flatMap fun block => records [] (block.flatMap EventLine.read)) =
        (blocks.flatMap fun block => emit (block.flatMap EventLine.values)) ↔
      ∀ block ∈ blocks, Intact block := by
  constructor
  · intro h
    have hvalues : (blocks.flatMap fun block => Mark.values (block.flatMap EventLine.read)) =
        blocks.flatMap fun block => block.flatMap EventLine.values := by
      have hflatten := congrArg (List.flatMap id) h
      simpa only [List.flatMap_assoc, List.flatMap_id, records_flatten, emit_flatten,
        List.nil_append] using hflatten
    have hblock := parts_eq (fun _ _ => found_length) hvalues
    have hcount : ∀ block ∈ blocks, (emit (block.flatMap EventLine.values)).length ≤
        (records [] (block.flatMap EventLine.read)).length := by
      intro block hmem
      cases hnil : block.flatMap EventLine.values with
      | nil => exact Nat.zero_le _
      | cons value values =>
        have hne : records [] (block.flatMap EventLine.read) ≠ [] := by
          apply records_ne_nil
          rw [hblock block hmem, hnil]
          exact List.cons_ne_nil _ _
        exact List.length_pos_iff.2 hne
    intro block hmem
    exact (block_read (hwell block hmem)).1 (parts_eq hcount h block hmem)
  · intro h
    exact List.flatMap_congr fun block hmem => (block_read (hwell block hmem)).2 (h block hmem)

/-! ### Streams -/

theorem EventLine.WellFormed.oneLine {line : EventLine} (h : line.WellFormed) : OneLine line.text := by
  cases line with
  | other text => exact h.1
  | data value spaced =>
    have hfield : OneLine dataField := ⟨by decide, by decide⟩
    refine ⟨fun hmem => ?_, fun hmem => ?_⟩
    · rcases List.mem_append.1 hmem with hmem | hmem
      · exact hfield.1 hmem
      · cases spaced with
        | false => exact h.1.1 hmem
        | true => exact h.1.1 (by simpa using hmem)
    · rcases List.mem_append.1 hmem with hmem | hmem
      · exact hfield.2 hmem
      · cases spaced with
        | false => exact h.1.2 hmem
        | true => exact h.1.2 (by simpa using hmem)

theorem message_toList (values : List (List Char)) :
    (message values).toList = ['\n'].intercalate values := by
  rw [message, String.toList_intercalate, List.map_map]
  congr 1
  exact (List.map_congr_left fun value _ => String.toList_ofList).trans (List.map_id _)

theorem map_message_inj {records others : List (List (List Char))}
    (hrecords : ∀ record ∈ records, record ≠ [] ∧ ∀ value ∈ record, '\n' ∉ value)
    (hothers : ∀ record ∈ others, record ≠ [] ∧ ∀ value ∈ record, '\n' ∉ value)
    (h : records.map message = others.map message) : records = others := by
  have hsplit : ∀ {list : List (List (List Char))},
      (∀ record ∈ list, record ≠ [] ∧ ∀ value ∈ record, '\n' ∉ value) →
      (list.map message).map (fun text => text.toList.splitOn '\n') = list := by
    intro list hlist
    rw [List.map_map]
    refine (List.map_congr_left fun record hrecord => ?_).trans (List.map_id _)
    obtain ⟨hne, hvalues⟩ := hlist record hrecord
    change (message record).toList.splitOn '\n' = record
    rw [message_toList]
    exact List.splitOn_intercalate '\n' hvalues hne
  rw [← hsplit hrecords, h, hsplit hothers]

namespace EventStream

variable {stream : EventStream}

theorem WellFormed.oneLine (h : stream.WellFormed) : ∀ line ∈ stream.texts, OneLine line.1 := by
  have hblock : ∀ lines : List (EventLine × LineEnd), lines.map Prod.fst ∈ stream.blocks →
      ∀ line ∈ lines, OneLine line.1.text :=
    fun lines hmem line hline => (h.lines _ hmem line.1 (List.mem_map_of_mem hline)).oneLine
  intro line hline
  rcases List.mem_append.1 hline with hline | hline
  · obtain ⟨event, hevent, hline⟩ := List.mem_flatMap.1 hline
    rcases List.mem_append.1 hline with hline | hline
    · obtain ⟨eventLine, hmem, rfl⟩ := List.mem_map.1 hline
      refine hblock event.lines ?_ eventLine hmem
      exact List.mem_append_left _ (List.mem_map_of_mem (f := fun event : Event =>
        event.lines.map Prod.fst) hevent)
    · obtain rfl := List.mem_singleton.1 hline
      exact ⟨List.not_mem_nil, List.not_mem_nil⟩
  · obtain ⟨eventLine, hmem, rfl⟩ := List.mem_map.1 hline
    exact hblock stream.tail (List.mem_append_right _ (List.mem_singleton_self _)) eventLine hmem

theorem read_texts (stream : EventStream) :
    (stream.texts.flatMap fun line => pieces line.1).map readLine =
      stream.events.flatMap (fun event => (event.lines.map Prod.fst).flatMap EventLine.read ++ [.close]) ++
        (stream.tail.map Prod.fst).flatMap EventLine.read := by
  have hlines : ∀ lines : List (EventLine × LineEnd),
      ((lines.map fun line => (line.1.text, line.2)).flatMap fun line => pieces line.1).map readLine =
        (lines.map Prod.fst).flatMap EventLine.read := by
    intro lines
    rw [List.flatMap_map, List.flatMap_map, List.map_flatMap]
    rfl
  rw [texts, List.flatMap_append, List.map_append, hlines, List.flatMap_assoc, List.map_flatMap]
  congr 1
  refine List.flatMap_congr fun event _ => ?_
  rw [Event.texts, List.flatMap_append, List.map_append, hlines]
  rfl

theorem sseDataFrames_text (h : stream.WellFormed) : sseDataFrames stream.text =
    (stream.blocks.flatMap fun block => records [] (block.flatMap EventLine.read)).map message := by
  have hframes := dataFrames_eq (stream.texts.flatMap fun line => pieces line.1) []
  rw [read_texts, records_flatMap, List.map_nil, List.map_flatMap] at hframes
  rw [sseDataFrames, splitlines, text, String.toList_ofList,
    splitlinesFrom_texts h.oneLine h.ends, hframes, blocks,
    List.flatMap_append, List.flatMap_cons, List.flatMap_nil, List.append_nil]
  congr 2
  rw [List.flatMap_map]

theorem sseDataFrames_eq_iff (h : stream.WellFormed) :
    sseDataFrames stream.text = stream.messages ↔ stream.Intact := by
  rw [sseDataFrames_text h, EventStream.Intact, ← blocks_read h.lines]
  constructor
  · refine map_message_inj ?_ ?_
    · intro record hrecord
      obtain ⟨block, hblock, hrecord⟩ := List.mem_flatMap.1 hrecord
      refine ⟨ne_nil_of_mem_records hrecord, fun value hvalue hlf => ?_⟩
      have hmem : value ∈ Mark.values (block.flatMap EventLine.read) := by
        have hflatten := records_flatten (block.flatMap EventLine.read) []
        rw [List.nil_append] at hflatten
        exact hflatten ▸ List.mem_flatten_of_mem hrecord hvalue
      rw [Mark.values_flatMap] at hmem
      obtain ⟨line, hline, hmem⟩ := List.mem_flatMap.1 hmem
      obtain ⟨piece, hpiece, hchars⟩ := mem_values_readLine hmem
      exact (h.lines block hblock line hline).oneLine.1 (mem_splitOnP hpiece _ (hchars _ hlf)).1
    · intro record hrecord
      obtain ⟨block, hblock, hrecord⟩ := List.mem_flatMap.1 hrecord
      obtain ⟨rfl, hne⟩ := mem_emit.1 hrecord
      refine ⟨hne, fun value hvalue hlf => ?_⟩
      obtain ⟨line, hline, hvalue⟩ := List.mem_flatMap.1 hvalue
      cases line with
      | other text => exact nomatch hvalue
      | data value' spaced =>
        obtain rfl := List.mem_singleton.1 hvalue
        exact (h.lines block hblock _ hline).1.1 hlf
  · exact congrArg _

/-- Every list of messages without `\r` has a stream: each line spaced, each line end `\n`. -/
def plain (messages : List String) : EventStream where
  events := messages.map fun message =>
    { lines := (message.toList.splitOn '\n').map fun value => (.data value true, .lf), blank := .lf }

theorem plain_messages (messages : List String) : (plain messages).messages = messages := by
  have hvalues : ∀ values : List (List Char),
      (values.map fun value => EventLine.data value true).flatMap EventLine.values = values := by
    intro values
    rw [List.flatMap_map]
    exact List.flatMap_singleton' values
  have hmessage : ∀ text : String, message (text.toList.splitOn '\n') = text := by
    intro text
    rw [← String.toList_inj, message_toList]
    exact List.intercalate_splitOn '\n'
  rw [EventStream.messages, blocks, List.flatMap_append, List.map_append]
  change _ ++ [] = messages
  rw [List.append_nil, plain, List.map_map, List.flatMap_map, List.map_flatMap]
  refine (List.flatMap_congr fun text _ => ?_).trans (List.flatMap_singleton' messages)
  have hlines : ((text.toList.splitOn '\n').map fun value => (EventLine.data value true, LineEnd.lf)).map
      Prod.fst = (text.toList.splitOn '\n').map fun value => EventLine.data value true := by
    rw [List.map_map]
    rfl
  change (emit (List.flatMap EventLine.values (List.map Prod.fst _))).map message = [text]
  rw [hlines, hvalues, emit_of_ne_nil (List.splitOn_ne_nil _ _), List.map_singleton, hmessage]

theorem plain_wellFormed {messages : List String} (h : ∀ text ∈ messages, '\x0d' ∉ text.toList) :
    (plain messages).WellFormed where
  lines := by
    intro block hblock line hline
    rcases List.mem_append.1 hblock with hblock | hblock
    · obtain ⟨event, hevent, rfl⟩ := List.mem_map.1 hblock
      obtain ⟨text, htext, rfl⟩ := List.mem_map.1 hevent
      rw [List.map_map] at hline
      obtain ⟨value, hvalue, rfl⟩ := List.mem_map.1 hline
      rw [List.splitOn_eq_splitOnP] at hvalue
      have hletters := mem_splitOnP hvalue
      refine ⟨⟨fun hlf => ?_, fun hcr => h text htext (hletters _ hcr).1⟩, fun h => nomatch h⟩
      exact absurd (hletters _ hlf).2 (by decide)
    · obtain rfl := List.mem_singleton.1 hblock
      exact nomatch hline
  tail := fun _ hmem => nomatch hmem
  ends := by
    have hlf : ∀ line ∈ (plain messages).texts, line.2 = .lf := by
      intro line hline
      rcases List.mem_append.1 hline with hline | hline
      · obtain ⟨event, hevent, hline⟩ := List.mem_flatMap.1 hline
        obtain ⟨text, -, rfl⟩ := List.mem_map.1 hevent
        rcases List.mem_append.1 hline with hline | hline
        · obtain ⟨eventLine, hmem, rfl⟩ := List.mem_map.1 hline
          change eventLine ∈ List.map _ _ at hmem
          obtain ⟨value, -, rfl⟩ := List.mem_map.1 hmem
          rfl
        · obtain rfl := List.mem_singleton.1 hline
          rfl
      · exact nomatch hline
    refine (List.pairwise_of_forall_mem_list fun line hline next _ hcr => ?_).isChain
    rw [hlf line hline] at hcr
    cases hcr.1

end EventStream

/-! ### The answer to a request -/

/-- The message is a JSON object with the id of the request. -/
def HasId (requestId : Nat) (value : Json) : Prop :=
  ∃ fields, value = .obj fields ∧ Json.isNumber (getField fields "id") requestId = true

/-- One of the messages is a valid response to the request, and the others are JSON that is not. -/
structure AnsweredBy (printing : Printing) (requestId : Nat) (messages : List String) (body : Fields) :
    Prop where
  split : ∃ before answer after, messages = before ++ answer :: after ∧
    Http.decode printing answer = .ok (.obj body) ∧
    ∀ other ∈ before ++ after, ∃ value, Http.decode printing other = .ok value ∧ ¬HasId requestId value
  version : Json.isText (getField body "jsonrpc") "2.0" = true
  id : Json.isNumber (getField body "id") requestId = true
  result : getField body "result" ≠ none ∨ getField body "error" ≠ none

theorem eventBody_answered {printing : Printing} {requestId : Nat} {messages : List String}
    {body : Fields} (h : AnsweredBy printing requestId messages body) :
    eventBody printing requestId messages = .ok body := by
  obtain ⟨before, answer, after, rfl, hanswer, hothers⟩ := h.split
  have hvalid : validatedRpcResponse printing body requestId = .ok body := by
    have hresult : ¬(getField body "result" = none ∧ getField body "error" = none) := by
      intro hnone
      exact h.result.elim (fun hne => hne hnone.1) (fun hne => hne hnone.2)
    rw [validatedRpcResponse, h.version, h.id, if_neg (by simp), if_neg (by simp), if_neg hresult]
  induction before with
  | nil =>
    rw [List.nil_append, eventBody, hanswer]
    change (if Json.isNumber (getField body "id") requestId = true then _ else _) = _
    rw [if_pos h.id, hvalid]
  | cons other before ih =>
    obtain ⟨value, hvalue, hid⟩ := hothers other List.mem_cons_self
    have hrest := ih ⟨⟨before, answer, after, rfl, hanswer, fun message hmem =>
      hothers message (List.mem_cons_of_mem _ hmem)⟩, h.version, h.id, h.result⟩
      (fun message hmem => hothers message (List.mem_cons_of_mem _ hmem))
    rw [List.cons_append, eventBody, hvalue]
    cases value with
    | obj fields =>
      change (if Json.isNumber (getField fields "id") requestId = true then _ else _) = _
      rw [if_neg fun hnumber => hid ⟨fields, rfl, hnumber⟩, hrest]
    | null | bool | int | float | str | arr => exact hrest

/-- The event-stream contract: the frames of a stream are its messages, and the answer to a request is
found among them, exactly when the stream is intact. -/
theorem sseDataFrames_contract (stream : EventStream) (messages : List String)
    (hwell : stream.WellFormed) (hencoded : stream.messages = messages) :
    (sseDataFrames stream.text = messages ∧
      ∀ printing requestId body (response : HttpResponse),
        containsText (casefold response.contentType) "text/event-stream" = true →
        response.text = stream.text → AnsweredBy printing requestId messages body →
        rpcBody printing response requestId = .ok body) ↔ stream.Intact := by
  have hframes := EventStream.sseDataFrames_eq_iff hwell
  rw [hencoded] at hframes
  constructor
  · exact fun h => hframes.1 h.1
  · intro h
    refine ⟨hframes.2 h, fun printing requestId body response htype htext hanswered => ?_⟩
    rw [rpcBody, if_pos htype, htext, hframes.2 h]
    exact eventBody_answered hanswered

/-- A message of two lines, with a comment between them and three kinds of line ends. -/
def commentedStream : EventStream where
  events := [{
    lines := [(.data ['a'] true, .crlf), (.other [':'], .cr), (.data ['b'] false, .lf)]
    blank := .cr }]

theorem sseDataFrames_contract_commented : sseDataFrames commentedStream.text = ["a\nb"] := by
  have hblocks : ∀ block ∈ commentedStream.blocks, ∀ line ∈ block,
      line.WellFormed ∧ ∀ c ∈ line.text, isExtraBreak c = false := by
    intro block hblock line hline
    rcases List.mem_cons.1 hblock with rfl | hblock
    · have hlines : ∀ line ∈ [EventLine.data ['a'] true, .other [':'], .data ['b'] false],
          line.WellFormed ∧ ∀ c ∈ line.text, isExtraBreak c = false := by
        simp [EventLine.WellFormed, OneLine, EventLine.text, dataField, isExtraBreak]
      exact hlines line hline
    · obtain rfl := List.mem_singleton.1 hblock
      exact nomatch hline
  have hmessages : commentedStream.messages = ["a\nb"] := by
    change [message [['a'], ['b']]] = ["a\nb"]
    rw [← String.ofList_toList (s := message _), message_toList]
    rfl
  refine ((sseDataFrames_contract commentedStream ["a\nb"] ⟨?_, ?_, ?_⟩ hmessages).2 ?_).1
  · exact fun block hblock line hline => (hblocks block hblock line hline).1
  · exact fun _ hmem => nomatch hmem
  · simp [EventStream.texts, commentedStream, Event.texts, EventLine.text]
  · exact fun block hblock => intact_of_clean (fun line hline => (hblocks block hblock line hline).1)
      fun line hline => (hblocks block hblock line hline).2

/-- The response of a tool with a line separator in its text. -/
def separatedAnswer : String := "\x7b\"jsonrpc\": \"2.0\", \"id\": 2, \"result\": \"\u2028\"\x7d"

theorem sseDataFrames_contract_counterexample :
    (EventStream.plain [separatedAnswer]).WellFormed ∧
      (EventStream.plain [separatedAnswer]).messages = [separatedAnswer] ∧
      sseDataFrames (EventStream.plain [separatedAnswer]).text ≠ [separatedAnswer] := by
  have hwell : (EventStream.plain [separatedAnswer]).WellFormed := by
    refine EventStream.plain_wellFormed fun text htext => ?_
    obtain rfl := List.mem_singleton.1 htext
    simp [separatedAnswer]
  refine ⟨hwell, EventStream.plain_messages _, fun h => ?_⟩
  have hintact := (EventStream.sseDataFrames_eq_iff hwell).1 (h.trans (EventStream.plain_messages _).symm)
  have hsplit : separatedAnswer.toList.splitOn '\n' = [separatedAnswer.toList] := by
    rw [List.splitOn_eq_splitOnP]
    exact List.splitOnP_eq_singleton (by simp [separatedAnswer])
  have hblock : [EventLine.data separatedAnswer.toList true] ∈
      (EventStream.plain [separatedAnswer]).blocks := by
    simp [EventStream.blocks, EventStream.plain, hsplit]
  have hmem : '\u2028' ∈ separatedAnswer.toList := by simp [separatedAnswer]
  have hextra := (hintact _ hblock).data separatedAnswer.toList true (by simp) _ hmem
  exact absurd hextra (by decide)

end DataRescue
