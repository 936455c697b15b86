import DataRescue.Datahub.Actions
import DataRescue.Python.Sha256

/-!
# The schema normalisers

Three functions compare schema transitions after a normalisation of their own: `schema_event_dedup_key`
sorts the fields by their values and hashes a text, `_same_event_payload` sorts them by their JSON text and
compares payloads, and `_same_schema` sorts them by their values and compares lists. All three see the
fields as multisets (`normalisers_agree`). For the first one this rests on the hash not colliding, and on
the hashed text being uniquely decodable.
-/

namespace DataRescue

open Python

/-! ### The hashed text -/

theorem intercalate_cons {α : Type} (mark : α) (first : List α) (rest : List (List α)) :
    [mark].intercalate (first :: rest) = first ++ rest.flatMap fun part => mark :: part := by
  induction rest generalizing first with
  | nil => simp
  | cons second rest ih =>
    rw [List.intercalate_cons_cons, ih second, List.flatMap_cons, List.append_assoc,
      List.singleton_append, List.cons_append]

theorem laterFields_inj : ∀ (l m : List SchemaField) {rest rest' : List Char},
    (l.flatMap fun field => ',' :: field.json) ++ ']' :: rest =
      (m.flatMap fun field => ',' :: field.json) ++ ']' :: rest' → l = m ∧ rest = rest' := by
  intro l
  induction l with
  | nil =>
    intro m rest rest' h
    cases m with
    | nil => simpa using h
    | cons field m => simp at h
  | cons field l ih =>
    intro m rest rest' h
    cases m with
    | nil => simp at h
    | cons other m =>
      simp only [List.flatMap_cons, List.cons_append, List.append_assoc, List.cons.injEq,
        true_and] at h
      obtain ⟨rfl, htail⟩ := SchemaField.json_append_inj h
      obtain ⟨rfl, hrest⟩ := ih m htail
      exact ⟨rfl, hrest⟩

theorem fieldsJson_append_inj {l m : List SchemaField} {rest rest' : List Char}
    (h : fieldsJson l ++ rest = fieldsJson m ++ rest') : l = m ∧ rest = rest' := by
  have hbrace : ∀ field : SchemaField, ∃ tail, field.json = '{' :: tail := fun field => ⟨_, rfl⟩
  simp only [fieldsJson, List.cons_append, List.append_assoc, List.nil_append, List.cons.injEq,
    true_and] at h
  cases l with
  | nil =>
    cases m with
    | nil => simpa using h
    | cons other m =>
      obtain ⟨tail, htail⟩ := hbrace other
      rw [List.map_cons, intercalate_cons, htail] at h
      simp at h
  | cons field l =>
    cases m with
    | nil =>
      obtain ⟨tail, htail⟩ := hbrace field
      rw [List.map_cons, intercalate_cons, htail] at h
      simp at h
    | cons other m =>
      rw [List.map_cons, List.map_cons, intercalate_cons, intercalate_cons, List.append_assoc,
        List.append_assoc, List.flatMap_map, List.flatMap_map] at h
      obtain ⟨rfl, hlater⟩ := SchemaField.json_append_inj h
      obtain ⟨rfl, hrest⟩ := laterFields_inj l m hlater
      exact ⟨rfl, hrest⟩

theorem sortFields_eq_iff {l m : List SchemaField} : sortFields l = sortFields m ↔ l.Perm m := by
  refine ⟨fun h => ?_, sortFields_eq_of_perm⟩
  exact (sortBy_perm _ l).symm.trans ((List.Perm.of_eq h).trans (sortBy_perm _ m))

/-- The text that is hashed says what the event is up to case folding and the order of fields. -/
theorem normalizedEvent_inj {first second : SchemaChangeEvent} :
    normalizedEvent first = normalizedEvent second ↔
      casefold first.entityUrn = casefold second.entityUrn ∧
        first.beforeFields.Perm second.beforeFields ∧ first.afterFields.Perm second.afterFields := by
  constructor
  · intro h
    have htext := String.ofList_injective h
    simp only [member, List.cons_append, List.append_assoc, List.cons.injEq, true_and] at htext
    obtain ⟨-, htext⟩ := quote_append_inj htext
    simp only [List.cons.injEq, true_and] at htext
    obtain ⟨hafter, htext⟩ := fieldsJson_append_inj htext
    simp only [List.cons.injEq, true_and] at htext
    obtain ⟨-, htext⟩ := quote_append_inj htext
    simp only [List.cons.injEq, true_and] at htext
    obtain ⟨hbefore, htext⟩ := fieldsJson_append_inj htext
    simp only [List.cons.injEq, true_and] at htext
    obtain ⟨-, htext⟩ := quote_append_inj htext
    simp only [List.cons.injEq, true_and] at htext
    obtain ⟨hurn, -⟩ := quote_append_inj htext
    exact ⟨hurn, sortFields_eq_iff.1 hbefore, sortFields_eq_iff.1 hafter⟩
  · rintro ⟨hurn, hbefore, hafter⟩
    simp only [normalizedEvent, hurn, sortFields_eq_iff.2 hbefore, sortFields_eq_iff.2 hafter]

theorem encode_injective : Function.Injective encode := by
  intro first second h
  unfold encode at h
  have hdata : first.toByteArray.data = second.toByteArray.data := Array.toList_inj.1 h
  exact String.toByteArray_inj.1 (ByteArray.ext hdata)

/-! ### Agreement -/

/-- The event with its fields before and after exchanged. -/
def SchemaChangeEvent.exchanged (event : SchemaChangeEvent) : SchemaChangeEvent :=
  { event with beforeFields := event.afterFields, afterFields := event.beforeFields }

/-- The hash tells the texts of these events apart. -/
def NoCollision (sha256 : List UInt8 → String) (events : List SchemaChangeEvent) : Prop :=
  ∀ first ∈ events, ∀ second ∈ events,
    sha256 (encode (normalizedEvent first)) = sha256 (encode (normalizedEvent second)) →
      encode (normalizedEvent first) = encode (normalizedEvent second)

theorem dedupKey_iff {sha256 : List UInt8 → String} {events : List SchemaChangeEvent}
    (hfree : NoCollision sha256 events) {first second : SchemaChangeEvent} (hfirst : first ∈ events)
    (hsecond : second ∈ events) :
    schemaEventDedupKey sha256 first = schemaEventDedupKey sha256 second ↔
      casefold first.entityUrn = casefold second.entityUrn ∧
        first.beforeFields.Perm second.beforeFields ∧ first.afterFields.Perm second.afterFields := by
  rw [← normalizedEvent_inj]
  constructor
  · exact fun h => encode_injective (hfree first hfirst second hsecond h)
  · intro h
    rw [schemaEventDedupKey, schemaEventDedupKey, h]

theorem sameSchema_iff {before after : List SchemaField} :
    sameSchema before after = true ↔ before.Perm after := by
  rw [sameSchema, decide_eq_true_iff, sortFields_eq_iff]

theorem samePayload_iff {first second : SchemaChangeEvent} {caseId : String} :
    sameEventPayload (detectionPayload first caseId) (detectionPayload second caseId) = true ↔
      first.eventId = second.eventId ∧ ContentEquivalent first second := by
  simp only [sameEventPayload, detectionPayload, Bool.or_eq_true, Bool.and_eq_true,
    beq_self_eq_true, and_true, sameSchemaChange_iff]
  constructor
  · intro h
    rcases h with h | h
    · obtain ⟨rfl, -⟩ := EventBody.schemaChangeDetected.inj (of_decide_eq_true h)
      exact ⟨rfl, .refl _⟩
    · exact h
  · exact .inr

/-- The normalisers agree: each of them compares the fields as multisets. -/
theorem normalisers_agree (sha256 : List UInt8 → String) (first second : SchemaChangeEvent)
    (hfree : NoCollision sha256 [first, second, first.exchanged]) :
    (schemaEventDedupKey sha256 first = schemaEventDedupKey sha256 second ↔
      casefold first.entityUrn = casefold second.entityUrn ∧
        first.beforeFields.Perm second.beforeFields ∧ first.afterFields.Perm second.afterFields) ∧
    (∀ caseId,
      sameEventPayload (detectionPayload first caseId) (detectionPayload second caseId) = true ↔
        schemaEventDedupKey sha256 first = schemaEventDedupKey sha256 second ∧
          first.eventId = second.eventId ∧ first.source = second.source) ∧
    (sameSchema first.beforeFields first.afterFields = true ↔
      first.beforeFields.Perm first.afterFields) ∧
    (schemaEventDedupKey sha256 first.exchanged = schemaEventDedupKey sha256 first ↔
      sameSchema first.beforeFields first.afterFields = true) := by
  have hkey := dedupKey_iff hfree (List.mem_cons_self : first ∈ _)
    (by simp : second ∈ [first, second, first.exchanged])
  have hexchanged := dedupKey_iff hfree (by simp : first.exchanged ∈ [first, second, first.exchanged])
    (List.mem_cons_self : first ∈ _)
  refine ⟨hkey, fun caseId => ?_, sameSchema_iff, ?_⟩
  · rw [samePayload_iff, hkey]
    constructor
    · rintro ⟨hid, hurn, hsource, hbefore, hafter⟩
      exact ⟨⟨hurn, hbefore, hafter⟩, hid, hsource⟩
    · rintro ⟨⟨hurn, hbefore, hafter⟩, hid, hsource⟩
      exact ⟨hid, hurn, hsource, hbefore, hafter⟩
  · rw [hexchanged, sameSchema_iff]
    constructor
    · rintro ⟨-, -, hafter⟩
      exact hafter
    · exact fun h => ⟨rfl, h.symm, h⟩

theorem letter_length {letter : String} (h : letter.length = 1) :
    1 ≤ letter.length ∧ letter.length ≤ 255 := by omega

theorem unnamedType_length : "unknown".length ≤ 128 := by decide

theorem renamedUrn_length : 1 ≤ "urn".length ∧ "urn".length ≤ 2048 := by decide

theorem renamedSource_length : "DATAHUB_MCL".length ≤ 64 := by decide

/-- Two deliveries of a renamed column, under the hash of the service. -/
def renamedEvent (observedAt : Timestamp) : SchemaChangeEvent where
  entityUrn := "urn"
  beforeFields :=
    [{ name := "a", name_length := letter_length rfl, dataType_length := unnamedType_length }]
  afterFields :=
    [{ name := "b", name_length := letter_length rfl, dataType_length := unnamedType_length }]
  observedAt := observedAt
  entityUrn_length := renamedUrn_length
  source_length := renamedSource_length

theorem normalisers_agree_renamed :
    schemaEventDedupKey sha256Hexdigest (renamedEvent 0) =
      schemaEventDedupKey sha256Hexdigest (renamedEvent 1) := by
  refine (normalisers_agree sha256Hexdigest (renamedEvent 0) (renamedEvent 1) ?_).1.2
    ⟨rfl, .refl _, .refl _⟩
  have hsame : normalizedEvent (renamedEvent 1) = normalizedEvent (renamedEvent 0) := rfl
  have hapart : sha256Hexdigest (encode (normalizedEvent (renamedEvent 0))) ≠
      sha256Hexdigest (encode (normalizedEvent (renamedEvent 0).exchanged)) := by
    decide +kernel
  intro first hfirst second hsecond
  simp only [List.mem_cons, List.not_mem_nil, or_false] at hfirst hsecond
  rcases hfirst with rfl | rfl | rfl <;> rcases hsecond with rfl | rfl | rfl
  · exact fun _ => rfl
  · exact fun _ => congrArg encode hsame.symm
  · exact fun h => absurd h hapart
  · exact fun _ => congrArg encode hsame
  · exact fun _ => rfl
  · rw [hsame]
    exact fun h => absurd h hapart
  · exact fun h => absurd h.symm hapart
  · rw [hsame]
    exact fun h => absurd h.symm hapart
  · exact fun _ => rfl

end DataRescue
