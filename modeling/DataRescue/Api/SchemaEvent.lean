import DataRescue.Api.Models
import DataRescue.Python.Text
import Mathlib.Data.List.Sort
import Mathlib.Data.Prod.Lex
import Mathlib.Data.String.Basic
import Mathlib.Order.BooleanAlgebra.Basic

/-!
# Schema events

The two normal forms of a schema event. `schemaEventDedupKey` of `apps/api/workflow.py` hashes a
canonical JSON text with the fields sorted by their values; `_same_event_payload` of
`apps/api/store.py` compares payloads with the fields sorted by their own JSON text. Both ignore the
observation time, the spelling of the URN up to case folding and the order of fields
(`ContentEquivalent`), and only the second looks at the source.
-/

namespace DataRescue

open Python

/-- `sorted(items, key=key)` -/
def sortBy {α κ : Type} [LinearOrder κ] (key : α → κ) (items : List α) : List α :=
  items.insertionSort fun a b => key a ≤ key b

/-- `"key":value` inside a JSON object. -/
def member (key : String) (value : List Char) : List Char := quote key ++ ':' :: value

def boolJson (value : Bool) : List Char :=
  if value then ['t', 'r', 'u', 'e'] else ['f', 'a', 'l', 's', 'e']

/-- `json.dumps(field, sort_keys=True, separators=(",", ":"))` -/
def SchemaField.json (field : SchemaField) : List Char :=
  '{' :: (member "data_type" (quote field.dataType) ++ ',' :: (member "name" (quote field.name) ++
    ',' :: (member "nullable" (boolJson field.nullable) ++ ['}'])))

/-- The sort key `(name, data_type, nullable)`. -/
def SchemaField.sortKey (field : SchemaField) : String ×ₗ String ×ₗ Bool :=
  toLex (field.name, toLex (field.dataType, field.nullable))

/-- `sorted(fields, key=(name, data_type, nullable))` -/
def sortFields (fields : List SchemaField) : List SchemaField := sortBy SchemaField.sortKey fields

/-- `sorted(fields, key=json.dumps)` -/
def sortFieldsByJson (fields : List SchemaField) : List SchemaField :=
  sortBy (fun field => String.ofList field.json) fields

/-- `json.dumps` of a list of fields. -/
def fieldsJson (fields : List SchemaField) : List Char :=
  '[' :: (List.intercalate [','] (fields.map SchemaField.json) ++ [']'])

/-- The canonical text `schema_event_dedup_key` hashes. -/
def normalizedEvent (event : SchemaChangeEvent) : String :=
  String.ofList <|
    '{' :: (member "after_fields" (fieldsJson (sortFields event.afterFields)) ++
      ',' :: (member "before_fields" (fieldsJson (sortFields event.beforeFields)) ++
        ',' :: (member "entity_urn" (quote (casefold event.entityUrn)) ++ ['}'])))

/-- `schema_event_dedup_key` -/
def schemaEventDedupKey (sha256 : List UInt8 → String) (event : SchemaChangeEvent) : String :=
  sha256 (encode (normalizedEvent event))

/-- Equality of two schema changes after the normalisation of `_same_event_payload`. -/
def sameSchemaChange (existing incoming : SchemaChangeEvent) : Bool :=
  existing.eventId = incoming.eventId ∧
    casefold existing.entityUrn = casefold incoming.entityUrn ∧
    sortFieldsByJson existing.beforeFields = sortFieldsByJson incoming.beforeFields ∧
    sortFieldsByJson existing.afterFields = sortFieldsByJson incoming.afterFields ∧
    existing.source = incoming.source

/-- The same URN up to case folding, the same source and the same fields in any order. -/
structure ContentEquivalent (first second : SchemaChangeEvent) : Prop where
  entityUrn : casefold first.entityUrn = casefold second.entityUrn
  source : first.source = second.source
  beforeFields : first.beforeFields.Perm second.beforeFields
  afterFields : first.afterFields.Perm second.afterFields

/-! ### The sort orders -/

theorem SchemaField.ext' {a b : SchemaField} (hname : a.name = b.name)
    (htype : a.dataType = b.dataType) (hnullable : a.nullable = b.nullable) : a = b := by
  cases a; cases b; simp_all

theorem SchemaField.sortKey_injective : Function.Injective SchemaField.sortKey := by
  intro a b h
  simp only [sortKey, EmbeddingLike.apply_eq_iff_eq, Prod.mk.injEq] at h
  exact SchemaField.ext' h.1 h.2.1 h.2.2

theorem SchemaField.json_append_inj {a b : SchemaField} {l m : List Char}
    (h : a.json ++ l = b.json ++ m) : a = b ∧ l = m := by
  simp only [json, member, List.cons_append, List.append_assoc, List.cons.injEq, true_and] at h
  obtain ⟨-, h⟩ := quote_append_inj h
  simp only [List.cons.injEq, true_and] at h
  obtain ⟨htype, h⟩ := quote_append_inj h
  simp only [List.cons.injEq, true_and] at h
  obtain ⟨-, h⟩ := quote_append_inj h
  simp only [List.cons.injEq, true_and] at h
  obtain ⟨hname, h⟩ := quote_append_inj h
  simp only [List.cons.injEq, true_and] at h
  obtain ⟨-, h⟩ := quote_append_inj h
  cases ha : a.nullable <;> cases hb : b.nullable <;> simp [ha, hb, boolJson] at h
  all_goals exact ⟨SchemaField.ext' hname htype (ha.trans hb.symm), h⟩

theorem SchemaField.json_injective : Function.Injective SchemaField.json := by
  intro a b h
  exact (@json_append_inj _ _ [] [] (by simpa using h)).1

theorem sortBy_eq_of_perm {α κ : Type} [LinearOrder κ] {key : α → κ}
    (hkey : Function.Injective key) {l m : List α} (h : l.Perm m) : sortBy key l = sortBy key m := by
  have : Std.Antisymm fun a b : α => key a ≤ key b :=
    ⟨fun _ _ hab hba => hkey (le_antisymm hab hba)⟩
  have : IsTrans α fun a b => key a ≤ key b := ⟨fun _ _ _ hab hbc => le_trans hab hbc⟩
  have : Std.Total fun a b : α => key a ≤ key b := ⟨fun a b => le_total (key a) (key b)⟩
  exact List.Perm.eq_of_pairwise (fun _ _ _ _ => antisymm) (List.pairwise_insertionSort _ _)
    (List.pairwise_insertionSort _ _)
    ((List.perm_insertionSort _ _).trans (h.trans (List.perm_insertionSort _ _).symm))

theorem sortFields_eq_of_perm {l m : List SchemaField} (h : l.Perm m) :
    sortFields l = sortFields m := sortBy_eq_of_perm SchemaField.sortKey_injective h

theorem sortBy_perm {α κ : Type} [LinearOrder κ] (key : α → κ) (items : List α) :
    (sortBy key items).Perm items := List.perm_insertionSort _ _

theorem sortFieldsByJson_eq_iff {l m : List SchemaField} :
    sortFieldsByJson l = sortFieldsByJson m ↔ l.Perm m := by
  have hkey : Function.Injective fun field : SchemaField => String.ofList field.json :=
    fun _ _ h => SchemaField.json_injective (String.ofList_injective h)
  refine ⟨fun h => ?_, sortBy_eq_of_perm hkey⟩
  exact (sortBy_perm _ l).symm.trans ((List.Perm.of_eq h).trans (sortBy_perm _ m))

/-! ### Content equivalence -/

theorem sameSchemaChange_iff {existing incoming : SchemaChangeEvent} :
    sameSchemaChange existing incoming = true ↔
      existing.eventId = incoming.eventId ∧ ContentEquivalent existing incoming := by
  simp only [sameSchemaChange, decide_eq_true_eq, sortFieldsByJson_eq_iff]
  constructor
  · rintro ⟨hid, hurn, hbefore, hafter, hsource⟩
    exact ⟨hid, hurn, hsource, hbefore, hafter⟩
  · rintro ⟨hid, hurn, hsource, hbefore, hafter⟩
    exact ⟨hid, hurn, hbefore, hafter, hsource⟩

theorem ContentEquivalent.refl (event : SchemaChangeEvent) : ContentEquivalent event event :=
  ⟨rfl, rfl, .refl _, .refl _⟩

end DataRescue
