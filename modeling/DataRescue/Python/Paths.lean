import DataRescue.Python.Json
import Mathlib.Data.List.Forall2

/-!
# Paths through nested objects

What it means that a change to an object loses nothing but what a contract manages: every path of keys that
leaves the contract keeps its value (`Kept`), and in a list every entry keeps its place (`KeptEntries`).
Both relations compose, so a run of changes is checked change by change.
-/

namespace DataRescue.Python

variable {fields : List (String × Json)} {key other : String} {value : Json}

@[simp] theorem getField_nil (key : String) : getField [] key = none := rfl

theorem getField_cons (k : String) (v : Json) (rest : List (String × Json)) (key : String) :
    getField ((k, v) :: rest) key = if k = key then some v else getField rest key := by
  unfold getField
  rw [List.lookup_cons]
  by_cases h : k = key
  · rw [if_pos h, h]
    simp
  · rw [if_neg h]
    have hkey : (key == k) = false := by simpa using Ne.symm h
    rw [hkey]

@[simp] theorem getField_setField_self (fields : List (String × Json)) (key : String) (value : Json) :
    getField (setField fields key value) key = some value := by
  induction fields with
  | nil => simp [setField, getField_cons]
  | cons field fields ih =>
    obtain ⟨k, v⟩ := field
    by_cases h : k = key
    · rw [setField, if_pos h, getField_cons, if_pos h]
    · rw [setField, if_neg h, getField_cons, if_neg h, ih]

theorem getField_setField_of_ne (h : other ≠ key) :
    getField (setField fields key value) other = getField fields other := by
  induction fields with
  | nil => simp [setField, getField_cons, Ne.symm h]
  | cons field fields ih =>
    obtain ⟨k, v⟩ := field
    by_cases hk : k = key
    · subst hk
      rw [setField, if_pos rfl, getField_cons, getField_cons, if_neg (Ne.symm h), if_neg (Ne.symm h)]
    · rw [setField, if_neg hk, getField_cons, getField_cons, ih]

/-- `fields.setdefault(key, value)` -/
def setDefault (fields : List (String × Json)) (key : String) (value : Json) : List (String × Json) :=
  match getField fields key with
  | some _ => fields
  | none => setField fields key value

theorem getField_setDefault_of_ne (h : other ≠ key) :
    getField (setDefault fields key value) other = getField fields other := by
  unfold setDefault
  split
  · rfl
  · exact getField_setField_of_ne h

/-- `{**fields, **more}` -/
def overlay (fields more : List (String × Json)) : List (String × Json) :=
  more.foldl (fun fields field => setField fields field.1 field.2) fields

theorem getField_overlay {more : List (String × Json)} (h : (more.map Prod.fst).Nodup) :
    getField (overlay fields more) key = (getField more key).or (getField fields key) := by
  induction more generalizing fields with
  | nil => rfl
  | cons field more ih =>
    obtain ⟨k, v⟩ := field
    obtain ⟨hk, hmore⟩ := List.nodup_cons.1 h
    change getField (overlay (setField fields k v) more) key = _
    rw [ih hmore, getField_cons]
    by_cases hkey : k = key
    · subst hkey
      have hnone : getField more k = none := by
        unfold getField
        rw [List.lookup_eq_none_iff]
        rintro ⟨other, w⟩ hmem
        have hother : other ∈ more.map Prod.fst := List.mem_map.2 ⟨(other, w), hmem, rfl⟩
        have hne : k ≠ other := fun heq => hk (heq ▸ hother)
        simpa using hne
      rw [hnone, if_pos rfl, getField_setField_self]
      rfl
    · rw [if_neg hkey, getField_setField_of_ne (Ne.symm hkey)]

/-! ### Paths -/

/-- The value at a path of keys. -/
def Json.getPath : Json → List String → Option Json
  | value, [] => some value
  | .obj fields, key :: path =>
    match getField fields key with
    | some value => value.getPath path
    | none => none
  | _, _ :: _ => none

/-- The path leaves the contract: one of its keys is not a key of the contract's object there. -/
def Json.free : Json → List String → Bool
  | .obj fields, key :: path =>
    match getField fields key with
    | some contract => contract.free path
    | none => true
  | _, _ => false

/-- Every path that leaves the contract, and does not start with an exempt key, keeps its value. -/
def Kept (contract : Json) (exempt : List String) (old new : List (String × Json)) : Prop :=
  ∀ key path value, key ∉ exempt → contract.free (key :: path) = true →
    (Json.obj old).getPath (key :: path) = some value →
    (Json.obj new).getPath (key :: path) = some value

variable {contract : Json} {exempt : List String} {old mid new : List (String × Json)}

theorem Kept.refl (contract : Json) (exempt : List String) (old : List (String × Json)) :
    Kept contract exempt old old := fun _ _ _ _ _ h => h

theorem Kept.trans (h : Kept contract exempt old mid) (h' : Kept contract exempt mid new) :
    Kept contract exempt old new :=
  fun key path value hkey hfree hold => h' key path value hkey hfree (h key path value hkey hfree hold)

theorem Kept.of_fields {managed : List (String × Json)}
    (hfield : ∀ key value, key ∉ exempt → getField managed key = none → getField old key = some value →
      getField new key = some value)
    (hnested : ∀ key inner fields, key ∉ exempt → getField managed key = some (.obj inner) →
      getField old key = some (.obj fields) →
      ∃ fields', getField new key = some (.obj fields') ∧ Kept (.obj inner) [] fields fields') :
    Kept (.obj managed) exempt old new := by
  intro key path value hkey hfree hpath
  rw [Json.getPath] at hpath ⊢
  rw [Json.free] at hfree
  cases hold : getField old key with
  | none => rw [hold] at hpath; cases hpath
  | some current =>
    rw [hold] at hpath
    cases hmanaged : getField managed key with
    | none =>
      rw [hfield key current hkey hmanaged hold]
      exact hpath
    | some inner =>
      rw [hmanaged] at hfree
      cases inner with
      | obj inner =>
        cases path with
        | nil => cases hfree
        | cons next path =>
          cases current with
          | obj fields =>
            obtain ⟨fields', hnew, hkept⟩ := hnested key inner fields hkey hmanaged hold
            rw [hnew]
            exact hkept next path value List.not_mem_nil hfree hpath
          | null | bool | int | float | str | arr => cases hpath
      | null | bool | int | float | str | arr => cases path <;> exact absurd hfree (by simp [Json.free])

theorem Kept.setField (h : key ∈ exempt ∨ ∀ path, contract.free (key :: path) = false)
    (fields : List (String × Json)) (value : Json) :
    Kept contract exempt fields (setField fields key value) := by
  intro other path found hother hfree hpath
  have hne : other ≠ key := by
    rintro rfl
    rcases h with h | h
    · exact hother h
    · rw [h path] at hfree
      cases hfree
  rw [Json.getPath] at hpath ⊢
  rwa [getField_setField_of_ne hne]

theorem Kept.setDefault (fields : List (String × Json)) (key : String) (value : Json) :
    Kept contract exempt fields (setDefault fields key value) := by
  intro other path found _ _ hpath
  by_cases hne : other = key
  · subst hne
    rw [Json.getPath] at hpath ⊢
    unfold Python.setDefault
    cases hold : getField fields other with
    | none => rw [hold] at hpath; cases hpath
    | some current =>
      rw [hold] at hpath
      simpa only [hold] using hpath
  · rw [Json.getPath] at hpath ⊢
    rwa [getField_setDefault_of_ne hne]

/-! ### Lists of entries -/

/-- What a contract says about the entries of a list: which are managed, and what in them. -/
structure EntryContract where
  managed : Json → Bool
  contract : Json
  exempt : List String := []

/-- An entry stays as it is, or it is managed and keeps what leaves the contract. -/
def KeptEntry (entries : EntryContract) (old new : Json) : Prop :=
  new = old ∨ entries.managed old = true ∧ entries.managed new = true ∧
    ∃ fields fields', old = .obj fields ∧ new = .obj fields' ∧
      Kept entries.contract entries.exempt fields fields'

/-- Every entry keeps its place, and what is added at the end is managed. -/
def KeptEntries (entries : EntryContract) (old new : List Json) : Prop :=
  ∃ kept added, new = kept ++ added ∧ List.Forall₂ (KeptEntry entries) old kept ∧
    ∀ entry ∈ added, entries.managed entry = true

variable {entries : EntryContract}

theorem KeptEntry.refl (entry : Json) : KeptEntry entries entry entry := .inl rfl

theorem KeptEntry.trans {first second third : Json} (h : KeptEntry entries first second)
    (h' : KeptEntry entries second third) : KeptEntry entries first third := by
  rcases h with rfl | ⟨hfirst, hsecond, fields, fields', rfl, rfl, hkept⟩
  · exact h'
  · rcases h' with rfl | ⟨-, hthird, more, more', hmore, rfl, hkept'⟩
    · exact .inr ⟨hfirst, hsecond, fields, fields', rfl, rfl, hkept⟩
    · obtain rfl := Json.obj.inj hmore
      exact .inr ⟨hfirst, hthird, fields, more', rfl, rfl, hkept.trans hkept'⟩

theorem forall₂_trans {first second third : List Json}
    (h : List.Forall₂ (KeptEntry entries) first second)
    (h' : List.Forall₂ (KeptEntry entries) second third) :
    List.Forall₂ (KeptEntry entries) first third := by
  induction h generalizing third with
  | nil => exact h'
  | cons hentry _ ih =>
    cases h' with
    | cons hentry' htail => exact .cons (hentry.trans hentry') (ih htail)

theorem forall₂_source {first second : List Json} {entry : Json}
    (h : List.Forall₂ (KeptEntry entries) first second) (hentry : entry ∈ second) :
    ∃ old ∈ first, KeptEntry entries old entry := by
  induction h with
  | nil => exact nomatch hentry
  | cons hchanged _ ih =>
    rcases List.mem_cons.1 hentry with rfl | hentry
    · exact ⟨_, List.mem_cons_self, hchanged⟩
    · obtain ⟨old, hold, hkept⟩ := ih hentry
      exact ⟨old, List.mem_cons_of_mem _ hold, hkept⟩

theorem KeptEntries.refl (items : List Json) : KeptEntries entries items items :=
  ⟨items, [], (List.append_nil items).symm, List.forall₂_same.2 fun _ _ => .refl _, by simp⟩

theorem KeptEntries.trans {first second third : List Json} (h : KeptEntries entries first second)
    (h' : KeptEntries entries second third) : KeptEntries entries first third := by
  obtain ⟨kept, added, rfl, hkept, hadded⟩ := h
  obtain ⟨kept', added', rfl, hkept', hadded'⟩ := h'
  obtain ⟨hfirst, hlast⟩ : List.Forall₂ (KeptEntry entries) kept (kept'.take kept.length) ∧
      List.Forall₂ (KeptEntry entries) added (kept'.drop kept.length) := by
    refine ⟨?_, ?_⟩
    · have htake := List.forall₂_take kept.length hkept'
      rwa [List.take_left] at htake
    · have hdrop := List.forall₂_drop kept.length hkept'
      rwa [List.drop_left] at hdrop
  refine ⟨kept'.take kept.length, kept'.drop kept.length ++ added', ?_, ?_, ?_⟩
  · rw [← List.append_assoc, List.take_append_drop]
  · exact forall₂_trans hkept hfirst
  · intro entry hentry
    rcases List.mem_append.1 hentry with hentry | hentry
    · obtain ⟨old, hold, hchanged⟩ := forall₂_source hlast hentry
      rcases hchanged with rfl | ⟨-, hmanaged, -⟩
      · exact hadded _ hold
      · exact hmanaged
    · exact hadded' entry hentry

end DataRescue.Python
