import DataRescue.Datahub.SeedContext
import DataRescue.Python.Raising

/-!
# The merges of the seeding

What each merge strategy of `seed_context` does to an aspect: it makes its own test hold, whatever the time
(`Settles`), and it keeps what its contract does not manage (`Preserves`). The update of the context
document's `documentInfo` does the second only as far as the nested objects it replaces have no keys of
their own (`Tame`).
-/

namespace DataRescue.SemanticSeed

open Python

/-! ### Containment and merging -/

mutual
/-- No object of the value has a key twice. -/
def distinct : Json → Bool
  | .obj fields => distinctFields fields
  | _ => true

def distinctFields : Fields → Bool
  | [] => true
  | (key, value) :: rest => decide (key ∉ rest.map Prod.fst) && distinct value && distinctFields rest
end

theorem distinctFields_nodup {fields : Fields} (h : distinctFields fields = true) :
    (fields.map Prod.fst).Nodup := by
  induction fields with
  | nil => exact List.nodup_nil
  | cons field fields ih =>
    obtain ⟨key, value⟩ := field
    simp only [distinctFields, Bool.and_eq_true, decide_eq_true_eq] at h
    exact List.nodup_cons.2 ⟨h.1.1, ih h.2⟩

theorem getField_of_mem {fields : Fields} (h : (fields.map Prod.fst).Nodup) {field : String × Json}
    (hmem : field ∈ fields) : getField fields field.1 = some field.2 := by
  induction fields with
  | nil => exact nomatch hmem
  | cons first fields ih =>
    obtain ⟨key, value⟩ := first
    obtain ⟨hkey, hfields⟩ := List.nodup_cons.1 h
    rw [getField_cons]
    rcases List.mem_cons.1 hmem with rfl | hmem
    · rw [if_pos rfl]
    · have hfield : field.1 ∈ fields.map Prod.fst := List.mem_map_of_mem hmem
      have hne : key ≠ field.1 := fun heq => hkey (heq ▸ hfield)
      rw [if_neg hne, ih hfields hmem]

theorem getField_mem {fields : Fields} {key : String} {value : Json}
    (h : getField fields key = some value) : (key, value) ∈ fields := by
  induction fields with
  | nil => cases h
  | cons first fields ih =>
    obtain ⟨k, v⟩ := first
    rw [getField_cons] at h
    split at h
    next hk =>
      obtain rfl := Option.some.inj h
      exact hk ▸ List.mem_cons_self
    next => exact List.mem_cons_of_mem _ (ih h)

theorem contains_iff {actual expected : Fields} : contains actual expected = true ↔
    ∀ field ∈ expected, containsValue (getField actual field.1) field.2 = true := by
  induction expected with
  | nil => simp [contains]
  | cons field expected ih =>
    obtain ⟨key, value⟩ := field
    rw [contains, Bool.and_eq_true, ih, List.forall_mem_cons]

theorem getField_mergeRequired {required : Fields} (h : (required.map Prod.fst).Nodup)
    (current : Fields) (key : String) :
    getField (mergeRequired current required) key =
      match getField required key with
      | some value => some (mergeValue (getField current key) value)
      | none => getField current key := by
  induction required generalizing current with
  | nil => rfl
  | cons field required ih =>
    obtain ⟨k, value⟩ := field
    obtain ⟨hk, hrequired⟩ := List.nodup_cons.1 h
    rw [mergeRequired, ih hrequired, getField_cons]
    by_cases hkey : k = key
    · subst hkey
      have hnone : getField required k = none := by
        cases hfound : getField required k with
        | none => rfl
        | some found => exact absurd (List.mem_map_of_mem (f := Prod.fst) (getField_mem hfound)) hk
      rw [hnone, if_pos rfl, getField_setField_self]
    · rw [if_neg hkey, getField_setField_of_ne (Ne.symm hkey)]

theorem equals_self {value : Json} (h : ∀ fields, value ≠ .obj fields) :
    containsValue (some value) value = true := by
  cases value with
  | obj fields => exact absurd rfl (h fields)
  | bool value => cases value <;> rfl
  | null | int | float | str | arr => simp [containsValue, equals]

mutual
theorem containsValue_self : ∀ value : Json, distinct value = true →
    containsValue (some value) value = true
  | .obj fields, h => by
    rw [containsValue, contains_iff]
    intro field hfield
    rw [getField_of_mem (distinctFields_nodup h) hfield]
    exact containsFields_self fields h field hfield
  | .null, _ | .bool _, _ | .int _, _ | .float _, _ | .str _, _ | .arr _, _ =>
    equals_self fun _ hobj => nomatch hobj

theorem containsFields_self : ∀ fields : Fields, distinctFields fields = true →
    ∀ field ∈ fields, containsValue (some field.2) field.2 = true
  | [], _, _, hmem => nomatch hmem
  | (key, value) :: rest, h, field, hmem => by
    simp only [distinctFields, Bool.and_eq_true] at h
    rcases List.mem_cons.1 hmem with rfl | hmem
    · exact containsValue_self value h.1.2
    · exact containsFields_self rest h.2 field hmem
end

mutual
theorem containsValue_merge : ∀ (value : Json) (current : Option Json), distinct value = true →
    containsValue (some (mergeValue current value)) value = true
  | .obj fields, current, h => by
    cases current with
    | none => exact containsValue_self (.obj fields) h
    | some current =>
      cases current with
      | obj current =>
        rw [mergeValue, containsValue, contains_iff]
        intro field hfield
        have hfound := getField_of_mem (distinctFields_nodup h) hfield
        rw [getField_mergeRequired (distinctFields_nodup h), hfound]
        exact containsFields_merge fields h field hfield _
      | null | bool | int | float | str | arr => exact containsValue_self (.obj fields) h
  | .null, _, _ | .bool _, _, _ | .int _, _, _ | .float _, _, _ | .str _, _, _ | .arr _, _, _ =>
    equals_self fun _ hobj => nomatch hobj

theorem containsFields_merge : ∀ fields : Fields, distinctFields fields = true →
    ∀ field ∈ fields, ∀ current, containsValue (some (mergeValue current field.2)) field.2 = true
  | [], _, _, hmem, _ => nomatch hmem
  | (key, value) :: rest, h, field, hmem, current => by
    simp only [distinctFields, Bool.and_eq_true] at h
    rcases List.mem_cons.1 hmem with rfl | hmem
    · exact containsValue_merge value current h.1.2
    · exact containsFields_merge rest h.2 field hmem current
end

theorem contains_mergeRequired {required : Fields} (h : distinctFields required = true)
    (current : Fields) : contains (mergeRequired current required) required = true := by
  rw [contains_iff]
  intro field hfield
  rw [getField_mergeRequired (distinctFields_nodup h),
    getField_of_mem (distinctFields_nodup h) hfield]
  exact containsFields_merge required h field hfield _

mutual
theorem kept_mergeValue : ∀ (value : Json), distinct value = true → ∀ required, value = .obj required →
    ∀ current, Kept value [] current (mergeRequired current required)
  | .obj fields, h, required, hvalue, current => by
    obtain rfl := Json.obj.inj hvalue
    have hget := getField_mergeRequired (distinctFields_nodup h) current
    refine .of_fields (fun key value _ hnone hold => ?_) fun key inner nested _ hinner hold => ?_
    · rw [hget, hnone]
      exact hold
    · refine ⟨mergeRequired nested inner, ?_, ?_⟩
      · rw [hget, hinner, hold]
        rfl
      · exact kept_mergeFields fields h _ (getField_mem hinner) inner rfl nested
  | .null, _, _, h, _ | .bool _, _, _, h, _ | .int _, _, _, h, _ | .float _, _, _, h, _
  | .str _, _, _, h, _ | .arr _, _, _, h, _ => nomatch h

theorem kept_mergeFields : ∀ fields : Fields, distinctFields fields = true →
    ∀ field ∈ fields, ∀ required, field.2 = .obj required →
      ∀ current, Kept field.2 [] current (mergeRequired current required)
  | [], _, _, hmem, _, _, _ => nomatch hmem
  | (key, value) :: rest, h, field, hmem, required, hfield, current => by
    simp only [distinctFields, Bool.and_eq_true] at h
    rcases List.mem_cons.1 hmem with rfl | hmem
    · exact kept_mergeValue value h.1.2 required hfield current
    · exact kept_mergeFields rest h.2 field hmem required hfield current
end

theorem kept_mergeRequired {required : Fields} (h : distinctFields required = true) (current : Fields) :
    Kept (.obj required) [] current (mergeRequired current required) :=
  kept_mergeValue (.obj required) h required rfl current

/-! ### Contracts of aspects -/

/-- The list of an aspect and what the contract says about its entries. -/
structure ListContract where
  key : String
  entries : EntryContract

/-- The managed fields of an aspect, a list as a whole, and the audit stamps. -/
structure Contract where
  fields : Fields
  stamps : List String := []
  list : Option ListContract := none

/-- What is not managed keeps its value, and in the list its place. -/
structure Preserved (contract : Contract) (old new : Fields) : Prop where
  fields : Kept (.obj contract.fields) contract.stamps old new
  list : ∀ list, contract.list = some list → ∀ items, getField old list.key = some (.arr items) →
    ∃ items', getField new list.key = some (.arr items') ∧ KeptEntries list.entries items items'

theorem Preserved.refl (contract : Contract) (old : Fields) : Preserved contract old old :=
  ⟨.refl _ _ _, fun _ _ items h => ⟨items, h, .refl items⟩⟩

theorem Preserved.trans {contract : Contract} {old mid new : Fields} (h : Preserved contract old mid)
    (h' : Preserved contract mid new) : Preserved contract old new := by
  refine ⟨h.fields.trans h'.fields, fun list hlist items hitems => ?_⟩
  obtain ⟨items', hmid, hkept⟩ := h.list list hlist items hitems
  obtain ⟨items'', hnew, hkept'⟩ := h'.list list hlist items' hmid
  exact ⟨items'', hnew, hkept.trans hkept'⟩

/-- An entry with the identity that the seeding looks for. -/
def hasIdentity (identityKey identity : String) : Json → Bool
  | .obj fields => Json.isText (getField fields identityKey) identity
  | _ => false

def isManagedType (item : Json) : Bool := item = .str "Context" || item = .str "Folder"

def listContract (key identityKey identity : String) (expected : Fields) (exempt : List String) :
    ListContract where
  key
  entries := { managed := hasIdentity identityKey identity, contract := .obj expected, exempt }

/-- The managed contract of each aspect. -/
def contractOf (spec : SemanticContextSpec) : AspectName → Contract
  | .glossaryTermInfo => { fields := termInfo spec }
  | .corpUserInfo => { fields := ownerInfo }
  | .editableDatasetProperties =>
    { fields := [("description", .null)], stamps := ["created", "lastModified"] }
  | .ownership =>
    { fields := [("owners", .null)], stamps := ["lastModified"],
      list := some (listContract "owners" "owner" spec.ownerUrn (ownerEntry spec) []) }
  | .glossaryTerms =>
    { fields := [("terms", .null)], stamps := ["auditStamp"],
      list := some (listContract "terms" "urn" spec.termUrn (termEntry spec) []) }
  | .institutionalMemory =>
    { fields := [("elements", .null)],
      list := some (listContract "elements" "url" spec.documentUrl (documentEntry spec)
        ["createStamp", "updateStamp"]) }
  | .documentInfo =>
    { fields := contextDocumentInfo spec ++ [("relatedAssets", .null)],
      stamps := ["created", "lastModified"],
      list := some (listContract "relatedAssets" "asset" spec.sourceUrn (assetLink spec) []) }
  | .subTypes =>
    { fields := [("typeNames", .null)],
      list := some { key := "typeNames", entries := { managed := isManagedType, contract := .null } } }
  | .documentSettings => { fields := [("showInGlobalContext", .null)], stamps := ["lastModified"] }
  | .upstreamLineage => { fields := [] }

/-- After the update its test holds, whatever the stamp. -/
structure Settles (update : Json → Update) : Prop where
  establishes : ∀ stamp later current value, update stamp current = .ok (some value) →
    update later value = .ok none
  stampFree : ∀ stamp later current, update stamp current = .ok none → update later current = .ok none

def Preserves (contract : Contract) (update : Json → Update) : Prop :=
  ∀ stamp current value, update stamp current = .ok (some value) → Preserved contract current value

/-! ### The loop over entries -/

section Upsert

variable {identityKey identity : String} {expected : Fields} {replace replace' : Fields → Fields}
  {added added' : Fields}

theorem upsert_none {items : List Json}
    (h : upsert identityKey identity expected replace added items = .ok none) :
    upsert identityKey identity expected replace' added' items = .ok none := by
  induction items with
  | nil => cases h
  | cons item rest ih =>
    cases item with
    | obj fields =>
      simp only [upsert, mapping, bind, Except.bind] at h ⊢
      split at h
      next hidentity =>
        rw [if_pos hidentity]
        cases hrest : upsert identityKey identity expected replace added rest with
        | error error => rw [hrest] at h; cases h
        | ok entries =>
          rw [hrest] at h
          cases entries with
          | some entries => cases h
          | none => rw [ih hrest]; rfl
      next hidentity =>
        rw [if_neg hidentity]
        split at h
        next hcontains => rw [if_pos hcontains]; rfl
        next => cases h
    | null | bool | int | float | str | arr => cases h

theorem upsert_establishes {items entries : List Json}
    (hreplace : ∀ fields, Json.isText (getField fields identityKey) identity = true →
      Json.isText (getField (replace fields) identityKey) identity = true ∧
        contains (replace fields) expected = true)
    (hadded : Json.isText (getField added identityKey) identity = true ∧ contains added expected = true)
    (h : upsert identityKey identity expected replace added items = .ok (some entries)) :
    upsert identityKey identity expected replace' added' entries = .ok none := by
  induction items generalizing entries with
  | nil =>
    obtain rfl := Option.some.inj (Except.ok.inj h)
    simp [upsert, mapping, hadded.1, hadded.2, bind, Except.bind, pure, Except.pure]
  | cons item rest ih =>
    cases item with
    | obj fields =>
      simp only [upsert, mapping, bind, Except.bind] at h
      split at h
      next hidentity =>
        cases hrest : upsert identityKey identity expected replace added rest with
        | error error => rw [hrest] at h; cases h
        | ok more =>
          rw [hrest] at h
          cases more with
          | none => cases h
          | some more =>
            obtain rfl := Option.some.inj (Except.ok.inj h)
            simp only [upsert, mapping, bind, Except.bind]
            rw [if_pos hidentity, ih hrest]
            rfl
      next hidentity =>
        split at h
        next => cases h
        next =>
          obtain rfl := Option.some.inj (Except.ok.inj h)
          have hfields := hreplace fields (by simpa using hidentity)
          simp [upsert, mapping, hfields.1, hfields.2, bind, Except.bind, pure, Except.pure]
    | null | bool | int | float | str | arr => cases h

theorem upsert_kept {exempt : List String} {items entries : List Json}
    (hreplace : ∀ fields, Json.isText (getField fields identityKey) identity = true →
      Json.isText (getField (replace fields) identityKey) identity = true ∧
        Kept (.obj expected) exempt fields (replace fields))
    (hadded : Json.isText (getField added identityKey) identity = true)
    (h : upsert identityKey identity expected replace added items = .ok (some entries)) :
    KeptEntries (listContract "" identityKey identity expected exempt).entries items entries := by
  induction items generalizing entries with
  | nil =>
    obtain rfl := Option.some.inj (Except.ok.inj h)
    refine ⟨[], [.obj added], rfl, .nil, fun entry hentry => ?_⟩
    obtain rfl := List.mem_singleton.1 hentry
    exact hadded
  | cons item rest ih =>
    cases item with
    | obj fields =>
      simp only [upsert, mapping, bind, Except.bind] at h
      split at h
      next hidentity =>
        cases hrest : upsert identityKey identity expected replace added rest with
        | error error => rw [hrest] at h; cases h
        | ok more =>
          rw [hrest] at h
          cases more with
          | none => cases h
          | some more =>
            obtain rfl := Option.some.inj (Except.ok.inj h)
            obtain ⟨kept, last, rfl, hkept, hlast⟩ := ih hrest
            exact ⟨.obj fields :: kept, last, rfl, .cons (.refl _) hkept, hlast⟩
      next hidentity =>
        split at h
        next => cases h
        next =>
          obtain rfl := Option.some.inj (Except.ok.inj h)
          have hmanaged : Json.isText (getField fields identityKey) identity = true := by
            simpa using hidentity
          have hfields := hreplace fields hmanaged
          have hentry : KeptEntry (listContract "" identityKey identity expected exempt).entries
              (.obj fields) (.obj (replace fields)) :=
            .inr ⟨hmanaged, hfields.1, fields, replace fields, rfl, rfl, hfields.2⟩
          exact ⟨.obj (replace fields) :: rest, [], (List.append_nil _).symm,
            .cons hentry (List.forall₂_same.2 fun _ _ => .refl _), by simp⟩
    | null | bool | int | float | str | arr => cases h

end Upsert

/-! ### The updates -/

theorem listField_of_arr {fields : Fields} {key : String} {items : List Json}
    (h : getField fields key = some (.arr items)) : listField fields key = .ok items := by
  rw [listField, h]
  rfl

theorem Preserved.of_fields {contract : Contract} {old new : Fields} (hlist : contract.list = none)
    (h : Kept (.obj contract.fields) contract.stamps old new) : Preserved contract old new :=
  ⟨h, fun list hsome => by rw [hlist] at hsome; cases hsome⟩

theorem kept_managed {fields : Fields} {key : String} {exempt : List String} {contract : Json}
    (h : getField fields key = some contract) (hcontract : ∀ path, contract.free path = false)
    (current : Fields) (value : Json) : Kept (.obj fields) exempt current (setField current key value) := by
  refine .setField (.inr fun path => ?_) current value
  rw [Json.free, h]
  exact hcontract path

theorem null_free (path : List String) : Json.null.free path = false := by
  cases path <;> rfl

theorem ensureObjectAspect_settles {urn : String} {name : AspectName} {required : Fields}
    (h : distinctFields required = true) : Settles (ensureObjectAspect urn name required).update where
  establishes stamp later current value hvalue := by
    simp only [ensureObjectAspect] at hvalue ⊢
    split at hvalue
    · cases hvalue
    · obtain rfl := Option.some.inj (Except.ok.inj hvalue)
      rw [if_pos (contains_mergeRequired h current)]
  stampFree _ _ _ h := h

theorem ensureObjectAspect_preserves {urn : String} {name : AspectName} {required : Fields}
    (h : distinctFields required = true) :
    Preserves { fields := required } (ensureObjectAspect urn name required).update := by
  intro stamp current value hvalue
  simp only [ensureObjectAspect] at hvalue
  split at hvalue
  · cases hvalue
  · obtain rfl := Option.some.inj (Except.ok.inj hvalue)
    exact .of_fields rfl (kept_mergeRequired h current)

theorem ensureDescription_settles (spec : SemanticContextSpec) :
    Settles (ensureDescription spec).update where
  establishes stamp later current value hvalue := by
    simp only [ensureDescription] at hvalue ⊢
    split at hvalue
    · cases hvalue
    · obtain rfl := Option.some.inj (Except.ok.inj hvalue)
      rw [if_pos (getField_setField_self _ _ _)]
  stampFree stamp later current h := by
    simp only [ensureDescription] at h ⊢
    split at h
    next hsame => rw [if_pos hsame]
    next => cases h

theorem ensureDescription_preserves (spec : SemanticContextSpec) :
    Preserves (contractOf spec .editableDatasetProperties) (ensureDescription spec).update := by
  intro stamp current value hvalue
  simp only [ensureDescription] at hvalue
  split at hvalue
  · cases hvalue
  · obtain rfl := Option.some.inj (Except.ok.inj hvalue)
    have hstamp : "lastModified" ∈ (contractOf spec .editableDatasetProperties).stamps :=
      List.mem_cons_of_mem _ List.mem_cons_self
    have hmanaged : getField (contractOf spec .editableDatasetProperties).fields "description" =
        some .null := by simp [contractOf, getField_cons]
    exact .of_fields rfl (((Kept.setDefault current "created" stamp).trans
      (.setField (.inl hstamp) _ stamp)).trans (kept_managed hmanaged null_free _ _))

section ListAspect

variable {urn listKey identityKey identity stampKey : String} {name : AspectName} {expected : Fields}

theorem ensureListAspect_update {stamp : Json} {current : Fields} {result : Option Fields}
    (h : (ensureListAspect urn name listKey expected identityKey identity stampKey).update stamp current =
      .ok result) :
    ∃ items entries, listField current listKey = .ok items ∧
      upsert identityKey identity expected (mergeRequired · expected) expected items = .ok entries ∧
      result = entries.map fun entries =>
        setField (setField current listKey (.arr entries)) stampKey stamp := by
  simp only [ensureListAspect] at h
  obtain ⟨items, hitems, h⟩ := bind_eq_ok.1 h
  obtain ⟨entries, hentries, h⟩ := bind_eq_ok.1 h
  exact ⟨items, entries, hitems, hentries, (Except.ok.inj h).symm⟩

theorem isText_merge (h : distinctFields expected = true)
    (hidentity : getField expected identityKey = some (.str identity)) (fields : Fields) :
    Json.isText (getField (mergeRequired fields expected) identityKey) identity = true := by
  rw [getField_mergeRequired (distinctFields_nodup h), hidentity]
  simp [mergeValue, Json.isText]

theorem ensureListAspect_settles (h : distinctFields expected = true)
    (hidentity : getField expected identityKey = some (.str identity)) (hkeys : listKey ≠ stampKey) :
    Settles (ensureListAspect urn name listKey expected identityKey identity stampKey).update where
  establishes stamp later current value hvalue := by
    obtain ⟨items, entries, -, hentries, hresult⟩ := ensureListAspect_update hvalue
    cases entries with
    | none => cases hresult
    | some entries =>
      obtain rfl := Option.some.inj hresult
      have hlist : listField (setField (setField current listKey (.arr entries)) stampKey stamp) listKey =
          .ok entries := by
        refine listField_of_arr ?_
        rw [getField_setField_of_ne hkeys, getField_setField_self]
      have hsettled : upsert identityKey identity expected (mergeRequired · expected) expected entries =
          .ok none := upsert_establishes
        (fun fields _ => ⟨isText_merge h hidentity fields, contains_mergeRequired h fields⟩)
        ⟨by simp [hidentity, Json.isText], contains_iff.2 fun field hfield => by
          rw [getField_of_mem (distinctFields_nodup h) hfield]
          exact containsFields_self expected h field hfield⟩ hentries
      simp only [ensureListAspect, hlist, hsettled, bind, Except.bind, pure, Except.pure, Option.map_none]
  stampFree stamp later current hnone := by
    obtain ⟨items, entries, hitems, hentries, hresult⟩ := ensureListAspect_update hnone
    cases entries with
    | some entries => cases hresult
    | none =>
      simp only [ensureListAspect, hitems, hentries, bind, Except.bind, pure, Except.pure,
        Option.map_none]

theorem ensureListAspect_preserves (h : distinctFields expected = true)
    (hidentity : getField expected identityKey = some (.str identity)) (hkeys : listKey ≠ stampKey) :
    Preserves
      { fields := [(listKey, .null)], stamps := [stampKey],
        list := some (listContract listKey identityKey identity expected []) }
      (ensureListAspect urn name listKey expected identityKey identity stampKey).update := by
  intro stamp current value hvalue
  obtain ⟨items, entries, hitems, hentries, hresult⟩ := ensureListAspect_update hvalue
  cases entries with
  | none => cases hresult
  | some entries =>
    obtain rfl := Option.some.inj hresult
    constructor
    · refine Kept.trans (kept_managed ?_ null_free current _) (.setField (.inl List.mem_cons_self) _ stamp)
      rw [getField_cons, if_pos rfl]
    · intro list hlist old hold
      obtain rfl := Option.some.inj hlist
      have hold' := listField_of_arr hold
      rw [show (listContract listKey identityKey identity expected []).key = listKey from rfl] at hold'
      obtain rfl := Except.ok.inj (hitems.symm.trans hold')
      refine ⟨entries, ?_, upsert_kept (fun fields _ => ⟨isText_merge h hidentity fields,
        kept_mergeRequired h fields⟩) (by simp [hidentity, Json.isText]) hentries⟩
      change getField _ listKey = _
      rw [getField_setField_of_ne hkeys, getField_setField_self]

end ListAspect

theorem documentEntry_distinct (spec : SemanticContextSpec) :
    distinctFields (documentEntry spec) = true := by simp [documentEntry, distinctFields, distinct]

theorem ensureDocument_update {spec : SemanticContextSpec} {stamp : Json} {current : Fields}
    {result : Option Fields} (h : (ensureDocument spec).update stamp current = .ok result) :
    ∃ items entries, listField current "elements" = .ok items ∧
      upsert "url" spec.documentUrl (documentEntry spec) (restampElement spec stamp)
        (documentEntry spec ++ [("createStamp", stamp), ("updateStamp", stamp)]) items = .ok entries ∧
      result = entries.map fun entries => setField current "elements" (.arr entries) := by
  simp only [ensureDocument] at h
  obtain ⟨items, hitems, h⟩ := bind_eq_ok.1 h
  obtain ⟨entries, hentries, h⟩ := bind_eq_ok.1 h
  exact ⟨items, entries, hitems, hentries, (Except.ok.inj h).symm⟩

theorem getField_restampElement {spec : SemanticContextSpec} {stamp : Json} {element : Fields}
    {key : String} (hcreate : key ≠ "createStamp") (hupdate : key ≠ "updateStamp") :
    getField (restampElement spec stamp element) key =
      (getField (documentEntry spec) key).or (getField element key) := by
  rw [restampElement, getField_setField_of_ne hupdate, getField_setField_of_ne hcreate,
    getField_overlay (distinctFields_nodup (documentEntry_distinct spec))]

theorem restampElement_entry (spec : SemanticContextSpec) (stamp : Json) (element : Fields) :
    Json.isText (getField (restampElement spec stamp element) "url") spec.documentUrl = true ∧
      contains (restampElement spec stamp element) (documentEntry spec) = true := by
  have hurl : getField (restampElement spec stamp element) "url" = some (.str spec.documentUrl) := by
    rw [getField_restampElement (by decide) (by decide)]
    simp [documentEntry, getField_cons]
  have hdescription : getField (restampElement spec stamp element) "description" =
      some (.str spec.documentDescription) := by
    rw [getField_restampElement (by decide) (by decide)]
    simp [documentEntry, getField_cons]
  refine ⟨by simp [hurl, Json.isText], contains_iff.2 ?_⟩
  simp [documentEntry, hurl, hdescription, containsValue, equals]

theorem restampElement_kept (spec : SemanticContextSpec) (stamp : Json) (element : Fields) :
    Kept (.obj (documentEntry spec)) ["createStamp", "updateStamp"] element
      (restampElement spec stamp element) := by
  refine .of_fields (fun key value hkey hnone hold => ?_) fun key inner fields _ hinner _ => ?_
  · simp only [List.mem_cons, List.not_mem_nil, or_false, not_or] at hkey
    rw [getField_restampElement hkey.1 hkey.2, hnone]
    exact hold
  · have hmem := getField_mem hinner
    simp [documentEntry] at hmem

theorem ensureDocument_settles (spec : SemanticContextSpec) : Settles (ensureDocument spec).update where
  establishes stamp later current value hvalue := by
    obtain ⟨items, entries, -, hentries, hresult⟩ := ensureDocument_update hvalue
    cases entries with
    | none => cases hresult
    | some entries =>
      obtain rfl := Option.some.inj hresult
      have hlist : listField (setField current "elements" (.arr entries)) "elements" = .ok entries :=
        listField_of_arr (getField_setField_self _ _ _)
      have hadded : Json.isText (getField (documentEntry spec ++
            [("createStamp", stamp), ("updateStamp", stamp)]) "url") spec.documentUrl = true ∧
          contains (documentEntry spec ++ [("createStamp", stamp), ("updateStamp", stamp)])
            (documentEntry spec) = true := by
        simp [documentEntry, getField_cons, Json.isText, contains, containsValue, equals]
      have hsettled : upsert "url" spec.documentUrl (documentEntry spec) (restampElement spec later)
          (documentEntry spec ++ [("createStamp", later), ("updateStamp", later)]) entries = .ok none :=
        upsert_establishes (fun fields _ => restampElement_entry spec stamp fields) hadded hentries
      simp only [ensureDocument, hlist, hsettled, bind, Except.bind, pure, Except.pure, Option.map_none]
  stampFree stamp later current hnone := by
    obtain ⟨items, entries, hitems, hentries, hresult⟩ := ensureDocument_update hnone
    cases entries with
    | some entries => cases hresult
    | none =>
      have hlater : upsert "url" spec.documentUrl (documentEntry spec) (restampElement spec later)
          (documentEntry spec ++ [("createStamp", later), ("updateStamp", later)]) items = .ok none :=
        upsert_none hentries
      simp only [ensureDocument, hitems, hlater, bind, Except.bind, pure, Except.pure, Option.map_none]

theorem ensureDocument_preserves (spec : SemanticContextSpec) :
    Preserves (contractOf spec .institutionalMemory) (ensureDocument spec).update := by
  intro stamp current value hvalue
  obtain ⟨items, entries, hitems, hentries, hresult⟩ := ensureDocument_update hvalue
  cases entries with
  | none => cases hresult
  | some entries =>
    obtain rfl := Option.some.inj hresult
    constructor
    · have hmanaged : getField (contractOf spec .institutionalMemory).fields "elements" = some .null := by
        simp [contractOf, getField_cons]
      exact kept_managed hmanaged null_free current _
    · intro list hlist old hold
      obtain rfl := Option.some.inj hlist
      obtain rfl := Except.ok.inj (hitems.symm.trans (listField_of_arr hold))
      refine ⟨entries, getField_setField_self _ _ _, upsert_kept (fun fields _ =>
        ⟨(restampElement_entry spec stamp fields).1, restampElement_kept spec stamp fields⟩) ?_ hentries⟩
      simp [documentEntry, getField_cons, Json.isText]

theorem ensureSubtype_settles (urn subtype : String) : Settles (ensureSubtype urn subtype).update where
  establishes stamp later current value hvalue := by
    simp only [ensureSubtype] at hvalue
    obtain ⟨typeNames, htypeNames, hvalue⟩ := bind_eq_ok.1 hvalue
    split at hvalue
    · cases hvalue
    · obtain rfl := Option.some.inj (Except.ok.inj hvalue)
      have hlist : listField (setField current "typeNames" (.arr (typeNames ++ [.str subtype])))
          "typeNames" = .ok (typeNames ++ [.str subtype]) :=
        listField_of_arr (getField_setField_self _ _ _)
      simp only [ensureSubtype, hlist, bind, Except.bind]
      rw [if_pos (List.mem_append_right _ List.mem_cons_self)]
      rfl
  stampFree _ _ _ h := h

theorem ensureSubtype_preserves (spec : SemanticContextSpec) {urn subtype : String}
    (h : isManagedType (.str subtype) = true) :
    Preserves (contractOf spec .subTypes) (ensureSubtype urn subtype).update := by
  intro stamp current value hvalue
  simp only [ensureSubtype] at hvalue
  obtain ⟨typeNames, htypeNames, hvalue⟩ := bind_eq_ok.1 hvalue
  split at hvalue
  · cases hvalue
  · obtain rfl := Option.some.inj (Except.ok.inj hvalue)
    constructor
    · have hmanaged : getField (contractOf spec .subTypes).fields "typeNames" = some .null := by
        simp [contractOf, getField_cons]
      exact kept_managed hmanaged null_free current _
    · intro list hlist old hold
      obtain rfl := Option.some.inj hlist
      obtain rfl := Except.ok.inj (htypeNames.symm.trans (listField_of_arr hold))
      refine ⟨_, getField_setField_self _ _ _, typeNames, [.str subtype], rfl,
        List.forall₂_same.2 fun _ _ => .refl _, fun entry hentry => ?_⟩
      obtain rfl := List.mem_singleton.1 hentry
      exact h

theorem ensureDocumentSettings_settles (urn : String) :
    Settles (ensureDocumentSettings urn).update where
  establishes stamp later current value hvalue := by
    simp only [ensureDocumentSettings] at hvalue ⊢
    split at hvalue
    · cases hvalue
    · obtain rfl := Option.some.inj (Except.ok.inj hvalue)
      rw [if_pos]
      rw [getField_setField_of_ne (by decide), getField_setField_self]
  stampFree stamp later current h := by
    simp only [ensureDocumentSettings] at h ⊢
    split at h
    next hsame => rw [if_pos hsame]
    next => cases h

theorem ensureDocumentSettings_preserves (spec : SemanticContextSpec) (urn : String) :
    Preserves (contractOf spec .documentSettings) (ensureDocumentSettings urn).update := by
  intro stamp current value hvalue
  simp only [ensureDocumentSettings] at hvalue
  split at hvalue
  · cases hvalue
  · obtain rfl := Option.some.inj (Except.ok.inj hvalue)
    have hstamp : "lastModified" ∈ (contractOf spec .documentSettings).stamps := List.mem_cons_self
    have hmanaged : getField (contractOf spec .documentSettings).fields "showInGlobalContext" =
        some .null := by simp [contractOf, getField_cons]
    exact .of_fields rfl ((kept_managed hmanaged null_free _ _).trans (.setField (.inl hstamp) _ stamp))

/-! ### The information of the context document -/

section ContextDocument

variable {spec : SemanticContextSpec}

/-- The rewritten `documentInfo`. -/
def rewrittenInfo (spec : SemanticContextSpec) (stamp : Json) (current : Fields)
    (relatedAssets : List Json) : Fields :=
  setField (setField (setDefault (setDefault (overlay current (contextDocumentInfo spec))
    "customProperties" (.obj [])) "created" stamp) "lastModified" stamp) "relatedAssets"
    (.arr relatedAssets)

theorem contextInfo_update {stamp : Json} {current : Fields} {result : Option Fields}
    (h : (ensureContextDocumentInfo spec).update stamp current = .ok result) :
    ∃ items link, listField current "relatedAssets" = .ok items ∧ linked spec items = .ok link ∧
      ((contains current (contextDocumentInfo spec) && link) = true ∧ result = none ∨
        (contains current (contextDocumentInfo spec) && link) = false ∧
          result = some (rewrittenInfo spec stamp current
            (if link then items else items ++ [.obj (assetLink spec)]))) := by
  simp only [ensureContextDocumentInfo] at h
  obtain ⟨items, hitems, h⟩ := bind_eq_ok.1 h
  obtain ⟨link, hlink, h⟩ := bind_eq_ok.1 h
  refine ⟨items, link, hitems, hlink, ?_⟩
  split at h
  next hcontained => exact .inl ⟨hcontained, (Except.ok.inj h).symm⟩
  next hmissing => exact .inr ⟨by simpa using hmissing, (Except.ok.inj h).symm⟩

theorem linked_append {items : List Json} (h : linked spec items = .ok false) :
    linked spec (items ++ [.obj (assetLink spec)]) = .ok true := by
  induction items with
  | nil =>
    have hself : contains (assetLink spec) (assetLink spec) = true := by
      simp [assetLink, contains, containsValue, equals, getField_cons]
    simp [linked, mapping, hself, bind, Except.bind, pure, Except.pure]
  | cons item items ih =>
    cases item with
    | obj fields =>
      simp only [linked, mapping, bind, Except.bind, List.cons_append] at h ⊢
      split at h
      next => cases h
      next hcontains =>
        rw [if_neg hcontains]
        exact ih h
    | null | bool | int | float | str | arr => cases h

theorem contextDocumentInfo_distinct (spec : SemanticContextSpec) :
    distinctFields (contextDocumentInfo spec) = true := by
  simp [contextDocumentInfo, distinctFields, distinct]

theorem getField_rewrittenInfo {stamp : Json} {current : Fields} {items : List Json} {key : String}
    (h : key ≠ "customProperties" ∧ key ≠ "created" ∧ key ≠ "lastModified" ∧ key ≠ "relatedAssets") :
    getField (rewrittenInfo spec stamp current items) key =
      (getField (contextDocumentInfo spec) key).or (getField current key) := by
  rw [rewrittenInfo, getField_setField_of_ne h.2.2.2, getField_setField_of_ne h.2.2.1,
    getField_setDefault_of_ne h.2.1, getField_setDefault_of_ne h.1,
    getField_overlay (distinctFields_nodup (contextDocumentInfo_distinct spec))]

theorem contextDocumentInfo_keys {field : String × Json} (h : field ∈ contextDocumentInfo spec) :
    field.1 ≠ "customProperties" ∧ field.1 ≠ "created" ∧ field.1 ≠ "lastModified" ∧
      field.1 ≠ "relatedAssets" := by
  simp only [contextDocumentInfo, List.mem_cons, List.not_mem_nil, or_false] at h
  rcases h with rfl | rfl | rfl | rfl | rfl <;> simp

theorem contains_rewrittenInfo (stamp : Json) (current : Fields) (items : List Json) :
    contains (rewrittenInfo spec stamp current items) (contextDocumentInfo spec) = true := by
  rw [contains_iff]
  intro field hfield
  have hdistinct := contextDocumentInfo_distinct spec
  rw [getField_rewrittenInfo (contextDocumentInfo_keys hfield),
    getField_of_mem (distinctFields_nodup hdistinct) hfield]
  exact containsFields_self _ hdistinct field hfield

theorem listField_rewrittenInfo (stamp : Json) (current : Fields) (items : List Json) :
    listField (rewrittenInfo spec stamp current items) "relatedAssets" = .ok items :=
  listField_of_arr (getField_setField_self _ _ _)

theorem contextInfo_settles (spec : SemanticContextSpec) :
    Settles (ensureContextDocumentInfo spec).update where
  establishes stamp later current value hvalue := by
    obtain ⟨items, link, -, hlink, ⟨-, hnone⟩ | ⟨-, hsome⟩⟩ := contextInfo_update hvalue
    · cases hnone
    · obtain rfl := Option.some.inj hsome
      have hlinked : linked spec (if link then items else items ++ [.obj (assetLink spec)]) =
          .ok true := by
        cases link with
        | true => exact hlink
        | false => exact linked_append hlink
      simp only [ensureContextDocumentInfo, listField_rewrittenInfo, hlinked, bind, Except.bind,
        contains_rewrittenInfo]
      rfl
  stampFree stamp later current hnone := by
    obtain ⟨items, link, hitems, hlink, ⟨hcontained, -⟩ | ⟨-, hsome⟩⟩ := contextInfo_update hnone
    · simp only [ensureContextDocumentInfo, hitems, hlink, bind, Except.bind, hcontained]
      rfl
    · cases hsome

/-- The nested objects that a rewrite replaces have no keys but those of the contract. -/
def Tame (spec : SemanticContextSpec) (current : Fields) : Prop :=
  ∀ key inner fields, getField (contextDocumentInfo spec) key = some (.obj inner) →
    getField current key = some (.obj fields) →
    ∀ name, getField fields name ≠ none → getField inner name ≠ none

theorem documentInfo_contract (spec : SemanticContextSpec) (key : String) :
    getField (contractOf spec .documentInfo).fields key =
      (getField (contextDocumentInfo spec) key).or (getField [("relatedAssets", .null)] key) := by
  simp only [contractOf, contextDocumentInfo, List.cons_append, List.nil_append, getField_cons]
  repeat' split
  all_goals rfl

theorem nested_text {key name : String} {inner : Fields} {value : Json}
    (h : getField (contextDocumentInfo spec) key = some (.obj inner))
    (hvalue : getField inner name = some value) : ∃ text, value = .str text := by
  have hmem := getField_mem h
  have hinner := getField_mem hvalue
  simp only [contextDocumentInfo, List.mem_cons, List.not_mem_nil, or_false, Prod.mk.injEq,
    reduceCtorEq, and_false, false_or, Json.obj.injEq] at hmem
  rcases hmem with ⟨-, rfl⟩ | ⟨-, rfl⟩ | ⟨-, rfl⟩ | ⟨-, rfl⟩ <;>
    exact ⟨_, congrArg Prod.snd (List.mem_singleton.1 hinner)⟩

theorem rewrittenInfo_kept {stamp : Json} {current : Fields} {items : List Json}
    (h : Tame spec current) : Kept (.obj (contractOf spec .documentInfo).fields)
      (contractOf spec .documentInfo).stamps current (rewrittenInfo spec stamp current items) := by
  have hoverlay : Kept (.obj (contractOf spec .documentInfo).fields)
      (contractOf spec .documentInfo).stamps current (overlay current (contextDocumentInfo spec)) := by
    intro key path value _ hfree hpath
    rw [Json.getPath] at hpath ⊢
    rw [Json.free, documentInfo_contract] at hfree
    rw [getField_overlay (distinctFields_nodup (contextDocumentInfo_distinct spec))]
    cases hmanaged : getField (contextDocumentInfo spec) key with
    | none => exact hpath
    | some managed =>
      rw [hmanaged] at hfree
      have hmem := getField_mem hmanaged
      have hcases : ∀ text, managed = .str text → False := by
        rintro text rfl
        cases path <;> exact absurd hfree (by simp [Json.free])
      cases managed with
      | obj inner =>
        cases path with
        | nil => cases hfree
        | cons name path =>
          cases hold : getField current key with
          | none => rw [hold] at hpath; cases hpath
          | some old =>
            rw [hold] at hpath
            cases old with
            | obj fields =>
              have hname : getField fields name ≠ none := by
                intro hnone
                simp only [Json.getPath, hnone] at hpath
                cases hpath
              obtain ⟨contract, hcontract⟩ :=
                Option.ne_none_iff_exists'.1 (h key inner fields hmanaged hold name hname)
              obtain ⟨text, rfl⟩ := nested_text hmanaged hcontract
              change (Json.obj inner).free (name :: path) = true at hfree
              rw [Json.free, hcontract] at hfree
              cases path <;> exact absurd hfree (by simp [Json.free])
            | null | bool | int | float | str | arr => cases hpath
      | str text => exact (hcases text rfl).elim
      | null | bool | int | float | arr => simp [contextDocumentInfo] at hmem
  have hcreated : "lastModified" ∈ (contractOf spec .documentInfo).stamps :=
    List.mem_cons_of_mem _ List.mem_cons_self
  have hassets : getField (contractOf spec .documentInfo).fields "relatedAssets" = some .null := by
    rw [documentInfo_contract]
    simp [contextDocumentInfo, getField_cons]
  exact (((hoverlay.trans (.setDefault _ _ _)).trans (.setDefault _ _ _)).trans
    (.setField (.inl hcreated) _ stamp)).trans (kept_managed hassets null_free _ _)

theorem contextInfo_preserves {stamp : Json} {current value : Fields} (h : Tame spec current)
    (hvalue : (ensureContextDocumentInfo spec).update stamp current = .ok (some value)) :
    Preserved (contractOf spec .documentInfo) current value := by
  obtain ⟨items, link, hitems, hlink, ⟨-, hnone⟩ | ⟨-, hsome⟩⟩ := contextInfo_update hvalue
  · cases hnone
  · obtain rfl := Option.some.inj hsome
    refine ⟨rewrittenInfo_kept h, fun list hlist old hold => ?_⟩
    obtain rfl := Option.some.inj hlist
    obtain rfl := Except.ok.inj (hitems.symm.trans (listField_of_arr hold))
    refine ⟨_, getField_setField_self _ _ _, ?_⟩
    cases link with
    | true => exact .refl items
    | false =>
      refine ⟨items, [.obj (assetLink spec)], rfl, List.forall₂_same.2 fun _ _ => .refl _,
        fun entry hentry => ?_⟩
      obtain rfl := List.mem_singleton.1 hentry
      simp [listContract, hasIdentity, assetLink, getField_cons, Json.isText]

/-- A rewrite that replaces an object with a key of its own loses that key. -/
theorem contextInfo_loses {stamp : Json} {current value : Fields}
    (hvalue : (ensureContextDocumentInfo spec).update stamp current = .ok (some value))
    (h : Preserved (contractOf spec .documentInfo) current value) : Tame spec current := by
  obtain ⟨items, link, -, -, ⟨-, hnone⟩ | ⟨-, hsome⟩⟩ := contextInfo_update hvalue
  · cases hnone
  · obtain rfl := Option.some.inj hsome
    intro key inner fields hmanaged hold name hname hinner
    obtain ⟨old, hfield⟩ := Option.ne_none_iff_exists'.1 hname
    have hkeys := contextDocumentInfo_keys (getField_mem hmanaged)
    have hexempt : key ∉ (contractOf spec .documentInfo).stamps := by
      simpa [contractOf] using ⟨hkeys.2.1, hkeys.2.2.1⟩
    have hfree : (Json.obj (contractOf spec .documentInfo).fields).free [key, name] = true := by
      rw [Json.free, documentInfo_contract, hmanaged]
      change (Json.obj inner).free [name] = true
      rw [Json.free, hinner]
    have hpath : (Json.obj current).getPath [key, name] = some old := by
      simp only [Json.getPath, hold, hfield]
    have hnew := h.fields key [name] old hexempt hfree hpath
    rw [Json.getPath, getField_rewrittenInfo hkeys, hmanaged] at hnew
    change (Json.obj inner).getPath [name] = some old at hnew
    rw [Json.getPath, hinner] at hnew
    cases hnew

end ContextDocument

end DataRescue.SemanticSeed
