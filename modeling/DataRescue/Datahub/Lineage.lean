import DataRescue.Datahub.Mcp
import DataRescue.Python.Raising
import Mathlib.Logic.Relation

/-!
# The lineage contract

What `lineage_current` says about a lineage graph when the server answers honestly. The direct answers
about the four source datasets give all edges that leave them (`edgeCurrent_iff`), and four bridge edges
put every canonical dataset within four hops (`bridge_required`), so the verdict is about the edges out
of the sources (`lineage_contract`). Nothing is asked about the edges out of the mart.
-/

namespace DataRescue

open Python

/-! ### Distances -/

section

variable {α : Type} (edge : α → α → Prop)

/-- A path of so many edges. -/
inductive Walk : Nat → α → α → Prop
  | nil (node : α) : Walk 0 node node
  | cons {length : Nat} {source middle target : α} (h : edge source middle)
      (hrest : Walk length middle target) : Walk (length + 1) source target

/-- The least number of edges of a path that has one. -/
def Distance (source target : α) (length : Nat) : Prop :=
  Walk edge length source target ∧ 1 ≤ length ∧
    ∀ shorter, 1 ≤ shorter → Walk edge shorter source target → length ≤ shorter

variable {edge}

theorem Walk.single {source target : α} (h : edge source target) : Walk edge 1 source target :=
  .cons h (.nil target)

theorem walk_succ {length : Nat} {source target : α} :
    Walk edge (length + 1) source target ↔
      ∃ middle, edge source middle ∧ Walk edge length middle target :=
  ⟨fun h => by cases h with | cons h hrest => exact ⟨_, h, hrest⟩, fun ⟨_, h, hrest⟩ => .cons h hrest⟩

theorem walk_zero {source target : α} : Walk edge 0 source target ↔ source = target :=
  ⟨fun h => by cases h; rfl, fun h => h ▸ .nil _⟩

/-- Where the paths of so many edges of a list of edges end. -/
def walkEnds [DecidableEq α] (edges : List (α × α)) : Nat → α → List α
  | 0, source => [source]
  | length + 1, source => (edges.filter (·.1 = source)).flatMap fun edge => walkEnds edges length edge.2

theorem walk_iff_mem_walkEnds [DecidableEq α] {edges : List (α × α)} {length : Nat}
    {source target : α} :
    Walk (fun first second => (first, second) ∈ edges) length source target ↔
      target ∈ walkEnds edges length source := by
  induction length generalizing source with
  | zero => rw [walk_zero, walkEnds, List.mem_singleton, eq_comm]
  | succ length ih =>
    simp only [walk_succ, ih, walkEnds, List.mem_flatMap, List.mem_filter, decide_eq_true_eq]
    constructor
    · rintro ⟨middle, hedge, hrest⟩
      exact ⟨(source, middle), ⟨hedge, rfl⟩, hrest⟩
    · rintro ⟨⟨_, middle⟩, ⟨hedge, rfl⟩, hrest⟩
      exact ⟨middle, hedge, hrest⟩

theorem Walk.distance {length : Nat} {source target : α} (h : Walk edge length source target)
    (hpos : 1 ≤ length) : ∃ distance ≤ length, Distance edge source target distance := by
  classical
  have hexists : ∃ n, 1 ≤ n ∧ Walk edge n source target := ⟨length, hpos, h⟩
  obtain ⟨hfindPos, hfind⟩ := Nat.find_spec hexists
  exact ⟨Nat.find hexists, Nat.find_min' hexists ⟨hpos, h⟩, hfind, hfindPos,
    fun shorter hshorter hwalk => Nat.find_min' hexists ⟨hshorter, hwalk⟩⟩

end

namespace DataHubMCPAdapter

/-- A lineage graph over datasets: the targets of edges are dataset URNs. -/
structure LineageGraph where
  edge : String → String → Prop
  dataset : ∀ source target, edge source target → startsWith target "urn:li:dataset:" = true

/-- A search result that shows a dataset at a distance. -/
def Shows (item : Json) (result : String × Nat) : Prop :=
  ∃ fields entity, item = .obj fields ∧ getField fields "entity" = some (.obj entity) ∧
    getField entity "urn" = some (.str result.1) ∧ getField fields "degree" = some (.int result.2)

/-- A complete answer of `get_lineage` that lists these results. -/
structure Lists (payload : Fields) (results : List (String × Nat)) : Prop where
  answer : ∃ downstreams items, getField payload "downstreams" = some (.obj downstreams) ∧
    getField downstreams "searchResults" = some (.arr items) ∧ List.Forall₂ Shows items results ∧
    getField downstreams "hasMore" ≠ some (.bool true) ∧
    getField downstreams "truncatedDueToTokenBudget" ≠ some (.bool true) ∧
    getField downstreams "total" = some (.int results.length) ∧
    getField downstreams "returned" = some (.int results.length)

/-- What `get_lineage(source, max_hops=1)` lists: the out-neighbours, with degree one. -/
def HonestDirect (graph : LineageGraph) (source : String) (payload : Fields) : Prop :=
  ∃ results, Lists payload results ∧
    ∀ urn degree, (urn, degree) ∈ results ↔ graph.edge source urn ∧ degree = 1

/-- What `get_lineage(asset, max_hops=4)` lists: the other datasets within four hops, with their
distance. The asset itself may be listed when it lies on a cycle. -/
def HonestLineage (graph : LineageGraph) (asset : String) (payload : Fields) : Prop :=
  ∃ results, Lists payload results ∧
    (∀ urn degree, urn ≠ asset →
      ((urn, degree) ∈ results ↔ degree ≤ 4 ∧ Distance graph.edge asset urn degree)) ∧
    ∀ degree, (asset, degree) ∈ results → 1 ≤ degree ∧ startsWith asset "urn:li:dataset:" = true

theorem startsWith_urn {urn : String} (h : startsWith urn "urn:li:dataset:" = true) :
    startsWith urn "urn:li:" = true := by
  unfold startsWith at *
  rw [List.isPrefixOf_iff_prefix] at *
  exact List.IsPrefix.trans ⟨"dataset:".toList, by decide⟩ h

theorem plainInt_natCast (n : Nat) : plainInt (some (.int n)) = some n := by
  rw [plainInt, if_pos (Int.natCast_nonneg n), Int.toNat_natCast]

theorem Shows.lineageResult {item : Json} {result : String × Nat} (h : Shows item result)
    (hurn : startsWith result.1 "urn:li:dataset:" = true) (hdegree : 1 ≤ result.2) :
    lineageResult item = .ok result := by
  obtain ⟨fields, entity, rfl, hentity, hentityUrn, hentityDegree⟩ := h
  obtain ⟨urn, degree⟩ := result
  obtain ⟨degree, rfl⟩ : ∃ lower, degree = lower + 1 := Nat.exists_eq_add_of_le' hdegree
  simp only [DataHubMCPAdapter.lineageResult, requireObject, bind, Except.bind, hentity, hentityUrn,
    startsWith_urn hurn, hentityDegree, plainInt_natCast]
  rfl

theorem Lists.validated {payload : Fields} {results : List (String × Nat)} (h : Lists payload results)
    (hne : results ≠ [])
    (hresults : ∀ result ∈ results, startsWith result.1 "urn:li:dataset:" = true ∧ 1 ≤ result.2) :
    validatedLineageResults payload = .ok results := by
  obtain ⟨downstreams, items, hdownstreams, hitems, hshows, hmore, htruncated, htotal, hreturned⟩ :=
    h.answer
  have hlength : items.length = results.length := hshows.length_eq
  have hitemsNe : items ≠ [] := fun hnil =>
    hne (List.length_eq_zero_iff.1 (by rw [← hlength, hnil, List.length_nil]))
  have hmapM : items.mapM lineageResult = .ok results := by
    rw [mapM_ok]
    refine List.forall₂_iff_get.2 ⟨hlength, fun i hi hi' => ?_⟩
    obtain ⟨hurn, hdegree⟩ := hresults _ (List.get_mem results ⟨i, hi'⟩)
    exact ((List.forall₂_iff_get.1 hshows).2 i hi hi').lineageResult hurn hdegree
  simp only [validatedLineageResults, requireObject, requireArray, bind, Except.bind, hdownstreams,
    hitems, if_neg hitemsNe, hmore, htruncated, or_self, if_false, htotal, hreturned,
    plainInt_natCast, hlength, ne_eq, not_true_eq_false]
  exact hmapM

variable {graph : LineageGraph}

theorem HonestDirect.validated {source : String} {payload : Fields}
    (h : HonestDirect graph source payload) (hsource : ∃ target, graph.edge source target) :
    ∃ results, validatedLineageResults payload = .ok results ∧
      ∀ urn degree, (urn, degree) ∈ results ↔ graph.edge source urn ∧ degree = 1 := by
  obtain ⟨results, hlists, hmem⟩ := h
  obtain ⟨target, htarget⟩ := hsource
  refine ⟨results, hlists.validated (List.ne_nil_of_mem ((hmem target 1).2 ⟨htarget, rfl⟩)) ?_, hmem⟩
  rintro ⟨urn, degree⟩ hresult
  obtain ⟨hedge, rfl⟩ := (hmem urn degree).1 hresult
  exact ⟨graph.dataset _ _ hedge, le_rfl⟩

theorem LineageGraph.walk_dataset (graph : LineageGraph) {length : Nat} {source target : String}
    (h : Walk graph.edge (length + 1) source target) :
    startsWith target "urn:li:dataset:" = true := by
  induction length generalizing source with
  | zero =>
    obtain ⟨middle, hedge, hrest⟩ := walk_succ.1 h
    rw [← walk_zero.1 hrest]
    exact graph.dataset _ _ hedge
  | succ length ih =>
    obtain ⟨middle, -, hrest⟩ := walk_succ.1 h
    exact ih hrest

theorem HonestLineage.validated {asset : String} {payload : Fields}
    (h : HonestLineage graph asset payload) (hasset : ∃ target, target ≠ asset ∧ graph.edge asset target) :
    ∃ results, validatedLineageResults payload = .ok results ∧
      ∀ urn degree, urn ≠ asset →
        ((urn, degree) ∈ results ↔ degree ≤ 4 ∧ Distance graph.edge asset urn degree) := by
  obtain ⟨results, hlists, hmem, hself⟩ := h
  obtain ⟨target, hne, htarget⟩ := hasset
  obtain ⟨distance, hle, hdistance⟩ := (Walk.single htarget).distance le_rfl
  have hlisted := (hmem target distance hne).2 ⟨hle.trans (by decide), hdistance⟩
  refine ⟨results, hlists.validated (List.ne_nil_of_mem hlisted) ?_, hmem⟩
  rintro ⟨urn, degree⟩ hresult
  by_cases hurn : urn = asset
  · subst hurn
    exact (hself degree hresult).symm
  · obtain ⟨-, hwalk, hpos, -⟩ := (hmem urn degree hurn).1 hresult
    obtain ⟨lower, rfl⟩ : ∃ lower, degree = lower + 1 := ⟨degree - 1, by omega⟩
    exact ⟨graph.walk_dataset hwalk, hpos⟩

/-! ### The topology -/

/-- A source has its bridge edge, and no other edge to a canonical dataset but an allowlisted one. -/
def SourceEdges (graph : LineageGraph) (sourceUrn targetUrn : String) : Prop :=
  graph.edge sourceUrn targetUrn ∧ ∀ urn ∈ canonicalRequiredLineageUrns, graph.edge sourceUrn urn →
    urn = targetUrn ∨ (sourceUrn, urn) ∈ canonicalAllowedParallelLineageEdges

theorem edgeCurrent_iff {sourceUrn targetUrn : String} {results : List (String × Nat)}
    (hresults : ∀ urn degree, (urn, degree) ∈ results ↔ graph.edge sourceUrn urn ∧ degree = 1)
    (htarget : targetUrn ∈ canonicalRequiredLineageUrns) :
    edgeCurrent sourceUrn targetUrn results = true ↔ SourceEdges graph sourceUrn targetUrn := by
  have hallowed : ∀ urn, urn ∈ targetUrn :: (canonicalAllowedParallelLineageEdges.filter
      (·.1 = sourceUrn)).map Prod.snd ↔
      urn = targetUrn ∨ (sourceUrn, urn) ∈ canonicalAllowedParallelLineageEdges := fun urn => by
    simp only [List.mem_cons, List.mem_map, List.mem_filter, decide_eq_true_eq, Prod.exists,
      exists_eq_right]
  simp only [edgeCurrent, Bool.and_eq_true, List.contains_iff_mem, List.mem_filter, List.all_eq_true,
    decide_eq_true_eq, and_imp, Prod.forall, hresults, hallowed]
  constructor
  · rintro ⟨⟨⟨hedge, -⟩, -⟩, hothers⟩
    exact ⟨hedge, fun urn hurn h => (hothers urn 1 h rfl hurn).2⟩
  · rintro ⟨hedge, hothers⟩
    exact ⟨⟨⟨hedge, trivial⟩, htarget⟩, fun urn degree h hdegree hurn => ⟨hdegree, hothers urn hurn h⟩⟩

theorem lookup_of_mem {directLineages : List (String × Fields)} {source : String}
    (h : source ∈ directLineages.map Prod.fst) :
    ∃ payload, directLineages.lookup source = some payload ∧ (source, payload) ∈ directLineages := by
  induction directLineages with
  | nil => simp at h
  | cons direct rest ih =>
    obtain ⟨key, payload⟩ := direct
    by_cases hkey : source = key
    · subst hkey
      exact ⟨payload, by simp, List.mem_cons_self⟩
    · obtain ⟨found, hfound, hmem⟩ := ih (by simpa [hkey] using h)
      refine ⟨found, ?_, List.mem_cons_of_mem _ hmem⟩
      rw [List.lookup_cons, beq_false_of_ne hkey]
      exact hfound

/-- The honest answers about the four sources. -/
structure HonestDirects (graph : LineageGraph) (directLineages : List (String × Fields)) : Prop where
  sources : directLineages.map Prod.fst = canonicalDirectLineageEdges.map Prod.fst
  honest : ∀ source payload, (source, payload) ∈ directLineages → HonestDirect graph source payload

theorem HonestDirects.edgesCurrent {directLineages : List (String × Fields)}
    (h : HonestDirects graph directLineages)
    (hdownstream : ∀ source ∈ canonicalDirectLineageEdges.map Prod.fst, ∃ target,
      graph.edge source target)
    {edges : List (String × String)} (hedges : ∀ edge ∈ edges, edge ∈ canonicalDirectLineageEdges) :
    ∃ current, edgesCurrent directLineages edges = .ok current ∧
      (current = true ↔ ∀ edge ∈ edges, SourceEdges graph edge.1 edge.2) := by
  induction edges with
  | nil => exact ⟨true, rfl, by simp⟩
  | cons edge edges ih =>
    obtain ⟨sourceUrn, targetUrn⟩ := edge
    have hedge := hedges _ List.mem_cons_self
    have hsource : sourceUrn ∈ canonicalDirectLineageEdges.map Prod.fst := List.mem_map_of_mem hedge
    have htarget : targetUrn ∈ canonicalRequiredLineageUrns := by
      have hall : ∀ edge ∈ canonicalDirectLineageEdges, edge.2 ∈ canonicalRequiredLineageUrns := by
        decide +kernel
      exact hall _ hedge
    obtain ⟨payload, hlookup, hmem⟩ := lookup_of_mem (h.sources ▸ hsource)
    obtain ⟨results, hvalidated, hresults⟩ :=
      (h.honest sourceUrn payload hmem).validated (hdownstream sourceUrn hsource)
    obtain ⟨current, hcurrent, hrest⟩ := ih fun other hother => hedges other (List.mem_cons_of_mem _ hother)
    have hiff := edgeCurrent_iff hresults htarget
    simp only [DataHubMCPAdapter.edgesCurrent, hlookup, hvalidated, bind, Except.bind]
    split
    next hfirst =>
      refine ⟨current, hcurrent, hrest.trans ?_⟩
      simp [hiff.1 hfirst]
    next hfirst =>
      refine ⟨false, rfl, ?_⟩
      simp only [Bool.false_eq_true, false_iff, List.forall_mem_cons, not_and]
      exact fun hsourceEdges => absurd (hiff.2 hsourceEdges) hfirst

/-- The edges that leave the four sources toward canonical datasets are the four bridge edges, and
possibly the allowlisted parallel edge. -/
structure SourceTopology (graph : LineageGraph) : Prop where
  bridge : ∀ edge ∈ canonicalDirectLineageEdges, graph.edge edge.1 edge.2
  others : ∀ source ∈ canonicalDirectLineageEdges.map Prod.fst,
    ∀ target ∈ canonicalRequiredLineageUrns, graph.edge source target →
      (source, target) ∈ canonicalDirectLineageEdges ++ canonicalAllowedParallelLineageEdges

theorem sourceTopology_iff : SourceTopology graph ↔
    ∀ edge ∈ canonicalDirectLineageEdges, SourceEdges graph edge.1 edge.2 := by
  have hunique : ∀ edge ∈ canonicalDirectLineageEdges, ∀ other ∈ canonicalDirectLineageEdges,
      edge.1 = other.1 → edge = other := by decide +kernel
  constructor
  · intro h edge hedge
    refine ⟨h.bridge edge hedge, fun urn hurn hleaves => ?_⟩
    rcases List.mem_append.1 (h.others edge.1 (List.mem_map_of_mem hedge) urn hurn hleaves) with hother | hother
    · exact .inl (congrArg Prod.snd (hunique _ hother _ hedge rfl))
    · exact .inr hother
  · intro h
    refine ⟨fun edge hedge => (h edge hedge).1, fun source hsource target htarget hleaves => ?_⟩
    obtain ⟨edge, hedge, rfl⟩ := List.mem_map.1 hsource
    rcases (h edge hedge).2 target htarget hleaves with rfl | hparallel
    · exact List.mem_append_left _ hedge
    · exact List.mem_append_right _ hparallel

/-- Along the bridge every canonical dataset is within four hops of the asset. -/
theorem bridge_required (h : ∀ edge ∈ canonicalDirectLineageEdges, graph.edge edge.1 edge.2) {urn : String}
    (hurn : urn ∈ canonicalRequiredLineageUrns) (hne : urn ≠ canonicalAssetUrn) :
    ∃ length, 1 ≤ length ∧ length ≤ 4 ∧ Walk graph.edge length canonicalAssetUrn urn := by
  have hfirst : graph.edge canonicalAssetUrn canonicalDbtSourceUrn := h (_, _) (by decide)
  have hsecond : graph.edge canonicalDbtSourceUrn canonicalDbtStagingUrn := h (_, _) (by decide)
  have hthird : graph.edge canonicalDbtStagingUrn canonicalPhysicalStagingUrn := h (_, _) (by decide)
  have hfourth : graph.edge canonicalPhysicalStagingUrn canonicalDbtMartUrn := h (_, _) (by decide)
  simp only [canonicalRequiredLineageUrns, List.mem_cons, List.not_mem_nil, or_false] at hurn
  rcases hurn with rfl | rfl | rfl | rfl | rfl
  · exact absurd rfl hne
  · exact ⟨1, by decide, by decide, .single hfirst⟩
  · exact ⟨2, by decide, by decide, .cons hfirst (.single hsecond)⟩
  · exact ⟨3, by decide, by decide, .cons hfirst (.cons hsecond (.single hthird))⟩
  · exact ⟨4, by decide, by decide, .cons hfirst (.cons hsecond (.cons hthird (.single hfourth)))⟩

theorem required_ne_empty : ∀ urn ∈ canonicalRequiredLineageUrns, urn ≠ "" := by decide +kernel

theorem required_listed {results : List (String × Nat)}
    (hresults : ∀ urn degree, urn ≠ canonicalAssetUrn →
      ((urn, degree) ∈ results ↔ degree ≤ 4 ∧ Distance graph.edge canonicalAssetUrn urn degree))
    (hbridge : ∀ edge ∈ canonicalDirectLineageEdges, graph.edge edge.1 edge.2) :
    canonicalRequiredLineageUrns.all
      ((uniqueStrings (canonicalAssetUrn :: results.map Prod.fst)).contains ·) = true := by
  rw [List.all_eq_true]
  intro urn hurn
  rw [List.contains_iff_mem, mem_uniqueStrings]
  refine ⟨?_, required_ne_empty urn hurn⟩
  by_cases hne : urn = canonicalAssetUrn
  · rw [hne]
    exact List.mem_cons_self
  · obtain ⟨length, hpos, hle, hwalk⟩ := bridge_required hbridge hurn hne
    obtain ⟨distance, hshort, hdistance⟩ := hwalk.distance hpos
    have hlisted := (hresults urn distance hne).2 ⟨hshort.trans hle, hdistance⟩
    exact List.mem_cons_of_mem _ (List.mem_map_of_mem hlisted)

theorem HonestDirects.topology {directLineages : List (String × Fields)}
    (h : HonestDirects graph directLineages)
    (hdownstream : ∀ source ∈ canonicalDirectLineageEdges.map Prod.fst, ∃ target,
      graph.edge source target) :
    ∃ current, canonicalTopologyCurrent (some directLineages) = .ok current ∧
      (current = true ↔ SourceTopology graph) := by
  obtain ⟨current, hcurrent, hiff⟩ := h.edgesCurrent hdownstream fun edge hedge => hedge
  refine ⟨current, ?_, hiff.trans sourceTopology_iff.symm⟩
  simp only [canonicalTopologyCurrent, h.sources]
  rw [if_pos ⟨fun _ hkey => hkey, fun _ hsource => hsource⟩]
  exact hcurrent

/-- The other answers about the asset, when they are accepted. -/
structure AssetAnswered (entity schema : Fields) (documentInfo : Option Fields) : Prop where
  noError : ((getField entity "error").getD .null).truthy = false
  urn : Json.isText (getField entity "urn") canonicalAssetUrn = true
  schemaFields : ∃ fields, validatedSchemaFields canonicalAssetUrn schema = .ok fields
  glossary : ∃ result, glossaryContext entity = .ok result
  owner : ∃ owner, ownerContext entity = .ok owner
  documents : ∃ urns result, documentContext entity = .ok urns ∧
    canonicalContext canonicalAssetUrn entity urns documentInfo = .ok result

theorem normalizeContext_ok {entity schema lineage : Fields}
    {directLineages : Option (List (String × Fields))} {documentInfo : Option Fields}
    {context : NormalizedContext}
    (h : normalizeContext canonicalAssetUrn entity schema lineage directLineages documentInfo =
      .ok context) :
    ∃ results current, validatedLineageResults lineage = .ok results ∧
      canonicalTopologyCurrent directLineages = .ok current ∧
      context.lineageCurrent = (canonicalRequiredLineageUrns.all
        ((uniqueStrings (canonicalAssetUrn :: results.map Prod.fst)).contains ·) && current) := by
  rw [normalizeContext] at h
  split at h
  · exact absurd h (by simp [refuse])
  split at h
  · exact absurd h (by simp [refuse])
  obtain ⟨schemaFields, -, h⟩ := bind_eq_ok.1 h
  obtain ⟨lineageUrns, hlineage, h⟩ := bind_eq_ok.1 h
  obtain ⟨⟨glossaryDefinition, glossaryUrns⟩, -, h⟩ := bind_eq_ok.1 h
  obtain ⟨owner, -, h⟩ := bind_eq_ok.1 h
  obtain ⟨documentUrns, -, h⟩ := bind_eq_ok.1 h
  rw [if_pos rfl] at h
  obtain ⟨⟨definition, canonicalUrns⟩, -, h⟩ := bind_eq_ok.1 h
  obtain ⟨current, hcurrent, h⟩ := bind_eq_ok.1 h
  obtain ⟨results, hresults, hurns⟩ := bind_eq_ok.1 hlineage
  cases hurns
  cases h
  exact ⟨results, current, hresults, hcurrent, rfl⟩

theorem AssetAnswered.normalizeContext {entity schema lineage : Fields}
    {directLineages : Option (List (String × Fields))} {documentInfo : Option Fields}
    (h : AssetAnswered entity schema documentInfo) {results : List (String × Nat)} {current : Bool}
    (hlineage : validatedLineageResults lineage = .ok results)
    (hcurrent : canonicalTopologyCurrent directLineages = .ok current) :
    ∃ context, normalizeContext canonicalAssetUrn entity schema lineage directLineages documentInfo =
      .ok context := by
  obtain ⟨fields, hfields⟩ := h.schemaFields
  obtain ⟨⟨glossaryDefinition, glossaryUrns⟩, hglossary⟩ := h.glossary
  obtain ⟨owner, howner⟩ := h.owner
  obtain ⟨urns, ⟨definition, canonicalUrns⟩, hurns, hcanonical⟩ := h.documents
  have hlineageUrns : validatedLineageUrns canonicalAssetUrn lineage =
      .ok (uniqueStrings (canonicalAssetUrn :: results.map Prod.fst)) :=
    bind_eq_ok.2 ⟨results, hlineage, rfl⟩
  rw [DataHubMCPAdapter.normalizeContext, if_neg (by simp [h.noError]), if_neg (by simp [h.urn])]
  simp only [hfields, hlineageUrns, hglossary, howner, hurns, hcanonical, hcurrent, bind, Except.bind,
    if_true]
  exact ⟨_, rfl⟩

/-! ### An edge out of the mart -/

/-- An answer that lists these results. -/
def lineageAnswer (results : List (String × Nat)) : Fields :=
  [("downstreams", .obj
    [("searchResults", .arr (results.map fun result =>
        .obj [("entity", .obj [("urn", .str result.1)]), ("degree", .int result.2)])),
      ("total", .int results.length), ("returned", .int results.length)])]

theorem lists_lineageAnswer (results : List (String × Nat)) : Lists (lineageAnswer results) results where
  answer := by
    refine ⟨_, _, rfl, rfl, ?_, (Option.some_ne_none _).symm, (Option.some_ne_none _).symm, rfl, rfl⟩
    rw [List.forall₂_map_left_iff]
    exact List.forall₂_same.2 fun result _ => ⟨_, _, rfl, rfl, rfl, rfl⟩

/-- The bridge, closed into a cycle by an edge from the mart back to the asset. -/
def cycleEdges : List (String × String) :=
  canonicalDirectLineageEdges ++ [(canonicalDbtMartUrn, canonicalAssetUrn)]

def cycleGraph : LineageGraph where
  edge source target := (source, target) ∈ cycleEdges
  dataset source target h := by
    have hall : ∀ edge ∈ cycleEdges, startsWith edge.2 "urn:li:dataset:" = true := by decide +kernel
    exact hall _ h

def cycleDirects : List (String × Fields) :=
  canonicalDirectLineageEdges.map fun edge => (edge.1, lineageAnswer [(edge.2, 1)])

def cycleResults : List (String × Nat) := canonicalRequiredLineageUrns.zipIdx.filter (1 ≤ ·.2)

/-- The asset's answers, with its owner, its glossary term and its document. -/
def cycleEntity : Fields :=
  [("urn", .str canonicalAssetUrn),
    ("ownership", .obj [("owners", .arr [.obj [("owner", .obj [("urn", .str canonicalOwnerUrn),
      ("properties", .obj [("displayName", .str canonicalOwnerDisplayName)])])]])]),
    ("glossaryTerms", .obj [("terms", .arr [.obj [("term", .obj [("urn", .str canonicalGlossaryTermUrn),
      ("properties", .obj [("description", .str "Net revenue in dollars")])])]])]),
    ("relatedDocuments", .obj [("documents", .arr [.obj [("urn", .str canonicalContextDocumentUrn)]])])]

def cycleSchema : Fields :=
  [("urn", .str canonicalAssetUrn), ("fields", .arr [.obj [("fieldPath", .str "amount")]]),
    ("returned", .int 1), ("totalFields", .int 1), ("remainingCount", .int 0)]

theorem cycle_walk {urn : String} {length : Nat} (hlength : length < 5) :
    Walk cycleGraph.edge length canonicalAssetUrn urn ↔
      canonicalRequiredLineageUrns[length]? = some urn := by
  have hends : ∀ n < 5, walkEnds cycleEdges n canonicalAssetUrn =
      canonicalRequiredLineageUrns[n]?.toList := by decide +kernel
  rw [cycleGraph, walk_iff_mem_walkEnds, hends length hlength, Option.mem_toList]

theorem cycle_distance {urn : String} {length : Nat} (hlength : length < 5) :
    Distance cycleGraph.edge canonicalAssetUrn urn length ↔
      1 ≤ length ∧ canonicalRequiredLineageUrns[length]? = some urn := by
  constructor
  · rintro ⟨hwalk, hpos, -⟩
    exact ⟨hpos, (cycle_walk hlength).1 hwalk⟩
  · rintro ⟨hpos, hnode⟩
    refine ⟨(cycle_walk hlength).2 hnode, hpos, fun shorter _ hwalk => ?_⟩
    by_contra hlt
    have hsame := (cycle_walk (by omega)).1 hwalk
    have hnodup : canonicalRequiredLineageUrns.Nodup := by decide +kernel
    have hlt : length < canonicalRequiredLineageUrns.length := hlength
    have hlengths := (List.getElem?_inj hlt hnodup).1 (hnode.trans hsame.symm)
    omega

theorem cycle_honestDirects : HonestDirects cycleGraph cycleDirects where
  sources := rfl
  honest := by
    intro source payload h
    obtain ⟨⟨edgeSource, edgeTarget⟩, hedge, heq⟩ := List.mem_map.1 h
    cases heq
    refine ⟨_, lists_lineageAnswer _, fun urn degree => ?_⟩
    have hunique : ∀ edge ∈ canonicalDirectLineageEdges, ∀ other ∈ cycleEdges,
        edge.1 = other.1 → edge = other := by decide +kernel
    rw [List.mem_singleton, Prod.mk.injEq]
    refine and_congr_left fun _ => ⟨?_, fun hleaves => ?_⟩
    · rintro rfl
      exact List.mem_append_left _ hedge
    · exact (congrArg Prod.snd (hunique _ hedge _ hleaves rfl)).symm

theorem cycle_honestLineage : HonestLineage cycleGraph canonicalAssetUrn (lineageAnswer cycleResults) := by
  have hmem : ∀ urn degree, (urn, degree) ∈ cycleResults ↔
      canonicalRequiredLineageUrns[degree]? = some urn ∧ 1 ≤ degree := fun urn degree => by
    rw [cycleResults, List.mem_filter, List.mk_mem_zipIdx_iff_getElem?, decide_eq_true_eq]
  refine ⟨cycleResults, lists_lineageAnswer _, fun urn degree _ => ?_, fun degree h => ?_⟩
  · rw [hmem]
    constructor
    · rintro ⟨hnode, hpos⟩
      have hlt : degree < 5 := (List.getElem?_eq_some_iff.1 hnode).1
      exact ⟨by omega, (cycle_distance hlt).2 ⟨hpos, hnode⟩⟩
    · rintro ⟨hle, hdistance⟩
      obtain ⟨hpos, hnode⟩ := (cycle_distance (by omega)).1 hdistance
      exact ⟨hnode, hpos⟩
  · exact ⟨((hmem _ _).1 h).2, by decide⟩

theorem cycle_downstream : ∀ source ∈ canonicalDirectLineageEdges.map Prod.fst, ∃ target,
    cycleGraph.edge source target := by
  intro source hsource
  obtain ⟨edge, hedge, rfl⟩ := List.mem_map.1 hsource
  exact ⟨edge.2, List.mem_append_left _ hedge⟩

def cycleContext : Except AdapterError NormalizedContext :=
  normalizeContext canonicalAssetUrn cycleEntity cycleSchema (lineageAnswer cycleResults)
    (some cycleDirects) none

theorem cycleContext_current : ∃ context, cycleContext = .ok context ∧ context.lineageCurrent = true := by
  have hverdict : cycleContext.map (·.lineageCurrent) = .ok true := by decide +kernel
  rcases hcontext : cycleContext with error | context
  · rw [hcontext] at hverdict
    exact absurd hverdict (by simp [Except.map])
  · rw [hcontext] at hverdict
    exact ⟨context, rfl, Except.ok.inj hverdict⟩

/-! ### The contract -/

/-- Answers that say what the graph is decide `lineage_current` by the edges out of the sources. The
asset's own answer is refused only when it lists nothing. -/
theorem lineage_contract {entity schema lineage : Fields} {directLineages : List (String × Fields)}
    {documentInfo : Option Fields}
    (hdownstream : ∀ source ∈ canonicalDirectLineageEdges.map Prod.fst, ∃ target,
      graph.edge source target)
    (hdirects : HonestDirects graph directLineages)
    (hlineage : HonestLineage graph canonicalAssetUrn lineage) :
    (∀ context, normalizeContext canonicalAssetUrn entity schema lineage (some directLineages)
        documentInfo = .ok context → (context.lineageCurrent = true ↔ SourceTopology graph)) ∧
      (AssetAnswered entity schema documentInfo →
        (∃ target, target ≠ canonicalAssetUrn ∧ graph.edge canonicalAssetUrn target) →
        ∃ context, normalizeContext canonicalAssetUrn entity schema lineage (some directLineages)
          documentInfo = .ok context) := by
  obtain ⟨current, hcurrent, hiff⟩ := hdirects.topology hdownstream
  constructor
  · intro context hcontext
    obtain ⟨results, topology, hresults, htopology, hverdict⟩ := normalizeContext_ok hcontext
    obtain rfl : current = topology := Except.ok.inj (hcurrent.symm.trans htopology)
    rw [hverdict, Bool.and_eq_true, hiff]
    refine ⟨And.right, fun hsource => ⟨?_, hsource⟩⟩
    have hasset : graph.edge canonicalAssetUrn canonicalDbtSourceUrn :=
      hsource.bridge (_, _) (by decide)
    obtain ⟨listed, hlisted, hmem⟩ := hlineage.validated ⟨_, by decide, hasset⟩
    obtain rfl : listed = results := Except.ok.inj (hlisted.symm.trans hresults)
    exact required_listed hmem hsource.bridge
  · intro hanswered hasset
    obtain ⟨results, hresults, -⟩ := hlineage.validated hasset
    exact hanswered.normalizeContext hresults hcurrent

/-- The verdict on the cycle is the one on its sources. -/
theorem lineage_contract_cycle : ∃ context, cycleContext = .ok context ∧
    (context.lineageCurrent = true ↔ SourceTopology cycleGraph) := by
  obtain ⟨context, hcontext, -⟩ := cycleContext_current
  exact ⟨context, hcontext, (lineage_contract cycle_downstream cycle_honestDirects
    cycle_honestLineage).1 context hcontext⟩

/-- The same of all five canonical datasets, the mart among them. -/
structure CanonicalTopology (graph : LineageGraph) : Prop where
  bridge : ∀ edge ∈ canonicalDirectLineageEdges, graph.edge edge.1 edge.2
  others : ∀ source ∈ canonicalRequiredLineageUrns, ∀ target ∈ canonicalRequiredLineageUrns,
    graph.edge source target →
      (source, target) ∈ canonicalDirectLineageEdges ++ canonicalAllowedParallelLineageEdges

/-- An edge from the mart back to the asset is not seen. -/
theorem lineage_contract_counterexample :
    ¬ ∀ (graph : LineageGraph) (entity schema lineage : Fields)
      (directLineages : List (String × Fields)) (documentInfo : Option Fields)
      (context : NormalizedContext),
      (∀ source ∈ canonicalDirectLineageEdges.map Prod.fst, ∃ target, graph.edge source target) →
      HonestDirects graph directLineages → HonestLineage graph canonicalAssetUrn lineage →
      normalizeContext canonicalAssetUrn entity schema lineage (some directLineages) documentInfo =
        .ok context →
      (context.lineageCurrent = true ↔ CanonicalTopology graph) := by
  intro h
  obtain ⟨context, hcontext, hcurrent⟩ := cycleContext_current
  have htopology := (h cycleGraph _ _ _ _ _ context cycle_downstream cycle_honestDirects
    cycle_honestLineage hcontext).1 hcurrent
  have hback := htopology.others canonicalDbtMartUrn (by decide) canonicalAssetUrn (by decide)
    (List.mem_append_right _ List.mem_cons_self)
  exact absurd hback (by decide)

end DataHubMCPAdapter

end DataRescue
