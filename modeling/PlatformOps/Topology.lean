/-
**Reviewed provision topologies.**

A reviewed topology names the planning units of a profile, the inputs of each unit, and the edges
between the units.  The validator checks profile and provider, the identifiers of the units, what
they use, the edges and the references to outputs, and that the edges have no cycle; the last by a
worklist over the open predecessors.

It accepts exactly the well-formed topologies.  What it does not check is that a unit whose output
is an input of another one is upstream of it: there may be no edge between the two, or an edge the
other way.

Main definitions:

* `InputValue`, `UnitSpec`, `EdgeSpec`, `TopologySpec`, `ValidatedTopology` — the contracts;
* `validateTopology` — the validator;
* `TopologySpec.WellFormed` — what is accepted;
* `TopologySpec.PathsToReaders`, `TopologySpec.NeverReadsEarly` — no output is read before it is
  produced;
* `TopologySpec.referencesUpstream`, `TopologySpec.ReferencesHaveEdges` — references point upstream,
  and each of them has an edge of its own.

Main results:

* `registerUnits_eq_ok_iff`, `exists_connectUnits_iff`, `checkBindings_eq_ok_iff` — each pass over
  the topology succeeds exactly if what it checks holds;
* `TopologySpec.Checked.length_ordered_iff` — the loop handles all units exactly without a cycle;
* `validateTopology_exact` — **validation is exact**;
* `realisableDataFlow_iff` — an accepted topology has a realisable data flow exactly if its
  references point upstream;
* `realisableDataFlow_of_edges` — **an accepted topology whose references have their edges has a
  realisable data flow, and one that reads at a root or reads from a leaf has none**.
-/

import PlatformOps.ContainerBindings
import PlatformOps.Intake
import PlatformOps.TopologicalOrder

set_option relaxedAutoImplicit false
set_option autoImplicit false

namespace PlatformOps

open TopologicalOrder

/-! ### The contracts -/

@[ext] structure UnitOutputRef where
  unitId : String
  outputName : String
  unitId_ne : unitId ≠ ""
  outputName_ne : outputName ≠ ""

instance : DecidableEq UnitOutputRef := fun _ _ =>
  decidable_of_iff _ UnitOutputRef.ext_iff.symm

/-- Where an input of a unit comes from. -/
inductive InputValue
  | literal (value : Json)
  | request (field : String) (nonempty : field ≠ "")
  | workspace (field : String) (nonempty : field ≠ "")
  | unitOutput (ref : UnitOutputRef)

structure UnitSpec where
  id : String
  uses : String
  inputs : Dict String InputValue
  id_ne : id ≠ ""
  uses_ne : uses ≠ ""

@[ext] structure EdgeSpec where
  source : String
  target : String
  source_ne : source ≠ ""
  target_ne : target ≠ ""

instance : DecidableEq EdgeSpec := fun _ _ =>
  decidable_of_iff _ EdgeSpec.ext_iff.symm

structure TopologySpec where
  name : String
  profile : String
  provider : CloudProvider
  units : List UnitSpec
  edges : List EdgeSpec
  name_ne : name ≠ ""
  profile_ne : profile ≠ ""
  units_ne : units ≠ []

structure ValidatedTopology where
  spec : TopologySpec
  rootIds : List String
  leafIds : List String
  predecessorsByTarget : Dict String (List String)

structure TopologyValidationError where
  message : String
  deriving DecidableEq

/-! ### The validator -/

section DefaultDict

variable {κ α : Type} [DecidableEq κ]

/-- What a dictionary of lists has under a key. -/
def readList (d : Dict κ (List α)) (k : κ) : List α := (d.get? k).getD []

/-- Reading a key that is absent stores the empty list. -/
def touch (d : Dict κ (List α)) (k : κ) : Dict κ (List α) := d.set k (readList d k)

/-- Append to the list of a key. -/
def appendTo (d : Dict κ (List α)) (k : κ) (a : α) : Dict κ (List α) :=
  d.set k (readList d k ++ [a])

theorem readList_appendTo (d : Dict κ (List α)) (k k' : κ) (a : α) :
    readList (appendTo d k a) k' = if k' = k then readList d k ++ [a] else readList d k' := by
  by_cases h : k' = k
  · subst h
    simp [readList, appendTo]
  · simp [readList, appendTo, h]

theorem readList_touch (d : Dict κ (List α)) (k k' : κ) :
    readList (touch d k) k' = readList d k' := by
  by_cases h : k' = k
  · subst h
    simp [readList, touch]
  · simp [readList, touch, h]

theorem get?_foldl_touch (keys : List κ) (d : Dict κ (List α)) (k : κ) :
    (keys.foldl touch d).get? k = if k ∈ keys then some (readList d k) else d.get? k := by
  induction keys generalizing d with
  | nil => simp
  | cons k' keys ih =>
      rw [List.foldl_cons, ih, readList_touch]
      by_cases hk : k = k'
      · subst hk
        simp [touch]
      · simp [touch, hk]

theorem readList_foldl_touch (keys : List κ) (d : Dict κ (List α)) (k : κ) :
    readList (keys.foldl touch d) k = readList d k := by
  induction keys generalizing d with
  | nil => rfl
  | cons k' keys ih => rw [List.foldl_cons, ih, readList_touch]

end DefaultDict

section

variable (repr : String → String)

/-- Register the units by their identifiers. -/
def registerUnits (registeredUnits : Finset String) :
    List UnitSpec → Dict String UnitSpec →
      Except TopologyValidationError (Dict String UnitSpec)
  | [], byId => .ok byId
  | unit :: rest, byId =>
      if unit.id ∈ byId.keys then
        .error ⟨"duplicate topology unit id " ++ repr unit.id⟩
      else if unit.uses ∉ registeredUnits then
        .error ⟨"unknown topology unit " ++ repr unit.uses⟩
      else registerUnits registeredUnits rest (byId.set unit.id unit)

/-- The neighbours of the units. -/
structure Adjacency where
  predecessors : Dict String (List String)
  successors : Dict String (List String)

/-- Record the edges. -/
def connectUnits (byId : Dict String UnitSpec) :
    List EdgeSpec → Adjacency → Except TopologyValidationError Adjacency
  | [], adjacency => .ok adjacency
  | edge :: rest, ⟨predecessors, successors⟩ =>
      if edge.source ∉ byId.keys ∨ edge.target ∉ byId.keys then
        .error ⟨"topology edge references an unknown unit"⟩
      else if edge.source = edge.target then
        .error ⟨"topology cannot contain a self-edge"⟩
      else if edge.source ∈ readList predecessors edge.target then
        .error ⟨"topology contains a duplicate edge"⟩
      else connectUnits byId rest
        ⟨appendTo (touch predecessors edge.target) edge.target edge.source,
          appendTo successors edge.source edge.target⟩

/-- Check where an input comes from. -/
def checkBinding (byId : Dict String UnitSpec) (unit : UnitSpec) :
    InputValue → Except TopologyValidationError Unit
  | .unitOutput ref =>
      if ref.unitId ∉ byId.keys then
        .error ⟨"unit " ++ repr unit.id ++ " binds output from unknown unit " ++
          repr ref.unitId⟩
      else if ref.unitId = unit.id then
        .error ⟨"unit " ++ repr unit.id ++ " cannot bind its own output"⟩
      else .ok ()
  | _ => .ok ()

/-- Check the inputs of all units. -/
def checkBindings (byId : Dict String UnitSpec) (units : List UnitSpec) :
    Except TopologyValidationError Unit :=
  units.forM fun unit => unit.inputs.values.forM (checkBinding repr byId unit)

/-- The worklist before the first unit is handled. -/
def initialWorklist (unitIds : List String) (predecessors : Dict String (List String)) :
    Worklist String where
  indegree id := (readList predecessors id).length
  queue := unitIds.filter fun id => (readList predecessors id).length = 0
  ordered := []

/-- Validate a reviewed topology. -/
def validateTopology (spec : TopologySpec) (profileId provider : String)
    (registeredUnits : Finset String) : Except TopologyValidationError ValidatedTopology :=
  if spec.profile ≠ profileId then
    .error ⟨"topology profile does not match selected profile"⟩
  else if spec.provider.value ≠ provider then
    .error ⟨"topology provider does not match workspace provider"⟩
  else do
    let byId ← registerUnits repr registeredUnits spec.units .empty
    let adjacency ← connectUnits byId spec.edges ⟨.empty, .empty⟩
    checkBindings repr byId spec.units
    let predecessors := byId.keys.foldl touch adjacency.predecessors
    -- a unit is handled at most once, so that the loop ends within this many iterations
    let work := (initialWorklist byId.keys predecessors).drain
      (readList adjacency.successors) byId.keys.length
    if work.ordered.length ≠ byId.keys.length then
      .error ⟨"topology graph must be acyclic"⟩
    else .ok {
      spec := spec
      rootIds := byId.keys.filter fun id => readList predecessors id = []
      leafIds := byId.keys.filter fun id => readList adjacency.successors id = []
      predecessorsByTarget := predecessors }

end

/-! ### What is accepted -/

section

variable {repr : String → String}

namespace TopologySpec

/-- The identifiers of the units. -/
def unitIds (spec : TopologySpec) : List String := spec.units.map UnitSpec.id

/-- The edges, as pairs of identifiers. -/
def arrows (spec : TopologySpec) : List (String × String) :=
  spec.edges.map fun edge => (edge.source, edge.target)

/-- There is an edge from one unit to another. -/
def Edge (spec : TopologySpec) (source target : String) : Prop :=
  ∃ edge ∈ spec.edges, edge.source = source ∧ edge.target = target

/-- An input of the unit is an output of another one. -/
def References (spec : TopologySpec) (unit : UnitSpec) (ref : UnitOutputRef) : Prop :=
  unit ∈ spec.units ∧ InputValue.unitOutput ref ∈ unit.inputs.values

/-- What the validator checks before it orders the units. -/
structure Checked (spec : TopologySpec) (profileId provider : String)
    (registeredUnits : Finset String) : Prop where
  profile : spec.profile = profileId
  provider : spec.provider.value = provider
  unique : spec.unitIds.Nodup
  uses : ∀ unit ∈ spec.units, unit.uses ∈ registeredUnits
  known : ∀ edge ∈ spec.edges,
    edge.source ∈ spec.unitIds ∧ edge.target ∈ spec.unitIds ∧ edge.source ≠ edge.target
  notRepeated : spec.arrows.Nodup
  references : ∀ unit ref, spec.References unit ref →
    ref.unitId ∈ spec.unitIds ∧ ref.unitId ≠ unit.id

/-- What the validator is to accept. -/
structure WellFormed (spec : TopologySpec) (profileId provider : String)
    (registeredUnits : Finset String) : Prop
    extends Checked spec profileId provider registeredUnits where
  acyclic : ∀ id, ¬ Relation.TransGen spec.Edge id id

theorem arrow_arrows_iff {spec : TopologySpec} {source target : String} :
    Arrow spec.arrows source target ↔ spec.Edge source target := by
  simp [Arrow, arrows, Edge]

theorem reaches_arrows (spec : TopologySpec) :
    Reaches spec.arrows = Relation.TransGen spec.Edge := by
  have harrow : Arrow spec.arrows = spec.Edge := by
    funext source target
    exact propext arrow_arrows_iff
  rw [← harrow]

end TopologySpec

/-- **The units are registered exactly if no identifier occurs twice and what they use is known.** -/
theorem registerUnits_eq_ok_iff {registeredUnits : Finset String} {units : List UnitSpec}
    {byId byId' : Dict String UnitSpec} :
    registerUnits repr registeredUnits units byId = .ok byId' ↔
      (∀ unit ∈ units, unit.uses ∈ registeredUnits) ∧
        (byId.keys ++ units.map UnitSpec.id).Nodup ∧
        byId' = units.foldl (fun d unit => d.set unit.id unit) byId := by
  induction units generalizing byId with
  | nil => simp [registerUnits, byId.nodup_keys, eq_comm]
  | cons unit rest ih =>
      unfold registerUnits
      by_cases hkey : unit.id ∈ byId.keys
      · have hnot : ¬ (byId.keys ++ (unit :: rest).map UnitSpec.id).Nodup := fun h =>
          (List.nodup_append.1 h).2.2 _ hkey _ (by simp) rfl
        rw [if_pos hkey]
        exact ⟨nofun, fun h => absurd h.2.1 hnot⟩
      · rw [if_neg hkey]
        by_cases huses : unit.uses ∈ registeredUnits
        · rw [if_neg (by simpa using huses), ih, Dict.keys_set_of_new hkey]
          simp [huses, List.append_assoc]
        · simp [huses]

theorem keys_foldl_set {units : List UnitSpec} {byId : Dict String UnitSpec}
    (h : (byId.keys ++ units.map UnitSpec.id).Nodup) :
    (units.foldl (fun d unit => d.set unit.id unit) byId).keys =
      byId.keys ++ units.map UnitSpec.id := by
  have hpairs : units.map UnitSpec.id =
      (units.map fun unit => (unit.id, unit)).map Prod.fst := by simp
  rw [hpairs] at h ⊢
  have hentries := Dict.entries_foldl_set h
  rw [List.foldl_map] at hentries
  simp [Dict.keys, hentries]

/-- The neighbours are those of the edges. -/
structure Adjacency.Of (edges : List (String × String)) (adjacency : Adjacency) : Prop where
  predecessors : ∀ id, readList adjacency.predecessors id = sources edges id
  successors : ∀ id, readList adjacency.successors id = targets edges id
  keys : ∀ id, adjacency.predecessors.get? id ≠ none → sources edges id ≠ []

theorem Adjacency.of_nil : Adjacency.Of [] ⟨.empty, .empty⟩ where
  predecessors _ := rfl
  successors _ := rfl
  keys _ h := absurd rfl h

/-- One more edge is recorded. -/
theorem Adjacency.Of.connect {edges : List (String × String)}
    {predecessors successors : Dict String (List String)}
    (h : Adjacency.Of edges ⟨predecessors, successors⟩) (source target : String) :
    Adjacency.Of (edges ++ [(source, target)])
      ⟨appendTo (touch predecessors target) target source,
        appendTo successors source target⟩ where
  predecessors id := by
    rw [readList_appendTo, readList_touch, readList_touch, sources_concat, ← h.predecessors]
    by_cases hid : id = target
    · simp [hid]
    · simp [hid]
  successors id := by
    rw [readList_appendTo, targets_concat, ← h.successors]
    by_cases hid : id = source
    · simp [hid]
    · simp [hid]
  keys id hget := by
    rw [sources_concat]
    by_cases hid : id = target
    · simp [hid]
    · rw [if_neg hid]
      exact h.keys id (by simpa [appendTo, touch, hid] using hget)

/-- **The edges are recorded exactly if they join known units and are not repeated.** -/
theorem exists_connectUnits_iff {byId : Dict String UnitSpec} {edges : List EdgeSpec}
    {done : List (String × String)} {adjacency : Adjacency} (h : adjacency.Of done)
    (hdone : done.Nodup) :
    (∃ adjacency', connectUnits byId edges adjacency = .ok adjacency') ↔
      (∀ edge ∈ edges, edge.source ∈ byId.keys ∧ edge.target ∈ byId.keys ∧
        edge.source ≠ edge.target) ∧
      (done ++ edges.map fun edge => (edge.source, edge.target)).Nodup := by
  induction edges generalizing done adjacency with
  | nil => simpa [connectUnits] using hdone
  | cons edge rest ih =>
      obtain ⟨predecessors, successors⟩ := adjacency
      have hread : edge.source ∈ readList predecessors edge.target ↔
          (edge.source, edge.target) ∈ done := by
        rw [show readList predecessors edge.target = _ from h.predecessors edge.target]
        exact mem_sources
      unfold connectUnits
      by_cases hknown : edge.source ∉ byId.keys ∨ edge.target ∉ byId.keys
      · rw [if_pos hknown]
        refine ⟨nofun, fun hfit => ?_⟩
        have hedge := hfit.1 edge (by simp)
        tauto
      · rw [if_neg hknown]
        by_cases hself : edge.source = edge.target
        · rw [if_pos hself]
          exact ⟨nofun, fun hfit => absurd hself (hfit.1 edge (by simp)).2.2⟩
        · rw [if_neg hself]
          by_cases hrepeated : (edge.source, edge.target) ∈ done
          · rw [if_pos (hread.2 hrepeated)]
            refine ⟨nofun, fun hfit => ?_⟩
            exact absurd rfl ((List.nodup_append.1 hfit.2).2.2 _ hrepeated _ (by simp))
          · have hconcat : (done ++ [(edge.source, edge.target)]).Nodup := by
              refine List.nodup_append.2 ⟨hdone, List.nodup_singleton _, ?_⟩
              rintro a ha b hb rfl
              exact hrepeated (List.mem_singleton.1 hb ▸ ha)
            rw [if_neg (fun hmem => hrepeated (hread.1 hmem)), ih (h.connect _ _) hconcat]
            push Not at hknown
            simp [hknown, hself]

/-- What is recorded are the edges. -/
theorem of_connectUnits {byId : Dict String UnitSpec} {edges : List EdgeSpec}
    {done : List (String × String)} {adjacency adjacency' : Adjacency} (h : adjacency.Of done)
    (hconnect : connectUnits byId edges adjacency = .ok adjacency') :
    adjacency'.Of (done ++ edges.map fun edge => (edge.source, edge.target)) := by
  induction edges generalizing done adjacency with
  | nil =>
      simp only [connectUnits, Except.ok.injEq] at hconnect
      subst hconnect
      simpa using h
  | cons edge rest ih =>
      obtain ⟨predecessors, successors⟩ := adjacency
      unfold connectUnits at hconnect
      split at hconnect
      · cases hconnect
      · split at hconnect
        · cases hconnect
        · split at hconnect
          · cases hconnect
          · simpa using ih (h.connect _ _) hconnect

theorem forM_eq_ok_iff {ε α : Type} {f : α → Except ε Unit} {l : List α} :
    l.forM f = .ok () ↔ ∀ a ∈ l, f a = .ok () := by
  induction l with
  | nil => simp [pure, Except.pure]
  | cons a l ih =>
      rw [List.forM, bind_eq_ok_iff, List.forall_mem_cons]
      simp only [ih]
      constructor
      · rintro ⟨_, hhead, htail⟩
        exact ⟨hhead, htail⟩
      · rintro ⟨hhead, htail⟩
        exact ⟨(), hhead, htail⟩

/-- The inputs are in order exactly if each names another unit that is known. -/
theorem checkBindings_eq_ok_iff {byId : Dict String UnitSpec} {units : List UnitSpec} :
    checkBindings repr byId units = .ok () ↔
      ∀ unit ∈ units, ∀ ref, InputValue.unitOutput ref ∈ unit.inputs.values →
        ref.unitId ∈ byId.keys ∧ ref.unitId ≠ unit.id := by
  have hbinding : ∀ unit value, checkBinding repr byId unit value = .ok () ↔
      ∀ ref, value = .unitOutput ref → ref.unitId ∈ byId.keys ∧ ref.unitId ≠ unit.id := by
    intro unit value
    cases value with
    | literal value => simp [checkBinding]
    | request field nonempty => simp [checkBinding]
    | workspace field nonempty => simp [checkBinding]
    | unitOutput ref =>
        simp only [checkBinding]
        by_cases hknown : ref.unitId ∈ byId.keys
        · rw [if_neg (not_not_intro hknown)]
          by_cases hself : ref.unitId = unit.id
          · rw [if_pos hself]
            simp [hself]
          · simp [hknown, hself]
        · simp [hknown]
  simp only [checkBindings, forM_eq_ok_iff, hbinding]
  constructor
  · intro h unit hunit ref href
    exact h unit hunit _ href ref rfl
  · rintro h unit hunit _ hvalue ref rfl
    exact h unit hunit ref hvalue

/-- What the validator returns on a well-formed topology. -/
structure ValidatedTopology.Of (reviewed : TopologySpec) (validated : ValidatedTopology) :
    Prop where
  spec : validated.spec = reviewed
  roots : validated.rootIds =
    reviewed.unitIds.filter fun id => ∀ edge ∈ reviewed.edges, edge.target ≠ id
  leaves : validated.leafIds =
    reviewed.unitIds.filter fun id => ∀ edge ∈ reviewed.edges, edge.source ≠ id
  predecessors : ∀ id, validated.predecessorsByTarget.get? id =
    if id ∈ reviewed.unitIds then some (sources reviewed.arrows id) else none

/-- The worklist at the end of the loop. -/
def finalWorklist (spec : TopologySpec) : Worklist String :=
  Worklist.drain (targets spec.arrows) spec.unitIds.length
    ⟨fun id => (sources spec.arrows id).length,
      spec.unitIds.filter fun id => (sources spec.arrows id).length = 0, []⟩

/-- The loop over the recorded edges is the loop over the edges. -/
theorem drain_initialWorklist {spec : TopologySpec} {adjacency : Adjacency}
    (h : adjacency.Of spec.arrows) :
    (initialWorklist spec.unitIds (spec.unitIds.foldl touch adjacency.predecessors)).drain
      (readList adjacency.successors) spec.unitIds.length = finalWorklist spec := by
  have hsuccessors : readList adjacency.successors = targets spec.arrows :=
    funext h.successors
  simp only [initialWorklist, finalWorklist, readList_foldl_touch, h.predecessors, hsuccessors]

/-- The unit of the sources is known. -/
theorem TopologySpec.mem_unitIds_of_sources {spec : TopologySpec}
    (hknown : ∀ edge ∈ spec.edges, edge.source ∈ spec.unitIds ∧ edge.target ∈ spec.unitIds ∧
      edge.source ≠ edge.target) {id : String} (h : sources spec.arrows id ≠ []) :
    id ∈ spec.unitIds := by
  obtain ⟨source, hsource⟩ := List.exists_mem_of_ne_nil _ h
  obtain ⟨edge, hedge, -, rfl⟩ := arrow_arrows_iff.1 (mem_sources.1 hsource)
  exact (hknown edge hedge).2.1

/-- What is returned, if the loop handles all units. -/
theorem ValidatedTopology.of_adjacency {spec : TopologySpec} {adjacency : Adjacency}
    (h : adjacency.Of spec.arrows)
    (hknown : ∀ edge ∈ spec.edges, edge.source ∈ spec.unitIds ∧ edge.target ∈ spec.unitIds ∧
      edge.source ≠ edge.target) :
    let predecessors := spec.unitIds.foldl touch adjacency.predecessors
    ValidatedTopology.Of spec
      { spec := spec
        rootIds := spec.unitIds.filter fun id => readList predecessors id = []
        leafIds := spec.unitIds.filter fun id => readList adjacency.successors id = []
        predecessorsByTarget := predecessors } where
  spec := rfl
  roots := by
    refine List.filter_congr fun id _ => decide_eq_decide.2 ?_
    rw [readList_foldl_touch, h.predecessors, List.eq_nil_iff_forall_not_mem]
    simp only [mem_sources, TopologySpec.arrow_arrows_iff]
    constructor
    · intro hnone edge hedge htarget
      exact hnone edge.source ⟨edge, hedge, rfl, htarget⟩
    · rintro hnone source ⟨edge, hedge, -, htarget⟩
      exact hnone edge hedge htarget
  leaves := by
    refine List.filter_congr fun id _ => decide_eq_decide.2 ?_
    rw [h.successors, List.eq_nil_iff_forall_not_mem]
    simp only [mem_targets, TopologySpec.arrow_arrows_iff]
    constructor
    · intro hnone edge hedge hsource
      exact hnone edge.target ⟨edge, hedge, hsource, rfl⟩
    · rintro hnone target ⟨edge, hedge, hsource, -⟩
      exact hnone edge hedge hsource
  predecessors id := by
    rw [get?_foldl_touch, h.predecessors]
    by_cases hid : id ∈ spec.unitIds
    · simp [hid]
    · rw [if_neg hid, if_neg hid]
      by_contra hget
      exact hid (TopologySpec.mem_unitIds_of_sources hknown (h.keys id hget))

/-- The units are registered in the order of the topology. -/
theorem keys_of_registerUnits {registeredUnits : Finset String} {units : List UnitSpec}
    {byId : Dict String UnitSpec}
    (h : registerUnits repr registeredUnits units .empty = .ok byId) :
    byId.keys = units.map UnitSpec.id ∧ (units.map UnitSpec.id).Nodup ∧
      ∀ unit ∈ units, unit.uses ∈ registeredUnits := by
  obtain ⟨huses, hunique, rfl⟩ := registerUnits_eq_ok_iff.1 h
  exact ⟨keys_foldl_set hunique, hunique, huses⟩

/-- **What an accepted topology has passed, and what is returned for it.** -/
theorem checked_of_validateTopology {spec : TopologySpec} {profileId provider : String}
    {registeredUnits : Finset String} {validated : ValidatedTopology}
    (h : validateTopology repr spec profileId provider registeredUnits = .ok validated) :
    spec.Checked profileId provider registeredUnits ∧
      (finalWorklist spec).ordered.length = spec.unitIds.length ∧ validated.Of spec := by
  unfold validateTopology at h
  split at h
  · cases h
  · rename_i hprofile
    split at h
    · cases h
    · rename_i hprovider
      obtain ⟨byId, hregister, h⟩ := bind_eq_ok_iff.1 h
      obtain ⟨adjacency, hconnect, h⟩ := bind_eq_ok_iff.1 h
      obtain ⟨⟨⟩, hbindings, h⟩ := bind_eq_ok_iff.1 h
      obtain ⟨hkeys, hunique, huses⟩ := keys_of_registerUnits hregister
      obtain ⟨hknown, hrepeated⟩ :=
        (exists_connectUnits_iff Adjacency.of_nil List.nodup_nil).1 ⟨_, hconnect⟩
      have hof : adjacency.Of spec.arrows := of_connectUnits Adjacency.of_nil hconnect
      have hreferences := checkBindings_eq_ok_iff.1 hbindings
      change byId.keys = spec.unitIds at hkeys
      simp only [hkeys, drain_initialWorklist hof] at h hknown hreferences
      split at h
      · cases h
      · rename_i hlength
        cases h
        refine ⟨⟨not_not.1 hprofile, not_not.1 hprovider, hunique, huses, hknown, hrepeated, ?_⟩,
          not_not.1 hlength, ValidatedTopology.of_adjacency hof hknown⟩
        rintro unit ref ⟨hunit, href⟩
        exact hreferences unit hunit ref href

/-- **What passes the checks is accepted, if the loop handles all units.** -/
theorem exists_validateTopology {spec : TopologySpec} {profileId provider : String}
    {registeredUnits : Finset String} (h : spec.Checked profileId provider registeredUnits)
    (hlength : (finalWorklist spec).ordered.length = spec.unitIds.length) :
    ∃ validated, validateTopology repr spec profileId provider registeredUnits =
      .ok validated := by
  obtain ⟨byId, hregister⟩ :
      ∃ byId, registerUnits repr registeredUnits spec.units .empty = .ok byId :=
    ⟨_, registerUnits_eq_ok_iff.2 ⟨h.uses, h.unique, rfl⟩⟩
  obtain ⟨hkeys, -, -⟩ := keys_of_registerUnits hregister
  change byId.keys = spec.unitIds at hkeys
  obtain ⟨adjacency, hconnect⟩ :
      ∃ adjacency, connectUnits byId spec.edges ⟨.empty, .empty⟩ = .ok adjacency := by
    refine (exists_connectUnits_iff Adjacency.of_nil List.nodup_nil).2 ⟨?_, h.notRepeated⟩
    simpa only [hkeys] using h.known
  have hof : adjacency.Of spec.arrows := of_connectUnits Adjacency.of_nil hconnect
  have hbindings : checkBindings repr byId spec.units = .ok () := by
    refine checkBindings_eq_ok_iff.2 fun unit hunit ref href => ?_
    simpa only [hkeys] using h.references unit ref ⟨hunit, href⟩
  unfold validateTopology
  rw [if_neg (not_not_intro h.profile), if_neg (not_not_intro h.provider), hregister]
  simp only [bind, Except.bind, hconnect, hbindings, hkeys, drain_initialWorklist hof]
  rw [if_neg (not_not_intro hlength)]
  exact ⟨_, rfl⟩

/-! ### Exactness -/

namespace TopologySpec

variable {spec : TopologySpec} {profileId provider : String} {registeredUnits : Finset String}

theorem Checked.arrow_known (h : spec.Checked profileId provider registeredUnits) :
    ∀ a b, Arrow spec.arrows a b → a ∈ spec.unitIds ∧ b ∈ spec.unitIds := by
  intro a b hab
  obtain ⟨edge, hedge, rfl, rfl⟩ := arrow_arrows_iff.1 hab
  exact ⟨(h.known edge hedge).1, (h.known edge hedge).2.1⟩

theorem sound_finalWorklist (h : spec.Checked profileId provider registeredUnits) :
    Worklist.Sound spec.unitIds spec.arrows (finalWorklist spec) ∧
      (finalWorklist spec).queue = [] := by
  have hstart : Worklist.Sound spec.unitIds spec.arrows _ := Worklist.sound_start h.unique
  have htargets : ∀ a b, Arrow spec.arrows a b → b ∈ spec.unitIds :=
    fun a b hab => (h.arrow_known a b hab).2
  exact ⟨hstart.drain h.notRepeated htargets _, hstart.queue_drain h.notRepeated htargets (by simp)⟩

/-- The loop handles all units exactly if the edges have no cycle. -/
theorem Checked.length_ordered_iff (h : spec.Checked profileId provider registeredUnits) :
    (finalWorklist spec).ordered.length = spec.unitIds.length ↔
      ∀ id, ¬ Relation.TransGen spec.Edge id id := by
  obtain ⟨hsound, hqueue⟩ := sound_finalWorklist h
  rw [hsound.length_ordered_iff h.unique h.arrow_known hqueue, ← reaches_arrows]
  rfl

/-- The units of an accepted topology have a schedule. -/
theorem exists_schedule {validated : ValidatedTopology}
    (h : validateTopology repr spec profileId provider registeredUnits = .ok validated) :
    ∃ order, Schedule spec.unitIds spec.arrows order := by
  obtain ⟨hchecked, hlength, -⟩ := checked_of_validateTopology h
  exact ⟨_, (sound_finalWorklist hchecked).1.schedule hlength⟩

end TopologySpec

/-- **The validator accepts exactly the well-formed topologies.** -/
theorem exists_validateTopology_iff {spec : TopologySpec} {profileId provider : String}
    {registeredUnits : Finset String} :
    (∃ validated, validateTopology repr spec profileId provider registeredUnits =
      .ok validated) ↔ spec.WellFormed profileId provider registeredUnits := by
  constructor
  · rintro ⟨validated, h⟩
    obtain ⟨hchecked, hlength, -⟩ := checked_of_validateTopology h
    exact ⟨hchecked, hchecked.length_ordered_iff.1 hlength⟩
  · rintro ⟨hchecked, hacyclic⟩
    exact exists_validateTopology hchecked (hchecked.length_ordered_iff.2 hacyclic)

/-- **Topology validation is exact.** -/
theorem validateTopology_exact (repr : String → String) (spec : TopologySpec)
    (profileId provider : String) (registeredUnits : Finset String) :
    ((∃ validated, validateTopology repr spec profileId provider registeredUnits =
        .ok validated) ↔ spec.WellFormed profileId provider registeredUnits) ∧
      ∀ validated, validateTopology repr spec profileId provider registeredUnits =
          .ok validated →
        validated.Of spec ∧ validated.rootIds ≠ [] ∧ validated.leafIds ≠ [] := by
  refine ⟨exists_validateTopology_iff, fun validated h => ?_⟩
  obtain ⟨hchecked, -, hof⟩ := checked_of_validateTopology h
  obtain ⟨order, horder⟩ := TopologySpec.exists_schedule h
  have hne : spec.unitIds ≠ [] := by simpa [TopologySpec.unitIds] using spec.units_ne
  refine ⟨hof, ?_, ?_⟩
  · obtain ⟨root, hroot, hnone⟩ := horder.exists_root hne
    rw [hof.roots]
    refine List.ne_nil_of_mem (List.mem_filter.2 ⟨hroot, decide_eq_true ?_⟩)
    rintro edge hedge rfl
    exact hnone edge.source (TopologySpec.arrow_arrows_iff.2 ⟨edge, hedge, rfl, rfl⟩)
  · obtain ⟨leaf, hleaf, hnone⟩ := horder.exists_leaf hchecked.unique
      (fun a b hab => (hchecked.arrow_known a b hab).2) hne
    rw [hof.leaves]
    refine List.ne_nil_of_mem (List.mem_filter.2 ⟨hleaf, decide_eq_true ?_⟩)
    rintro edge hedge rfl
    exact hnone edge.target (TopologySpec.arrow_arrows_iff.2 ⟨edge, hedge, rfl, rfl⟩)

/-! ### The data flow -/

namespace TopologySpec

/-- Every unit whose output is an input has a path of edges to the unit that reads it. -/
def PathsToReaders (spec : TopologySpec) : Prop :=
  ∀ unit ref, spec.References unit ref → Relation.TransGen spec.Edge ref.unitId unit.id

/-- In whatever order compatible with the edges the units run, an output is read after it has been
produced. -/
def NeverReadsEarly (spec : TopologySpec) : Prop :=
  ∀ order, Schedule spec.unitIds spec.arrows order → ∀ unit ref, spec.References unit ref →
    ∀ done rest, order = done ++ unit.id :: rest → ref.unitId ∈ done

/-- Every reference has an edge of its own, from the unit whose output is read to the one that reads
it.  The validator does not look for it. -/
def ReferencesHaveEdges (spec : TopologySpec) : Prop :=
  ∀ unit ref, spec.References unit ref →
    ∃ edge ∈ spec.edges, edge.source = ref.unitId ∧ edge.target = unit.id

/-- Some unit without an edge to it reads an output, or an output is read of a unit without an edge
from it. -/
def ReadsApart (spec : TopologySpec) : Prop :=
  ∃ unit ref, spec.References unit ref ∧
    ((∀ edge ∈ spec.edges, edge.target ≠ unit.id) ∨ ∀ edge ∈ spec.edges, edge.source ≠ ref.unitId)

/-- The unit whose output is read is found by following edges backwards from the unit that reads
it. -/
def referencesUpstream (spec : TopologySpec) : Bool :=
  spec.units.all fun unit => unit.inputs.values.all fun
    | .unitOutput ref => decide (ref.unitId ∈ ancestors spec.arrows spec.unitIds.length unit.id)
    | _ => true

theorem referencesUpstream_iff {spec : TopologySpec} :
    spec.referencesUpstream = true ↔ ∀ unit ref, spec.References unit ref →
      ref.unitId ∈ ancestors spec.arrows spec.unitIds.length unit.id := by
  simp only [referencesUpstream, List.all_eq_true]
  constructor
  · rintro h unit ref ⟨hunit, href⟩
    exact of_decide_eq_true (h unit hunit _ href)
  · intro h unit hunit value hvalue
    cases value with
    | literal value => rfl
    | request field nonempty => rfl
    | workspace field nonempty => rfl
    | unitOutput ref => exact decide_eq_true (h unit ref ⟨hunit, hvalue⟩)

end TopologySpec

/-- **An accepted topology has a realisable data flow exactly if its references point upstream.** -/
theorem realisableDataFlow_iff {repr : String → String} {spec : TopologySpec}
    {profileId provider : String} {registeredUnits : Finset String}
    {validated : ValidatedTopology}
    (h : validateTopology repr spec profileId provider registeredUnits = .ok validated) :
    (spec.PathsToReaders ↔ spec.referencesUpstream = true) ∧
      (spec.NeverReadsEarly ↔ spec.referencesUpstream = true) := by
  obtain ⟨hchecked, -, -⟩ := checked_of_validateTopology h
  obtain ⟨order, horder⟩ := TopologySpec.exists_schedule h
  have hunit : ∀ {unit ref}, spec.References unit ref → unit.id ∈ spec.unitIds :=
    fun href => List.mem_map_of_mem href.1
  have hpaths : spec.PathsToReaders ↔ spec.referencesUpstream = true := by
    rw [TopologySpec.referencesUpstream_iff]
    refine forall₃_congr fun unit ref href => ?_
    rw [horder.mem_ancestors_iff (hunit href), TopologySpec.reaches_arrows]
  refine ⟨hpaths, ?_⟩
  rw [← hpaths]
  constructor
  · intro hsafe unit ref href
    by_contra hpath
    rw [← TopologySpec.reaches_arrows] at hpath
    have hne := (hchecked.references unit ref href).2
    obtain ⟨order', horder', done, rest, heq, hnot⟩ :=
      horder.exists_before (hunit href) hne hpath
    exact hnot (hsafe order' horder' unit ref href done rest heq)
  · intro hreach order' horder' unit ref href done rest heq
    have hpath := hreach unit ref href
    rw [← TopologySpec.reaches_arrows] at hpath
    exact horder'.mem_of_reaches hpath heq

/-- **Where every reference has an edge of its own the data flow is realisable; where a unit without
an edge to it reads, or an output is read of a unit without an edge from it, it is not.** -/
theorem realisableDataFlow_of_edges {repr : String → String} {spec : TopologySpec}
    {profileId provider : String} {registeredUnits : Finset String} {validated : ValidatedTopology}
    (h : validateTopology repr spec profileId provider registeredUnits = .ok validated) :
    (spec.ReferencesHaveEdges → spec.PathsToReaders ∧ spec.NeverReadsEarly) ∧
      (spec.ReadsApart → ¬ spec.PathsToReaders ∧ ¬ spec.NeverReadsEarly) := by
  obtain ⟨hpaths, hsafe⟩ := realisableDataFlow_iff h
  have hsame : spec.NeverReadsEarly ↔ spec.PathsToReaders := hsafe.trans hpaths.symm
  constructor
  · intro hedges
    have hreach : spec.PathsToReaders := fun unit ref href => .single (hedges unit ref href)
    exact ⟨hreach, hsame.2 hreach⟩
  · rintro ⟨unit, ref, href, hapart⟩
    have hnone : ¬ spec.PathsToReaders := by
      intro hreach
      rcases hapart with hroot | hleaf
      · obtain ⟨source, -, edge, hedge, -, htarget⟩ :=
          Relation.TransGen.tail'_iff.1 (hreach unit ref href)
        exact hroot edge hedge htarget
      · obtain ⟨target, ⟨edge, hedge, hsource, -⟩, -⟩ :=
          Relation.TransGen.head'_iff.1 (hreach unit ref href)
        exact hleaf edge hedge hsource
    exact ⟨hnone, fun hearly => hnone (hsame.1 hearly)⟩

theorem exists_of_isOk {ε α : Type} {x : Except ε α} (h : x.isOk = true) : ∃ a, x = .ok a := by
  cases x with
  | error e => cases h
  | ok a => exact ⟨a, rfl⟩

/-- The units that the topologies below use. -/
def staticWebUnits : Finset String :=
  {"aws.s3.private_bucket", "aws.cloudfront.s3_distribution", "aws.s3.cloudfront_oac_policy"}

/-- The output of the bucket, as an input. -/
def bucketId : InputValue :=
  .unitOutput ⟨"assets", "bucket_id", by decide, by decide⟩

/-- The bucket of a static web site. -/
def assets : UnitSpec where
  id := "assets"
  uses := "aws.s3.private_bucket"
  inputs := .ofPairs [("bucket_name", .workspace "asset_bucket_name" (by decide))]
  id_ne := by decide
  uses_ne := by decide

/-- The distribution, which reads the bucket's identifier. -/
def cdn : UnitSpec where
  id := "cdn"
  uses := "aws.cloudfront.s3_distribution"
  inputs := .ofPairs [("bucket_id", bucketId)]
  id_ne := by decide
  uses_ne := by decide

/-- The policy, which reads outputs of both. -/
def originPolicy : UnitSpec where
  id := "origin_policy"
  uses := "aws.s3.cloudfront_oac_policy"
  inputs := .ofPairs [("bucket_id", bucketId), ("distribution_arn",
    .unitOutput ⟨"cdn", "distribution_arn", by decide, by decide⟩)]
  id_ne := by decide
  uses_ne := by decide

/-- The reviewed topology of the profile `aws-static-web`. -/
def staticWebTopology : TopologySpec where
  name := "aws-static-web"
  profile := "aws-static-web"
  provider := .aws
  units := [assets, cdn, originPolicy]
  edges := [⟨"assets", "cdn", by decide, by decide⟩,
    ⟨"assets", "origin_policy", by decide, by decide⟩,
    ⟨"cdn", "origin_policy", by decide, by decide⟩]
  name_ne := by decide
  profile_ne := by decide
  units_ne := by decide

theorem referencesHaveEdges_staticWeb : staticWebTopology.ReferencesHaveEdges := by
  rintro unit ref ⟨hunit, href⟩
  simp only [staticWebTopology, List.mem_cons, List.not_mem_nil, or_false] at hunit
  rcases hunit with rfl | rfl | rfl
  · have hnone : ∀ value ∈ assets.inputs.values, ∀ ref, value ≠ .unitOutput ref := by
      intro value hvalue
      rw [List.mem_singleton.1 hvalue]
      exact fun _ => by simp
    exact absurd rfl (hnone _ href ref)
  · have hsame : InputValue.unitOutput ref = bucketId := List.mem_singleton.1 href
    cases hsame
    exact ⟨_, List.mem_cons_self, rfl, rfl⟩
  · rcases List.mem_cons.1 href with hsame | hmem
    · cases hsame
      exact ⟨_, List.mem_cons_of_mem _ List.mem_cons_self, rfl, rfl⟩
    · cases List.mem_singleton.1 hmem
      exact ⟨_, List.mem_cons_of_mem _ (List.mem_cons_of_mem _ List.mem_cons_self), rfl, rfl⟩

/-- The reviewed topology is accepted, and its references have their edges. -/
theorem realisableDataFlow_staticWeb :
    staticWebTopology.PathsToReaders ∧ staticWebTopology.NeverReadsEarly := by
  obtain ⟨validated, h⟩ : ∃ validated, validateTopology (fun id => "'" ++ id ++ "'")
      staticWebTopology "aws-static-web" "aws" staticWebUnits = .ok validated :=
    exists_of_isOk (by decide)
  exact (realisableDataFlow_of_edges h).1 referencesHaveEdges_staticWeb

/-- The topology without its edges, in another order of the units. -/
def strayTopology : TopologySpec :=
  { staticWebTopology with units := [cdn, assets], edges := [], units_ne := by decide }

/-- The stray topology is accepted, but nothing makes the bucket come before its reader. -/
theorem strayTopology_accepted :
    (∃ validated, validateTopology (fun id => "'" ++ id ++ "'") strayTopology
      "aws-static-web" "aws" staticWebUnits = .ok validated) ∧
    ¬ strayTopology.PathsToReaders ∧ ¬ strayTopology.NeverReadsEarly := by
  have href : strayTopology.References cdn ⟨"assets", "bucket_id", by decide, by decide⟩ :=
    ⟨List.mem_cons_self, List.mem_cons_self⟩
  refine ⟨exists_of_isOk (by decide), fun hpaths => ?_, fun hsafe => ?_⟩
  · have hpath := hpaths cdn _ href
    rw [← TopologySpec.reaches_arrows] at hpath
    obtain ⟨source, hsource⟩ := exists_arrow_of_reaches hpath
    exact nomatch hsource
  · have hdone := hsafe ["cdn", "assets"] ⟨.refl _, fun _ _ _ _ a ha => nomatch ha⟩ cdn _ href []
      ["assets"] rfl
    cases hdone

end

end PlatformOps
