import SelectionGen.Proofs.TypeGraph
import SelectionGen.Proofs.DefinitionOrder
import SelectionGen.Proofs.Reachability

/-! Types that filters reject. Filters look at names alone, so a rejected name loses its definition and all its
extensions, and the others keep theirs in their order. References to it stay, but no lookup finds anything
under it any more: nothing is generated for it, no field leads to it, and what only such fields led to is
not reached. Everything that is left is as it would be without filters. -/
namespace SelectionGen.Schema

open Sdl

namespace TypeFilter

variable {filters : List TypeFilter} {document : Document} {name : Name}

/-- No type of a rejected name is left. -/
theorem kept_of_mem {definition : TypeDefinition} (member : .type definition ∈ applyAll filters document) :
    keepAll filters definition.name = true := by
  rw [applyAll_eq_filter] at member
  exact (List.mem_filter.mp member).2

theorem types_applyAll (filters : List TypeFilter) (document : Document) :
    types (applyAll filters document)
      = (types document).filter fun definition => keepAll filters definition.name := by
  rw [applyAll_eq_filter, types, types, List.filterMap_filter, List.filter_filterMap]
  apply List.filterMap_congr
  intro entry _
  cases entry with
  | type definition => rw [leave, Definition.type?, Option.all_some, Option.filter_some]
  | schema | directive | operation | fragment => rfl

/-- A want for types of a kept name is met as before. -/
theorem find_types_applyAll {wanted : TypeDefinition → Bool} (kept : keepAll filters name = true)
    (named : ∀ definition, wanted definition = true → definition.name = name) :
    (types document).find? wanted = (types (applyAll filters document)).find? wanted := by
  rw [types_applyAll, List.find?_filter]
  congr 1
  funext definition
  cases wants : wanted definition with
  | false => simp
  | true => simp [named definition wants, kept]

theorem rootName_applyAll (filters : List TypeFilter) (document : Document) (operation : Operation) :
    rootName document operation = rootName (applyAll filters document) operation := by
  have nothing : ∀ entry, leave filters entry = false → entry.roots = [] := by
    intro entry dropped
    cases entry with
    | type => rfl
    | schema | directive | operation | fragment => cases dropped
  rw [applyAll_eq_filter, rootName, rootName, flatMap_filter_of_support nothing]

/-- A kept name has the extensions that it had. -/
theorem extendedFields_applyAll (kept : keepAll filters name = true) (document : Document) :
    extendedFields document name = extendedFields (applyAll filters document) name := by
  have nothing : ∀ entry, leave filters entry = false → extensionFields name entry = [] := by
    intro entry dropped
    cases entry with
    | type definition =>
      apply extensionFields_eq_nil
      intro fits
      have alsoKept : keepAll filters definition.name = true := fits.2.1 ▸ kept
      exact Bool.false_ne_true (dropped.symm.trans alsoKept)
    | schema | directive | operation | fragment => rfl
  rw [applyAll_eq_filter, extendedFields, extendedFields, flatMap_filter_of_support nothing]

/-- A root is left if its name is kept, with the fields that it had. -/
theorem root_applyAll (filters : List TypeFilter) (document : Document) (operation : Operation) :
    Option.Rel (fun root again => root.2 = again.2 ∧
        mergedFields document root.1 root.2 = mergedFields (applyAll filters document) again.1 again.2)
      ((findRoot? document operation).filter fun root => keepAll filters root.2.name)
      (findRoot? (applyAll filters document) operation) := by
  have named : ∀ {document root}, findRoot? document operation = some root →
      root.2.name = rootName document operation := by
    intro document root found
    obtain ⟨_, isFirst⟩ := isFirst_of_findRoot found
    exact isFirst.fits.2.1
  -- Schema entries name the root and are never taken away, so the root is known before and after by one name.
  cases kept : keepAll filters (rootName document operation) with
  | true =>
    have same : ((findRoot? document operation).filter fun root => keepAll filters root.2.name)
        = findRoot? document operation := by
      cases found : findRoot? document operation with
      | none => rfl
      | some root => rw [Option.filter_some, named found, kept]; rfl
    rw [same]
    apply findRoot_merged (rootName_applyAll filters document operation)
    · intro isExtension
      apply foundAlike_of_types
      apply find_types_applyAll kept
      intro definition wants
      exact (of_decide_eq_true (p := ObjectNamed _ isExtension definition) wants).2.1
    · intro own
      rw [extendedFields_applyAll kept]
  | false =>
    have before : ((findRoot? document operation).filter fun root => keepAll filters root.2.name) = none := by
      apply Option.filter_eq_none_iff.mpr
      intro root found
      rw [named found, kept]
      exact Bool.false_ne_true
    have behind : findRoot? (applyAll filters document) operation = none := by
      apply Option.eq_none_iff_forall_ne_some.mpr
      intro root found
      obtain ⟨_, isFirst⟩ := isFirst_of_findRoot found
      have alsoKept := kept_of_mem isFirst.member
      rw [isFirst.fits.2.1, ← rootName_applyAll, kept] at alsoKept
      cases alsoKept
    rw [before, behind]
    exact .none

end TypeFilter

end SelectionGen.Schema

namespace SelectionGen.Projection

open Sdl Schema TypeFilter

/-- A field as filters leave it: one of a rejected type leads nowhere. -/
def ResolvedField.filtered (filters : List TypeFilter) (resolved : ResolvedField) : ResolvedField :=
  if keepAll filters resolved.field.type.named then resolved else { resolved with resolution := none }

namespace Context

variable {context : Context} {filters : List TypeFilter} {target other next : Target} {starts : List Target}
  {isRoot : Bool} {position place : Nat} {definition : TypeDefinition}

/-- The same run on what filters leave. -/
def filtered (context : Context) (filters : List TypeFilter) : Context :=
  { context with document := applyAll filters context.document }

/-- A type in the document and where filters have left it. -/
abbrev LeftAt (context : Context) (filters : List TypeFilter) : Target → Target → Prop :=
  Relocated context.document (context.filtered filters).document

/-- What types lead to by way of types that all filters keep. -/
inductive ReachedKept (context : Context) (filters : List TypeFilter) (starts : List Target) : Target → Prop
  | start {target : Target} (member : target ∈ starts) (kept : keepAll filters target.name = true) :
      ReachedKept context filters starts target
  | step {target next : Target} (reached : ReachedKept context filters starts target)
      (leads : context.Leads target next) (kept : keepAll filters next.name = true) :
      ReachedKept context filters starts next

theorem kept_of_leftAt (left : context.LeftAt filters target other) : keepAll filters target.name = true := by
  have kept := kept_of_mem (List.mem_of_getElem? (typeAt_eq_some_iff.mp left.storedAgain))
  rwa [← left.same] at kept

/-- A type that is left keeps its fields. -/
theorem mergedFields_of_leftAt (left : context.LeftAt filters target other) :
    mergedFields context.document target.1 target.2
      = mergedFields (context.filtered filters).document other.1 other.2 := by
  have kept : keepAll filters target.2.name = true := kept_of_leftAt left
  have definesAgain : other.2.isExtension = false := left.same ▸ left.defines
  rw [mergedFields, mergedFields, candidateFields_of_definition left.stored left.defines,
    candidateFields_of_definition left.storedAgain definesAgain, ← left.same, extendedFields_applyAll kept]
  rfl

/-- A field of a kept type leads where it did, any other nowhere. -/
theorem field_filtered (isRoot : Bool) (field : Field) :
    FieldsMatch (context.LeftAt filters) ((context.resolvedField isRoot field).filtered filters)
      ((context.filtered filters).resolvedField isRoot field) := by
  cases kept : keepAll filters field.type.named with
  | true =>
    have same : (context.resolvedField isRoot field).filtered filters = context.resolvedField isRoot field :=
      if_pos kept
    rw [same]
    refine ⟨rfl, rfl, targets_of_lookup ?_⟩
    rw [findType_types, findType_types]
    apply find_types_applyAll kept
    intro found wants
    exact (of_decide_eq_true wants).1
  | false =>
    have nowhere : (context.resolvedField isRoot field).filtered filters = ⟨field, none⟩ :=
      if_neg (ne_true_of_eq_false kept)
    have nothing : ((context.filtered filters).resolvedField isRoot field).target? = none := by
      apply Option.eq_none_iff_forall_ne_some.mpr
      intro target leads
      obtain ⟨_, isFirst, _⟩ := target_eq_some_iff.mp leads
      have alsoKept := kept_of_mem isFirst.member
      rw [isFirst.fits.1, kept] at alsoKept
      cases alsoKept
    rw [nowhere]
    refine ⟨rfl, rfl, ?_⟩
    rw [nothing]
    exact .none

/-- Where a type keeps its fields, these match what filters leave of them. -/
theorem fields_filtered (isRoot : Bool)
    (merged : mergedFields context.document position definition
      = mergedFields (context.filtered filters).document place definition) :
    List.Forall₂ (FieldsMatch (context.LeftAt filters))
      ((context.resolvedFields isRoot position definition).map (ResolvedField.filtered filters))
      ((context.filtered filters).resolvedFields isRoot place definition) := by
  have surviving : survivingFields (context.filtered filters).settings (context.filtered filters).document place
      definition = survivingFields context.settings context.document position definition :=
    congrArg (filteredFields context.settings definition.name.text) merged.symm
  rw [resolvedFields, resolvedFields, surviving, List.map_map, List.forall₂_map_left_iff,
    List.forall₂_map_right_iff, List.forall₂_same]
  intro field _
  exact field_filtered isRoot field

/-- What filtered fields lead to is what of it is kept. -/
theorem mem_targets_filtered :
    target ∈ ((context.resolvedFields isRoot position definition).map
        (ResolvedField.filtered filters)).filterMap ResolvedField.target?
      ↔ target ∈ (context.resolvedFields isRoot position definition).filterMap ResolvedField.target? ∧
        keepAll filters target.name = true := by
  have named : ∀ resolved ∈ context.resolvedFields isRoot position definition,
      resolved.target? = some target → target.name = resolved.field.type.named := by
    intro resolved member leads
    obtain ⟨field, _, rfl⟩ := List.mem_map.mp member
    obtain ⟨_, isFirst, _⟩ := target_eq_some_iff.mp leads
    exact isFirst.fits.1
  rw [List.filterMap_map, List.mem_filterMap, List.mem_filterMap]
  constructor
  · rintro ⟨resolved, member, leads⟩
    rw [Function.comp_apply, ResolvedField.filtered] at leads
    split at leads
    · next kept =>
      rw [← named resolved member leads] at kept
      exact ⟨⟨resolved, member, leads⟩, kept⟩
    · cases leads
  · rintro ⟨⟨resolved, member, leads⟩, kept⟩
    rw [named resolved member leads] at kept
    refine ⟨resolved, member, ?_⟩
    rw [Function.comp_apply, ResolvedField.filtered, if_pos kept]
    exact leads

/-- The kept ones of the types that fields lead to are what they lead to when filtered. -/
theorem targets_filtered {fields : List ResolvedField}
    (matching : List.Forall₂ (FieldsMatch (context.LeftAt filters))
      ((context.resolvedFields isRoot position definition).map (ResolvedField.filtered filters)) fields) :
    (∀ target ∈ (context.resolvedFields isRoot position definition).filterMap ResolvedField.target?,
      keepAll filters target.2.name = true →
        ∃ other ∈ fields.filterMap ResolvedField.target?, context.LeftAt filters target other) ∧
    (∀ other ∈ fields.filterMap ResolvedField.target?,
      ∃ target ∈ (context.resolvedFields isRoot position definition).filterMap ResolvedField.target?,
        context.LeftAt filters target other) := by
  have pairs := targets_paired matching
  constructor
  · intro target member kept
    exact exists_left_of_mem pairs.flip (mem_targets_filtered.mpr ⟨member, kept⟩)
  · intro other member
    obtain ⟨target, inTargets, left⟩ := exists_left_of_mem pairs member
    exact ⟨target, (mem_targets_filtered.mp inTargets).1, left⟩

/-- The fields of a type that is left match what filters leave of them. -/
theorem fields_of_leftAt (left : context.LeftAt filters target other) :
    List.Forall₂ (FieldsMatch (context.LeftAt filters))
      ((context.resolvedFields false target.1 target.2).map (ResolvedField.filtered filters))
      ((context.filtered filters).resolvedFields false other.1 other.2) := by
  have merged := mergedFields_of_leftAt left
  rw [← left.same] at merged ⊢
  exact fields_filtered false merged

section Reached

variable (merged : mergedFields context.document position definition
  = mergedFields (context.filtered filters).document place definition)

include merged

/-- What a root leads to by way of kept types it still leads to when filters were applied. -/
theorem reached_of_reachedKept
    (reached : context.ReachedKept filters (context.rootTargets position definition) target) :
    ∃ other, context.LeftAt filters target other ∧
      (context.filtered filters).Reached ((context.filtered filters).rootTargets place definition) other := by
  induction reached with
  | start member kept =>
    obtain ⟨other, leads, left⟩ := (targets_filtered (fields_filtered true merged)).1 _ member kept
    exact ⟨other, left, .start leads⟩
  | step _ leads kept ih =>
    -- The type is carried along with the place where it is left, since its fields are looked up from there.
    obtain ⟨other, left, reached⟩ := ih
    obtain ⟨below, leadsBelow, leftBelow⟩ := (targets_filtered (fields_of_leftAt left)).1 _ leads kept
    exact ⟨below, leftBelow, .step reached leadsBelow⟩

/-- When filters were applied, a root leads to nothing but what it led to by way of kept types. -/
theorem reachedKept_of_reached
    (reached : (context.filtered filters).Reached ((context.filtered filters).rootTargets place definition) other) :
    ∃ target, context.LeftAt filters target other ∧
      context.ReachedKept filters (context.rootTargets position definition) target := by
  induction reached with
  | start member =>
    obtain ⟨target, leads, left⟩ := (targets_filtered (fields_filtered true merged)).2 _ member
    exact ⟨target, left, .start leads (kept_of_leftAt left)⟩
  | step _ leads ih =>
    obtain ⟨target, left, reached⟩ := ih
    obtain ⟨below, leadsBelow, leftBelow⟩ := (targets_filtered (fields_of_leftAt left)).2 _ leads
    exact ⟨below, leftBelow, .step reached leadsBelow (kept_of_leftAt leftBelow)⟩

end Reached

/-- What the accessor of a field has to do where filters apply: below a rejected type nothing is selected. -/
def keptMeaning (context : Context) (filters : List TypeFilter) (resolved : ResolvedField) :
    String × Selector × Option String :=
  if keepAll filters resolved.field.type.named then context.fieldMeaning resolved
  else (resolved.field.name.text, .leaf, resolved.field.description)

theorem keptMeaning_eq (resolved : ResolvedField) :
    context.keptMeaning filters resolved = context.fieldMeaning (resolved.filtered filters) := by
  rw [keptMeaning, ResolvedField.filtered]
  split <;> rfl

/-- Fields that match mean the same, and the same in an entry point. -/
theorem meanings_filtered {fields others : List ResolvedField}
    (matching : List.Forall₂ (FieldsMatch (context.LeftAt filters)) fields others) :
    others.map (context.filtered filters).fieldMeaning = fields.map context.fieldMeaning ∧
    others.filterMap (context.filtered filters).entryMeaning? = fields.filterMap context.entryMeaning? := by
  have named : ∀ target other, context.LeftAt filters target other → target.name = other.name :=
    fun _ _ left => left.name_eq
  induction matching with
  | nil => exact ⟨rfl, rfl⟩
  | @cons field other _ _ alike _ ih =>
    have meaning : (context.filtered filters).fieldMeaning other = context.fieldMeaning field := by
      have selects : context.selector field = (context.filtered filters).selector other :=
        selector_of_match rfl named alike
      rw [fieldMeaning, fieldMeaning, alike.name, alike.description, selects]
    have entry : (context.filtered filters).entryMeaning? other = context.entryMeaning? field := by
      have related := alike.target
      rw [entryMeaning?, entryMeaning?, alike.name, alike.description]
      generalize field.target? = target at related
      generalize other.target? = again at related
      cases related with
      | none => rfl
      | some left => rw [Option.map_some, Option.map_some, named _ _ left]; rfl
    rw [List.map_cons, List.map_cons, List.filterMap_cons, List.filterMap_cons, meaning, entry, ih.1, ih.2]
    exact ⟨rfl, rfl⟩

/-- The class of a type that is left has an accessor for each of its fields. -/
theorem projection_filtered (left : context.LeftAt filters target other) :
    ((context.filtered filters).projection other).accessors.map Accessor.meaning
      = (context.resolvedFields false target.1 target.2).map (context.keptMeaning filters) := by
  have meanings := (meanings_filtered (fields_of_leftAt left)).1
  rw [List.map_map] at meanings
  rw [projection, projectionOf_meaning, meanings]
  apply List.map_congr_left
  intro resolved _
  exact (keptMeaning_eq resolved).symm

/-- The entry point of a root that is left has an accessor for each of its fields that leads to a kept type. -/
theorem rootProjectionOf_filtered
    (merged : mergedFields context.document position definition
      = mergedFields (context.filtered filters).document place definition) :
    ((context.filtered filters).rootProjectionOf place definition).accessors.map Accessor.meaning
      = ((context.resolvedFields true position definition).filter fun resolved =>
          keepAll filters resolved.field.type.named).filterMap context.entryMeaning? := by
  have meanings := (meanings_filtered (fields_filtered true merged)).2
  rw [List.filterMap_map] at meanings
  rw [rootProjectionOf_meaning, meanings, List.filterMap_filter]
  apply List.filterMap_congr
  intro resolved _
  rw [Function.comp_apply, ResolvedField.filtered]
  split
  · rfl
  · rfl

/-- What filters allow in a result: rejected types have no classes, the fields of rejected types lead nowhere,
and what is left is what kept types lead to. -/
structure Filtered (context : Context) (filters : List TypeFilter) (api : Api) : Prop where
  sources : ∀ projection ∈ api.queryTypes ++ api.clientProjections, ∀ filter ∈ filters,
    filter.keeps projection.sourceType = true
  entry : ∀ entry ∈ api.queryTypes, ∃ position definition,
    findRoot? context.document .query = some (position, definition) ∧
    entry.sourceType = definition.name.text ∧
    entry.accessors.map Accessor.meaning
      = ((context.resolvedFields true position definition).filter fun resolved =>
          keepAll filters resolved.field.type.named).filterMap context.entryMeaning?
  below : ∀ projection ∈ api.clientProjections, ∃ position definition target,
    findRoot? context.document .query = some (position, definition) ∧
    context.ReachedKept filters (context.rootTargets position definition) target ∧
    projection.sourceType = target.typeName ∧
    projection.accessors.map Accessor.meaning
      = (context.resolvedFields false target.1 target.2).map (context.keptMeaning filters)
  complete : context.settings.generatesClient = true → ∀ position definition,
    findRoot? context.document .query = some (position, definition) →
    keepAll filters definition.name = true →
    api.queryTypes.map SelectionGen.Projection.sourceType = [definition.name.text] ∧
    ∀ target, context.ReachedKept filters (context.rootTargets position definition) target →
      ∃ projection ∈ api.clientProjections, projection.sourceType = target.typeName

/-- No result is allowed where no client is wanted and where the root is rejected. -/
theorem filtered_empty (nothing : context.settings.generatesClient = true → ∀ root,
      findRoot? context.document .query = some root → keepAll filters root.2.name = false) :
    context.Filtered filters {} where
  sources := fun _ member => nomatch member
  entry := fun _ member => nomatch member
  below := fun _ member => nomatch member
  complete := by
    intro wanted position definition found kept
    have rejected := nothing wanted _ found
    rw [kept] at rejected
    cases rejected

/-- A run from a root that is left gives what filters allow. -/
theorem filtered_of_generate {root again : Target} {api : Api}
    (found : findRoot? context.document .query = some root) (same : root.2 = again.2)
    (kept : keepAll filters root.2.name = true)
    (merged : mergedFields context.document root.1 root.2
      = mergedFields (context.filtered filters).document again.1 again.2)
    (done : ((context.filtered filters).generate again.1 again.2).1 = .ok api) :
    context.Filtered filters api := by
  obtain ⟨⟨entry, isOnly, rfl, _⟩, names, _, projections, _⟩ := generate_reaches_exactly done
  obtain ⟨position, definition⟩ := root
  obtain ⟨place, _⟩ := again
  obtain rfl : definition = _ := same
  have below : ∀ projection ∈ api.clientProjections, ∃ target other,
      context.LeftAt filters target other ∧
      context.ReachedKept filters (context.rootTargets position definition) target ∧
      projection = (context.filtered filters).projection other := by
    intro projection member
    obtain ⟨other, reached, rfl, _⟩ := projections projection member
    obtain ⟨target, left, reachedKept⟩ := reachedKept_of_reached merged reached
    exact ⟨target, other, left, reachedKept, rfl⟩
  constructor
  case sources =>
    intro projection member
    rw [isOnly, List.singleton_append, List.mem_cons] at member
    rcases member with rfl | member
    · exact List.all_eq_true.mp kept
    · obtain ⟨target, other, left, -, rfl⟩ := below projection member
      have keptBelow := kept_of_leftAt left
      rw [left.name_eq] at keptBelow
      exact List.all_eq_true.mp keptBelow
  case entry =>
    intro entry member
    rw [isOnly, List.mem_singleton] at member
    subst member
    exact ⟨position, definition, found, rfl, rootProjectionOf_filtered merged⟩
  case below =>
    intro projection member
    obtain ⟨target, other, left, reached, rfl⟩ := below projection member
    have named : other.typeName = target.typeName := congrArg Name.text left.name_eq.symm
    exact ⟨position, definition, target, found, reached, named, projection_filtered left⟩
  case complete =>
    intro _ _ _ alsoFound _
    rw [found] at alsoFound
    cases alsoFound
    refine ⟨by rw [isOnly]; rfl, fun target reached => ?_⟩
    obtain ⟨other, left, reachedAgain⟩ := reached_of_reachedKept merged reached
    have named : other.typeName = target.typeName := congrArg Name.text left.name_eq.symm
    exact List.mem_map.mp ((names target.typeName).mpr ⟨other, reachedAgain, named⟩)

end Context

end SelectionGen.Projection

namespace SelectionGen.Generation

open Sdl Schema Projection TypeFilter

/-- **Filters let nothing through.** Filters leave, in their order, the entries that are no types and the types
whose names each of them keeps; neither their order nor how often they are there matters. No result has a
class for a rejected type. A field of a rejected type has a leaf in a class and nothing in an entry point.
The classes below are those of the types that the root of the document leads to by way of kept types. -/
theorem run_filtered {load : Unit → Loading} {document : Document} (loaded : (load ()).outcome = .ok document)
    (settings : Settings) (filters : List TypeFilter) :
    applyAll filters document
      = document.filter (fun entry => entry.type?.all fun found => filters.all (·.keeps found.name.text)) ∧
    (∀ others, (∀ filter, filter ∈ others ↔ filter ∈ filters) →
      applyAll others document = applyAll filters document ∧
      run settings others load = run settings filters load) ∧
    ∀ api, (run settings filters load).outcome = .ok api →
      Context.Filtered ⟨settings, document⟩ filters api := by
  refine ⟨applyAll_eq_filter filters document, fun others same => ?_, fun api done => ?_⟩
  · rw [run, run, applyAll_congr same]
    exact ⟨rfl, rfl⟩
  · rw [run_of_loaded loaded] at done
    by_cases wanted : settings.generatesClient = true
    · have roots := root_applyAll filters document .query
      cases again : findRoot? (applyAll filters document) .query with
      | none =>
        rw [outcome_without_root again] at done
        cases done
        rw [again] at roots
        generalize before : (findRoot? document .query).filter _ = root at roots
        cases roots
        apply Context.filtered_empty
        intro _ root found
        rw [found] at before
        exact eq_false_of_ne_true (Option.filter_eq_none_iff.mp before root rfl)
      | some _ =>
        rw [again] at roots
        generalize before : (findRoot? document .query).filter _ = root at roots
        cases roots with
        | some alike =>
          obtain ⟨found, kept⟩ := Option.filter_eq_some_iff.mp before
          exact Context.filtered_of_generate found alike.1 kept alike.2 ((outcome_ok_iff wanted again).mp done)
    · rw [outcome_unwanted wanted] at done
      cases done
      exact Context.filtered_empty fun isWanted => absurd isWanted wanted

end SelectionGen.Generation

/-! The library without its authors. -/
namespace SelectionGen.Projection.Library

open Sdl Schema TypeFilter

def noAuthors : TypeFilter := { excludedStart := some "Author" }

/-- Nothing is left below books. -/
theorem generated_without_authors : ((context.filtered [noAuthors]).generate 0 query).1
    = .ok { queryTypes := [(context.filtered [noAuthors]).rootProjectionOf 0 query]
            clientProjections := [(context.filtered [noAuthors]).projection book] } := by
  have ofQuery : (context.filtered [noAuthors]).rootTargets 0 query = [book] := by decide
  have descent : (context.filtered [noAuthors]).Descent
      ((context.filtered [noAuthors]).rootTargets 0 query) [] [book] [book.entry] none := by
    rw [ofQuery]
    exact .alone rfl (by decide) .done
  exact Context.generate_of_descent descent

end SelectionGen.Projection.Library

namespace SelectionGen.Generation

open Schema Projection Library TypeFilter

/-- Without authors the class of books alone is left, and rejecting them twice changes nothing. -/
theorem library_filtered :
    ∃ api, (run {} [noAuthors] fun _ => ⟨.ok schema, "", []⟩).outcome = .ok api ∧
      api.clientProjections.map Projection.sourceType = ["Book"] ∧
      context.Filtered [noAuthors] api ∧
      run {} [noAuthors, noAuthors] (fun _ => ⟨.ok schema, "", []⟩)
        = run {} [noAuthors] (fun _ => ⟨.ok schema, "", []⟩) := by
  have root : findRoot? (applyAll [noAuthors] schema) .query = some (0, query) := by decide
  have done : (run {} [noAuthors] fun _ => ⟨.ok schema, "", []⟩).outcome = .ok
      { queryTypes := [(context.filtered [noAuthors]).rootProjectionOf 0 query]
        clientProjections := [(context.filtered [noAuthors]).projection book] } := by
    rw [run_of_loaded rfl, outcome_ok_iff rfl root]
    exact generated_without_authors
  obtain ⟨-, repeated, filtered⟩ := @run_filtered (fun _ => ⟨.ok schema, "", []⟩) schema rfl {} [noAuthors]
  refine ⟨_, done, rfl, filtered _ done, (repeated [noAuthors, noAuthors] fun filter => ?_).2⟩
  simp

end SelectionGen.Generation
