import SelectionGen.Proofs.AccessorNames

/-! What the classes of one run have to do with one another. Each is named after its type, no two of the client
have one name, and wherever an accessor goes on there is a class of the client for it. Whatever is said
about generated code later rests on this and not on how the classes were found. -/
namespace SelectionGen

/-- All classes of a run. -/
def Api.projections (api : Api) : List Projection := api.queryTypes ++ api.clientProjections

/-- Classes that belong together. -/
structure Api.Coherent (settings : Settings) (api : Api) : Prop where
  oneRoot : ∀ first ∈ api.queryTypes, ∀ second ∈ api.queryTypes, first = second
  packages : ∀ projection ∈ api.clientProjections, projection.package = settings.clientPackage
  distinct : (api.clientProjections.map Projection.name).Nodup
  named : ∀ projection ∈ api.projections,
    ∃ typeName : Sdl.Name, projection.name = Projection.className typeName.text
  inherits : ∀ projection ∈ api.projections,
    projection.baseClass = baseProjection ∧ projection.decorators = [dslContext]
  closed : ∀ projection ∈ api.projections, ∀ accessor ∈ projection.accessors, ∀ sub,
    accessor.selector = .composite sub → ∃ below ∈ api.clientProjections, below.classRef = sub
  accessorNames : ∀ projection ∈ api.projections, (projection.accessors.map Accessor.name).Nodup
  fieldNames : ∀ projection ∈ api.projections, (projection.accessors.map Accessor.fieldName).Nodup
  unreserved : ∀ projection ∈ api.projections, ∀ accessor ∈ projection.accessors,
    accessor.name ∉ Projection.reservedWords

/-- Classes whose names, and the names of whose accessors, mean the same inside a class and outside. -/
structure Api.Ordinary (api : Api) : Prop where
  classes : ∀ projection ∈ api.projections, Projection.IsOrdinary projection.name
  accessors : ∀ projection ∈ api.projections, ∀ accessor ∈ projection.accessors,
    Projection.IsOrdinary accessor.name

/-- No type and no field has a name that begins with two underscores. -/
structure Schema.PlainlyNamed (document : Sdl.Document) : Prop where
  types : ∀ definition, .type definition ∈ document →
    Text.beginsWith "__" definition.name.text = false
  fields : ∀ definition, .type definition ∈ document → ∀ field ∈ definition.fields,
    Text.beginsWith "__" field.name.text = false

/-- A document is plainly named if its entries are. -/
theorem Schema.PlainlyNamed.of_entries {document : Sdl.Document}
    (names : ∀ entry ∈ document, ∀ definition, entry.type? = some definition →
      Text.beginsWith "__" definition.name.text = false ∧
        ∀ field ∈ definition.fields, Text.beginsWith "__" field.name.text = false) :
    PlainlyNamed document :=
  ⟨fun definition member => (names _ member definition rfl).1,
    fun definition member => (names _ member definition rfl).2⟩

namespace Projection.Context

open Sdl Schema

variable {context : Context} {given : List Target} {final : Registry} {position : Nat}
  {definition : TypeDefinition}

theorem accessors_unreserved {taken : List String} {fields : List ResolvedField} :
    ∀ accessor ∈ context.accessors taken fields, accessor.name ∉ reservedWords := by
  intro accessor member
  obtain ⟨_, _, _, before, named⟩ := accessor_named member
  rw [named]
  exact accessorName_unreserved before _

/-- Where an accessor of a class goes on there is a class that the walk gave out. -/
private theorem given_of_composite
    (descent : context.Descent (context.rootTargets position definition) [] given final none)
    {fields : List ResolvedField} {accessor : Accessor} {sub : ClassRef}
    (followed : ∀ target ∈ fields.filterMap ResolvedField.target?,
      context.Reached (context.rootTargets position definition) target)
    (member : accessor ∈ context.accessors [] fields) (composite : accessor.selector = .composite sub) :
    ∃ below ∈ given.map context.projection, below.classRef = sub := by
  obtain ⟨resolved, inFields, target, leads, _, rfl⟩ := field_of_composite member composite
  have reached := followed target (List.mem_filterMap.mpr ⟨resolved, inFields, leads⟩)
  have inGiven := (descent.mem_given_iff fun _ => resolves_of_mem_rootTargets).mpr reached
  exact ⟨_, List.mem_map_of_mem inGiven, rfl⟩

/-- What a walk from a root gives out belongs together. -/
theorem coherent_of_descent
    (descent : context.Descent (context.rootTargets position definition) [] given final none) :
    Api.Coherent context.settings
      { queryTypes := [context.rootProjectionOf position definition]
        clientProjections := given.map context.projection } where
  oneRoot := by simp
  packages := by
    intro projection member
    obtain ⟨target, _, rfl⟩ := List.mem_map.mp member
    rfl
  distinct := by
    rw [List.map_map]
    exact descent.classNames_nodup
  named := by
    simp only [Api.projections, List.singleton_append, List.forall_mem_cons, List.forall_mem_map]
    exact ⟨⟨definition.name, rfl⟩, fun target _ => ⟨target.name, rfl⟩⟩
  inherits := by
    simp only [Api.projections, List.singleton_append, List.forall_mem_cons, List.forall_mem_map]
    exact ⟨⟨rfl, rfl⟩, fun target _ => ⟨rfl, rfl⟩⟩
  closed := by
    simp only [Api.projections, List.singleton_append, List.forall_mem_cons, List.forall_mem_map]
    refine ⟨fun accessor member sub composite => ?_, fun target inGiven accessor member sub composite => ?_⟩
    · refine given_of_composite descent (fun next leads => .start ?_) member composite
      exact (List.filter_sublist.filterMap _).subset leads
    · have reached := descent.given_reached target inGiven
      exact given_of_composite descent (fun next leads => reached.step leads) member composite
  accessorNames := by
    simp only [Api.projections, List.singleton_append, List.forall_mem_cons, List.forall_mem_map]
    exact ⟨(context.accessors_names [] _).1, fun target _ => (context.accessors_names [] _).1⟩
  fieldNames := by
    simp only [Api.projections, List.singleton_append, List.forall_mem_cons, List.forall_mem_map]
    refine ⟨?_, fun target _ => ?_⟩
    · rw [rootProjectionOf, accessors_fieldNames]
      exact (context.resolvedFields_nodup true position definition).sublist (List.filter_sublist.map _)
    · rw [projection, projectionOf, accessors_fieldNames]
      exact context.resolvedFields_nodup false target.1 target.2
  unreserved := by
    simp only [Api.projections, List.singleton_append, List.forall_mem_cons, List.forall_mem_map]
    exact ⟨accessors_unreserved, fun target _ => accessors_unreserved⟩

/-- The fields that accessors are made for are declared in the document. -/
theorem declared_of_resolved {isRoot : Bool} (stored : typeAt? context.document position = some definition) :
    ∀ resolved ∈ context.resolvedFields isRoot position definition,
      ∃ source, .type source ∈ context.document ∧ resolved.field ∈ source.fields := by
  intro resolved member
  obtain ⟨field, survives, rfl⟩ := List.mem_map.mp member
  obtain ⟨source, inDocument, _, declares, _⟩ := declared_of_survives stored survives
  exact ⟨source, inDocument, declares⟩

/-- The fields of a type in a plainly named schema have plain names. -/
private theorem plain_of_resolved (plain : PlainlyNamed context.document) {isRoot : Bool}
    (stored : typeAt? context.document position = some definition) :
    ∀ resolved ∈ context.resolvedFields isRoot position definition,
      Text.beginsWith "__" resolved.field.name.text = false := by
  intro resolved member
  obtain ⟨source, inDocument, declares⟩ := declared_of_resolved stored resolved member
  exact plain.fields source inDocument _ declares

private theorem ordinary_of_plain {fields : List ResolvedField}
    (plain : ∀ resolved ∈ fields, Text.beginsWith "__" resolved.field.name.text = false) :
    ∀ accessor ∈ context.accessors [] fields, IsOrdinary accessor.name := by
  intro accessor member
  obtain ⟨resolved, inFields, _, before, named⟩ := accessor_named member
  rw [named]
  exact accessorName_ordinary before (plain resolved inFields)

/-- What a walk over a plainly named schema gives out has ordinary names. -/
theorem ordinary_of_descent (plain : PlainlyNamed context.document)
    (stored : typeAt? context.document position = some definition)
    (descent : context.Descent (context.rootTargets position definition) [] given final none) :
    Api.Ordinary
      { queryTypes := [context.rootProjectionOf position definition]
        clientProjections := given.map context.projection } := by
  have named {position : Nat} {definition : TypeDefinition}
      (stored : typeAt? context.document position = some definition) :
      Text.beginsWith "__" definition.name.text = false :=
    plain.types definition (List.mem_of_getElem? (typeAt_eq_some_iff.mp stored))
  have storedGiven : ∀ target ∈ given, typeAt? context.document target.1 = some target.2 :=
    fun target inGiven => ((descent.given_reached target inGiven).resolves
      fun _ => resolves_of_mem_rootTargets).typeAt
  constructor
  · simp only [Api.projections, List.singleton_append, List.forall_mem_cons, List.forall_mem_map]
    exact ⟨className_ordinary (named stored),
      fun target inGiven => className_ordinary (named (storedGiven target inGiven))⟩
  · simp only [Api.projections, List.singleton_append, List.forall_mem_cons, List.forall_mem_map]
    refine ⟨ordinary_of_plain fun resolved member => ?_, fun target inGiven => ?_⟩
    · exact plain_of_resolved plain stored resolved (List.mem_of_mem_filter member)
    · exact ordinary_of_plain (plain_of_resolved plain (storedGiven target inGiven))

end Projection.Context

namespace Generation

open Sdl Schema Projection

variable {settings : Settings} {filters : List TypeFilter} {load : Unit → Loading} {api : Api}

/-- A run with a result gives nothing out, or what a descent from the root of the schema that it loads and filters
lists. -/
theorem descent_of_run (done : (run settings filters load).outcome = .ok api) :
    api = {} ∨ ∃ document position definition given final, (load ()).outcome = .ok document ∧
      findRoot? (TypeFilter.applyAll filters document) .query = some (position, definition) ∧
      Context.Descent ⟨settings, TypeFilter.applyAll filters document⟩
        (Context.rootTargets ⟨settings, TypeFilter.applyAll filters document⟩ position definition) [] given final
        none ∧
      api = { queryTypes := [Context.rootProjectionOf ⟨settings, TypeFilter.applyAll filters document⟩ position
                definition]
              clientProjections := given.map
                (Context.projection ⟨settings, TypeFilter.applyAll filters document⟩) } := by
  by_cases wanted : settings.generatesClient = true
  · obtain ⟨document, loaded⟩ := loaded_of_run wanted done
    rw [run_of_loaded loaded] at done
    exact (descent_of_outcome done).imp_right fun ⟨position, definition, given, final, found⟩ =>
      ⟨document, position, definition, given, final, loaded, found⟩
  · rw [run_unwanted wanted] at done
    exact .inl (Except.ok.inj done).symm

/-- The classes of a run belong together. -/
theorem coherent_of_run (done : (run settings filters load).outcome = .ok api) : api.Coherent settings := by
  rcases descent_of_run done with rfl | ⟨document, position, definition, given, final, _, _, descent, rfl⟩
  · constructor <;> simp [Api.projections]
  · exact Context.coherent_of_descent descent

/-- The classes of a run on a schema that is plainly named once it is filtered have ordinary names. -/
theorem ordinary_of_run (done : (run settings filters load).outcome = .ok api)
    (plain : ∀ document, (load ()).outcome = .ok document → PlainlyNamed (TypeFilter.applyAll filters document)) :
    api.Ordinary := by
  rcases descent_of_run done with rfl | ⟨document, position, definition, given, final, loaded, root, descent, rfl⟩
  · constructor <;> simp [Api.projections]
  · obtain ⟨isExtension, isFirst⟩ := isFirst_of_findRoot root
    exact Context.ordinary_of_descent (plain document loaded) isFirst.stored descent

end Generation

end SelectionGen
