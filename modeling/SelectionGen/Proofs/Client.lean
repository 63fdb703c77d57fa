import SelectionGen.Proofs.ClassTable
import SelectionGen.Selection.Members

/-! A generated client at work. Where names are clear, an accessor does one of two things: that of a leaf records
its field on the object, a composite one makes an object of the class that its field leads to and records
that. Called in the other way than it is made for it fails and changes nothing. -/
namespace SelectionGen

open Target

namespace Program

variable {program : Program} {key below : ClassKey} {name shown field localClass : String}
  {documentation : Option String} {store : Store} {id : ObjectId} {object : ProjectionObject}

/-! What calls do, as far as names lead where they should. -/

theorem memberFault_eq_none (clear : program.accessFault? key = none) (isNoData : name ≠ fieldsName)
    (isNoMark : name ≠ markName) : program.memberFault? id key name store = none := by
  rw [memberFault?, clear]
  simp only [if_neg isNoData, if_neg isNoMark]

/-- An object that has not lost what holds its fields can be recorded on. -/
private theorem recordOn_eq (found : store.object? id = some object) (held : object.isBare = false) (field : String)
    (below : Option ObjectId) :
    program.recordOn id field below store = Called.keep (.ok ()) (store.record id field below) := by
  rw [recordOn, found, Option.bind_some, bareFault?, held]
  rfl

/-- A leaf that a name reaches records its field and gives back the object. -/
theorem callMember_of_leaf (clear : program.memberFault? id key name store = none)
    (reached : program.accessor? key name = some ⟨shown, field, .leaf, documentation⟩)
    (ofObjects : belongsToClass shown = false) (found : store.object? id = some object)
    (held : object.isBare = false) :
    program.callMember id key name store
      = Called.keep (.ok (.value (.object id))) (store.record id field none) := by
  rw [callMember, clear, reached]
  simp only [ofObjects, recordOn_eq found held]
  rfl

/-- A composite that a name reaches makes an object of the class that it goes on in and records it. -/
theorem openMember_of_composite (clear : program.memberFault? id key name store = none)
    (reached : program.accessor? key name = some ⟨shown, field, .composite localClass, documentation⟩)
    (ofObjects : belongsToClass shown = false) (leads : program.classBelow key localClass = .ok below)
    (creatable : program.creationFault? below = none) (found : store.object? id = some object)
    (held : object.isBare = false) :
    program.openMember id key name store
      = Called.keep (.ok (.below store.objects.length))
          ((store.create below).2.record id field (some store.objects.length)) := by
  have kept : (store.create below).2.object? id = some object := by
    rw [Store.object?, Store.create, List.getElem?_append_left (List.getElem?_eq_some_iff.mp found).1]
    exact found
  rw [openMember, clear, reached]
  simp only [instantiateBelow, leads, instantiate, creatable, Called.keep, Called.andThen, ofObjects,
    recordOn_eq kept held]
  rfl

/-- Writing an object out is a member that classes inherit. -/
theorem callMember_serialize (clear : program.memberFault? id key "serialize" store = none)
    (unreached : program.accessor? key "serialize" = none) :
    program.callMember id key "serialize" store
      = Called.keep ((program.serialized store id).map fun text => .value (.text text)) store := by
  rw [callMember, clear, unreached]
  simp only [callInherited?]
  cases program.serialized store id <;> rfl

end Program

/-- The classes of a run that succeeded. What texts the files have besides plays no part. -/
structure Client where
  settings : Settings
  filters : List Schema.TypeFilter
  load : Unit → Schema.Loading
  api : Api
  files : Files
  generated : (Generation.run settings filters load).outcome = .ok api

namespace Client

def program (client : Client) : Program := Program.ofApi client.settings client.files client.api

def sources (client : Client) : List ModuleSource := moduleSources client.api client.settings

/-- A class of the client and the projection that it is written from. -/
def Declares (client : Client) (key : ClassKey) (projection : Projection) : Prop :=
  ∃ source ∈ client.sources, projection ∈ source.projections ∧ key = ⟨source.qualifiedName, projection.name⟩

/-- Names are clear: those of the schema do not begin with two underscores, and the module of the entry points knows
no two classes by one name. -/
structure WellNamed (client : Client) : Prop where
  plain : ∀ document, (client.load ()).outcome = .ok document →
    Schema.PlainlyNamed (Schema.TypeFilter.applyAll client.filters document)
  unambiguous : ∀ source ∈ client.sources, source.moduleName = queriesModule → source.Unambiguous

variable {client : Client} {source : ModuleSource} {projection : Projection} {key : ClassKey} {name : String}
  {accessor : Accessor} {sub : ClassRef} {store : Store} {id : ObjectId} {object : ProjectionObject}

theorem coherent (client : Client) : client.api.Coherent client.settings :=
  Generation.coherent_of_run client.generated

theorem WellNamed.ordinary (named : client.WellNamed) : client.api.Ordinary :=
  Generation.ordinary_of_run client.generated named.plain

theorem WellNamed.unambiguous_source (named : client.WellNamed) (member : source ∈ client.sources) :
    source.Unambiguous := by
  rcases source_cases member with ⟨isClient, _⟩ | ⟨isQueries, _⟩
  · exact client.coherent.unambiguous_of_client named.ordinary member isClient
  · exact named.unambiguous source member isQueries

/-- Names are clear if the entry point goes on in no class that is called like its own. -/
theorem WellNamed.of_undefined
    (plain : ∀ document, (client.load ()).outcome = .ok document →
      Schema.PlainlyNamed (Schema.TypeFilter.applyAll client.filters document))
    (undefined : ∀ source ∈ client.sources, source.moduleName = queriesModule →
      ∀ reference ∈ source.usedClasses, source.definesName reference.name = false) : client.WellNamed where
  plain := plain
  unambiguous := fun source member isQueries => client.coherent.unambiguous_of_undefined
    (Generation.ordinary_of_run client.generated plain) member (undefined source member isQueries)

/-! Where the classes are found. -/

theorem module_of_source (member : source ∈ client.sources) :
    client.program.module? source.qualifiedName = some source.toModule := by
  have found : client.program.modules.find? (fun loaded => loaded.name == source.qualifiedName)
      = some ⟨source.package, source.moduleName, source.toModule⟩ := by
    refine find?_of_unique (List.mem_map_of_mem member) (beq_self_eq_true _) ?_
    intro loaded listed same
    obtain ⟨other, otherMember, rfl⟩ := List.mem_map.mp listed
    rw [source_of_qualifiedName otherMember member (beq_iff_eq.mp same)]
  rw [Program.module?, found]
  rfl

theorem class_of_source (member : source ∈ client.sources) (inSource : projection ∈ source.projections) :
    client.program.class? ⟨source.qualifiedName, projection.name⟩ = some (source.classDeclaration projection) := by
  rw [Program.class?, module_of_source member]
  refine find?_of_unique (List.mem_reverse.mpr (List.mem_map_of_mem inSource)) (beq_self_eq_true _) ?_
  intro declaration listed same
  obtain ⟨other, inOther, rfl⟩ := List.mem_map.mp (List.mem_reverse.mp listed)
  rw [client.coherent.source_names member other inOther projection inSource (beq_iff_eq.mp same)]

/-- Whatever is found as a class is written from a projection. -/
theorem declares_of_class (found : (client.program.class? key).isSome = true) :
    ∃ projection, client.Declares key projection := by
  obtain ⟨declaration, found⟩ := Option.isSome_iff_exists.mp found
  obtain ⟨written, inModule, listed⟩ := Option.bind_eq_some_iff.mp found
  obtain ⟨loaded, isFound, rfl⟩ := Option.map_eq_some_iff.mp inModule
  obtain ⟨source, member, rfl⟩ := List.mem_map.mp (List.mem_of_find?_eq_some isFound)
  obtain ⟨projection, inSource, rfl⟩ := List.mem_map.mp (List.mem_reverse.mp (List.mem_of_find?_eq_some listed))
  have moduleFits := List.find?_some isFound
  have classFits := List.find?_some listed
  have modules : source.qualifiedName = key.moduleName := beq_iff_eq.mp moduleFits
  have names : projection.name = key.name := beq_iff_eq.mp classFits
  exact ⟨projection, source, member, inSource, by rw [modules, names]⟩

theorem Declares.mem_projections (declares : client.Declares key projection) :
    projection ∈ client.api.projections := by
  obtain ⟨source, member, inSource, _⟩ := declares
  exact Api.Coherent.mem_projections_of_source member inSource

/-- A class is written from one projection. -/
theorem Declares.unique {other : Projection} (declares : client.Declares key projection)
    (alsoDeclares : client.Declares key other) : projection = other := by
  obtain ⟨source, member, inSource, rfl⟩ := declares
  obtain ⟨second, alsoMember, inSecond, same⟩ := alsoDeclares
  obtain ⟨modules, names⟩ := ClassKey.mk.injEq .. ▸ same
  obtain rfl := source_of_qualifiedName member alsoMember modules
  exact client.coherent.source_names member projection inSource other inSecond names

/-- A projection of the client is written as a class of the client's module. -/
theorem declares_of_client (inClient : projection ∈ client.api.clientProjections) :
    client.Declares projection.classRef.key projection := by
  refine ⟨⟨client.settings.clientPackage, projectionsModule, "Generated GraphQL projections.",
      client.api.clientProjections⟩, ?_, inClient, ?_⟩
  · refine List.mem_filter.mpr ⟨List.mem_cons_self, ?_⟩
    simpa using List.ne_nil_of_mem inClient
  · rw [ClassRef.key, ModuleSource.moduleOf, show projection.classRef.package = _ from
      client.coherent.packages projection inClient]
    rfl

/-- What an accessor goes on in is a class of the client. -/
theorem Declares.below (declares : client.Declares key projection) (inProjection : accessor ∈ projection.accessors)
    (composite : accessor.selector = .composite sub) :
    ∃ below ∈ client.api.clientProjections, below.classRef = sub ∧ client.Declares sub.key below := by
  obtain ⟨below, inClient, rfl⟩ := client.coherent.closed projection declares.mem_projections accessor
    inProjection sub composite
  exact ⟨below, inClient, rfl, declares_of_client inClient⟩

/-- A name reaches the accessor of that name, if it reaches accessors of no other name. -/
theorem accessor_of_source (member : source ∈ client.sources) (inSource : projection ∈ source.projections)
    (alike : ∀ accessor ∈ projection.accessors, outerName projection.name accessor.name = name ↔ accessor.name = name) :
    client.program.accessor? ⟨source.qualifiedName, projection.name⟩ name
      = (projection.accessor? name).map source.method := by
  have inApi := Api.Coherent.mem_projections_of_source member inSource
  rw [Program.accessor?, class_of_source member inSource]
  show (projection.accessors.map source.method).reverse.find?
    (fun method => outerName projection.name method.name == name) = _
  cases found : projection.accessor? name with
  | none =>
    refine List.find?_eq_none.mpr fun method listed => ?_
    obtain ⟨accessor, inProjection, rfl⟩ := List.mem_map.mp (List.mem_reverse.mp listed)
    rw [beq_iff_eq, show (source.method accessor).name = accessor.name from rfl, alike accessor inProjection]
    exact fun same => List.find?_eq_none.mp found accessor inProjection (beq_iff_eq.mpr same)
  | some accessor =>
    obtain ⟨inProjection, isNamed⟩ := Api.Coherent.mem_of_accessor found
    refine find?_of_unique (List.mem_reverse.mpr (List.mem_map_of_mem inProjection)) ?_ ?_
    · exact beq_iff_eq.mpr ((alike accessor inProjection).mpr isNamed)
    · intro method listed same
      obtain ⟨other, alsoIn, rfl⟩ := List.mem_map.mp (List.mem_reverse.mp listed)
      rw [List.inj_on_of_nodup_map (client.coherent.accessorNames projection inApi) alsoIn inProjection
        (((alike other alsoIn).mp (beq_iff_eq.mp same)).trans isNamed.symm)]

namespace WellNamed

variable (named : client.WellNamed)
include named

/-! What names reach on an object. -/

private theorem accessor_of_source (member : source ∈ client.sources) (inSource : projection ∈ source.projections) :
    client.program.accessor? ⟨source.qualifiedName, projection.name⟩ name
      = (projection.accessor? name).map source.method := by
  refine Client.accessor_of_source member inSource fun accessor inProjection => ?_
  have inApi := Api.Coherent.mem_projections_of_source member inSource
  rw [(named.ordinary.accessors projection inApi accessor inProjection).outerName_eq]

/-- What a name reaches is an accessor of that name. -/
theorem exists_accessor (declares : client.Declares key projection) {method : Method}
    (reached : client.program.accessor? key name = some method) :
    ∃ accessor ∈ projection.accessors, accessor.name = name ∧ accessor.fieldName = method.fieldName := by
  obtain ⟨source, member, inSource, rfl⟩ := declares
  rw [named.accessor_of_source member inSource] at reached
  obtain ⟨accessor, found, rfl⟩ := Option.map_eq_some_iff.mp reached
  obtain ⟨inProjection, isNamed⟩ := Api.Coherent.mem_of_accessor found
  exact ⟨accessor, inProjection, isNamed, rfl⟩

/-- A name that no accessor has reaches nothing that the class defines. -/
theorem accessor_eq_none (declares : client.Declares key projection)
    (free : ∀ accessor ∈ projection.accessors, accessor.name ≠ name) :
    client.program.accessor? key name = none := by
  obtain ⟨source, member, inSource, rfl⟩ := declares
  rw [named.accessor_of_source member inSource, Option.map_eq_none_iff, Projection.accessor?, List.find?_eq_none]
  exact fun accessor inProjection same => free accessor inProjection (beq_iff_eq.mp same)

/-- The members that classes give a meaning of their own are no accessors. -/
theorem special_eq_none (declares : client.Declares key projection)
    (begins : Text.beginsWith "__" name = true) (letters : (name.toList.all (· == '_')) = false) :
    client.program.accessor? key name = none :=
  named.accessor_eq_none declares fun accessor inProjection =>
    (named.ordinary.accessors projection declares.mem_projections accessor inProjection).ne_special begins letters

/-- An accessor is reached by its name. -/
private theorem accessor_of_member (member : source ∈ client.sources) (inSource : projection ∈ source.projections)
    (inProjection : accessor ∈ projection.accessors) :
    client.program.accessor? ⟨source.qualifiedName, projection.name⟩ accessor.name
      = some (source.method accessor) := by
  have inApi := Api.Coherent.mem_projections_of_source member inSource
  rw [named.accessor_of_source member inSource, client.coherent.accessor_of_member inApi inProjection,
    Option.map_some]

theorem accessor_of_leaf (declares : client.Declares key projection) (inProjection : accessor ∈ projection.accessors)
    (leaf : accessor.selector = .leaf) :
    client.program.accessor? key accessor.name
      = some ⟨accessor.name, accessor.fieldName, .leaf, ModuleSource.documentation accessor.description⟩ := by
  obtain ⟨source, member, inSource, rfl⟩ := declares
  rw [named.accessor_of_member member inSource inProjection, ModuleSource.method, leaf]

/-- The name by which a module knows a class that a method goes on in is bound to that class. -/
theorem binding_of_used (member : source ∈ client.sources) (used : sub ∈ source.usedClasses) :
    client.program.binding? source.qualifiedName (source.localName sub) = some sub.key := by
  have defined : (source.toModule.classes.any fun declaration => declaration.name == source.localName sub)
      = source.definesName (source.localName sub) := by
    rw [ModuleSource.toModule, List.any_map]
    rfl
  rw [Program.binding?, module_of_source member]
  simp only [Option.bind_eq_bind, Option.bind_some, defined]
  by_cases own : ModuleSource.moduleOf sub = source.qualifiedName
  · have listed : source.definesName sub.name = true := by
      obtain ⟨below, inClient, rfl, package⟩ := client.coherent.used_class member used
      rcases source_cases member with ⟨_, _, same⟩ | ⟨isQueries, inQueries, _⟩
      · exact List.any_eq_true.mpr ⟨below, same ▸ inClient, beq_self_eq_true _⟩
      · rw [ModuleSource.moduleOf, package, ModuleSource.qualifiedName, inQueries, isQueries] at own
        exact absurd own (modules_differ _ _)
    rw [ModuleSource.localName_of_own own, if_pos listed, ← own]
    rfl
  · rw [client.coherent.localName_undefined member used own, if_neg Bool.false_ne_true]
    obtain ⟨entry, imported⟩ := ModuleSource.exists_importOf own
    obtain ⟨entryName, bound⟩ := ModuleSource.importOf_spec imported
    refine lookup_of_unique (List.mem_reverse.mpr (ModuleSource.mem_bindings.mpr ⟨entry, ?_, bound, entryName⟩)) ?_
    · exact ModuleSource.mem_importPairs.mpr (.inr ⟨sub, used, imported, rfl⟩)
    · exact fun other listed => client.coherent.binding_unique member (named.unambiguous_source member) used
        (List.mem_reverse.mp listed)

/-- A composite accessor is reached by its name and goes on in the class that the projection says. -/
theorem accessor_of_composite (declares : client.Declares key projection)
    (inProjection : accessor ∈ projection.accessors) (composite : accessor.selector = .composite sub) :
    ∃ localClass, client.program.accessor? key accessor.name
        = some ⟨accessor.name, accessor.fieldName, .composite localClass,
            ModuleSource.documentation accessor.description⟩ ∧
      client.program.classBelow key localClass = .ok sub.key := by
  obtain ⟨source, member, inSource, rfl⟩ := declares
  have used := ModuleSource.mem_usedClasses.mpr ⟨projection, inSource, accessor, inProjection, composite⟩
  refine ⟨source.localName sub, ?_, ?_⟩
  · rw [named.accessor_of_member member inSource inProjection, ModuleSource.method, composite]
  · rw [Program.classBelow, outerName_of_visible ((named.unambiguous_source member).visible sub used),
      named.binding_of_used member used]

/-! What calls do. -/

theorem creationFault_eq_none (declares : client.Declares key projection) :
    client.program.creationFault? key = none := by
  have making : client.program.accessor? key "__new__" = none := named.special_eq_none declares rfl rfl
  have filling : client.program.accessor? key "__init__" = none := named.special_eq_none declares rfl rfl
  have assigning : client.program.accessor? key "__setattr__" = none := named.special_eq_none declares rfl rfl
  simp only [Program.creationFault?, making, filling, assigning]

theorem accessFault_eq_none (declares : client.Declares key projection) :
    client.program.accessFault? key = none := by
  rw [Program.accessFault?, named.special_eq_none declares rfl rfl]

/-- An object of a class of the client can always be made. -/
theorem instantiate_eq (declares : client.Declares key projection) (store : Store) :
    client.program.instantiate key store = Called.keep (.ok store.objects.length) (store.create key).2 := by
  rw [Program.instantiate, named.creationFault_eq_none declares]
  rfl

theorem accessible_of_member (declares : client.Declares key projection)
    (inProjection : accessor ∈ projection.accessors) : Projection.IsAccessible accessor.name :=
  ⟨named.ordinary.accessors projection declares.mem_projections accessor inProjection,
    client.coherent.unreserved projection declares.mem_projections accessor inProjection⟩

/-- Nothing hides what is looked up as accessors are. -/
theorem memberFault_of_accessible (declares : client.Declares key projection)
    (accessible : Projection.IsAccessible name) : client.program.memberFault? id key name store = none :=
  Program.memberFault_eq_none (named.accessFault_eq_none declares) (accessible.ne_reserved (by decide))
    (accessible.ne_special rfl rfl)

private theorem memberFault_of_accessor (declares : client.Declares key projection)
    (inProjection : accessor ∈ projection.accessors) :
    client.program.memberFault? id key accessor.name store = none :=
  named.memberFault_of_accessible declares (named.accessible_of_member declares inProjection)

private theorem belongsToClass_of_accessor (declares : client.Declares key projection)
    (inProjection : accessor ∈ projection.accessors) : Program.belongsToClass accessor.name = false := by
  have accessible := named.accessible_of_member declares inProjection
  have first : accessor.name ≠ "__init_subclass__" := accessible.ne_special rfl rfl
  have second : accessor.name ≠ "__class_getitem__" := accessible.ne_special rfl rfl
  simp [Program.belongsToClass, first, second]

/-- The accessor of a leaf records its field and gives back the object. -/
theorem callMember_leaf (declares : client.Declares object.classKey projection)
    (inProjection : accessor ∈ projection.accessors) (leaf : accessor.selector = .leaf)
    (found : store.object? id = some object) (held : object.isBare = false) :
    client.program.callMember id object.classKey accessor.name store
      = Called.keep (.ok (.value (.object id))) (store.record id accessor.fieldName none) :=
  Program.callMember_of_leaf (named.memberFault_of_accessor declares inProjection)
    (named.accessor_of_leaf declares inProjection leaf) (named.belongsToClass_of_accessor declares inProjection) found
    held

/-- A composite accessor is of no use without a block. -/
theorem callMember_composite (declares : client.Declares key projection)
    (inProjection : accessor ∈ projection.accessors) (composite : accessor.selector = .composite sub) :
    client.program.callMember id key accessor.name store
      = Called.keep (.error (.missingBlock (Program.methodName key accessor.name))) store := by
  obtain ⟨localClass, reached, _⟩ := named.accessor_of_composite declares inProjection composite
  rw [Program.callMember, named.memberFault_of_accessor declares inProjection, reached]

/-- The accessor of a leaf takes no block. -/
theorem openMember_leaf (declares : client.Declares key projection)
    (inProjection : accessor ∈ projection.accessors) (leaf : accessor.selector = .leaf) :
    client.program.openMember id key accessor.name store
      = Called.keep (.error (.tooManyArguments (Program.methodName key accessor.name) 1 2)) store := by
  rw [Program.openMember, named.memberFault_of_accessor declares inProjection,
    named.accessor_of_leaf declares inProjection leaf]

/-- A composite accessor makes an object of the class that it goes on in and records it. -/
theorem openMember_composite (declares : client.Declares object.classKey projection)
    (inProjection : accessor ∈ projection.accessors) (composite : accessor.selector = .composite sub)
    (found : store.object? id = some object) (held : object.isBare = false) :
    client.program.openMember id object.classKey accessor.name store
      = Called.keep (.ok (.below store.objects.length))
          ((store.create sub.key).2.record id accessor.fieldName (some store.objects.length)) := by
  obtain ⟨localClass, reached, leads⟩ := named.accessor_of_composite declares inProjection composite
  obtain ⟨below, _, _, belowDeclared⟩ := declares.below inProjection composite
  exact Program.openMember_of_composite (named.memberFault_of_accessor declares inProjection) reached
    (named.belongsToClass_of_accessor declares inProjection) leads (named.creationFault_eq_none belowDeclared) found
    held

/-- Writing an object out is no accessor. -/
theorem callMember_serialize (declares : client.Declares key projection) :
    client.program.callMember id key "serialize" store
      = Called.keep ((client.program.serialized store id).map fun text => .value (.text text)) store := by
  have free : client.program.accessor? key "serialize" = none :=
    named.accessor_eq_none declares fun accessor inProjection same =>
      client.coherent.unreserved projection declares.mem_projections accessor inProjection (same ▸ by decide)
  exact Program.callMember_serialize
    (Program.memberFault_eq_none (named.accessFault_eq_none declares) (by decide) (by decide)) free

end WellNamed

end Client

/-! The client of the library, and that of a schema where an alias is taken: the entry point has a field of another
type that is called like its own class, and one of the type that is called like the alias. -/
namespace Projection

open Schema Sdl

namespace Library

def client : Client where
  settings := {}
  filters := []
  load := fun _ => ⟨.ok schema, "", []⟩
  api := { queryTypes := [context.rootProjectionOf 0 query]
           clientProjections := [context.projection author, context.projection book] }
  files := []
  generated := outcome_schema

theorem client_wellNamed : client.WellNamed := by
  refine .of_undefined ?_ ?_
  · rintro document loaded
    cases loaded
    exact PlainlyNamed.of_entries (by decide)
  · decide

end Library

namespace Namesakes

def namesake : Target where
  fst := 1
  snd.kind := .object
  snd.name := ⟨"query", by decide +kernel⟩
  snd.fields := [{ name := ⟨"x", by decide +kernel⟩, type := ⟨[], ⟨"Int", by decide +kernel⟩⟩ }]

def occupant : Target where
  fst := 2
  snd.kind := .object
  snd.name := ⟨"ClientQuery", by decide +kernel⟩
  snd.fields := [{ name := ⟨"y", by decide +kernel⟩, type := ⟨[], ⟨"Int", by decide +kernel⟩⟩ }]

def query : TypeDefinition where
  kind := .object
  name := customaryQuery
  fields :=
    [{ name := ⟨"a", by decide +kernel⟩, type := ⟨[], namesake.name⟩ },
     { name := ⟨"b", by decide +kernel⟩, type := ⟨[], occupant.name⟩ }]

def schema : Document := [.type query, .type namesake.2, .type occupant.2]

def context : Context := ⟨{}, schema⟩

theorem descent : context.Descent (context.rootTargets 0 query) [] [namesake, occupant]
    [namesake.entry, occupant.entry] none := by
  have ofQuery : context.rootTargets 0 query = [namesake, occupant] := by decide
  have freshNamesake : List.lookup namesake.className [] = (none : Option String) := rfl
  have freshOccupant : List.lookup occupant.className [namesake.entry] = none := by decide
  rw [ofQuery]
  exact .alone freshNamesake (by decide) (.alone freshOccupant (by decide) .done)

def client : Client where
  settings := {}
  filters := []
  load := fun _ => ⟨.ok schema, "", []⟩
  api := { queryTypes := [context.rootProjectionOf 0 query]
           clientProjections := [context.projection namesake, context.projection occupant] }
  files := []
  generated := by
    have root : findRoot? schema .query = some (0, query) := by decide +kernel
    refine (Generation.outcome_of_root rfl root).trans ?_
    exact congrArg (Except.mapError GenerationError.clash) (Context.generate_of_descent descent)

theorem plain : ∀ document, (client.load ()).outcome = .ok document →
    PlainlyNamed (TypeFilter.applyAll client.filters document) := by
  rintro document loaded
  cases loaded
  exact PlainlyNamed.of_entries (by decide)

/-- The module of the entry point. -/
def entryModule : ModuleSource :=
  ⟨"generated.queries", queriesModule, "Generated GraphQL root query projections.", client.api.queryTypes⟩

/-- The class of the entry point, and the class that the alias is taken by. -/
def entryKey : ClassKey := ⟨"generated.queries.queries", "QueryProjection"⟩

def occupantKey : ClassKey := ⟨"generated.client.projections", "ClientQueryProjection"⟩

theorem imports : entryModule.imports =
    [⟨"generated.client.projections", [⟨"QueryProjection", some "ClientQueryProjection"⟩,
        ⟨"ClientQueryProjection", none⟩]⟩,
      ⟨supportModule, [⟨"BaseProjectionNode", none⟩, ⟨"dsl_context", none⟩]⟩] := by
  have modules : (entryModule.importPairs.map Prod.fst).eraseDups
      = [supportModule, "generated.client.projections"] := by decide
  have sorted : ([supportModule, "generated.client.projections"].mergeSort fun a b => decide (a ≤ b))
      = ["generated.client.projections", supportModule] := by
    simp [List.mergeSort, List.MergeSort.Internal.splitInTwo, supportModule]
  rw [ModuleSource.imports, modules, sorted]
  decide

/-- The alias is imported for two classes, and the second one counts. -/
theorem classBelow : client.program.classBelow entryKey "ClientQueryProjection" = .ok occupantKey := by
  have listed : entryModule ∈ client.sources :=
    List.mem_filter.mpr ⟨List.mem_cons_of_mem _ List.mem_cons_self, by decide⟩
  have outer : outerName entryKey.name "ClientQueryProjection" = "ClientQueryProjection" := by decide
  have undefined : (entryModule.toModule.classes.any fun declaration => declaration.name == "ClientQueryProjection")
      = false := by decide
  have bound : client.program.binding? entryKey.moduleName "ClientQueryProjection" = some occupantKey := by
    rw [Program.binding?, show entryKey.moduleName = entryModule.qualifiedName from by decide,
      Client.module_of_source listed]
    simp only [Option.bind_eq_bind, Option.bind_some, undefined]
    rw [show entryModule.toModule.imports = _ from imports]
    decide
  rw [Program.classBelow, outer, bound]

/-- An entry point where nothing is selected yet. -/
def entry : Store := ⟨[{ classKey := entryKey }]⟩

/-- The field of the namesake gets an object of the other class. -/
theorem openMember : client.program.openMember 0 entryKey "a" entry
    = (.ok (.below 1), ⟨[⟨entryKey, [("a", some 1)], false⟩, { classKey := occupantKey }]⟩) := by
  have reached : client.program.accessor? entryKey "a"
      = some ⟨"a", "a", .composite "ClientQueryProjection", none⟩ := by decide
  have clear : client.program.memberFault? 0 entryKey "a" entry = none := by decide
  have creatable : client.program.creationFault? occupantKey = none := by decide
  rw [Program.openMember, clear, reached]
  simp only [Program.instantiateBelow, classBelow, Program.instantiate, creatable]
  rfl

end Namesakes

end Projection

end SelectionGen
