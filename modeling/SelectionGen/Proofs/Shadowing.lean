import Mathlib.Data.List.TakeWhile
import SelectionGen.Proofs.FiniteTrees
import SelectionGen.Proofs.LocalNames
import SelectionGen.Proofs.Rendering
import SelectionGen.Target.Placement

/-! Names that get in the way of a class. Fields of a schema become members of a class, and some members have work to
do: the definition of a class looks at them, objects are made with them, other members are looked up with them. An
accessor of such a name is called in their place and does not do their work. Others are out of reach: they are
private to the class, or hidden by what marks it. And to the name of a constant no accessor can be bound. A class can
be used as it is meant to be exactly where none of its accessors has a name of these kinds, and where the names of the
classes that it goes on in lead to these. -/
namespace SelectionGen

open Target

namespace Target

variable {className name special : String}

/-- A private name is reached by one that begins with one underscore only. -/
private theorem beginsWith_outerName (lettered : className.toList.dropWhile (fun c => c == '_') ≠ [])
    (isPrivate : isPrivateName name = true) : Text.beginsWith "__" (outerName className name) = false := by
  have first := List.head_dropWhile_not (fun c => c == '_') lettered
  obtain ⟨c, rest, stripped⟩ := List.exists_cons_of_ne_nil lettered
  simp only [stripped, List.head_cons, beq_eq_false_iff_ne] at first
  simp [outerName, isPrivate, stripped, Text.beginsWith, List.isPrefixOf, first.symm]

/-- A name that begins with two underscores and is not private is reached by no other one. -/
theorem outerName_eq_iff (lettered : className.toList.dropWhile (fun c => c == '_') ≠ [])
    (begins : Text.beginsWith "__" special = true) (visible : isPrivateName special = false) :
    outerName className name = special ↔ name = special := by
  by_cases isPrivate : isPrivateName name = true
  · constructor
    · rintro rfl
      rw [beginsWith_outerName lettered isPrivate] at begins
      cases begins
    · rintro rfl
      rw [isPrivate] at visible
      cases visible
  · rw [outerName_of_visible (Bool.eq_false_of_not_eq_true isPrivate)]

/-- A private name reaches nothing from outside. -/
theorem outerName_ne_private (lettered : className.toList.dropWhile (fun c => c == '_') ≠ [])
    (isPrivate : isPrivateName special = true) : outerName className name ≠ special := by
  rintro rfl
  by_cases alsoPrivate : isPrivateName name = true
  · rw [isPrivateName, beginsWith_outerName lettered alsoPrivate] at isPrivate
    cases isPrivate
  · rw [outerName_of_visible (Bool.eq_false_of_not_eq_true alsoPrivate)] at isPrivate
    exact alsoPrivate isPrivate

/-- Everything but the constant can be bound. -/
theorem Placement.bound_eq_ok_iff {line : Nat} : Placement.bound name line = .ok () ↔ name ≠ debugConstant := by
  unfold Placement.bound
  split_ifs with same
  · exact iff_of_false (by rintro ⟨⟩) (not_not.mpr same)
  · exact iff_of_true rfl same

end Target

namespace Projection

/-- Members that the definition of a class looks at. -/
def definitionNames : List String := [ClassFault.slots, .qualifiedName, .classCell].map ClassFault.memberName

/-- Members that objects are made with. -/
def creationNames : List String := ["__new__", "__init__", "__setattr__"]

/-- Members that do not record on an object: one is hidden by the mark of the class, and two belong to the class. -/
def detachedNames : List String := [Program.markName, "__init_subclass__", "__class_getitem__"]

theorem not_mem_detachedNames {name : String} :
    name ∉ detachedNames ↔ name ≠ Program.markName ∧ Program.belongsToClass name = false := by
  simp [detachedNames, Program.belongsToClass]

/-- Names that are taken. Code that binds the constant is refused; beside the members above, members are looked up with
one, and objects are described with another. -/
def vitalNames : List String :=
  [debugConstant] ++ definitionNames ++ creationNames ++ ["__getattribute__", "__repr__"] ++ detachedNames

/-- No accessor is private to its class, and none has a name that is taken. -/
structure Unobstructed (projection : Projection) : Prop where
  visible : ∀ accessor ∈ projection.accessors, isPrivateName accessor.name = false
  free : ∀ accessor ∈ projection.accessors, accessor.name ∉ vitalNames

end Projection

namespace Program

variable {program : Program} {key : ClassKey} {name : String} {store : Store} {id below : ObjectId}

/-! What keeps a class from working. -/

theorem classFault_eq_none_iff {declaration : ClassDeclaration} :
    classFault? declaration = none ↔ ∀ name ∈ Projection.definitionNames, method? declaration name = none := by
  simp [classFault?, Projection.definitionNames]

theorem creationFault_eq_none_iff :
    program.creationFault? key = none ↔ ∀ name ∈ Projection.creationNames, program.accessor? key name = none := by
  simp only [Projection.creationNames, List.forall_mem_cons, List.not_mem_nil, false_implies, implies_true, and_true]
  constructor
  · intro clear
    rw [creationFault?] at clear
    split at clear
    case h_7 making filling assigning => exact ⟨making, filling, assigning⟩
    all_goals cases clear
  · rintro ⟨making, filling, assigning⟩
    simp only [creationFault?, making, filling, assigning]

theorem accessFault_eq_none_iff :
    program.accessFault? key = none ↔ program.accessor? key "__getattribute__" = none := by
  rw [accessFault?]
  split
  · simp [*]
  · simp [*]
  · split <;> simp [*]

theorem creationFault_of_instantiate {after : Store}
    (made : program.instantiate key store = Called.keep (.ok id) after) : program.creationFault? key = none := by
  rw [instantiate] at made
  cases fault : program.creationFault? key with
  | none => rfl
  | some error =>
    rw [fault] at made
    cases made

theorem memberFault_eq_none_iff :
    program.memberFault? id key name store = none ↔
      program.accessFault? key = none ∧ name ≠ fieldsName ∧ name ≠ markName := by
  constructor
  · intro clear
    rw [memberFault?] at clear
    split at clear
    · cases clear
    · next reached =>
      split_ifs at clear with isData isMark
      · cases fault : (store.object? id).bind program.bareFault? <;> simp [fault] at clear
      · exact ⟨reached, isData, isMark⟩
  · rintro ⟨clear, isNoData, isNoMark⟩
    exact memberFault_eq_none clear isNoData isNoMark

/-! What calls that do as they should say about the members they reach. -/

private theorem memberFault_of_callMember {result : Reached} {after : Store}
    (called : program.callMember id key name store = Called.keep (.ok result) after) :
    program.memberFault? id key name store = none := by
  rw [callMember] at called
  split at called
  · cases called
  · next clear => exact clear

/-- An object that is described as all are has no accessor that describes it. -/
theorem accessor_of_describeObject {object : ProjectionObject} {text : String} {after : Store}
    (found : store.object? id = some object)
    (described : program.describeObject id store = Called.keep (.ok text) after) :
    program.accessor? object.classKey "__repr__" = none := by
  simp only [describeObject, found] at described
  split at described
  · split at described <;> cases described
  · cases described
  · next unreached => exact unreached

private theorem callMissing_fails {α : Type} (program : Program) (id : ObjectId) (key : ClassKey) (name : String)
    (store : Store) : ∃ error after, (program.callMissing id key name store : Called α)
      = Called.keep (.error error) after := by
  rw [callMissing]
  split
  · exact ⟨_, _, rfl⟩
  · exact ⟨_, _, rfl⟩
  · next localClass _ _ =>
    rcases program.instantiateBelow key localClass store with ⟨_ | _, after⟩ <;> exact ⟨_, _, rfl⟩

private theorem callInherited_of_private (isPrivate : isPrivateName name = true) :
    program.callInherited? id key name store = none := by
  unfold callInherited?
  split
  case h_7 => rfl
  all_goals exact absurd isPrivate (by decide)

/-- A private name gives no value. -/
theorem callMember_private (isPrivate : isPrivateName name = true) (reached : program.accessor? key name = none)
    (value : Value) (after : Store) :
    program.callMember id key name store ≠ Called.keep (.ok (.value value)) after := by
  intro called
  simp only [callMember, reached, callInherited_of_private isPrivate] at called
  split at called
  · cases called
  · split at called
    · next isHeld => cases isHeld
    · cases called
    · split at called
      · cases called
      · obtain ⟨_, _, fails⟩ := callMissing_fails (α := Reached) program id key name store
        rw [fails] at called
        cases called

/-- A leaf that records belongs to the objects, and nothing hides it. -/
theorem recording_of_callMember {shown field : String} {documentation : Option String} {value : Value} {after : Store}
    (reached : program.accessor? key name = some ⟨shown, field, .leaf, documentation⟩)
    (called : program.callMember id key name store = Called.keep (.ok (.value value)) after) :
    program.memberFault? id key name store = none ∧ belongsToClass shown = false := by
  have clear := memberFault_of_callMember called
  refine ⟨clear, Bool.eq_false_of_not_eq_true fun ofClass => ?_⟩
  simp only [callMember, clear, reached, ofClass] at called
  cases called

/-- What makes an object below is a composite that belongs to the objects, nothing hides it, and the class that it goes
on in is found and can be made objects of. -/
theorem composite_of_openMember {after : Store}
    (opened : program.openMember id key name store = Called.keep (.ok (.below below)) after) :
    program.memberFault? id key name store = none ∧ ∃ shown field localClass documentation found,
      program.accessor? key name = some ⟨shown, field, .composite localClass, documentation⟩ ∧
      belongsToClass shown = false ∧ program.classBelow key localClass = .ok found ∧
      program.creationFault? found = none := by
  rw [openMember] at opened
  split at opened
  · cases opened
  · next clear =>
    refine ⟨clear, ?_⟩
    split at opened
    · next shown field body documentation reached =>
      cases body with
      | leaf => cases opened
      | composite localClass =>
        simp only [instantiateBelow] at opened
        cases leads : program.classBelow key localClass with
        | error error =>
          rw [leads] at opened
          cases opened
        | ok found =>
          cases creatable : program.creationFault? found with
          | some fault =>
            simp only [leads, instantiate, creatable] at opened
            cases opened
          | none =>
            refine ⟨shown, field, localClass, documentation, found, reached, ?_, leads, creatable⟩
            refine Bool.eq_false_of_not_eq_true fun ofClass => ?_
            simp only [leads, instantiate, creatable, ofClass] at opened
            cases opened
    · split at opened
      · cases opened
      · cases opened
      · split at opened
        · cases opened
        · obtain ⟨_, _, fails⟩ := callMissing_fails (α := Reached) program id key name store
          rw [fails] at opened
          cases opened

end Program

/-- An object of a class that has not lost what holds its fields. -/
structure Store.HasObject (store : Store) (key : ClassKey) (id : ObjectId) (object : ProjectionObject) : Prop where
  found : store.object? id = some object
  ofClass : object.classKey = key
  held : object.isBare = false

namespace Client

/-- What is recorded on an object forms a tree, and nothing about the objects below keeps them from being written
out. -/
def Holds (client : Client) (store : Store) (object : ProjectionObject) (tree : Selection) : Prop :=
  store.Records object.fields tree ∧ ∀ field below, (field, some below) ∈ object.fields →
    ∀ reached content, store.Leads below reached → store.object? reached = some content →
      client.program.Writes content

/-- A class works as every projection should: its methods can be bound to their names, so that nothing about them keeps
the module from being run, and it can be defined; objects of it are made without anything recorded on
them; they are written out and described as all projections are; and each accessor, called by its name, records
its field, a leaf alone and a composite with a new object of the class that the projection goes on in. -/
structure Usable (client : Client) (key : ClassKey) (projection : Projection) : Prop where
  compiled : ∀ declaration, client.program.class? key = some declaration → ∀ method ∈ declaration.methods,
    ∀ line, Placement.bound method.name line = .ok ()
  defined : ∀ declaration, client.program.class? key = some declaration → Program.classFault? declaration = none
  made : ∀ store, client.program.instantiate key store = Called.keep (.ok store.objects.length) (store.create key).2
  written : ∀ store id object tree, store.HasObject key id object → client.Holds store object tree →
    client.program.callMember id key "serialize" store = Called.keep (.ok (.value (.text tree.serialize))) store
  described : ∀ store id object tree, store.HasObject key id object → client.Holds store object tree →
    client.program.describeObject id store = Called.keep (.ok (key.name ++ "(" ++ tree.serialize ++ ")")) store
  leaf : ∀ accessor ∈ projection.accessors, accessor.selector = .leaf →
    ∀ store id object, store.HasObject key id object →
      client.program.callMember id key accessor.name store
        = Called.keep (.ok (.value (.object id))) (store.record id accessor.fieldName none)
  composite : ∀ accessor ∈ projection.accessors, ∀ sub, accessor.selector = .composite sub →
    ∀ store id object, store.HasObject key id object →
      client.program.openMember id key accessor.name store
        = Called.keep (.ok (.below store.objects.length))
            ((store.create sub.key).2.record id accessor.fieldName (some store.objects.length))

/-- The name by which a module knows a class leads there from within its own classes, and objects of it can be made. -/
structure Finds (client : Client) (source : ModuleSource) (sub : ClassRef) : Prop where
  visible : isPrivateName (source.localName sub) = false
  bound : source.meaning? (source.localName sub) = some sub.key
  creatable : ∀ below ∈ client.api.clientProjections, below.classRef = sub →
    ∀ accessor ∈ below.accessors, accessor.name ∉ Projection.creationNames

variable {client : Client} {source : ModuleSource} {projection : Projection} {key : ClassKey} {name : String}
  {names : List String} {accessor : Accessor} {sub : ClassRef}

/-! What names reach on objects, whatever accessors are called. -/

/-- The name of a class has more than underscores. -/
private theorem lettered_of_source (member : source ∈ client.sources) (inSource : projection ∈ source.projections) :
    projection.name.toList.dropWhile (fun c => c == '_') ≠ [] := by
  have inApi := Api.Coherent.mem_projections_of_source member inSource
  obtain ⟨typeName, named⟩ := client.coherent.named projection inApi
  intro underscores
  have letter : 'P' ∈ projection.name.toList := by
    rw [named, Projection.className, String.toList_append]
    exact List.mem_append_right _ (by decide)
  have equal := List.dropWhile_eq_nil_iff.mp underscores 'P' letter
  cases equal

/-- Special names are reached by the accessors that have them, and by no others. -/
theorem unreached_iff (member : source ∈ client.sources) (inSource : projection ∈ source.projections)
    (special : ∀ name ∈ names, Text.beginsWith "__" name = true ∧ isPrivateName name = false) :
    (∀ name ∈ names, client.program.accessor? ⟨source.qualifiedName, projection.name⟩ name = none) ↔
      ∀ accessor ∈ projection.accessors, accessor.name ∉ names := by
  have lettered := lettered_of_source member inSource
  have each : ∀ name ∈ names,
      client.program.accessor? ⟨source.qualifiedName, projection.name⟩ name = none ↔
        ∀ accessor ∈ projection.accessors, accessor.name ≠ name := by
    intro name listed
    obtain ⟨begins, visible⟩ := special name listed
    rw [accessor_of_source member inSource fun _ _ => outerName_eq_iff lettered begins visible,
      Option.map_eq_none_iff, Projection.accessor?, List.find?_eq_none]
    simp only [beq_iff_eq, ne_eq]
  constructor
  · exact fun unreached accessor inProjection listed =>
      (each accessor.name listed).mp (unreached _ listed) accessor inProjection rfl
  · exact fun free name listed => (each name listed).mpr fun accessor inProjection same =>
      free accessor inProjection (same ▸ listed)

/-- A private name reaches nothing. -/
private theorem accessor_of_private (member : source ∈ client.sources) (inSource : projection ∈ source.projections)
    (isPrivate : isPrivateName name = true) :
    client.program.accessor? ⟨source.qualifiedName, projection.name⟩ name = none := by
  rw [Program.accessor?, class_of_source member inSource, Option.bind_some, Program.method?, List.find?_eq_none]
  intro method _ same
  exact outerName_ne_private (lettered_of_source member inSource) isPrivate (beq_iff_eq.mp same)

/-- Where no accessor is private, each is reached by its name, and a name that none has reaches nothing. -/
private theorem accessor_of_visible (member : source ∈ client.sources) (inSource : projection ∈ source.projections)
    (visible : ∀ accessor ∈ projection.accessors, isPrivateName accessor.name = false) :
    client.program.accessor? ⟨source.qualifiedName, projection.name⟩ name
      = (projection.accessor? name).map source.method :=
  accessor_of_source member inSource fun accessor inProjection => by
    rw [outerName_of_visible (visible accessor inProjection)]

private theorem method_of_visible (member : source ∈ client.sources) (inSource : projection ∈ source.projections)
    (visible : ∀ accessor ∈ projection.accessors, isPrivateName accessor.name = false)
    (inProjection : accessor ∈ projection.accessors) :
    client.program.accessor? ⟨source.qualifiedName, projection.name⟩ accessor.name = some (source.method accessor) := by
  rw [accessor_of_visible member inSource visible, client.coherent.accessor_of_member
    (Api.Coherent.mem_projections_of_source member inSource) inProjection, Option.map_some]

/-- Objects can be made of a class unless an accessor has the name of a member that they are made with. -/
theorem creatable_iff (member : source ∈ client.sources) (inSource : projection ∈ source.projections) :
    client.program.creationFault? ⟨source.qualifiedName, projection.name⟩ = none ↔
      ∀ accessor ∈ projection.accessors, accessor.name ∉ Projection.creationNames := by
  rw [Program.creationFault_eq_none_iff, unreached_iff member inSource (by decide)]

/-- A class can be defined unless an accessor has the name of a member that its definition looks at. -/
theorem definable_iff (member : source ∈ client.sources) (inSource : projection ∈ source.projections) :
    Program.classFault? (source.classDeclaration projection) = none ↔
      ∀ accessor ∈ projection.accessors, accessor.name ∉ Projection.definitionNames := by
  rw [← unreached_iff member inSource (by decide), Program.classFault_eq_none_iff]
  simp only [Program.accessor?, class_of_source member inSource, Option.bind_some]

/-! Where methods go on. -/

/-- What a name is found to mean is bound to it. -/
private theorem bound_of_binding (member : source ∈ client.sources)
    (found : client.program.binding? source.qualifiedName name = some key) :
    (name, key) ∈ source.toModule.boundNames source.qualifiedName := by
  rw [Program.binding?, module_of_source member, Option.bind_eq_bind, Option.bind_some] at found
  split_ifs at found with defined
  · obtain ⟨declaration, inClasses, same⟩ := List.any_eq_true.mp defined
    obtain rfl := beq_iff_eq.mp same
    obtain rfl := Option.some.inj found
    exact List.mem_append_right _ (List.mem_map.mpr ⟨declaration, inClasses, rfl⟩)
  · obtain ⟨front, back, split, _⟩ := List.lookup_eq_some_iff.mp found
    have listed := List.mem_reverse.mp (split ▸ List.mem_append_right front List.mem_cons_self)
    exact List.mem_append_left _ (List.mem_append_right _ listed)

/-- A class that methods go on in is bound under the name that the module knows it by, and under no other. -/
private theorem eq_localName_of_bound (member : source ∈ client.sources) (used : sub ∈ source.usedClasses)
    (listed : (name, sub.key) ∈ source.toModule.boundNames source.qualifiedName) : name = source.localName sub := by
  obtain ⟨below, inClient, ofSub, _⟩ := client.coherent.used_class member used
  obtain ⟨typeName, named⟩ := client.coherent.named below (List.mem_append_right _ inClient)
  have ends : sub.name.toList.getLast? = some 'n' := by
    rw [← ofSub, show below.classRef.name = _ from named, Projection.className, String.toList_append]
    simp
  rcases List.mem_append.mp listed with front | inClasses
  · rcases List.mem_append.mp front with annotation | imported
    · have names : sub.name ∈ annotationNames.map fun entry => entry.2.name := List.mem_map_of_mem annotation
      rcases List.mem_pair.mp names with same | same <;> simp [same] at ends
    · obtain ⟨entry, inPairs, bound, entryName⟩ := ModuleSource.mem_bindings.mp imported
      rcases ModuleSource.mem_importPairs.mp inPairs with
        ⟨other, inSource, support, isSupport, _, rfl⟩ | ⟨other, alsoUsed, isImport, _⟩
      · have inherited := client.coherent.inherits other (Api.Coherent.mem_projections_of_source member inSource)
        rw [inherited.1, inherited.2] at isSupport
        have same : support.name = sub.name := entryName
        rcases List.mem_pair.mp isSupport with rfl | rfl <;>
          simp [← same, baseProjection, dslContext] at ends
      · obtain ⟨sameName, sameBound⟩ := ModuleSource.importOf_spec isImport
        obtain rfl := client.coherent.used_ext member alsoUsed used (sameName.symm.trans entryName)
        exact bound.symm.trans sameBound
  · obtain ⟨declaration, _, same⟩ := List.mem_map.mp inClasses
    obtain ⟨rfl, keys⟩ := Prod.mk.inj same
    obtain ⟨own, names⟩ := ClassKey.mk.injEq .. ▸ keys
    rw [ModuleSource.localName_of_own own.symm, names]

/-- A method finds the class that it goes on in exactly where the name is not private and is bound to that class
last. -/
theorem classBelow_iff (member : source ∈ client.sources) (inSource : projection ∈ source.projections)
    (used : sub ∈ source.usedClasses) :
    client.program.classBelow ⟨source.qualifiedName, projection.name⟩ (source.localName sub) = .ok sub.key ↔
      isPrivateName (source.localName sub) = false ∧ source.meaning? (source.localName sub) = some sub.key := by
  have found := binding_eq_meaning member (client.coherent.annotationNames_differ member used)
  constructor
  · intro leads
    have bound : client.program.binding? source.qualifiedName (outerName projection.name (source.localName sub))
        = some sub.key := by
      rw [Program.classBelow] at leads
      split at leads
      · next key isFound => rw [isFound, Except.ok.inj leads]
      · cases leads
    by_cases isPrivate : isPrivateName (source.localName sub) = true
    · have same := eq_localName_of_bound member used (bound_of_binding member bound)
      exact absurd same (outerName_ne_private (lettered_of_source member inSource) isPrivate)
    · have visible := Bool.eq_false_of_not_eq_true isPrivate
      rw [outerName_of_visible visible, found] at bound
      exact ⟨visible, bound⟩
  · rintro ⟨visible, bound⟩
    rw [Program.classBelow, outerName_of_visible visible, found, bound]

/-! What a class that works says about its accessors. -/

private theorem hasObject_new (key : ClassKey) :
    (Store.create {} key).2.HasObject key 0 { classKey := key } := ⟨rfl, rfl, rfl⟩

private theorem holds_new (client : Client) (key : ClassKey) :
    client.Holds (Store.create {} key).2 { classKey := key } .nil :=
  ⟨.nil, fun _ _ listed => absurd listed List.not_mem_nil⟩

namespace Usable

variable (member : source ∈ client.sources) (inSource : projection ∈ source.projections)
  (usable : client.Usable ⟨source.qualifiedName, projection.name⟩ projection)
include member inSource usable

/-- An accessor that is called by its name is not private. -/
private theorem visible : ∀ accessor ∈ projection.accessors, isPrivateName accessor.name = false := by
  intro accessor inProjection
  refine Bool.eq_false_of_not_eq_true fun isPrivate => ?_
  have unreached := accessor_of_private member inSource isPrivate
  cases selector : accessor.selector with
  | leaf =>
    exact Program.callMember_private isPrivate unreached _ _
      (usable.leaf accessor inProjection selector _ _ _ (hasObject_new _))
  | composite sub =>
    have opened := usable.composite accessor inProjection sub selector _ _ _ (hasObject_new _)
    obtain ⟨_, _, _, _, _, _, reached, _⟩ := Program.composite_of_openMember opened
    rw [unreached] at reached
    cases reached

/-- An accessor that records is hidden by nothing and belongs to the objects. -/
private theorem attached : ∀ accessor ∈ projection.accessors, accessor.name ∉ Projection.detachedNames := by
  intro accessor inProjection
  have reached := method_of_visible member inSource (usable.visible member inSource) inProjection
  rw [Projection.not_mem_detachedNames]
  cases selector : accessor.selector with
  | leaf =>
    rw [ModuleSource.method, selector] at reached
    obtain ⟨clear, ofObjects⟩ := Program.recording_of_callMember reached
      (usable.leaf accessor inProjection selector _ _ _ (hasObject_new _))
    exact ⟨(Program.memberFault_eq_none_iff.mp clear).2.2, ofObjects⟩
  | composite sub =>
    obtain ⟨clear, _, _, _, _, _, alsoReached, ofObjects, _⟩ := Program.composite_of_openMember
      (usable.composite accessor inProjection sub selector _ _ _ (hasObject_new _))
    obtain rfl := congrArg Method.name (Option.some.inj (reached.symm.trans alsoReached))
    exact ⟨(Program.memberFault_eq_none_iff.mp clear).2.2, ofObjects⟩

theorem unobstructed : projection.Unobstructed where
  visible := usable.visible member inSource
  free := by
    have bindable : ∀ accessor ∈ projection.accessors, accessor.name ≠ debugConstant := fun accessor inProjection =>
      Placement.bound_eq_ok_iff.mp (usable.compiled _ (class_of_source member inSource) (source.method accessor)
        (List.mem_map_of_mem inProjection) 0)
    have definable := (definable_iff member inSource).mp (usable.defined _ (class_of_source member inSource))
    have creatable := (creatable_iff member inSource).mp (Program.creationFault_of_instantiate (usable.made {}))
    have described : ∀ name ∈ ["__getattribute__", "__repr__"],
        client.program.accessor? ⟨source.qualifiedName, projection.name⟩ name = none := by
      have clear := Program.memberFault_of_callMember (usable.written _ _ _ _ (hasObject_new _) (holds_new _ _))
      refine List.forall_mem_cons.mpr ⟨?_, List.forall_mem_singleton.mpr ?_⟩
      · exact Program.accessFault_eq_none_iff.mp (Program.memberFault_eq_none_iff.mp clear).1
      · exact Program.accessor_of_describeObject rfl (usable.described _ _ _ _ (hasObject_new _) (holds_new _ _))
    intro accessor inProjection
    simp only [Projection.vitalNames, List.mem_append, List.mem_singleton, not_or]
    exact ⟨⟨⟨⟨bindable accessor inProjection, definable accessor inProjection⟩, creatable accessor inProjection⟩,
      (unreached_iff member inSource (by decide)).mp described accessor inProjection⟩,
      usable.attached member inSource accessor inProjection⟩

/-- A composite that makes an object of the class that it goes on in finds that class. -/
theorem finds (inProjection : accessor ∈ projection.accessors) (composite : accessor.selector = .composite sub) :
    client.Finds source sub := by
  have opened := usable.composite accessor inProjection sub composite _ _ _ (hasObject_new _)
  obtain ⟨clear, _, _, localClass, _, found, reached, ofObjects, leads, creatable⟩ :=
    Program.composite_of_openMember opened
  have made := Program.openMember_of_composite clear reached ofObjects leads creatable rfl rfl
  -- The object that is new in both stores shows of what class it is.
  have newest : ∀ (made : ClassKey) (field : String) (below : Option ObjectId),
      ((Store.create (Store.create {} ⟨source.qualifiedName, projection.name⟩).2 made).2.record 0 field below).object? 1
        = some { classKey := made } := by
    intro made field below
    rw [Store.record_other Nat.one_ne_zero]
    exact Store.create_new _ made
  have stores := congrArg (fun called => Store.object? called.2 1) (opened.symm.trans made)
  simp only [Called.keep, newest, Option.some.injEq, ProjectionObject.mk.injEq, and_true] at stores
  obtain rfl := stores
  have visible := usable.visible member inSource
  have written := method_of_visible member inSource visible inProjection
  rw [ModuleSource.method, composite] at written
  have bodies := congrArg Method.body (Option.some.inj (written.symm.trans reached))
  obtain rfl : source.localName sub = localClass := MethodBody.composite.inj bodies
  have used := ModuleSource.mem_usedClasses.mpr ⟨projection, inSource, accessor, inProjection, composite⟩
  obtain ⟨isVisible, bound⟩ := (classBelow_iff member inSource used).mp leads
  refine ⟨isVisible, bound, fun below inClient ofSub => ?_⟩
  subst ofSub
  obtain ⟨home, homeMember, inHome, keys⟩ := declares_of_client inClient
  rw [keys] at creatable
  exact (creatable_iff homeMember inHome).mp creatable

end Usable

/-! What accessors have to be for a class to work. -/

theorem Finds.creationFault_eq_none (finds : client.Finds source sub) (member : source ∈ client.sources)
    (used : sub ∈ source.usedClasses) : client.program.creationFault? sub.key = none := by
  obtain ⟨below, inClient, rfl, _⟩ := client.coherent.used_class member used
  obtain ⟨home, homeMember, inHome, keys⟩ := declares_of_client inClient
  rw [keys, creatable_iff homeMember inHome]
  exact finds.creatable below inClient rfl

private theorem Holds.serialized {store : Store} {id : ObjectId} {object : ProjectionObject} {tree : Selection}
    (holds : client.Holds store object tree) (has : store.HasObject key id object)
    (clear : client.program.accessFault? key = none) : client.program.serialized store id = .ok tree.serialize := by
  refine Store.Records.serialized has.found holds.1 fun reached content leads found => ?_
  cases leads with
  | refl =>
    obtain rfl := Option.some.inj (has.found.symm.trans found)
    exact ⟨has.ofClass ▸ clear, has.held⟩
  | step alsoFound recorded further =>
    obtain rfl := Option.some.inj (has.found.symm.trans alsoFound)
    exact holds.2 _ _ recorded reached content further found

section Unobstructed

variable (member : source ∈ client.sources) (inSource : projection ∈ source.projections)
  (unobstructed : projection.Unobstructed)
include member inSource unobstructed

private theorem unreached_of_vital {name : String} (vital : name ∈ Projection.vitalNames) :
    client.program.accessor? ⟨source.qualifiedName, projection.name⟩ name = none :=
  (unreached_iff member inSource (by decide)).mpr unobstructed.free name vital

private theorem accessFault_of_unobstructed :
    client.program.accessFault? ⟨source.qualifiedName, projection.name⟩ = none :=
  Program.accessFault_eq_none_iff.mpr (unreached_of_vital member inSource unobstructed (by decide))

/-- Nothing hides an accessor, and it belongs to the objects. -/
private theorem unhidden_of_unobstructed (inProjection : accessor ∈ projection.accessors) (id : ObjectId)
    (store : Store) :
    client.program.memberFault? id ⟨source.qualifiedName, projection.name⟩ accessor.name store = none ∧
      Program.belongsToClass accessor.name = false := by
  have unreserved := client.coherent.unreserved projection (Api.Coherent.mem_projections_of_source member inSource)
    accessor inProjection
  have free := unobstructed.free accessor inProjection
  obtain ⟨unmarked, ofObjects⟩ := Projection.not_mem_detachedNames.mp fun detached =>
    free (List.mem_append_right _ detached)
  have noData : accessor.name ≠ Program.fieldsName := fun same => unreserved (same ▸ by decide)
  exact ⟨Program.memberFault_eq_none (accessFault_of_unobstructed member inSource unobstructed) noData unmarked,
    ofObjects⟩

/-- A class works if no accessor is in the way and the classes that it goes on in are found. -/
private theorem usable_of_unobstructed
    (finds : ∀ accessor ∈ projection.accessors, ∀ sub, accessor.selector = .composite sub → client.Finds source sub) :
    client.Usable ⟨source.qualifiedName, projection.name⟩ projection where
  compiled := by
    intro declaration found method listed line
    obtain rfl := Option.some.inj ((class_of_source member inSource).symm.trans found)
    obtain ⟨accessor, inProjection, rfl⟩ := List.mem_map.mp listed
    refine Placement.bound_eq_ok_iff.mpr fun same => unobstructed.free accessor inProjection ?_
    rw [show accessor.name = debugConstant from same]
    decide
  defined := by
    intro declaration found
    obtain rfl := Option.some.inj ((class_of_source member inSource).symm.trans found)
    refine (definable_iff member inSource).mpr fun accessor inProjection listed => ?_
    exact unobstructed.free accessor inProjection (by simp [Projection.vitalNames, listed])
  made := by
    intro store
    have creatable := (creatable_iff member inSource).mpr fun accessor inProjection listed =>
      unobstructed.free accessor inProjection (by simp [Projection.vitalNames, listed])
    rw [Program.instantiate, creatable]
    rfl
  written := by
    intro store id object tree has holds
    have clear := accessFault_of_unobstructed member inSource unobstructed
    have unreached : client.program.accessor? ⟨source.qualifiedName, projection.name⟩ "serialize" = none := by
      rw [accessor_of_visible member inSource unobstructed.visible, Option.map_eq_none_iff, Projection.accessor?,
        List.find?_eq_none]
      intro accessor inProjection same
      refine client.coherent.unreserved projection (Api.Coherent.mem_projections_of_source member inSource) accessor
        inProjection ?_
      exact beq_iff_eq.mp same ▸ by decide
    rw [Program.callMember_serialize (Program.memberFault_eq_none clear (by decide) (by decide)) unreached,
      holds.serialized has clear]
    rfl
  described := by
    intro store id object tree has holds
    have clear := accessFault_of_unobstructed member inSource unobstructed
    have unreached := unreached_of_vital member inSource unobstructed (show "__repr__" ∈ _ by decide)
    simp only [Program.describeObject, has.found, has.ofClass, unreached, holds.serialized has clear]
    rfl
  leaf := by
    intro accessor inProjection selector store id object has
    obtain ⟨clear, ofObjects⟩ := unhidden_of_unobstructed member inSource unobstructed inProjection id store
    have reached := method_of_visible member inSource unobstructed.visible inProjection
    rw [ModuleSource.method, selector] at reached
    exact Program.callMember_of_leaf clear reached ofObjects has.found has.held
  composite := by
    intro accessor inProjection sub selector store id object has
    obtain ⟨clear, ofObjects⟩ := unhidden_of_unobstructed member inSource unobstructed inProjection id store
    have reached := method_of_visible member inSource unobstructed.visible inProjection
    rw [ModuleSource.method, selector] at reached
    have found := finds accessor inProjection sub selector
    have used := ModuleSource.mem_usedClasses.mpr ⟨projection, inSource, accessor, inProjection, selector⟩
    exact Program.openMember_of_composite clear reached ofObjects
      ((classBelow_iff member inSource used).mpr ⟨found.visible, found.bound⟩)
      (found.creationFault_eq_none member used) has.found has.held

end Unobstructed

/-- **A class works exactly where no name gets in the way.** A generated class works as every projection should if and
only if none of its accessors is private to it or has a name that is taken, and the module's name for each class that it
goes on in leads to that class, of which objects can be made. -/
theorem usable_iff (member : source ∈ client.sources) (inSource : projection ∈ source.projections) :
    client.Usable ⟨source.qualifiedName, projection.name⟩ projection ↔
      projection.Unobstructed ∧ ∀ accessor ∈ projection.accessors, ∀ sub, accessor.selector = .composite sub →
        client.Finds source sub := by
  constructor
  · exact fun usable => ⟨usable.unobstructed member inSource,
      fun accessor inProjection sub composite => usable.finds member inSource inProjection composite⟩
  · exact fun ⟨unobstructed, finds⟩ => usable_of_unobstructed member inSource unobstructed finds

namespace WellNamed

/-- Names that do not begin with two underscores are not in the way. -/
theorem unobstructed (named : client.WellNamed) (inApi : projection ∈ client.api.projections) :
    projection.Unobstructed where
  visible := fun accessor inProjection =>
    (named.ordinary.accessors projection inApi accessor inProjection).isPrivateName
  free := by
    intro accessor inProjection vital
    have special : ∀ name ∈ Projection.vitalNames,
        Text.beginsWith "__" name = true ∧ (name.toList.all (· == '_')) = false := by decide
    obtain ⟨begins, letters⟩ := special _ vital
    exact (named.ordinary.accessors projection inApi accessor inProjection).ne_special begins letters rfl

/-- Where names are clear, every class that a module goes on in is found there. -/
theorem finds (named : client.WellNamed) (member : source ∈ client.sources) (used : sub ∈ source.usedClasses) :
    client.Finds source sub where
  visible := (named.unambiguous_source member).visible sub used
  bound := by
    rw [← binding_eq_meaning member (client.coherent.annotationNames_differ member used)]
    exact named.binding_of_used member used
  creatable := by
    intro below inClient _ accessor inProjection listed
    exact (named.unobstructed (List.mem_append_right _ inClient)).free accessor inProjection
      (by simp [Projection.vitalNames, listed])

/-- Where names are clear, every class works. -/
theorem usable (named : client.WellNamed) (member : source ∈ client.sources)
    (inSource : projection ∈ source.projections) :
    client.Usable ⟨source.qualifiedName, projection.name⟩ projection :=
  usable_of_unobstructed member inSource
    (named.unobstructed (Api.Coherent.mem_projections_of_source member inSource))
    fun accessor inProjection _ composite =>
      named.finds member (ModuleSource.mem_usedClasses.mpr ⟨projection, inSource, accessor, inProjection, composite⟩)

end WellNamed

end Client

namespace Projection

open Schema Sdl

namespace Library

/-- The class of the library's books works. -/
theorem book_usable : ∃ source ∈ client.sources, ∃ book ∈ source.projections,
    (⟨"title", "title", .leaf, none⟩ : Accessor) ∈ book.accessors ∧
    (⟨"author", "author", .composite (context.projection author).classRef, none⟩ : Accessor) ∈ book.accessors ∧
    client.Usable ⟨source.qualifiedName, book.name⟩ book := by
  let source : ModuleSource :=
    ⟨"generated.client", projectionsModule, "Generated GraphQL projections.", client.api.clientProjections⟩
  have member : source ∈ client.sources := List.mem_filter.mpr ⟨List.mem_cons_self, rfl⟩
  have inSource : context.projection book ∈ source.projections := List.mem_cons_of_mem _ List.mem_cons_self
  refine ⟨source, member, _, inSource, by decide, by decide, ?_⟩
  refine (Client.usable_iff member inSource).mpr ⟨⟨by decide, by decide⟩, ?_⟩
  intro accessor inProjection sub composite
  exact client_wellNamed.finds member
    (ModuleSource.mem_usedClasses.mpr ⟨_, inSource, accessor, inProjection, composite⟩)

end Library

/-! A schema with a field that is called like the member by which objects are made. -/
namespace Hidden

theorem isName_a : Sdl.isName "a".toList = true := by decide

def holder : Target where
  fst := 1
  snd.kind := .object
  snd.name := ⟨"T", by decide +kernel⟩
  snd.fields := [{ name := ⟨"__init__", by decide +kernel⟩, type := ⟨[], ⟨"Int", Reserved.isName_int⟩⟩ }]

def query : TypeDefinition where
  kind := .object
  name := customaryQuery
  fields := [{ name := ⟨"a", isName_a⟩, type := ⟨[], holder.name⟩ }]

def schema : Document := [.type query, .type holder.2]

def context : Context := ⟨{}, schema⟩

theorem descent : context.Descent (context.rootTargets 0 query) [] [holder] [holder.entry] none := by
  have ofQuery : context.rootTargets 0 query = [holder] := by decide
  rw [ofQuery]
  exact .alone rfl (by decide) .done

def client : Client where
  settings := {}
  filters := []
  load := fun _ => ⟨.ok schema, "", []⟩
  api := { queryTypes := [context.rootProjectionOf 0 query], clientProjections := [context.projection holder] }
  files := []
  generated := by
    have root : findRoot? schema .query = some (0, query) := by decide +kernel
    refine (Generation.outcome_of_root rfl root).trans ?_
    exact congrArg (Except.mapError GenerationError.clash) (Context.generate_of_descent descent)

theorem documentable : ∀ document, (client.load ()).outcome = .ok document → Schema.Documentable document := by
  rintro document loaded
  cases loaded
  exact Schema.Documentable.of_entries (by decide)

/-- The schema is written to files that read as code and whose classes can all be defined, but no object can be made of
the class with that field. -/
theorem holder_unusable :
    (∃ files, render client.settings [] [] client.api = .ok files ∧
      ∀ file ∈ files, ∃ code, readCode file.2 = .ok code) ∧
    (∀ source ∈ client.sources, ∀ declaration ∈ source.toModule.classes,
      Program.classFault? declaration = none) ∧
    ∃ source ∈ client.sources, context.projection holder ∈ source.projections ∧
      client.program.instantiate ⟨source.qualifiedName, "TProjection"⟩ {}
        = Called.keep (.error (.missingMember "TProjection" "fields")) {} ∧
      ¬ client.Usable ⟨source.qualifiedName, "TProjection"⟩ (context.projection holder) := by
  have packages : ∀ package ∈ [client.settings.packageName, client.settings.clientPart],
      IsImportable package.text := by decide
  have unique : checkUnique [] (moduleSources client.api client.settings) = .ok () := by decide
  have each := Generation.layOut_reads client.generated packages documentable
    (fun header listed => absurd listed (@List.not_mem_nil _ header))
  have refused : client.program.creationFault? ⟨"generated.client.projections", "TProjection"⟩
      = some (.missingMember "TProjection" "fields") := by decide
  have fails : client.program.instantiate ⟨"generated.client.projections", "TProjection"⟩ {}
      = Called.keep (.error (.missingMember "TProjection" "fields")) {} := by
    rw [Program.instantiate, refused]
  refine ⟨⟨_, render_of_readCode unique each, List.forall_mem_map.mpr each⟩, by decide, ?_⟩
  refine ⟨⟨"generated.client", projectionsModule, "Generated GraphQL projections.", client.api.clientProjections⟩,
    List.mem_filter.mpr ⟨List.mem_cons_self, rfl⟩, List.mem_cons_self, fails, fun usable => ?_⟩
  cases fails.symm.trans (usable.made {})

end Hidden

end Projection

end SelectionGen
