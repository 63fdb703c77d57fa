import Mathlib.Logic.Relation
import SelectionGen.Proofs.ImportedPackages
import SelectionGen.Target.Placement

/-! Code that is complete in itself. Every import in the files of a run finds what it names, in the standard library, in
the support module or in another file of the run, and every class that a file uses is imported or defined there. Both
are said of the code that the files are read as, and seen one statement of it after the other. -/
namespace SelectionGen

namespace Target

/-! What code uses. -/

/-- All parameters of a function. -/
def Parameters.all (taken : Parameters) : List Parameter :=
  taken.byPlace ++ taken.regular ++ taken.others.toList ++ taken.byName ++ taken.mapping.toList

namespace Expression

/-- The expressions right inside an expression, in whatever block they are evaluated. -/
def inner (expression : Expression) : List Expression :=
  match expression.form with
  | .formatted pieces => pieces.flatMap fun
    | .plain _ => []
    | .field value _ format => [value, ⟨value.line, .formatted format⟩]
  | .function taken body => body :: taken.all.filterMap Parameter.default
  | .named target value => [target, value]
  | .collected _ element loops => element :: loops.flatMap fun loop => loop.target :: loop.source :: loop.conditions
  | .collectedEntries key value loops =>
    key :: value :: loops.flatMap fun loop => loop.target :: loop.source :: loop.conditions
  | _ => expression.parts

/-- One expression is part of another one, at whatever depth. -/
def Has : Expression → Expression → Prop := Relation.ReflTransGen fun outer part => part ∈ outer.inner

theorem has_iff {expression part : Expression} :
    expression.Has part ↔ part = expression ∨ ∃ inside ∈ expression.inner, inside.Has part := by
  rw [Has, Relation.ReflTransGen.cases_head_iff]
  exact or_congr_left eq_comm

section Forms

variable {line : Nat} {part : Expression}

@[simp] theorem has_name {text : String} :
    Has ⟨line, .name text⟩ part ↔ part = ⟨line, .name text⟩ := by
  rw [has_iff]
  simp [inner, parts]

@[simp] theorem has_constant {value : Constant} :
    Has ⟨line, .constant value⟩ part ↔ part = ⟨line, .constant value⟩ := by
  rw [has_iff]
  simp [inner, parts]

@[simp] theorem has_member {owner : Expression} {name : String} :
    Has ⟨line, .member owner name⟩ part ↔ part = ⟨line, .member owner name⟩ ∨ owner.Has part := by
  rw [has_iff]
  simp [inner, parts]

@[simp] theorem has_index {owner key : Expression} :
    Has ⟨line, .index owner key⟩ part ↔ part = ⟨line, .index owner key⟩ ∨ owner.Has part ∨ key.Has part := by
  rw [has_iff]
  simp [inner, parts]

@[simp] theorem has_call {called : Expression} {arguments : List Expression} :
    Has ⟨line, .call called arguments []⟩ part ↔ part = ⟨line, .call called arguments []⟩ ∨ called.Has part ∨
      ∃ argument ∈ arguments, argument.Has part := by
  rw [has_iff]
  simp [inner, parts]

@[simp] theorem has_list {elements : List Expression} :
    Has ⟨line, .list elements⟩ part ↔ part = ⟨line, .list elements⟩ ∨ ∃ element ∈ elements, element.Has part := by
  rw [has_iff]
  simp [inner, parts]

@[simp] theorem has_tuple {elements : List Expression} :
    Has ⟨line, .tuple elements⟩ part ↔ part = ⟨line, .tuple elements⟩ ∨ ∃ element ∈ elements, element.Has part := by
  rw [has_iff]
  simp [inner, parts]

end Forms

end Expression

namespace Statement

/-- The statements right inside a statement, in whatever block they are run. -/
def inner (statement : Statement) : List Statement :=
  match statement.form with
  | .function _ _ _ _ _ body | .type _ _ _ _ body => body
  | _ => statement.statements

/-- The names that the parameters of a function give to what it takes. -/
def parameterNames (statement : Statement) : List String :=
  match statement.form with
  | .function _ _ taken _ _ _ => taken.all.map Parameter.name
  | _ => []

def decorators (statement : Statement) : List Expression :=
  match statement.form with
  | .function _ _ _ _ decorators _ | .type _ _ _ decorators _ => decorators
  | _ => []

def bases (statement : Statement) : List Expression :=
  match statement.form with
  | .type _ arguments keywords _ _ => arguments ++ keywords.map Keyword.value
  | _ => []

/-- The types that a statement says something is of. -/
def annotations (statement : Statement) : List Expression :=
  match statement.form with
  | .function _ _ taken result _ _ => taken.all.filterMap Parameter.type ++ result.toList
  | .declaration _ type _ _ => [type]
  | _ => []

/-- A statement uses a class under a name as it is spelled, where the given names stand for something else: it decorates
with it, inherits from it, says that something is of its type, be it in quotes, or makes an object of it. -/
inductive Mentions (others : List String) (statement : Statement) (name : String) : Prop
  | decorator {expression part : Expression} (decorates : expression ∈ statement.decorators)
    (has : expression.Has part) (named : part.form = .name name)
  | base {expression part : Expression} (inherits : expression ∈ statement.bases) (has : expression.Has part)
    (named : part.form = .name name)
  | type {expression part : Expression} (annotates : expression ∈ statement.annotations)
    (has : expression.Has part) (named : part.form = .name name ∨ part.form = .constant (.text name))
  | constructor {expression part called : Expression} {arguments : List Expression} {keywords : List Keyword}
    (evaluated : expression ∈ statement.expressions ++ statement.annotations) (has : expression.Has part)
    (calls : part.form = .call called arguments keywords) (named : called.form = .name name) (isClass : name ∉ others)

theorem mentions_iff {others : List String} {statement : Statement} {name : String} :
    statement.Mentions others name ↔
      (∃ expression ∈ statement.decorators ++ statement.bases, ∃ part, expression.Has part ∧ part.form = .name name) ∨
      (∃ expression ∈ statement.annotations, ∃ part, expression.Has part ∧
        (part.form = .name name ∨ part.form = .constant (.text name))) ∨
      ∃ expression ∈ statement.expressions ++ statement.annotations, ∃ part, expression.Has part ∧
        ∃ called arguments keywords, part.form = .call called arguments keywords ∧ called.form = .name name ∧
          name ∉ others := by
  constructor
  · rintro (⟨decorates, has, named⟩ | ⟨inherits, has, named⟩ | ⟨annotates, has, named⟩ |
      ⟨evaluated, has, calls, named, isClass⟩)
    · exact .inl ⟨_, List.mem_append_left _ decorates, _, has, named⟩
    · exact .inl ⟨_, List.mem_append_right _ inherits, _, has, named⟩
    · exact .inr (.inl ⟨_, annotates, _, has, named⟩)
    · exact .inr (.inr ⟨_, evaluated, _, has, _, _, _, calls, named, isClass⟩)
  · rintro (⟨_, member, _, has, named⟩ | ⟨_, annotates, _, has, named⟩ |
      ⟨_, evaluated, _, has, _, _, _, calls, named, isClass⟩)
    · rcases List.mem_append.mp member with decorates | inherits
      · exact .decorator decorates has named
      · exact .base inherits has named
    · exact .type annotates has named
    · exact .constructor evaluated has calls named isClass

end Statement

/-- A statement of some code, at whatever depth, and the names of the parameters of the functions that it stands in. -/
inductive Stands (code : Code) : List String → Statement → Prop
  | here {statement : Statement} (member : statement ∈ code) : Stands code [] statement
  | inside {names : List String} {around statement : Statement} (outer : Stands code names around)
    (member : statement ∈ around.inner) : Stands code (around.parameterNames ++ names) statement

/-- Some code uses a class under a name. -/
def Uses (code : Code) (name : String) : Prop :=
  ∃ others statement, Stands code others statement ∧ statement.Mentions others name

/-- Some code defines a class. -/
def DefinesClass (code : Code) (name : String) : Prop :=
  ∃ line arguments keywords decorators body,
    (⟨line, .type name arguments keywords decorators body⟩ : Statement) ∈ code

/-- Some code brings something in under a name. -/
def ImportsName (code : Code) (name : String) : Prop :=
  ∃ line dots source names, (⟨line, .importsFrom dots source (some names)⟩ : Statement) ∈ code ∧
    ∃ found ∈ names, found.alias?.getD found.name = name

/-- There is a file with a class. -/
def Files.Provide (files : Files) (path name : String) : Prop :=
  ∃ text code, (path, text) ∈ files ∧ readCode text = .ok code ∧ DefinesClass code name

/-- What an import in a file finds: anything in the module of types, the two names of the support module, a class of a
module among the files, or, with a dot in front in the file of a package, a class of a module beside it. -/
inductive Resolves (files : Files) (path : String) : (dots : Nat) → (source name : String) → Prop
  | typing {name : String} : Resolves files path 0 "typing" name
  | support {name : String} (known : name = "BaseProjectionNode" ∨ name = "dsl_context") :
    Resolves files path 0 supportModule name
  | generated {source name : String} (provided : files.Provide (packagePath source ++ ".py") name) :
    Resolves files path 0 source name
  | beside {directory source name : String} (isPackage : path = directory ++ "/__init__.py")
    (provided : files.Provide (directory ++ "/" ++ source ++ ".py") name) : Resolves files path 1 source name

/-- The code of a file needs nothing but what there is. -/
structure SelfContained (files : Files) (path : String) (code : Code) : Prop where
  imports : ∀ others statement, Stands code others statement → ∀ dots source names,
    statement.form = .importsFrom dots source names → ∃ moduleName entries, source = some moduleName ∧
      names = some entries ∧ ∀ found ∈ entries, Resolves files path dots moduleName found.name
  uses : ∀ name, Uses code name → ImportsName code name ∨ DefinesClass code name

open Grammar

/-! What the statements of generated code use. -/

/-- What means this has no statement inside, imports nothing, and uses no classes but these where the other names stand
for something else. -/
structure UsesOnly (others used : List String) (means : Statement → Prop) : Prop where
  alone : ∀ statement, means statement → statement.inner = []
  importsNone : ∀ statement, means statement → ∀ dots source names, statement.form ≠ .importsFrom dots source names
  mentions : ∀ statement, means statement → ∀ name, statement.Mentions others name → name ∈ used

section Lines

open Statement

variable {others : List String}

theorem usesOnly_documenting (text : String) : UsesOnly others [] (documenting text).Fits := by
  constructor <;> rintro _ ⟨lines, rfl⟩
  · rfl
  · simp [documenting]
  · simp [mentions_iff, decorators, bases, annotations, expressions, documenting]

theorem usesOnly_passing : UsesOnly others [] passing.Fits := by
  constructor <;> rintro _ ⟨lines, rfl⟩
  · rfl
  · simp [passing]
  · simp [mentions_iff, decorators, bases, annotations, expressions, passing]

theorem usesOnly_returning (name : String) : UsesOnly others [] (returning name).Fits := by
  constructor <;> rintro _ ⟨lines, rfl⟩
  · rfl
  · simp [returning]
  · simp [mentions_iff, decorators, bases, annotations, expressions, returning]

theorem usesOnly_creating (localClass : String) : UsesOnly others [localClass] (creating localClass).Fits := by
  constructor <;> rintro _ ⟨lines, rfl⟩
  · rfl
  · simp [creating]
  · simp [mentions_iff, decorators, bases, annotations, expressions, creating]

theorem usesOnly_calling (isParameter : "init_block" ∈ others) : UsesOnly others [] calling.Fits := by
  constructor <;> rintro _ ⟨lines, rfl⟩
  · rfl
  · simp [calling]
  · simp [mentions_iff, decorators, bases, annotations, expressions, calling, isParameter]

theorem usesOnly_recording (fieldName : String) {value : ExpressionForm}
    (isPlain : value = .constant .nothing ∨ value = .name "projection") :
    UsesOnly others [] (recording fieldName value).Fits := by
  constructor <;> rintro _ ⟨lines, rfl⟩
  · rfl
  · simp [recording]
  · obtain rfl | rfl := isPlain <;>
      simp [mentions_iff, decorators, bases, annotations, expressions, recording]

end Lines

/-- The names that the parameters of a method give to what it takes. -/
def Method.parameterNames (method : Method) : List String :=
  match method.body with
  | .leaf => ["self"]
  | .composite _ => ["self", "init_block"]

/-- The classes that a method of a class uses. -/
def Method.classNames (owner : String) (method : Method) : List String :=
  match method.body with
  | .leaf => [owner]
  | .composite localClass => [localClass, "Callable", "Any"]

theorem usesOnly_documentation {others : List String} (description : Option String) :
    ∀ item ∈ documentationMeanings description, UsesOnly others [] item.2 := by
  cases description <;> simp [documentationMeanings, usesOnly_documenting]

theorem UsesOnly.mono {others used more : List String} {means : Statement → Prop}
    (usesOnly : UsesOnly others used means) (within : used ⊆ more) : UsesOnly others more means :=
  ⟨usesOnly.alone, usesOnly.importsNone, fun statement meant name mentions =>
    within (usesOnly.mentions statement meant name mentions)⟩

theorem Method.usesOnly_meanings (owner : String) (method : Method) :
    ∀ item ∈ method.meanings, UsesOnly method.parameterNames (method.classNames owner) item.2 := by
  refine List.forall_mem_append.mpr ⟨fun item member =>
    (usesOnly_documentation _ item member).mono (List.nil_subset _), ?_⟩
  unfold bodyMeanings parameterNames classNames
  cases method.body with
  | leaf =>
    refine List.forall_mem_cons.mpr ⟨(usesOnly_recording _ (.inl rfl)).mono (List.nil_subset _),
      List.forall_mem_singleton.mpr ((usesOnly_returning _).mono (List.nil_subset _))⟩
  | composite localClass =>
    refine List.forall_mem_cons.mpr ⟨(usesOnly_creating localClass).mono (by simp), List.forall_mem_cons.mpr
      ⟨(usesOnly_recording _ (.inr rfl)).mono (List.nil_subset _), List.forall_mem_cons.mpr
        ⟨(usesOnly_calling (by simp)).mono (List.nil_subset _),
          List.forall_mem_singleton.mpr ((usesOnly_returning _).mono (List.nil_subset _))⟩⟩⟩

/-- What a method is annotated with. -/
theorem Method.mentions {owner name : String} {method : Method} {statement : Statement} {others : List String}
    (means : method.Means owner statement) (mentions : statement.Mentions others name) :
    name ∈ method.classNames owner := by
  obtain ⟨lines, body, rfl, _⟩ := means
  unfold function at mentions
  unfold classNames
  cases shape : method.body <;>
    simp [shape, Statement.mentions_iff, Statement.decorators, Statement.bases, Statement.annotations,
      Statement.expressions, Parameters.all] at mentions ⊢ <;> tauto

namespace ClassDeclaration

/-- The classes that a class uses. -/
def classNames (declaration : ClassDeclaration) : List String :=
  declaration.base :: declaration.decorators ++ declaration.methods.flatMap (Method.classNames declaration.name)

theorem mentions {name : String} {declaration : ClassDeclaration} {statement : Statement} {others : List String}
    (means : declaration.Means statement) (mentions : statement.Mentions others name) :
    name ∈ declaration.classNames := by
  obtain ⟨line, base, decorators, body, rfl, ⟨baseLine, rfl⟩, named, _⟩ := means
  have decorates : ∀ expression ∈ decorators, ∃ found ∈ declaration.decorators, IsName found expression :=
    fun expression member => exists_left_of_mem named member
  have isName : ∀ expression ∈ [⟨baseLine, .name declaration.base⟩] ++ [] ++ decorators ++ [],
      ∃ found, IsName found expression := by
    intro expression member
    rw [List.append_nil, List.append_nil] at member
    rcases List.mem_cons.mp member with rfl | decorator
    · exact ⟨_, _, rfl⟩
    · obtain ⟨found, _, named⟩ := decorates _ decorator
      exact ⟨found, named⟩
  unfold classNames
  rcases mentions with ⟨member, has, isNamed⟩ | ⟨member, has, isNamed⟩ | ⟨member, _, _⟩ | ⟨member, has, calls, _, _⟩
  · obtain ⟨found, listed, line, rfl⟩ := decorates _ member
    obtain rfl := Expression.has_name.mp has
    obtain rfl := ExpressionForm.name.inj isNamed
    simp [listed]
  · obtain rfl := List.mem_singleton.mp member
    obtain rfl := Expression.has_name.mp has
    obtain rfl := ExpressionForm.name.inj isNamed
    simp
  · cases member
  · obtain ⟨found, line, rfl⟩ := isName _ member
    obtain rfl := Expression.has_name.mp has
    cases calls

end ClassDeclaration

/-! Where statements stand in a module. -/

namespace Module

variable {written : Module} {code : Code} {others : List String} {statement : Statement} {name : String}

/-- What statements of a module mean, with the parameters of the methods that they stand in. -/
inductive Place (written : Module) : List String → (Statement → Prop) → Prop
  | import {item : Import} (member : item ∈ typing :: written.imports) : Place written [] item.Means
  | type {declaration : ClassDeclaration} (member : declaration ∈ written.classes) : Place written [] declaration.Means
  | method {declaration : ClassDeclaration} {method : Method} (member : declaration ∈ written.classes)
    (inType : method ∈ declaration.methods) : Place written [] (method.Means declaration.name)
  | line {used others : List String} {means : Statement → Prop} (usesOnly : UsesOnly others used means)
    (within : ∀ name ∈ used, ∃ declaration ∈ written.classes, name ∈ declaration.classNames) :
    Place written others means

/-- Every statement of a module has a place in it. -/
theorem exists_place (meant : Meant written.meanings code) (stands : Stands code others statement) :
    ∃ means, written.Place others means ∧ means statement := by
  induction stands with
  | here member =>
    obtain ⟨item, listed, means⟩ := exists_left_of_mem meant member
    refine ⟨item.2, ?_, means⟩
    rcases List.mem_append.mp listed with inOpening | isClass
    · rcases List.mem_cons.mp inOpening with rfl | isImport
      · exact .line (usesOnly_documenting _) (by simp)
      · obtain ⟨imported, member, rfl⟩ := List.mem_map.mp isImport
        exact .import member
    · obtain ⟨declaration, member, rfl⟩ := List.mem_map.mp isClass
      exact .type member
  | inside _ member ih =>
    obtain ⟨means, place, around⟩ := ih
    cases place with
    | «import» _ =>
      obtain ⟨line, names, rfl, _⟩ := around
      cases member
    | type listed =>
      obtain ⟨line, base, decorators, body, rfl, _, _, inType⟩ := around
      obtain ⟨item, inMeanings, means⟩ := exists_left_of_mem inType member
      refine ⟨item.2, ?_, means⟩
      rcases List.mem_append.mp inMeanings with opens | isMethod
      · split_ifs at opens
        · obtain rfl := List.mem_singleton.mp opens
          exact .line usesOnly_passing (by simp)
        · exact .line (usesOnly_documentation _ item opens) (by simp)
      · obtain ⟨method, inMethods, rfl⟩ := List.mem_map.mp isMethod
        exact .method listed inMethods
    | @method declaration method listed inType =>
      obtain ⟨lines, body, rfl, inMethod⟩ := around
      have shape : (method.function declaration.name lines body).inner = body ∧
          (method.function declaration.name lines body).parameterNames = method.parameterNames := by
        unfold Method.function Method.parameterNames
        cases method.body <;> exact ⟨rfl, rfl⟩
      rw [shape.1] at member
      obtain ⟨item, inMeanings, means⟩ := exists_left_of_mem inMethod member
      refine ⟨item.2, ?_, means⟩
      rw [shape.2, List.append_nil]
      exact .line (method.usesOnly_meanings declaration.name item inMeanings) fun name used =>
        ⟨declaration, listed, List.mem_append_right _ (List.mem_flatMap.mpr ⟨method, inType, used⟩)⟩
    | line usesOnly _ =>
      rw [usesOnly.alone _ around] at member
      cases member

/-- The imports of a module stand where it says so. -/
theorem import_of_stands (meant : Meant written.meanings code) (stands : Stands code others statement) {dots : Nat}
    {source : Option String} {names : Option (List ImportedName)}
    (form : statement.form = .importsFrom dots source names) :
    ∃ item ∈ typing :: written.imports, item.Means statement := by
  obtain ⟨means, place, meant⟩ := exists_place meant stands
  cases place with
  | «import» member => exact ⟨_, member, meant⟩
  | type _ =>
    obtain ⟨line, base, decorators, body, rfl, _⟩ := meant
    cases form
  | @method declaration method _ _ =>
    obtain ⟨lines, body, rfl, _⟩ := meant
    unfold Method.function at form
    split at form <;> cases form
  | line usesOnly _ => exact absurd form (usesOnly.importsNone _ meant _ _ _)

/-- A module uses the classes that its own classes use. -/
theorem classNames_of_uses (meant : Meant written.meanings code) (uses : Uses code name) :
    ∃ declaration ∈ written.classes, name ∈ declaration.classNames := by
  obtain ⟨others, statement, stands, mentions⟩ := uses
  obtain ⟨means, place, meant⟩ := exists_place meant stands
  cases place with
  | «import» _ =>
    obtain ⟨line, names, rfl, _⟩ := meant
    simp [Statement.mentions_iff, Statement.decorators, Statement.bases, Statement.annotations,
      Statement.expressions] at mentions
  | type member => exact ⟨_, member, ClassDeclaration.mentions meant mentions⟩
  | @method declaration method member inType =>
    exact ⟨declaration, member, List.mem_append_right _ (List.mem_flatMap.mpr
      ⟨method, inType, Method.mentions meant mentions⟩)⟩
  | line usesOnly within => exact within name (usesOnly.mentions _ meant name mentions)

/-- What is on the left of related lists is related to something on the right. -/
theorem exists_right_of_mem {α β : Type} {related : α → β → Prop} {left : List α} {right : List β} {item : α}
    (lists : List.Forall₂ related left right) (member : item ∈ left) : ∃ other ∈ right, related item other :=
  exists_left_of_mem lists.flip member

theorem importsName (meant : Meant written.meanings code) {item : Import} (member : item ∈ typing :: written.imports)
    {entry : ImportEntry} (listed : entry ∈ item.entries) : ImportsName code entry.bound := by
  have inMeanings : (lineKinds item.parts, item.Means) ∈ written.meanings :=
    List.mem_append_left _ (List.mem_cons_of_mem _ (List.mem_map_of_mem member))
  obtain ⟨_, here, line, names, rfl, entries⟩ := exists_right_of_mem meant inMeanings
  rw [entries] at listed
  obtain ⟨found, inNames, rfl⟩ := List.mem_map.mp listed
  exact ⟨line, 0, some item.source, names, here, found, inNames, rfl⟩

theorem definesClass (meant : Meant written.meanings code) {declaration : ClassDeclaration}
    (member : declaration ∈ written.classes) : DefinesClass code declaration.name := by
  have inMeanings : (declaration.tokenKinds, declaration.Means) ∈ written.meanings :=
    List.mem_append_right _ (List.mem_map_of_mem member)
  obtain ⟨_, here, line, base, decorators, body, rfl, _⟩ := exists_right_of_mem meant inMeanings
  exact ⟨line, _, _, decorators, body, here⟩

end Module

/-! The files of packages, in which no statement stands inside another one. -/

section Packages

variable {package : String} {sources : List ModuleSource} {code : Code} {others : List String} {statement : Statement}

theorem usesOnly_offers (names : List String) : UsesOnly others [] (Offers names) := by
  constructor <;> rintro _ ⟨lines, values, rfl, listed⟩
  · rfl
  · simp
  · have isText : ∀ value ∈ values, ∃ line text, value = ⟨line, .constant (.text text)⟩ := fun value member => by
      obtain ⟨name, _, line, same⟩ := exists_left_of_mem listed member
      exact ⟨line, name, same⟩
    rintro name (⟨member, _, _⟩ | ⟨member, _, _⟩ | ⟨member, _, _⟩ | ⟨member, has, calls, _, _⟩)
    · cases member
    · cases member
    · cases member
    · rcases List.mem_pair.mp member with rfl | rfl
      · rcases Expression.has_list.mp has with rfl | ⟨value, inList, has⟩
        · cases calls
        · obtain ⟨line, text, rfl⟩ := isText value inList
          obtain rfl := Expression.has_constant.mp has
          cases calls
      · obtain rfl := Expression.has_name.mp has
        cases calls

/-- A statement of the file of a package brings in the classes of one of its modules, or uses nothing. -/
theorem package_place (meant : Meant (packageMeanings package sources) code) (stands : Stands code others statement) :
    (∃ source ∈ modulesIn package sources,
        Import.Imports 1 source.moduleName (entriesOf source.classNames) statement) ∨
      ∃ means, UsesOnly others [] means ∧ means statement := by
  induction stands with
  | here member =>
    obtain ⟨item, listed, means⟩ := exists_left_of_mem meant member
    rcases List.mem_cons.mp listed with rfl | later
    · exact .inr ⟨_, usesOnly_documenting _, means⟩
    · split_ifs at later
      · cases later
      · rcases List.mem_append.mp later with isImport | isOffer
        · obtain ⟨source, member, rfl⟩ := List.mem_map.mp isImport
          exact .inl ⟨source, member, means⟩
        · obtain rfl := List.mem_singleton.mp isOffer
          exact .inr ⟨_, usesOnly_offers _, means⟩
  | inside _ member ih =>
    rcases ih with ⟨source, _, line, names, rfl, _⟩ | ⟨means, usesOnly, around⟩
    · cases member
    · rw [usesOnly.alone _ around] at member
      cases member

theorem not_uses_of_package (meant : Meant (packageMeanings package sources) code) (name : String) :
    ¬ Uses code name := by
  rintro ⟨others, statement, stands, mentions⟩
  rcases package_place meant stands with ⟨source, _, line, names, rfl, _⟩ | ⟨means, usesOnly, meant⟩
  · simp [Statement.mentions_iff, Statement.decorators, Statement.bases, Statement.annotations,
      Statement.expressions] at mentions
  · exact List.not_mem_nil (usesOnly.mentions _ meant name mentions)

end Packages

end Target

namespace Api.Coherent

open Target

variable {settings : Settings} {api : Api} {source : ModuleSource} {name : String}

/-- Every class that the classes of a module use is imported or defined in the module. -/
theorem bound_of_className (coherent : api.Coherent settings) (member : source ∈ moduleSources api settings)
    {projection : Projection} (inSource : projection ∈ source.projections)
    (used : name ∈ (source.classDeclaration projection).classNames) :
    (∃ item ∈ Module.typing :: source.imports, ∃ entry ∈ item.entries, entry.bound = name) ∨
      ∃ other ∈ source.projections, other.name = name := by
  have imported {moduleName : String} {entry : ImportEntry} (inPairs : (moduleName, entry) ∈ source.importPairs) :
      ∃ item ∈ Module.typing :: source.imports, ∃ found ∈ item.entries, found.bound = entry.bound := by
    obtain ⟨item, listed, _, inItem⟩ := ModuleSource.exists_import inPairs
    exact ⟨item, List.mem_cons_of_mem _ listed, entry, inItem, rfl⟩
  have supported {reference : ClassRef} (isSupport : reference ∈ projection.baseClass :: projection.decorators) :
      ∃ item ∈ Module.typing :: source.imports, ∃ found ∈ item.entries, found.bound = reference.name :=
    imported (ModuleSource.mem_importPairs.mpr (.inl ⟨projection, inSource, reference, isSupport, rfl, rfl⟩))
  rcases List.mem_append.mp used with inHead | inMethods
  · have isSupport : name ∈ (projection.baseClass :: projection.decorators).map ClassRef.name := inHead
    obtain ⟨reference, listed, rfl⟩ := List.mem_map.mp isSupport
    exact .inl (supported listed)
  · obtain ⟨method, inClass, inMethod⟩ := List.mem_flatMap.mp inMethods
    obtain ⟨accessor, listed, rfl⟩ := List.mem_map.mp inClass
    cases selector : accessor.selector with
    | leaf =>
      obtain rfl : name = projection.name := by
        simpa [Method.classNames, ModuleSource.method, selector, ModuleSource.classDeclaration] using inMethod
      exact .inr ⟨projection, inSource, rfl⟩
    | composite sub =>
      have goesOn : name = source.localName sub ∨ name = "Callable" ∨ name = "Any" := by
        simpa [Method.classNames, ModuleSource.method, selector] using inMethod
      have typed (entry : ImportEntry) (isType : entry ∈ Module.typing.entries) :
          ∃ item ∈ Module.typing :: source.imports, ∃ found ∈ item.entries, found.bound = entry.bound :=
        ⟨Module.typing, List.mem_cons_self, entry, isType, rfl⟩
      rcases goesOn with rfl | rfl | rfl
      · have usedClass : sub ∈ source.usedClasses :=
          ModuleSource.mem_usedClasses.mpr ⟨projection, inSource, accessor, listed, selector⟩
        by_cases own : ModuleSource.moduleOf sub = source.qualifiedName
        · obtain ⟨_, below, defined, rfl⟩ := coherent.defined_of_own member usedClass own
          exact .inr ⟨below, defined, (ModuleSource.localName_of_own own).symm⟩
        · obtain ⟨entry, imports⟩ := ModuleSource.exists_importOf own
          have inPairs := ModuleSource.mem_importPairs.mpr (.inr ⟨sub, usedClass, imports, rfl⟩)
          exact .inl ((ModuleSource.importOf_spec imports).2 ▸ imported inPairs)
      · exact .inl (typed ⟨"Callable", none⟩ (by simp [Module.typing]))
      · exact .inl (typed ⟨"Any", none⟩ (by simp [Module.typing]))

end Api.Coherent

namespace Generation

open Target Grammar Schema

variable {settings : Settings} {filters : List TypeFilter} {load : Unit → Loading} {api : Api} {files : Files}

/-- A class is provided by the file of the module that it is written in. -/
theorem provided_of_render (done : (run settings filters load).outcome = .ok api)
    (rendered : render settings [] [] api = .ok files) {source : ModuleSource}
    (member : source ∈ moduleSources api settings) {projection : Projection}
    (inSource : projection ∈ source.projections) :
    files.Provide (packagePath source.package ++ "/" ++ source.moduleName ++ ".py") projection.name := by
  obtain ⟨areFiles, read⟩ := files_of_render done rendered
  obtain ⟨code, reads, meant⟩ := read _ _ (.module member)
  exact ⟨source.text, code, (areFiles _).mpr ⟨_, .module member⟩, reads,
    Module.definesClass meant (List.mem_map_of_mem inSource)⟩

/-- What a module imports is found. -/
theorem resolves_of_render (done : (run settings filters load).outcome = .ok api)
    (rendered : render settings [] [] api = .ok files) {source : ModuleSource}
    (member : source ∈ moduleSources api settings) (path : String) {item : Import}
    (listed : item ∈ Module.typing :: source.imports) :
    ∀ entry ∈ item.entries, Resolves files path 0 item.source entry.name := by
  intro entry inItem
  have coherent := coherent_of_run done
  rcases List.mem_cons.mp listed with rfl | isImport
  · exact .typing
  · rcases ModuleSource.mem_importPairs.mp ((ModuleSource.import_entries isImport).2 entry inItem) with
      ⟨projection, inSource, reference, isSupport, package, rfl⟩ | ⟨reference, used, imported, ofModule⟩
    · have inherited := coherent.inherits projection (Api.Coherent.mem_projections_of_source member inSource)
      rw [inherited.1, inherited.2] at isSupport
      rw [package]
      rcases List.mem_pair.mp isSupport with rfl | rfl
      · exact .support (.inl rfl)
      · exact .support (.inr rfl)
    · obtain ⟨below, inClient, rfl, inPackage⟩ := coherent.used_class member used
      obtain ⟨client, isSource, package, module, projections⟩ := @exists_client_source settings api below inClient
      have provided := provided_of_render done rendered isSource (projections ▸ inClient)
      have undotted : '.' ∉ projectionsModule.toList := by decide
      rw [package, module, ← Settings.packagePath_append _ _ undotted] at provided
      rw [(ModuleSource.importOf_spec imported).1, ofModule]
      exact .generated (by rwa [ModuleSource.moduleOf, inPackage])

/-- **What is written is complete in itself.** Whatever the schema and the settings, a run that has a result and whose
files are all written gives out files that each read as code, and every import in that code, wherever it stands, finds
what it names: something in the module of types, one of the two names of the support module, or a class of another file
that is given out. Every class that the code decorates with, inherits from, annotates with or makes objects of is
imported or defined in the same file. -/
theorem files_selfContained (done : (run settings filters load).outcome = .ok api)
    (rendered : render settings [] [] api = .ok files) :
    ∀ file ∈ files, ∃ code, readCode file.2 = .ok code ∧ SelfContained files file.1 code := by
  intro file member
  obtain ⟨areFiles, read⟩ := files_of_render done rendered
  obtain ⟨items, isFile⟩ := (areFiles file).mp member
  obtain ⟨code, reads, meant⟩ := read file items isFile
  refine ⟨code, reads, ?_⟩
  cases isFile with
  | @module source inSources =>
    refine ⟨fun others statement stands dots moduleName names form => ?_, fun name uses => ?_⟩
    · obtain ⟨item, listed, line, found, rfl, entries⟩ := Module.import_of_stands meant stands form
      cases form
      refine ⟨item.source, found, rfl, rfl, fun entry inNames => ?_⟩
      exact resolves_of_render done rendered inSources _ listed _ (entries ▸ List.mem_map_of_mem inNames)
    · obtain ⟨declaration, declared, used⟩ := Module.classNames_of_uses meant uses
      obtain ⟨projection, inSource, rfl⟩ := List.mem_map.mp declared
      rcases (coherent_of_run done).bound_of_className inSources inSource used with
        ⟨item, listed, entry, inItem, rfl⟩ | ⟨other, alsoIn, rfl⟩
      · exact .inl (Module.importsName meant listed inItem)
      · exact .inr (Module.definesClass meant (List.mem_map_of_mem alsoIn))
  | @package source package inSources onTheWay =>
    refine ⟨fun others statement stands dots moduleName names form => ?_,
      fun name uses => absurd uses (not_uses_of_package meant name)⟩
    rcases package_place meant stands with ⟨source, inPackage, line, found, rfl, entries⟩ | ⟨means, usesOnly, meant⟩
    · cases form
      refine ⟨source.moduleName, found, rfl, rfl, fun entry inNames => ?_⟩
      obtain ⟨isSource, samePackage⟩ := List.mem_filter.mp inPackage
      obtain rfl := beq_iff_eq.mp samePackage
      have listed : Import.entryOf entry ∈ entriesOf source.classNames := entries ▸ List.mem_map_of_mem inNames
      obtain ⟨name, isName, same⟩ := List.mem_map.mp listed
      obtain ⟨projection, inSource, rfl⟩ := List.mem_map.mp isName
      have named : projection.name = entry.name := congrArg ImportEntry.name same
      exact named ▸ .beside rfl (provided_of_render done rendered isSource inSource)
    · exact absurd form (usesOnly.importsNone _ meant _ _ _)

end Generation

/-! The entry point of this client leads to the type of its own name, whose class its module imports under another
name. -/

open Target

namespace Projection.Viewer

open Schema

theorem files_complete : ∃ files, render {} [] [] client.api = .ok files ∧
    (entryModule.path, entryModule.text) ∈ files ∧
    ∀ file ∈ files, ∃ code, readCode file.2 = .ok code ∧ SelfContained files file.1 code := by
  have packages : ∀ package ∈ [({} : Settings).packageName, ({} : Settings).clientPart], IsImportable package.text := by
    decide
  have documentable : ∀ document, (client.load ()).outcome = .ok document → Schema.Documentable document := by
    rintro document loaded
    obtain rfl : schema = document := Except.ok.inj loaded
    exact Schema.Documentable.of_entries (by decide)
  have unique : checkUnique [] (moduleSources client.api {}) = .ok () := by decide
  have rendered := render_of_readCode unique
    (Generation.layOut_reads client.generated packages documentable (List.forall_mem_nil _))
  have listed : entryModule ∈ moduleSources client.api {} :=
    List.mem_filter.mpr ⟨List.mem_cons_of_mem _ List.mem_cons_self, by decide⟩
  exact ⟨_, rendered, List.mem_map_of_mem (mem_layOut.mpr ⟨_, .module listed⟩),
    Generation.files_selfContained client.generated rendered⟩

end Projection.Viewer

end SelectionGen
