import Mathlib.Data.List.Nodup
import SelectionGen.Proofs.Client
import SelectionGen.Proofs.Recording

/-! The names by which a module knows the classes that its methods go on in. Each name is bound in one place, where the
class is imported or defined, and stands for one class, also if a class is imported under another name because
the module defines one of its own name. There is one exception: that other name is not compared with those of
the other classes that are imported, and if one of them has it, the name stands for both. -/
namespace SelectionGen

open Target

namespace Target

/-- What the methods of a module are annotated with, and where it comes from. -/
def annotationNames : List (String × ClassKey) :=
  [("Any", ⟨"typing", "Any"⟩), ("Callable", ⟨"typing", "Callable"⟩)]

/-- The names that a module binds and what they stand for, one entry for each place where a name is bound. -/
def Module.boundNames (written : Module) (moduleName : String) : List (String × ClassKey) :=
  annotationNames
    ++ (written.imports.flatMap fun item => item.entries.map fun entry => (entry.bound, ⟨item.source, entry.name⟩))
    ++ written.classes.map fun declaration => (declaration.name, ⟨moduleName, declaration.name⟩)

namespace ModuleSource

/-- Each class that the methods of a module go on in has a name there that no other of them has. The module binds
that name in one place, and there it stands for the class. -/
structure NamesClasses (source : ModuleSource) : Prop where
  distinct : ∀ first ∈ source.usedClasses, ∀ second ∈ source.usedClasses,
    source.localName first = source.localName second → first = second
  boundOnce : ∀ reference ∈ source.usedClasses,
    ((source.toModule.boundNames source.qualifiedName).filter fun entry => entry.1 == source.localName reference)
      = [(source.localName reference, reference.key)]

/-- A class has the name that another one is imported under because the module defines a class of its own name. -/
def AliasTaken (source : ModuleSource) : Prop :=
  ∃ first ∈ source.usedClasses, ∃ second ∈ source.usedClasses,
    moduleOf first ≠ source.qualifiedName ∧ source.definesName first.name = true ∧
      second.name = Text.capitalized (lastPart first.package) ++ first.name

/-- What a name stands for in a module: what it is bound to in the last of the places that bind it. -/
def meaning? (source : ModuleSource) (name : String) : Option ClassKey :=
  (source.toModule.boundNames source.qualifiedName).reverse.lookup name

variable {source : ModuleSource} {reference : ClassRef}

/-- Where names are clear, each stands for its class. -/
theorem NamesClasses.meaning_eq (clear : source.NamesClasses) (used : reference ∈ source.usedClasses) :
    source.meaning? (source.localName reference) = some reference.key := by
  have single := clear.boundOnce reference used
  refine lookup_of_unique (List.mem_reverse.mpr (List.mem_filter.mp (single ▸ List.mem_singleton_self _)).1) ?_
  intro key listed
  have kept : (source.localName reference, key) ∈ (source.toModule.boundNames source.qualifiedName).filter
      fun entry => entry.1 == source.localName reference :=
    List.mem_filter.mpr ⟨List.mem_reverse.mp listed, beq_self_eq_true _⟩
  rw [single, List.mem_singleton] at kept
  exact (Prod.mk.inj kept).2

/-- A class of another module is known by its own name or by one with the package in front. -/
theorem localName_of_foreign (foreign : moduleOf reference ≠ source.qualifiedName) :
    source.localName reference =
      if source.definesName reference.name = true then
        Text.capitalized (lastPart reference.package) ++ reference.name
      else reference.name := by
  rw [localName, importOf?, if_neg foreign]
  split_ifs <;> rfl

/-- The entries of the imports, each with the module that it is imported from. -/
def importedEntries (source : ModuleSource) : List (String × ImportEntry) :=
  source.imports.flatMap fun item => item.entries.map fun entry => (item.source, entry)

theorem mem_importedEntries {pair : String × ImportEntry} :
    pair ∈ source.importedEntries ↔ pair ∈ source.importPairs := by
  obtain ⟨moduleName, entry⟩ := pair
  simp only [importedEntries, imports, List.flatMap_map, List.mem_flatMap, List.mem_map, List.mem_mergeSort,
    List.mem_eraseDups, List.mem_filter, beq_iff_eq, Prod.mk.injEq]
  constructor
  · rintro ⟨_, _, _, ⟨⟨other, found⟩, ⟨member, rfl⟩, rfl⟩, rfl, rfl⟩
    exact member
  · intro member
    exact ⟨moduleName, ⟨_, member, rfl⟩, entry, ⟨_, ⟨member, rfl⟩, rfl⟩, rfl, rfl⟩

/-- What is to be imported is an entry of an import. -/
theorem exists_import {moduleName : String} {entry : ImportEntry} (member : (moduleName, entry) ∈ source.importPairs) :
    ∃ item ∈ source.imports, item.source = moduleName ∧ entry ∈ item.entries := by
  obtain ⟨item, listed, inItem⟩ := List.mem_flatMap.mp (mem_importedEntries.mpr member)
  obtain ⟨found, inEntries, same⟩ := List.mem_map.mp inItem
  obtain ⟨rfl, rfl⟩ := Prod.mk.inj same
  exact ⟨item, listed, rfl, inEntries⟩

/-- Nothing is imported twice. -/
theorem importedEntries_nodup (source : ModuleSource) : source.importedEntries.Nodup := by
  have modules : ((source.importPairs.map Prod.fst).eraseDups.mergeSort fun a b => decide (a ≤ b)).Nodup :=
    (List.mergeSort_perm _ _).nodup_iff.mpr (nodup_eraseDups _)
  rw [importedEntries, imports, List.flatMap_map, List.nodup_flatMap]
  refine ⟨fun moduleName _ => ?_, modules.imp fun {one other} different => ?_⟩
  · have entries := nodup_eraseDups ((source.importPairs.filter fun pair => pair.1 == moduleName).map Prod.snd)
    exact entries.map fun _ _ same => (Prod.mk.inj same).2
  · intro pair inOne inOther
    obtain ⟨_, _, rfl⟩ := List.mem_map.mp inOne
    obtain ⟨_, _, same⟩ := List.mem_map.mp inOther
    exact different (Prod.mk.inj same).1.symm

end ModuleSource

end Target

private theorem filter_eq_singleton {α : Type} {list : List α} {found : α} (fits : α → Bool) (distinct : list.Nodup)
    (member : found ∈ list) (holds : fits found = true)
    (only : ∀ other ∈ list, fits other = true → other = found) : list.filter fits = [found] := by
  rw [← List.perm_singleton, List.perm_ext_iff_of_nodup (distinct.filter _) (List.nodup_singleton _)]
  intro other
  rw [List.mem_filter, List.mem_singleton]
  constructor
  · exact fun ⟨listed, alike⟩ => only other listed alike
  · rintro rfl
    exact ⟨member, holds⟩

namespace Api.Coherent

variable {settings : Settings} {api : Api} {source : ModuleSource} {reference : ClassRef}

/-- The client's module defines all classes that it goes on in, the module of the entry point none. -/
theorem own_or_foreign (coherent : api.Coherent settings) (member : source ∈ moduleSources api settings) :
    (source.moduleName = projectionsModule ∧ ∀ reference ∈ source.usedClasses,
        ModuleSource.moduleOf reference = source.qualifiedName ∧
          ∃ projection ∈ source.projections, projection.classRef = reference) ∨
      (source.moduleName = queriesModule ∧ ∀ reference ∈ source.usedClasses,
        ModuleSource.moduleOf reference ≠ source.qualifiedName) := by
  rcases source_cases member with ⟨isClient, inClient, same⟩ | ⟨isQueries, inQueries, same⟩
  · refine .inl ⟨isClient, fun reference used => ?_⟩
    obtain ⟨below, inApi, named, package⟩ := coherent.used_class member used
    exact ⟨by rw [ModuleSource.moduleOf, package, ModuleSource.qualifiedName, inClient, isClient],
      below, same ▸ inApi, named⟩
  · refine .inr ⟨isQueries, fun reference used own => ?_⟩
    rw [ModuleSource.moduleOf, ModuleSource.qualifiedName, isQueries] at own
    exact modules_differ _ _ own

/-- What a module goes on in without an import it defines itself, and nothing twice. -/
theorem defined_of_own (coherent : api.Coherent settings) (member : source ∈ moduleSources api settings)
    (used : reference ∈ source.usedClasses) (own : ModuleSource.moduleOf reference = source.qualifiedName) :
    source.projections.Nodup ∧ ∃ projection ∈ source.projections, projection.classRef = reference := by
  rcases coherent.own_or_foreign member with ⟨isClient, defined⟩ | ⟨_, foreign⟩
  · refine ⟨?_, (defined reference used).2⟩
    rcases source_cases member with ⟨_, _, same⟩ | ⟨isQueries, _⟩
    · exact same ▸ coherent.distinct.of_map _
    · rw [isClient] at isQueries
      exact absurd isQueries (by decide)
  · exact absurd own (foreign reference used)

/-- Classes that a module goes on in have different names: they are all of one package. -/
theorem used_ext (coherent : api.Coherent settings) (member : source ∈ moduleSources api settings)
    {first second : ClassRef} (usedFirst : first ∈ source.usedClasses) (usedSecond : second ∈ source.usedClasses)
    (names : first.name = second.name) : first = second := by
  obtain ⟨_, _, _, ofFirst⟩ := coherent.used_class member usedFirst
  obtain ⟨_, _, _, ofSecond⟩ := coherent.used_class member usedSecond
  cases first
  cases second
  cases names
  cases ofFirst
  cases ofSecond
  rfl

/-- Classes of which none has the other name of another one are known by different names. -/
theorem localName_injective (coherent : api.Coherent settings) (member : source ∈ moduleSources api settings)
    (free : ¬ source.AliasTaken) : ∀ first ∈ source.usedClasses, ∀ second ∈ source.usedClasses,
      source.localName first = source.localName second → first = second := by
  intro first usedFirst second usedSecond same
  rcases coherent.own_or_foreign member with ⟨_, own⟩ | ⟨_, foreign⟩
  · rw [ModuleSource.localName_of_own (own first usedFirst).1,
      ModuleSource.localName_of_own (own second usedSecond).1] at same
    exact coherent.used_ext member usedFirst usedSecond same
  · rw [ModuleSource.localName_of_foreign (foreign first usedFirst),
      ModuleSource.localName_of_foreign (foreign second usedSecond)] at same
    obtain ⟨_, _, _, ofFirst⟩ := coherent.used_class member usedFirst
    obtain ⟨_, _, _, ofSecond⟩ := coherent.used_class member usedSecond
    split_ifs at same with sharedFirst sharedSecond sharedSecond
    · rw [ofFirst, ofSecond, ← String.toList_inj, String.toList_append, String.toList_append] at same
      exact coherent.used_ext member usedFirst usedSecond
        (String.toList_inj.mp (List.append_cancel_left same))
    · exact absurd ⟨first, usedFirst, second, usedSecond, foreign first usedFirst, sharedFirst, same.symm⟩ free
    · exact absurd ⟨second, usedSecond, first, usedFirst, foreign second usedSecond, sharedSecond, same⟩ free
    · exact coherent.used_ext member usedFirst usedSecond same

/-- The classes that share a name are two, since no package is called by nothing. -/
theorem not_injective_of_aliasTaken (coherent : api.Coherent settings) (member : source ∈ moduleSources api settings)
    (taken : source.AliasTaken) : ¬ ∀ first ∈ source.usedClasses, ∀ second ∈ source.usedClasses,
      source.localName first = source.localName second → first = second := by
  obtain ⟨first, usedFirst, second, usedSecond, foreign, shared, named⟩ := taken
  intro injective
  have known : source.localName first = second.name := by
    rw [ModuleSource.localName_of_foreign foreign, if_pos shared, named]
  obtain ⟨_, _, _, ofFirst⟩ := coherent.used_class member usedFirst
  obtain ⟨_, _, _, ofSecond⟩ := coherent.used_class member usedSecond
  have alsoForeign : ModuleSource.moduleOf second ≠ source.qualifiedName := by
    rwa [ModuleSource.moduleOf, ofSecond, ← ofFirst]
  have undefined : source.definesName second.name = false :=
    known ▸ coherent.localName_undefined member usedFirst foreign
  have own : source.localName second = second.name := ModuleSource.localName_of_undefined undefined
  have same := injective first usedFirst second usedSecond (known.trans own.symm)
  rw [← same, ofFirst] at named
  have empty : (Text.capitalized (ModuleSource.lastPart settings.clientPackage)).toList = [] := by
    simpa using congrArg String.toList named
  exact capitalized_lastPart_ne settings (String.toList_inj.mp empty)

/-- What methods are annotated with is called otherwise than any class. -/
theorem annotationNames_differ (coherent : api.Coherent settings) (member : source ∈ moduleSources api settings)
    (used : reference ∈ source.usedClasses) : ∀ entry ∈ annotationNames, entry.1 ≠ source.localName reference := by
  obtain ⟨front, ends⟩ := coherent.localName_ends member used
  intro entry listed same
  have lasts := congrArg (fun name => name.toList.getLast?) (same.trans ends)
  rcases List.mem_pair.mp listed with rfl | rfl <;> simp at lasts

/-- The imports bind the name of a class of another module once, and nothing of a class that the module defines. -/
private theorem bound_by_imports (coherent : api.Coherent settings) (member : source ∈ moduleSources api settings)
    (distinct : ∀ first ∈ source.usedClasses, ∀ second ∈ source.usedClasses,
      source.localName first = source.localName second → first = second)
    (used : reference ∈ source.usedClasses) :
    (source.bindings.filter fun entry => entry.1 == source.localName reference)
      = if ModuleSource.moduleOf reference = source.qualifiedName then []
        else [(source.localName reference, reference.key)] := by
  have listed : source.bindings
      = source.importedEntries.map fun pair => (pair.2.bound, ⟨pair.1, pair.2.name⟩) := by
    rw [ModuleSource.bindings, ModuleSource.importedEntries, List.map_flatMap]
    simp only [List.map_map, Function.comp_def]
  have only : ∀ pair ∈ source.importedEntries, pair.2.bound = source.localName reference →
      source.importOf? reference = some pair.2 ∧ pair.1 = ModuleSource.moduleOf reference :=
    fun pair inEntries =>
      coherent.importPair_unique member distinct used (ModuleSource.mem_importedEntries.mp inEntries)
  rw [listed, List.filter_map]
  split_ifs with own
  · rw [List.map_eq_nil_iff, List.filter_eq_nil_iff]
    intro pair inEntries bound
    obtain ⟨imported, _⟩ := only pair inEntries (beq_iff_eq.mp bound)
    rw [ModuleSource.importOf?, if_pos own] at imported
    cases imported
  · obtain ⟨entry, imported⟩ := ModuleSource.exists_importOf own
    obtain ⟨entryName, bound⟩ := ModuleSource.importOf_spec imported
    have inEntries : (ModuleSource.moduleOf reference, entry) ∈ source.importedEntries :=
      ModuleSource.mem_importedEntries.mpr (ModuleSource.mem_importPairs.mpr (.inr ⟨reference, used, imported, rfl⟩))
    have single := filter_eq_singleton (fun pair => pair.2.bound == source.localName reference)
      source.importedEntries_nodup inEntries (beq_iff_eq.mpr bound) fun pair alsoIn alsoBound => by
        obtain ⟨alike, inModule⟩ := only pair alsoIn (beq_iff_eq.mp alsoBound)
        rw [imported] at alike
        exact Prod.ext inModule (Option.some.inj alike).symm
    rw [show _ ∘ _ = fun (pair : String × ImportEntry) => pair.2.bound == source.localName reference from rfl,
      single, List.map_singleton, bound, entryName]
    rfl

/-- The classes of a module bind the name of a class that the module defines once, and no other. -/
private theorem bound_by_classes (coherent : api.Coherent settings) (member : source ∈ moduleSources api settings)
    (used : reference ∈ source.usedClasses) :
    ((source.toModule.classes.map fun declaration => (declaration.name, (⟨source.qualifiedName, declaration.name⟩ :
        ClassKey))).filter fun entry => entry.1 == source.localName reference)
      = if ModuleSource.moduleOf reference = source.qualifiedName then [(source.localName reference, reference.key)]
        else [] := by
  have listed : (source.toModule.classes.map fun declaration => (declaration.name,
        (⟨source.qualifiedName, declaration.name⟩ : ClassKey)))
      = source.projections.map fun projection => (projection.name, ⟨source.qualifiedName, projection.name⟩) := by
    rw [ModuleSource.toModule, List.map_map]
    rfl
  rw [listed, List.filter_map]
  split_ifs with own
  · obtain ⟨distinct, below, inSource, rfl⟩ := coherent.defined_of_own member used own
    have single := filter_eq_singleton (fun projection => projection.name == below.name)
      distinct inSource (beq_self_eq_true _) fun other alsoIn same =>
        coherent.source_names member other alsoIn below inSource (beq_iff_eq.mp same)
    rw [ModuleSource.localName_of_own own, show _ ∘ _ = fun projection => projection.name == below.name from rfl,
      single, List.map_singleton, ClassRef.key, own]
    rfl
  · rw [List.map_eq_nil_iff, List.filter_eq_nil_iff]
    intro projection inSource same
    have defined : source.definesName (source.localName reference) = true :=
      List.any_eq_true.mpr ⟨projection, inSource, same⟩
    rw [coherent.localName_undefined member used own] at defined
    cases defined

/-- The names of classes are clear exactly where no class has the other name of another one. -/
theorem namesClasses_iff (coherent : api.Coherent settings) (member : source ∈ moduleSources api settings) :
    source.NamesClasses ↔ ¬ source.AliasTaken := by
  constructor
  · exact fun clear taken => coherent.not_injective_of_aliasTaken member taken clear.distinct
  · intro free
    have distinct := coherent.localName_injective member free
    refine ⟨distinct, fun reference used => ?_⟩
    have annotations : (annotationNames.filter fun entry => entry.1 == source.localName reference) = [] :=
      List.filter_eq_nil_iff.mpr fun entry listed same =>
        coherent.annotationNames_differ member used entry listed (beq_iff_eq.mp same)
    have imports := coherent.bound_by_imports member distinct used
    have classes := coherent.bound_by_classes member used
    rw [ModuleSource.bindings] at imports
    rw [Module.boundNames, List.filter_append, List.filter_append, annotations, List.nil_append]
    rw [show source.toModule.imports = source.imports from rfl, imports, classes]
    split_ifs <;> rfl

/-- No class of the client's module is imported, so none has another name there. -/
theorem not_aliasTaken_of_client (coherent : api.Coherent settings) (member : source ∈ moduleSources api settings)
    (isClient : source.moduleName = projectionsModule) : ¬ source.AliasTaken := by
  rintro ⟨first, used, _, _, foreign, _⟩
  rcases coherent.own_or_foreign member with ⟨_, own⟩ | ⟨isQueries, _⟩
  · exact foreign (own first used).1
  · rw [isClient] at isQueries
    exact absurd isQueries (by decide)

end Api.Coherent

namespace Client

variable {client : Client} {source : ModuleSource} {reference : ClassRef}

/-- The name of a class that a module defines is bound to that class. -/
private theorem lookup_classes (classes : List ClassDeclaration) (moduleName name : String) :
    (classes.map fun declaration => (declaration.name, (⟨moduleName, declaration.name⟩ : ClassKey))).reverse.lookup
        name
      = if classes.any fun declaration => declaration.name == name then some ⟨moduleName, name⟩ else none := by
  have named : ∀ key, (name, key) ∈ (classes.map fun declaration =>
      (declaration.name, (⟨moduleName, declaration.name⟩ : ClassKey))).reverse →
        key = ⟨moduleName, name⟩ ∧ classes.any (fun declaration => declaration.name == name) = true := by
    intro key listed
    obtain ⟨declaration, inClasses, same⟩ := List.mem_map.mp (List.mem_reverse.mp listed)
    obtain ⟨rfl, rfl⟩ := Prod.mk.inj same
    exact ⟨rfl, List.any_eq_true.mpr ⟨declaration, inClasses, beq_self_eq_true _⟩⟩
  split_ifs with defined
  · obtain ⟨declaration, inClasses, same⟩ := List.any_eq_true.mp defined
    obtain rfl := beq_iff_eq.mp same
    exact lookup_of_unique (List.mem_reverse.mpr (List.mem_map.mpr ⟨declaration, inClasses, rfl⟩)) fun key listed =>
      (named key listed).1
  · refine List.lookup_eq_none_iff.mpr fun entry listed => bne_iff_ne.mpr ?_
    rintro rfl
    exact defined (named entry.2 listed).2

/-- What a name is found to mean is what it is bound to last, the names that only annotate apart. -/
theorem binding_eq_meaning (member : source ∈ client.sources) {name : String}
    (free : ∀ entry ∈ annotationNames, entry.1 ≠ name) :
    client.program.binding? source.qualifiedName name = source.meaning? name := by
  have annotations : annotationNames.reverse.lookup name = none :=
    List.lookup_eq_none_iff.mpr fun entry listed => by simpa using (free entry (List.mem_reverse.mp listed)).symm
  rw [Program.binding?, module_of_source member, Option.bind_eq_bind, Option.bind_some, ModuleSource.meaning?,
    Module.boundNames, List.reverse_append, List.reverse_append, List.lookup_append, List.lookup_append, annotations,
    Option.or_none, lookup_classes]
  split_ifs
  · rfl
  · rfl

/-- **Modules know classes by clear names unless a name is taken.** In the modules of a client no two classes that
methods go on in are known by one name, and each such name is bound once, by the import or the definition of its
class, exactly where no class that is used has the name which another one gets because the module defines a class of
its own name. In the client's module this never happens. And where names are clear, what a method makes under a
name that is not private to its class is an object of the very class that the name was given for. -/
theorem names_clear_iff {client : Client} {source : ModuleSource} (member : source ∈ client.sources) :
    (source.NamesClasses ↔ ¬ source.AliasTaken) ∧
    (source.moduleName = projectionsModule → source.NamesClasses) ∧
    (source.NamesClasses → ∀ projection ∈ source.projections, ∀ reference ∈ source.usedClasses,
      isPrivateName (source.localName reference) = false →
        client.program.classBelow ⟨source.qualifiedName, projection.name⟩ (source.localName reference)
          = .ok reference.key) := by
  have clear := client.coherent.namesClasses_iff member
  refine ⟨clear, fun isClient => clear.mpr (client.coherent.not_aliasTaken_of_client member isClient), ?_⟩
  intro named projection _ reference used visible
  have outer : outerName projection.name (source.localName reference) = source.localName reference := by
    rw [outerName, visible]
    rfl
  have found := binding_eq_meaning member (client.coherent.annotationNames_differ member used)
  rw [Program.classBelow, outer, found, named.meaning_eq used]

end Client

/-! A schema whose entry point is the type of one of its own fields, so that its class is imported into the module that
defines a class of the same name. -/
namespace Projection.Viewer

open Schema Sdl

def book : Target where
  fst := 1
  snd.kind := .object
  snd.name := Library.bookName
  snd.fields := [{ name := ⟨"number", by decide +kernel⟩, type := ⟨[], ⟨"ID", by decide +kernel⟩⟩ }]

def query : TypeDefinition where
  kind := .object
  name := customaryQuery
  fields :=
    [{ name := ⟨"viewer", by decide +kernel⟩, type := ⟨[], customaryQuery⟩ },
     { name := ⟨"book", by decide +kernel⟩, type := ⟨[], book.name⟩ }]

def root : Target := ⟨0, query⟩

def schema : Document := [.type query, .type book.2]

def context : Context := ⟨{}, schema⟩

theorem descent : context.Descent (context.rootTargets 0 query) [] [book, root] [root.entry, book.entry] none := by
  have ofQuery : context.rootTargets 0 query = [root, book] := by decide
  have ofRoot : context.targets root = [root, book] := by decide
  have freshRoot : List.lookup root.className [] = (none : Option String) := rfl
  have freshBook : List.lookup book.className [root.entry] = none := by decide
  have belowRoot : context.Descent (context.targets root) [root.entry] [book] [root.entry, book.entry] none := by
    rw [ofRoot]
    exact .met (by decide) (.alone freshBook (by decide) .done)
  rw [ofQuery]
  exact .finished freshRoot belowRoot (.met (by decide) .done)

def client : Client where
  settings := {}
  filters := []
  load := fun _ => ⟨.ok schema, "", []⟩
  api := { queryTypes := [context.rootProjectionOf 0 query]
           clientProjections := [context.projection book, context.projection root] }
  files := []
  generated := by
    have root : findRoot? schema .query = some (0, query) := by decide +kernel
    refine (Generation.outcome_of_root rfl root).trans ?_
    exact congrArg (Except.mapError GenerationError.clash) (Context.generate_of_descent descent)

/-- The module of the entry point. -/
def entryModule : ModuleSource :=
  ⟨"generated.queries", queriesModule, "Generated GraphQL root query projections.", client.api.queryTypes⟩

/-- The class of the entry point's type is known by a name of its own, and the entry point makes an object of it. -/
theorem viewer_names_clear :
    entryModule ∈ client.sources ∧ entryModule.NamesClasses ∧
    entryModule.localName (context.projection root).classRef = "ClientQueryProjection" ∧
    client.program.classBelow ⟨entryModule.qualifiedName, "QueryProjection"⟩ "ClientQueryProjection"
      = .ok (context.projection root).classRef.key := by
  have listed : entryModule ∈ client.sources :=
    List.mem_filter.mpr ⟨List.mem_cons_of_mem _ List.mem_cons_self, by decide⟩
  have used : entryModule.usedClasses = [(context.projection root).classRef, (context.projection book).classRef] := by
    decide
  have known : entryModule.localName (context.projection root).classRef = "ClientQueryProjection" := by decide
  obtain ⟨clear, _, found⟩ := Client.names_clear_iff listed
  have named : entryModule.NamesClasses := by
    refine clear.mpr ?_
    rintro ⟨first, usedFirst, second, usedSecond, _, _, same⟩
    rw [used] at usedFirst usedSecond
    have differ : ∀ first ∈ [(context.projection root).classRef, (context.projection book).classRef],
        ∀ second ∈ [(context.projection root).classRef, (context.projection book).classRef],
          second.name ≠ Text.capitalized (ModuleSource.lastPart first.package) ++ first.name := by decide
    exact differ first usedFirst second usedSecond same
  refine ⟨listed, named, known, ?_⟩
  have reached := found named (context.rootProjectionOf 0 query) List.mem_cons_self (context.projection root).classRef
    (used ▸ List.mem_cons_self) (known ▸ by decide)
  rwa [known] at reached

end Projection.Viewer

namespace Projection.Namesakes

open Schema

/-- Where another class has the name that a class gets, both are known by it, and it is imported twice. -/
theorem namesakes_share_name :
    entryModule ∈ client.sources ∧
    ∃ first ∈ entryModule.usedClasses, ∃ second ∈ entryModule.usedClasses, first ≠ second ∧
      entryModule.localName first = entryModule.localName second ∧
      ((entryModule.toModule.boundNames entryModule.qualifiedName).filter fun entry =>
          entry.1 == entryModule.localName first) = [(second.name, first.key), (second.name, second.key)] ∧
      ¬ entryModule.NamesClasses := by
  have listed : entryModule ∈ client.sources :=
    List.mem_filter.mpr ⟨List.mem_cons_of_mem _ List.mem_cons_self, by decide⟩
  have used : entryModule.usedClasses
      = [(context.projection namesake).classRef, (context.projection occupant).classRef] := by decide
  have different : (context.projection namesake).classRef ≠ (context.projection occupant).classRef := by decide
  have same : entryModule.localName (context.projection namesake).classRef
      = entryModule.localName (context.projection occupant).classRef := by decide
  refine ⟨listed, _, used ▸ List.mem_cons_self, _, used ▸ List.mem_cons_of_mem _ List.mem_cons_self, different, same,
    ?_, fun clear => different (clear.distinct _ ?_ _ ?_ same)⟩
  · rw [Module.boundNames, show entryModule.toModule.imports = _ from imports]
    decide
  · exact used ▸ List.mem_cons_self
  · exact used ▸ List.mem_cons_of_mem _ List.mem_cons_self

end Projection.Namesakes

end SelectionGen
