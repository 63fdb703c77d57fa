import SelectionGen.Proofs.Coherence
import SelectionGen.Proofs.PackageNames
import SelectionGen.Selection.Objects

/-! Generated classes as code finds them. A module of the client knows every class under its own name; the
module of the entry points binds another name for a class that is called like the entry point. As long
as that name is not one that the module binds already, each name reaches the class it was written for. -/
namespace SelectionGen

open Target

section Search

variable {α β : Type}

theorem find?_of_unique {list : List α} {wanted : α → Bool} {found : α} (member : found ∈ list)
    (fits : wanted found = true) (only : ∀ other ∈ list, wanted other = true → other = found) :
    list.find? wanted = some found := by
  cases hit : list.find? wanted with
  | none => exact absurd fits (List.find?_eq_none.mp hit found member)
  | some other => rw [only other (List.mem_of_find?_eq_some hit) (List.find?_some hit)]

theorem lookup_of_unique [BEq α] [LawfulBEq α] {entries : List (α × β)} {name : α} {value : β}
    (member : (name, value) ∈ entries) (only : ∀ other, (name, other) ∈ entries → other = value) :
    entries.lookup name = some value := by
  induction entries with
  | nil => cases member
  | cons entry rest ih =>
    obtain ⟨key, held⟩ := entry
    by_cases same : name = key
    · subst same
      rw [List.lookup_cons_self, only held List.mem_cons_self]
    · rw [List.lookup_cons, beq_false_of_ne same]
      refine ih ?_ fun other later => only other (List.mem_cons_of_mem _ later)
      exact (List.mem_cons.mp member).resolve_left fun first => same (Prod.ext_iff.mp first).1

end Search

/-- The class that a reference stands for. -/
def ClassRef.key (reference : ClassRef) : ClassKey := ⟨ModuleSource.moduleOf reference, reference.name⟩

section Packages

open Text

variable {separator : Char} {front text : List Char}

/-- The last part of an accepted package name begins like a name. -/
private theorem lastPiece_of_accepted (accepted : Settings.acceptsPackage text = true) :
    ∃ pieces c rest, splitAt '.' text = pieces ++ [c :: rest] ∧ Sdl.isNameStart c = true := by
  obtain ⟨pieces, last, whole⟩ : ∃ pieces last, splitAt '.' text = pieces ++ [last] :=
    ⟨_, _, (List.dropLast_append_getLast (splitAt_ne_nil '.' text)).symm⟩
  have isPiece : last ∈ splitAt '.' text := whole ▸ List.mem_append_right _ List.mem_cons_self
  obtain ⟨c, rest, rfl, opens, _⟩ := Settings.pieces_of_accepted accepted last isPiece
  exact ⟨pieces, c, rest, whole, Settings.isNameStart_iff.mpr opens⟩

/-- What other names of classes are made with is not empty. -/
theorem capitalized_lastPart_ne (settings : Settings) :
    capitalized (ModuleSource.lastPart settings.clientPackage) ≠ "" := by
  obtain ⟨pieces, c, rest, shape, start⟩ := lastPiece_of_accepted settings.clientPart.accepted
  have whole : splitAt '.' settings.clientPackage.toList
      = splitAt '.' settings.packageName.text.toList ++ pieces ++ [c :: rest] := by
    rw [List.append_assoc, ← shape, ← splitAt_append]
    simp [Settings.clientPackage]
  have last : ModuleSource.lastPart settings.clientPackage = String.ofList (c :: rest) := by
    rw [ModuleSource.lastPart, Text.pieces, whole, List.map_append, List.map_singleton, List.getLastD_concat]
  rw [last, capitalized, String.toList_ofList]
  simp [Projection.upperCase_of_start start, ← String.toList_inj]

end Packages

namespace Target.ModuleSource

/-- The classes that the methods of a module go on in. -/
def usedClasses (source : ModuleSource) : List ClassRef :=
  source.projections.flatMap Projection.referencedClasses

/-- A module knows the classes that its methods go on in by different names, and by names that mean the same
within a class. -/
structure Unambiguous (source : ModuleSource) : Prop where
  distinct : ∀ first ∈ source.usedClasses, ∀ second ∈ source.usedClasses,
    source.localName first = source.localName second → first = second
  visible : ∀ reference ∈ source.usedClasses, isPrivateName (source.localName reference) = false

variable {source : ModuleSource} {reference : ClassRef}

theorem mem_usedClasses : reference ∈ source.usedClasses ↔
    ∃ projection ∈ source.projections, ∃ accessor ∈ projection.accessors,
      accessor.selector = .composite reference := by
  simp only [usedClasses, Projection.referencedClasses, List.mem_flatMap, List.mem_eraseDups, List.mem_filterMap]
  refine exists_congr fun projection => and_congr_right fun _ => ?_
  refine exists_congr fun accessor => and_congr_right fun _ => ?_
  cases accessor.selector <;> simp [Selector.sub?]

/-- A class whose name the module does not define is known by that name. -/
theorem localName_of_undefined (undefined : source.definesName reference.name = false) :
    source.localName reference = reference.name := by
  unfold localName importOf?
  split_ifs <;> simp_all [ImportEntry.bound]

theorem localName_of_own (own : moduleOf reference = source.qualifiedName) :
    source.localName reference = reference.name := by
  rw [localName, importOf?, if_pos own]

theorem exists_importOf (foreign : moduleOf reference ≠ source.qualifiedName) :
    ∃ entry, source.importOf? reference = some entry := by
  rw [importOf?, if_neg foreign]
  split_ifs <;> exact ⟨_, rfl⟩

/-- A class is imported by its name and bound to the name by which the module knows it. -/
theorem importOf_spec {entry : ImportEntry} (imported : source.importOf? reference = some entry) :
    entry.name = reference.name ∧ entry.bound = source.localName reference := by
  refine ⟨?_, by rw [localName, imported]⟩
  unfold importOf? at imported
  split_ifs at imported <;> cases imported <;> rfl

/-- The local name of a class ends like its own name. -/
theorem localName_suffix (source : ModuleSource) (reference : ClassRef) :
    ∃ front, source.localName reference = front ++ reference.name := by
  unfold localName importOf?
  split_ifs
  · exact ⟨"", by simp⟩
  · exact ⟨_, rfl⟩
  · exact ⟨"", by simp [ImportEntry.bound]⟩

theorem mem_importPairs {name : String} {entry : ImportEntry} :
    (name, entry) ∈ source.importPairs ↔
      (∃ projection ∈ source.projections, ∃ reference ∈ projection.baseClass :: projection.decorators,
        name = reference.package ∧ entry = ⟨reference.name, none⟩) ∨
      ∃ reference ∈ source.usedClasses, source.importOf? reference = some entry ∧ name = moduleOf reference := by
  simp only [importPairs, usedClasses, List.mem_append, List.mem_flatMap, List.mem_map, List.mem_filterMap,
    Option.map_eq_some_iff, Prod.mk.injEq]
  constructor
  · rintro (⟨projection, member, reference, used, rfl, rfl⟩ | ⟨projection, member, reference, used, _, same, rfl, rfl⟩)
    · exact .inl ⟨projection, member, reference, used, rfl, rfl⟩
    · exact .inr ⟨reference, ⟨projection, member, used⟩, same, rfl⟩
  · rintro (⟨projection, member, reference, used, rfl, rfl⟩ | ⟨reference, ⟨projection, member, used⟩, same, rfl⟩)
    · exact .inl ⟨projection, member, reference, used, rfl, rfl⟩
    · exact .inr ⟨projection, member, reference, used, entry, same, rfl, rfl⟩

/-- The names that the imports of a module bind, and to what. -/
def bindings (source : ModuleSource) : List (String × ClassKey) :=
  source.imports.flatMap fun item => item.entries.map fun entry => (entry.bound, ⟨item.source, entry.name⟩)

theorem mem_bindings {name : String} {key : ClassKey} :
    (name, key) ∈ source.bindings ↔
      ∃ entry, (key.moduleName, entry) ∈ source.importPairs ∧ entry.bound = name ∧ entry.name = key.name := by
  obtain ⟨moduleName, className⟩ := key
  have entries (found : String) (entry : ImportEntry) :
      entry ∈ ((source.importPairs.filter fun pair => pair.1 == found).map Prod.snd).eraseDups ↔
        (found, entry) ∈ source.importPairs := by
    simp [List.mem_eraseDups]
  simp only [bindings, imports, List.flatMap_map, List.mem_flatMap, List.mem_map, entries, List.mem_mergeSort,
    List.mem_eraseDups, Prod.mk.injEq, ClassKey.mk.injEq]
  constructor
  · rintro ⟨_, _, entry, member, rfl, rfl, rfl⟩
    exact ⟨entry, member, rfl, rfl⟩
  · rintro ⟨entry, member, rfl, rfl⟩
    exact ⟨_, ⟨_, member, rfl⟩, entry, member, rfl, rfl, rfl⟩

end Target.ModuleSource

section Modules

variable {settings : Settings} {api : Api} {source other : ModuleSource}

/-- The modules of a run: that of the client's projections, and that of its entry points. -/
theorem source_cases (member : source ∈ moduleSources api settings) :
    (source.moduleName = projectionsModule ∧ source.package = settings.clientPackage
        ∧ source.projections = api.clientProjections) ∨
      source.moduleName = queriesModule ∧ source.package = settings.queriesPackage
        ∧ source.projections = api.queryTypes := by
  obtain ⟨listed, _⟩ := List.mem_filter.mp member
  rcases List.mem_pair.mp listed with rfl | rfl
  · exact .inl ⟨rfl, rfl, rfl⟩
  · exact .inr ⟨rfl, rfl, rfl⟩

/-- The names of the two modules end differently, whatever the packages are called. -/
theorem modules_differ (client queries : String) :
    client ++ "." ++ projectionsModule ≠ queries ++ "." ++ queriesModule := by
  intro same
  have reversed := congrArg (fun name => name.toList.reverse[1]?) same
  simp [projectionsModule, queriesModule] at reversed

theorem source_of_qualifiedName (member : source ∈ moduleSources api settings)
    (otherMember : other ∈ moduleSources api settings)
    (same : source.qualifiedName = other.qualifiedName) : source = other := by
  obtain ⟨listed, _⟩ := List.mem_filter.mp member
  obtain ⟨otherListed, _⟩ := List.mem_filter.mp otherMember
  rcases List.mem_pair.mp listed with rfl | rfl <;> rcases List.mem_pair.mp otherListed with rfl | rfl
  · rfl
  · exact absurd same (modules_differ _ _)
  · exact absurd same.symm (modules_differ _ _)
  · rfl

namespace Api.Coherent

variable {projection : Projection} {reference : ClassRef}

theorem mem_projections_of_source (member : source ∈ moduleSources api settings)
    (inSource : projection ∈ source.projections) : projection ∈ api.projections := by
  rcases source_cases member with ⟨_, _, same⟩ | ⟨_, _, same⟩ <;> rw [same] at inSource
  · exact List.mem_append_right _ inSource
  · exact List.mem_append_left _ inSource

/-- What is found by a name is an accessor of that name. -/
theorem mem_of_accessor {name : String} {accessor : Accessor} (found : projection.accessor? name = some accessor) :
    accessor ∈ projection.accessors ∧ accessor.name = name := by
  have same := List.find?_some found
  exact ⟨List.mem_of_find?_eq_some found, beq_iff_eq.mp same⟩

/-- An accessor is found by its name. -/
theorem accessor_of_member (coherent : api.Coherent settings) (inApi : projection ∈ api.projections)
    {accessor : Accessor} (member : accessor ∈ projection.accessors) :
    projection.accessor? accessor.name = some accessor :=
  find?_of_unique member (beq_self_eq_true _) fun _ alsoIn same =>
    List.inj_on_of_nodup_map (coherent.accessorNames projection inApi) alsoIn member (beq_iff_eq.mp same)

/-- A module defines no class twice. -/
theorem source_names (coherent : api.Coherent settings) (member : source ∈ moduleSources api settings) :
    ∀ first ∈ source.projections, ∀ second ∈ source.projections, first.name = second.name → first = second := by
  rcases source_cases member with ⟨_, _, same⟩ | ⟨_, _, same⟩ <;> rw [same]
  · exact fun first inFirst second inSecond names =>
      List.inj_on_of_nodup_map coherent.distinct inFirst inSecond names
  · exact fun first inFirst second inSecond _ => coherent.oneRoot first inFirst second inSecond

/-- What a method goes on in is a class of the client. -/
theorem used_class (coherent : api.Coherent settings) (member : source ∈ moduleSources api settings)
    (used : reference ∈ source.usedClasses) :
    ∃ below ∈ api.clientProjections, below.classRef = reference ∧ reference.package = settings.clientPackage := by
  obtain ⟨projection, inSource, accessor, inProjection, composite⟩ := ModuleSource.mem_usedClasses.mp used
  obtain ⟨below, inClient, rfl⟩ := coherent.closed projection (mem_projections_of_source member inSource) accessor
    inProjection reference composite
  exact ⟨below, inClient, rfl, coherent.packages below inClient⟩

/-- The names by which a module knows classes all end in the same way. -/
theorem localName_ends (coherent : api.Coherent settings) (member : source ∈ moduleSources api settings)
    (used : reference ∈ source.usedClasses) :
    ∃ front, source.localName reference = front ++ "Projection" := by
  obtain ⟨below, inClient, rfl, _⟩ := coherent.used_class member used
  obtain ⟨typeName, named⟩ := coherent.named below (List.mem_append_right _ inClient)
  obtain ⟨front, whole⟩ := source.localName_suffix below.classRef
  rw [whole, show below.classRef.name = _ from named, Projection.className, ← String.append_assoc]
  exact ⟨_, rfl⟩

private theorem unambiguous_of_names (coherent : api.Coherent settings) (ordinary : api.Ordinary)
    (member : source ∈ moduleSources api settings)
    (named : ∀ reference ∈ source.usedClasses, source.localName reference = reference.name) :
    source.Unambiguous := by
  constructor
  · intro first usedFirst second usedSecond same
    rw [named first usedFirst, named second usedSecond] at same
    obtain ⟨below, inClient, rfl, _⟩ := coherent.used_class member usedFirst
    obtain ⟨other, otherClient, rfl, _⟩ := coherent.used_class member usedSecond
    rw [List.inj_on_of_nodup_map coherent.distinct inClient otherClient same]
  · intro reference used
    rw [named reference used]
    obtain ⟨below, inClient, rfl, _⟩ := coherent.used_class member used
    exact (ordinary.classes below (List.mem_append_right _ inClient)).isPrivateName

/-- The module of the client knows all classes by their own names. -/
theorem unambiguous_of_client (coherent : api.Coherent settings) (ordinary : api.Ordinary)
    (member : source ∈ moduleSources api settings) (isClient : source.moduleName = projectionsModule) :
    source.Unambiguous := by
  refine coherent.unambiguous_of_names ordinary member fun reference used => ModuleSource.localName_of_own ?_
  obtain ⟨below, inClient, rfl, package⟩ := coherent.used_class member used
  rcases source_cases member with ⟨_, same, _⟩ | ⟨isQueries, _⟩
  · rw [ModuleSource.moduleOf, package, ModuleSource.qualifiedName, same, isClient]
  · rw [isClient] at isQueries
    exact absurd isQueries (by decide)

/-- So does a module that goes on in no class called like one of its own. -/
theorem unambiguous_of_undefined (coherent : api.Coherent settings) (ordinary : api.Ordinary)
    (member : source ∈ moduleSources api settings)
    (undefined : ∀ reference ∈ source.usedClasses, source.definesName reference.name = false) :
    source.Unambiguous :=
  coherent.unambiguous_of_names ordinary member fun reference used =>
    ModuleSource.localName_of_undefined (undefined reference used)

/-- A class of another module is not known by the name of a class that the module defines. -/
theorem localName_undefined (coherent : api.Coherent settings) (member : source ∈ moduleSources api settings)
    (used : reference ∈ source.usedClasses) (foreign : ModuleSource.moduleOf reference ≠ source.qualifiedName) :
    source.definesName (source.localName reference) = false := by
  by_cases shared : source.definesName reference.name = true
  · have aliased : source.localName reference
        = Text.capitalized (ModuleSource.lastPart reference.package) ++ reference.name := by
      rw [ModuleSource.localName, ModuleSource.importOf?, if_neg foreign, if_pos shared]
      rfl
    by_contra defined
    simp only [ModuleSource.definesName, List.any_eq_true, beq_iff_eq, Bool.not_eq_false] at shared defined
    obtain ⟨first, inFirst, firstName⟩ := shared
    obtain ⟨second, inSecond, secondName⟩ := defined
    obtain ⟨_, _, _, package⟩ := coherent.used_class member used
    rcases source_cases member with ⟨isClient, inClient, _⟩ | ⟨_, _, same⟩
    · exact foreign (by rw [ModuleSource.moduleOf, package, ModuleSource.qualifiedName, inClient, isClient])
    · -- The only class there is the entry point, so its name would be itself with the package in front.
      rw [same] at inFirst inSecond
      have names := coherent.oneRoot first inFirst second inSecond ▸ firstName
      rw [secondName, aliased, package] at names
      have empty : (Text.capitalized (ModuleSource.lastPart settings.clientPackage)).toList = [] := by
        simpa using congrArg String.toList names
      exact capitalized_lastPart_ne settings (String.toList_inj.mp empty)
  · rw [Bool.not_eq_true] at shared
    rwa [ModuleSource.localName_of_undefined shared]

/-- Where the classes that a module goes on in have different names there, an import that binds the name of one of
them is the import of that class. -/
theorem importPair_unique (coherent : api.Coherent settings) (member : source ∈ moduleSources api settings)
    (distinct : ∀ first ∈ source.usedClasses, ∀ second ∈ source.usedClasses,
      source.localName first = source.localName second → first = second)
    (used : reference ∈ source.usedClasses) {moduleName : String} {entry : ImportEntry}
    (listed : (moduleName, entry) ∈ source.importPairs) (bound : entry.bound = source.localName reference) :
    source.importOf? reference = some entry ∧ moduleName = ModuleSource.moduleOf reference := by
  rcases ModuleSource.mem_importPairs.mp listed with
    ⟨projection, inSource, support, isSupport, _, rfl⟩ | ⟨other, alsoUsed, imported, inModule⟩
  · -- What classes are written with is called otherwise than any class.
    obtain ⟨front, ends⟩ := coherent.localName_ends member used
    have inherited := coherent.inherits projection (mem_projections_of_source member inSource)
    rw [inherited.1, inherited.2] at isSupport
    have lasts := congrArg (fun name => name.toList.getLast?) (bound.trans ends)
    rcases List.mem_pair.mp isSupport with rfl | rfl <;>
      simp [ImportEntry.bound, baseProjection, dslContext] at lasts
  · obtain ⟨_, sameBound⟩ := ModuleSource.importOf_spec imported
    obtain rfl := distinct other alsoUsed reference used (sameBound.symm.trans bound)
    exact ⟨imported, inModule⟩

/-- The name by which a module knows a class is not imported as anything else. -/
theorem binding_unique (coherent : api.Coherent settings) (member : source ∈ moduleSources api settings)
    (unambiguous : source.Unambiguous) (used : reference ∈ source.usedClasses) {key : ClassKey}
    (listed : (source.localName reference, key) ∈ source.bindings) : key = reference.key := by
  obtain ⟨entry, inPairs, bound, entryName⟩ := ModuleSource.mem_bindings.mp listed
  obtain ⟨imported, inModule⟩ := coherent.importPair_unique member unambiguous.distinct used inPairs bound
  obtain ⟨moduleName, className⟩ := key
  rw [ClassRef.key, ← inModule, ← (ModuleSource.importOf_spec imported).1, entryName]

end Api.Coherent

end Modules

end SelectionGen
