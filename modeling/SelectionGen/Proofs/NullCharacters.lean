import SelectionGen.Proofs.Endings
import SelectionGen.Proofs.RenderingFaults

/-! Faults without a report. A text that is no code is reported with the path of its file, but a null character in it
is met before it is read, and code that is nested too deeply is given up while it is read; both end a run as they are.
Code that is made for a schema is never nested too deeply, so this takes a header with other code. Null characters come
from headers and from what the schema documents, and from nowhere else: not even from a package that code cannot import
from. -/
namespace SelectionGen

namespace Text

/-- Whether a text is written in the basic alphabet, without null characters. -/
def IsBasic (text : List Char) : Prop := ∀ c ∈ text, 0 < c.toNat ∧ c.toNat < 0x80

theorem IsBasic.null_not_mem {text : List Char} (basic : IsBasic text) : '\x00' ∉ text := fun member =>
  absurd (basic _ member).1 (by decide)

/-- A capital of the basic alphabet is no null character. -/
theorem null_not_mem_capitalized {text : String} (basic : IsBasic text.toList) :
    '\x00' ∉ (capitalized text).toList := by
  unfold capitalized
  cases shape : text.toList with
  | nil => simp
  | cons c rest =>
    rw [shape] at basic
    obtain ⟨positive, below⟩ := basic c List.mem_cons_self
    have each : ∀ number < 0x80, 0 < number → '\x00' ≠ (Char.ofNat number).toUpper := by decide
    have capital := each c.toNat below positive
    rw [Char.ofNat_toNat] at capital
    have others : '\x00' ∉ rest := fun member =>
      absurd (basic _ (List.mem_cons_of_mem _ member)).1 (by decide)
    simp [upperCase, below, capital, others]

end Text

namespace Settings

theorem isBasic_of_isName {text : List Char} (named : Sdl.isName text = true) : Text.IsBasic text := fun c member => by
  have bounds := Target.bounds_of_isNameContinue (Target.continues_of_isName named c member)
  omega

theorem isBasic_of_isDottedName {text : List Char} (dotted : isDottedName text = true) : Text.IsBasic text := by
  obtain ⟨first, others, split⟩ := List.exists_cons_of_ne_nil (Text.splitAt_ne_nil '.' text)
  have inName : ∀ piece ∈ first :: others, Text.IsBasic piece := fun piece member =>
    isBasic_of_isName (List.all_eq_true.mp dotted piece (split ▸ member))
  intro c member
  rw [← Text.joined_splitAt '.' text split, List.mem_append, List.mem_flatMap] at member
  rcases member with inFirst | ⟨piece, listed, inPiece⟩
  · exact inName first List.mem_cons_self c inFirst
  · rcases List.mem_cons.mp inPiece with rfl | inPiece
    · decide
    · exact inName piece (List.mem_cons_of_mem _ listed) c inPiece

/-- Packages are called by names of the basic alphabet, even those that code cannot import from. -/
theorem PackageName.isBasic (package : PackageName) : Text.IsBasic package.text.toList := by
  rcases package.dotted_or_broken with dotted | ⟨front, whole, dotted⟩
  · exact isBasic_of_isDottedName dotted
  · rw [whole]
    exact List.forall_mem_append.mpr ⟨isBasic_of_isDottedName dotted, by simp⟩

theorem isBasic_clientPackage (settings : Settings) : Text.IsBasic settings.clientPackage.toList := by
  have whole : settings.clientPackage.toList
      = settings.packageName.text.toList ++ '.' :: settings.clientPart.text.toList := by
    simp [clientPackage]
  rw [whole]
  exact List.forall_mem_append.mpr
    ⟨settings.packageName.isBasic, List.forall_mem_cons.mpr ⟨by decide, settings.clientPart.isBasic⟩⟩

end Settings

namespace Target

/-! Where a module could hold null characters: in the names that it is written with, and in what it documents. -/

def Method.names (method : Method) : List String :=
  [method.name, method.fieldName] ++
    match method.body with
    | .leaf => []
    | .composite localClass => [localClass]

def ClassDeclaration.names (declaration : ClassDeclaration) : List String :=
  [declaration.name, declaration.base] ++ declaration.decorators ++ declaration.methods.flatMap Method.names

def Import.names (item : Import) : List String :=
  item.source :: item.entries.flatMap fun entry => entry.name :: entry.alias?.toList

/-- Whether a class, its methods included, documents what can be written. -/
structure ClassDeclaration.Documentable (declaration : ClassDeclaration) : Prop where
  description : ∀ text ∈ declaration.description, IsDocumentable text
  methods : ∀ method ∈ declaration.methods, ∀ text ∈ method.description, IsDocumentable text

section Free

variable {owner name : String} {method : Method} {declaration : ClassDeclaration} {item : Import} {parts : List Part}

theorem null_not_mem_of_line (free : ∀ part ∈ parts, part.IsFree) (width : Nat) :
    '\x00' ∉ (Row.line width parts).text := by
  simp only [Row.text, List.mem_append, List.mem_flatMap, List.mem_replicate, not_or, not_exists, not_and]
  exact ⟨⟨fun _ => by decide, fun part member => Part.null_not_mem_of_isFree (free part member)⟩, by decide⟩

theorem isFree_documentationLines {description : Option String}
    (documents : ∀ text ∈ description, IsDocumentable text) :
    ∀ parts ∈ documentationLines description, ∀ part ∈ parts, part.IsFree := by
  cases description with
  | none => simp [documentationLines]
  | some text => simpa [documentationLines, IsDocumentable] using documents text rfl

theorem Method.null_not_mem (owned : '\x00' ∉ owner.toList) (free : ∀ name ∈ method.names, '\x00' ∉ name.toList)
    (documents : ∀ text ∈ method.description, IsDocumentable text) :
    ∀ row ∈ method.rows owner, '\x00' ∉ row.text := by
  obtain ⟨named, rest⟩ := List.forall_mem_cons.mp free
  obtain ⟨recorded, known⟩ := List.forall_mem_cons.mp rest
  refine List.forall_mem_cons.mpr ⟨null_not_mem_of_line ?_ 4, List.forall_mem_map.mpr fun parts member => ?_⟩
  · unfold headLine
    cases body : method.body with
    | leaf => simp [named, owned]
    | composite localClass => simp [named, known localClass (by simp [body])]
  · refine null_not_mem_of_line ?_ 8
    revert parts
    refine List.forall_mem_append.mpr ⟨isFree_documentationLines documents, ?_⟩
    unfold bodyLines recordLine
    cases body : method.body with
    | leaf => simp [recorded]
    | composite localClass => simp [recorded, known localClass (by simp [body])]

theorem ClassDeclaration.null_not_mem (free : ∀ name ∈ declaration.names, '\x00' ∉ name.toList)
    (documentable : declaration.Documentable) : ∀ row ∈ declaration.rows, '\x00' ∉ row.text := by
  obtain ⟨outer, inMethods⟩ := List.forall_mem_append.mp free
  obtain ⟨own, decorated⟩ := List.forall_mem_append.mp outer
  obtain ⟨named, rest⟩ := List.forall_mem_cons.mp own
  obtain ⟨based, _⟩ := List.forall_mem_cons.mp rest
  have blank : '\x00' ∉ Row.blank.text := by decide
  have method : ∀ method ∈ declaration.methods, ∀ row ∈ method.rows declaration.name, '\x00' ∉ row.text :=
    fun method member => method.null_not_mem named
      (fun name listed => inMethods name (List.mem_flatMap.mpr ⟨method, member, listed⟩))
      (documentable.methods method member)
  refine List.forall_mem_append.mpr ⟨List.forall_mem_append.mpr ⟨List.forall_mem_append.mpr ⟨?_, ?_⟩, ?_⟩, ?_⟩
  · simpa using blank
  · refine List.forall_mem_map.mpr fun parts member => null_not_mem_of_line ?_ 0
    rcases List.mem_append.mp member with decorates | heads
    · obtain ⟨name, listed, rfl⟩ := List.mem_map.mp decorates
      simp [decoratorLine, decorated name listed]
    · obtain rfl := List.mem_singleton.mp heads
      simp [headLine, named, based]
  · refine List.forall_mem_map.mpr fun parts member => null_not_mem_of_line ?_ 4
    unfold openingLines at member
    split_ifs at member
    · obtain rfl := List.mem_singleton.mp member
      simp
    · exact isFree_documentationLines documentable.description parts member
  · unfold methodRows
    cases shape : declaration.methods with
    | nil => simp
    | cons first others =>
      rw [shape] at method
      obtain ⟨ofFirst, ofOthers⟩ := List.forall_mem_cons.mp method
      refine List.forall_mem_append.mpr ⟨List.forall_mem_append.mpr ⟨?_, ofFirst⟩, ?_⟩
      · split_ifs
        · simpa using blank
        · simp
      · intro row member
        obtain ⟨other, listed, inRows⟩ := List.mem_flatMap.mp member
        rcases List.mem_cons.mp inRows with rfl | inMethod
        · exact blank
        · exact ofOthers other listed row inMethod

theorem isFree_dottedParts (free : '\x00' ∉ name.toList) : ∀ part ∈ dottedParts name, part.IsFree := by
  have piece : ∀ piece ∈ Text.pieces '.' name, '\x00' ∉ piece.toList := by
    refine List.forall_mem_map.mpr fun piece member inPiece => free ?_
    rw [String.toList_ofList] at inPiece
    exact Text.mem_of_mem_splitAt member inPiece
  unfold dottedParts
  cases shape : Text.pieces '.' name with
  | nil => simp
  | cons first others =>
    rw [shape] at piece
    obtain ⟨ofFirst, ofOthers⟩ := List.forall_mem_cons.mp piece
    refine List.forall_mem_cons.mpr ⟨ofFirst, fun part member => ?_⟩
    obtain ⟨other, listed, inParts⟩ := List.mem_flatMap.mp member
    rcases List.mem_pair.mp inParts with rfl | rfl
    · trivial
    · exact ofOthers other listed

theorem Import.null_not_mem (free : ∀ name ∈ item.names, '\x00' ∉ name.toList) :
    '\x00' ∉ (Row.line 0 item.parts).text := by
  obtain ⟨fromSource, inEntries⟩ := List.forall_mem_cons.mp free
  have entry : ∀ entry ∈ item.entries, ∀ part ∈ entryParts entry, part.IsFree := by
    intro entry member
    obtain ⟨own, other⟩ := List.forall_mem_cons.mp fun name listed =>
      inEntries name (List.mem_flatMap.mpr ⟨entry, member, listed⟩)
    unfold entryParts
    cases isAlias : entry.alias? with
    | none => simp [own]
    | some bound => simp [own, other bound (by simp [isAlias])]
  refine null_not_mem_of_line (List.forall_mem_append.mpr ⟨List.forall_mem_append.mpr
    ⟨List.forall_mem_append.mpr ⟨by simp, isFree_dottedParts fromSource⟩, by simp⟩, ?_⟩) 0
  cases shape : item.entries with
  | nil => simp
  | cons first others =>
    rw [shape] at entry
    obtain ⟨ofFirst, ofOthers⟩ := List.forall_mem_cons.mp entry
    refine List.forall_mem_append.mpr ⟨ofFirst, fun part member => ?_⟩
    obtain ⟨other, listed, inParts⟩ := List.mem_flatMap.mp member
    rcases List.mem_append.mp inParts with separates | inEntry
    · rcases List.mem_pair.mp separates with rfl | rfl <;> trivial
    · exact ofOthers other listed part inEntry

theorem Module.null_not_mem {written : Module} (titled : IsDocumentable written.title)
    (imports : ∀ item ∈ written.imports, ∀ name ∈ item.names, '\x00' ∉ name.toList)
    (classes : ∀ declaration ∈ written.classes, declaration.Documentable ∧
      ∀ name ∈ declaration.names, '\x00' ∉ name.toList) : ∀ row ∈ written.rows, '\x00' ∉ row.text := by
  have blank : '\x00' ∉ Row.blank.text := by decide
  have noticed : '\x00' ∉ notice.toList := by decide
  have title : '\x00' ∉ (Row.line 0 [.documentation (written.title ++ notice)]).text := by
    refine null_not_mem_of_line ?_ 0
    simpa [noticed, IsDocumentable] using titled
  have typed : '\x00' ∉ (Row.line 0 typing.parts).text := Import.null_not_mem (by decide)
  refine List.forall_mem_append.mpr ⟨List.forall_mem_append.mpr ⟨?_, List.forall_mem_map.mpr fun item member =>
    Import.null_not_mem (imports item member)⟩, fun row member => ?_⟩
  · simp [blank, title, typed]
  · obtain ⟨declaration, listed, inClass⟩ := List.mem_flatMap.mp member
    obtain ⟨documentable, free⟩ := classes declaration listed
    exact declaration.null_not_mem free documentable row inClass

end Free

end Target

namespace Api.Coherent

open Target

variable {settings : Settings} {api : Api} {source : ModuleSource}

theorem isBasic_lastPart {package : String} (basic : Text.IsBasic package.toList) :
    Text.IsBasic (ModuleSource.lastPart package).toList := by
  intro c inPart
  rw [ModuleSource.lastPart, List.getLastD_eq_getLast?] at inPart
  cases last : (Text.pieces '.' package).getLast? with
  | none => simp [last] at inPart
  | some piece =>
    obtain ⟨letters, listed, rfl⟩ := List.mem_map.mp (List.mem_of_getLast? last)
    exact basic c (Text.mem_of_mem_splitAt listed (by simpa [last] using inPart))

/-- A module knows the classes of the client by names without null characters. -/
theorem null_not_mem_localName (coherent : api.Coherent settings) (member : source ∈ moduleSources api settings)
    {reference : ClassRef} (used : reference ∈ source.usedClasses) :
    '\x00' ∉ reference.name.toList ∧ '\x00' ∉ (source.localName reference).toList := by
  obtain ⟨below, inClient, same, inPackage⟩ := coherent.used_class member used
  have named : '\x00' ∉ reference.name.toList := by
    obtain ⟨typeName, sameName⟩ := coherent.named below (List.mem_append_right _ inClient)
    rw [← same, show below.classRef.name = _ from sameName]
    exact null_not_mem_of_isName (Projection.isName_className typeName)
  have basic : Text.IsBasic (ModuleSource.lastPart reference.package).toList := by
    rw [inPackage]
    exact isBasic_lastPart settings.isBasic_clientPackage
  refine ⟨named, ?_⟩
  unfold ModuleSource.localName ModuleSource.importOf?
  split_ifs <;> simp [ImportEntry.bound, named, Text.null_not_mem_capitalized basic]

/-- Nothing that is imported has a null character in its names. -/
theorem null_not_mem_imports (coherent : api.Coherent settings) (member : source ∈ moduleSources api settings) :
    ∀ item ∈ source.imports, ∀ name ∈ item.names, '\x00' ∉ name.toList := by
  intro item listed
  refine List.forall_mem_cons.mpr ⟨?_, fun name inEntries => ?_⟩
  · rcases coherent.import_source member item listed with isSupport | ⟨ofClient, _⟩
    · rw [isSupport]
      decide
    · have inPackage := settings.isBasic_clientPackage.null_not_mem
      simp [ofClient, inPackage, projectionsModule]
  · obtain ⟨entry, inItem, inEntry⟩ := List.mem_flatMap.mp inEntries
    rcases ModuleSource.mem_importPairs.mp ((ModuleSource.import_entries listed).2 entry inItem) with
      ⟨projection, inSource, reference, isSupport, _, rfl⟩ | ⟨reference, used, imported, _⟩
    · have inherited := coherent.inherits projection (mem_projections_of_source member inSource)
      rw [inherited.1, inherited.2] at isSupport
      obtain rfl := List.mem_singleton.mp inEntry
      rcases List.mem_pair.mp isSupport with rfl | rfl <;> decide
    · obtain ⟨named, known⟩ := coherent.null_not_mem_localName member used
      obtain ⟨sameName, sameBound⟩ := ModuleSource.importOf_spec imported
      rcases List.mem_cons.mp inEntry with rfl | isAlias
      · rwa [sameName]
      · rw [Option.mem_toList] at isAlias
        rwa [← sameBound, ImportEntry.bound, isAlias, Option.getD_some] at known

/-- No class has a null character in its names. -/
theorem null_not_mem_class (coherent : api.Coherent settings) (member : source ∈ moduleSources api settings)
    (named : ∀ projection ∈ source.projections, projection.NamesAccessors) :
    ∀ projection ∈ source.projections, ∀ name ∈ (source.classDeclaration projection).names, '\x00' ∉ name.toList := by
  intro projection inSource
  obtain ⟨typeName, same⟩ := coherent.named projection (mem_projections_of_source member inSource)
  obtain ⟨base, decorators⟩ := coherent.inherits projection (mem_projections_of_source member inSource)
  have own : '\x00' ∉ projection.name.toList := by
    rw [same]
    exact null_not_mem_of_isName (Projection.isName_className typeName)
  refine List.forall_mem_append.mpr ⟨?_, fun name inMethods => ?_⟩
  · simp only [ModuleSource.classDeclaration, base, decorators]
    exact List.forall_mem_cons.mpr ⟨own, by decide⟩
  · obtain ⟨_, isMethod, inMethod⟩ := List.mem_flatMap.mp inMethods
    obtain ⟨accessor, listed, rfl⟩ := List.mem_map.mp isMethod
    obtain ⟨spelled, recorded⟩ := named projection inSource accessor listed
    rcases List.mem_append.mp inMethod with ofAccessor | ofBody
    · rcases List.mem_pair.mp ofAccessor with rfl | rfl
      · exact null_not_mem_of_isName spelled
      · exact null_not_mem_of_isName recorded
    · cases selector : accessor.selector with
      | leaf => simp [ModuleSource.method, selector] at ofBody
      | composite sub =>
        obtain rfl : name = source.localName sub := by simpa [ModuleSource.method, selector] using ofBody
        exact (coherent.null_not_mem_localName member
          (ModuleSource.mem_usedClasses.mpr ⟨projection, inSource, accessor, listed, selector⟩)).2

/-- The text of a module holds a null character exactly if its classes document one, wherever it imports from. -/
theorem null_mem_module_iff (coherent : api.Coherent settings) (member : source ∈ moduleSources api settings)
    (named : ∀ projection ∈ source.projections, projection.NamesAccessors) :
    '\x00' ∈ source.text.toList ↔ ∃ projection ∈ source.projections, ¬ projection.Documentable := by
  obtain ⟨titled, plainTitle⟩ := ModuleSource.titled_of_mem member
  have fieldsNamed := ModuleSource.fields_named named
  constructor
  · intro inText
    by_contra documentable
    push Not at documentable
    rw [show source.text = source.toModule.render from rfl, Module.render_toList plainTitle fieldsNamed,
      List.mem_flatMap] at inText
    obtain ⟨row, inRows, inRow⟩ := inText
    refine Module.null_not_mem titled (coherent.null_not_mem_imports member) (List.forall_mem_map.mpr
      fun projection inSource => ⟨⟨?_, List.forall_mem_map.mpr fun accessor listed => ?_⟩,
        coherent.null_not_mem_class member named projection inSource⟩) row inRows inRow
    · exact ModuleSource.Spelled.documentation (documentable projection inSource).description
    · exact ModuleSource.Spelled.documentation ((documentable projection inSource).accessors accessor listed)
  · intro documented
    by_contra noNull
    obtain ⟨projection, inSource, undocumentable⟩ := documented
    exact undocumentable (ModuleSource.documentable_of_null_not_mem plainTitle fieldsNamed noNull projection inSource)

end Api.Coherent

namespace Target

/-! Faults that end a run as they are. -/

section Faults

variable {headers : List String} {header text path : String} {error : RenderError}

theorem null_mem_withHeader_iff :
    '\x00' ∈ (withHeader text header).toList ↔ '\x00' ∈ header.toList ∨ '\x00' ∈ text.toList := by
  obtain ⟨kept, ends, whole, areEnds, headed⟩ := exists_kept header
  have notInEnds : '\x00' ∉ ends := fun member => absurd (areEnds _ member) (by decide)
  simp [headed, whole, notInEnds]

theorem null_mem_withHeaders_iff : '\x00' ∈ (withHeaders headers text).toList ↔
    (∃ header ∈ headers, '\x00' ∈ header.toList) ∨ '\x00' ∈ text.toList := by
  induction headers generalizing text with
  | nil => simp [withHeaders]
  | cons header headers ih =>
    rw [withHeaders, List.foldl_cons, ← withHeaders, ih, null_mem_withHeader_iff, List.exists_mem_cons_iff,
      or_left_comm, or_assoc]

/-- Whether a text is code, but nested more deeply than code can be read. -/
def NestedTooDeeply (text : String) : Prop :=
  '\x00' ∉ text.toList ∧ ∃ code, (Token.ofText text.toList).bind Grammar.codeOf = some code ∧
    (readingLimit < codeDepth .ofReading code ∨ treeLimit < codeDepth .ofTree code)

/-- Whether a fault is one that rendering reports: a class that is there twice, or a file that is no code. -/
def IsDeclared (error : RenderError) : Prop :=
  (∃ package className, error = .duplicateClass package className) ∨ ∃ path, error = .malformed path

theorem isDeclared_iff : IsDeclared error ↔ error.isAbrupt = false := by
  cases error with
  | template fault => exact fault.elim
  | _ => simp [IsDeclared, RenderError.isAbrupt]

theorem readCode_eq_nullCharacter_iff : readCode text = .error .nullCharacter ↔ '\x00' ∈ text.toList := by
  by_cases member : '\x00' ∈ text.toList
  · simp [readCode, member]
  · refine iff_of_false (fun failed => ?_) member
    simp only [readCode, List.contains_eq_mem, member, decide_false, Bool.false_eq_true, if_false] at failed
    split at failed
    · simp at failed
    · split_ifs at failed <;> simp at failed

/-- A text that is not read gives no report if there is a null character in it or it is nested too deeply. -/
theorem undeclared_fault_iff : (∃ fault, readCode text = .error fault ∧ ¬ IsDeclared (faultAt path fault)) ↔
    '\x00' ∈ text.toList ∨ NestedTooDeeply text := by
  by_cases member : '\x00' ∈ text.toList
  · refine iff_of_true ⟨_, readCode_eq_nullCharacter_iff.mpr member, ?_⟩ (.inl member)
    simp [isDeclared_iff, faultAt, RenderError.isAbrupt]
  · simp only [member, false_or, NestedTooDeeply, not_false_eq_true, true_and, isDeclared_iff, readCode,
      List.contains_eq_mem, decide_false, Bool.false_eq_true, if_false]
    cases found : (Token.ofText text.toList).bind Grammar.codeOf with
    | none => simp [faultAt, RenderError.isAbrupt]
    | some code =>
      by_cases reading : readingLimit < codeDepth .ofReading code
      · simp [reading, faultAt, RenderError.isAbrupt]
      · by_cases tree : treeLimit < codeDepth .ofTree code <;> simp [reading, tree, faultAt, RenderError.isAbrupt]

/-- Rendering breaks off at the first file that is not read, if that gives no report and no class is there twice. -/
theorem undeclared_iff {settings : Settings} {api : Api} :
    (∃ error, render settings headers [] api = .error error ∧ ¬ IsDeclared error) ↔
      ¬ RepeatsClass settings api ∧ ∃ before file behind,
        layOut (moduleSources api settings) = before ++ file :: behind ∧
        (∀ other ∈ before, ∃ code, readCode (withHeaders headers other.2) = .ok code) ∧
        ('\x00' ∈ (withHeaders headers file.2).toList ∨ NestedTooDeeply (withHeaders headers file.2)) := by
  constructor
  · rintro ⟨error, failed, undeclared⟩
    rcases render_eq_error_iff.mp failed with refused | ⟨unique, before, file, behind, split, good, fault, found, rfl⟩
    · exact absurd (.inl (checkUnique_error refused)) undeclared
    · exact ⟨checkUnique_modules_iff.mp unique, before, file, behind, split, good,
        (@undeclared_fault_iff _ file.1).mp ⟨fault, found, undeclared⟩⟩
  · rintro ⟨unique, before, file, behind, split, good, bad⟩
    obtain ⟨fault, found, undeclared⟩ := (@undeclared_fault_iff _ file.1).mpr bad
    exact ⟨_, render_eq_error_iff.mpr (.inr ⟨checkUnique_modules_iff.mpr unique, before, file, behind, split, good,
      fault, found, rfl⟩), undeclared⟩

theorem declared_iff {settings : Settings} {api : Api} :
    ((∃ files, render settings headers [] api = .ok files) ∨
        ∃ error, render settings headers [] api = .error error ∧ IsDeclared error) ↔
      ¬ ∃ error, render settings headers [] api = .error error ∧ ¬ IsDeclared error := by
  cases render settings headers [] api <;> simp

end Faults

/-- Whether a file is a module in which something with a null character is documented. -/
def DocumentsNull (sources : List ModuleSource) (file : String × String) : Prop :=
  ∃ source ∈ sources, file = (source.path, source.text) ∧
    ∃ projection ∈ source.projections, ¬ projection.Documentable

end Target

namespace Api.Coherent

open Target

variable {settings : Settings} {api : Api} {headers : List String} {file : String × String}

theorem null_mem_file_iff (coherent : api.Coherent settings)
    (named : ∀ projection ∈ api.projections, projection.NamesAccessors)
    (member : file ∈ layOut (moduleSources api settings)) :
    '\x00' ∈ file.2.toList ↔ DocumentsNull (moduleSources api settings) file := by
  have inModule {source : ModuleSource} (listed : source ∈ moduleSources api settings) :
      '\x00' ∈ source.text.toList ↔ ∃ projection ∈ source.projections, ¬ projection.Documentable :=
    coherent.null_mem_module_iff listed fun projection inSource =>
      named projection (mem_projections_of_source listed inSource)
  constructor
  · intro inText
    obtain ⟨items, isFile⟩ := mem_layOut.mp member
    cases isFile with
    | @module source listed => exact ⟨source, listed, rfl, (inModule listed).mp inText⟩
    | package _ _ => exact absurd inText (packageFile_spells (exportable_of_coherent coherent) _).noNull
  · rintro ⟨source, listed, rfl, documented⟩
    exact (inModule listed).mpr documented

/-- Behind headers of comments and blank lines, a file without null characters is read as what stands in it. The one
thing that keeps it from being code is that it imports from where one cannot. -/
theorem readCode_of_null_not_mem {items : List Grammar.Meaning} (coherent : api.Coherent settings)
    (named : ∀ projection ∈ api.projections, projection.NamesAccessors)
    (isFile : IsFile (moduleSources api settings) file items) (noNull : '\x00' ∉ file.2.toList) :
    (∀ headers, (∀ header ∈ headers, IsHeader header) →
        ∃ code, readCode (withHeaders headers file.2) = .ok code ∧ Grammar.Meant items code) ∨
      ¬ IsImportable settings.clientPackage ∧ ∀ headers, (∀ header ∈ headers, IsHeader header) →
        readCode (withHeaders headers file.2) = .error .malformed := by
  cases isFile with
  | package _ _ => exact .inl fun headers areHeaders => coherent.package_reads areHeaders _
  | @module source listed =>
    have inSource := fun projection inSource => named projection (mem_projections_of_source listed inSource)
    by_cases importable : ∀ item ∈ source.imports, IsImportable item.source
    · have documentable : ∀ projection ∈ source.projections, projection.Documentable := by
        by_contra undocumentable
        push Not at undocumentable
        exact noNull ((coherent.null_mem_module_iff listed inSource).mpr undocumentable)
      exact .inl fun headers areHeaders => coherent.module_reads listed importable inSource documentable areHeaders
    · refine .inr ⟨fun ofClient => importable (coherent.imports_importable (fun _ => ofClient) listed),
        fun headers areHeaders => ?_⟩
      have headed : '\x00' ∉ (withHeaders headers source.text).toList := by
        rw [null_mem_withHeaders_iff]
        rintro (⟨header, inHeaders, inHeader⟩ | inText)
        · exact (areHeaders header inHeaders).1 inHeader
        · exact noNull inText
      have unread := coherent.unread_of_not_importable listed inSource (by push Not at importable; exact importable)
        areHeaders
      simp [readCode, headed, unread]

end Api.Coherent

namespace Generation

open Target Schema CommandLine

variable {settings : Settings} {filters : List TypeFilter} {load : Unit → Loading} {api : Api} {headers : List String}

/-- Behind headers of comments and blank lines, no file of a run is nested too deeply. -/
theorem not_nestedTooDeeply (done : (run settings filters load).outcome = .ok api)
    (areHeaders : ∀ header ∈ headers, IsHeader header) :
    ∀ file ∈ layOut (moduleSources api settings), ¬ NestedTooDeeply (withHeaders headers file.2) := by
  intro file member nested
  obtain ⟨fault, failed, undeclared⟩ := (@undeclared_fault_iff _ file.1).mpr (.inr nested)
  have noNull : '\x00' ∉ file.2.toList := fun inText => nested.1 (null_mem_withHeaders_iff.mpr (.inr inText))
  obtain ⟨items, isFile⟩ := mem_layOut.mp member
  rcases (coherent_of_run done).readCode_of_null_not_mem (accessors_named_of_run done) isFile noNull with
    reads | ⟨_, malformed⟩
  · obtain ⟨code, read, _⟩ := reads headers areHeaders
    rw [read] at failed
    cases failed
  · rw [malformed headers areHeaders] at failed
    cases failed
    exact undeclared (.inr ⟨file.1, rfl⟩)

/-- A null character that is documented ends the run, unless a class is there twice: files in front of it are read. -/
theorem render_of_undocumentable (done : (run settings filters load).outcome = .ok api)
    (areHeaders : ∀ header ∈ headers, IsHeader header) (importable : IsImportable settings.clientPackage)
    (unique : ¬ RepeatsClass settings api) (documented : ∃ projection ∈ api.projections, ¬ projection.Documentable) :
    render settings headers [] api = .error .nullCharacter := by
  have coherent := coherent_of_run done
  have named := accessors_named_of_run done
  have inFile : ∃ file ∈ layOut (moduleSources api settings), '\x00' ∈ file.2.toList := by
    obtain ⟨projection, inApi, undocumentable⟩ := documented
    obtain ⟨source, listed, inSource⟩ := @exists_source settings api projection inApi
    have member := mem_layOut.mpr ⟨_, .module listed⟩
    exact ⟨_, member, (coherent.null_mem_file_iff named member).mpr
      ⟨source, listed, rfl, projection, inSource, undocumentable⟩⟩
  obtain ⟨before, file, behind, split, noNull, inText⟩ := exists_first inFile
  refine render_eq_error_iff.mpr (.inr ⟨checkUnique_modules_iff.mpr unique, before, file, behind, split,
    fun other listed => ?_, .nullCharacter, ?_, rfl⟩)
  · have member : other ∈ layOut (moduleSources api settings) := split ▸ List.mem_append_left _ listed
    obtain ⟨items, isFile⟩ := mem_layOut.mp member
    rcases coherent.readCode_of_null_not_mem named isFile (noNull other listed) with reads | ⟨refused, _⟩
    · exact (reads headers areHeaders).imp fun _ read => read.1
    · exact absurd importable refused
  · exact readCode_eq_nullCharacter_iff.mpr (null_mem_withHeaders_iff.mpr (.inr inText))

/-- Whether writing what a run gives out breaks off without a report: no class is there twice, and the first file that
is not read holds a null character, from a header or because it is documented there, or is nested too deeply. -/
def BreaksOff (settings : Settings) (headers : List String) (api : Api) : Prop :=
  ¬ RepeatsClass settings api ∧ ∃ before file behind,
    layOut (moduleSources api settings) = before ++ file :: behind ∧
    (∀ other ∈ before, ∃ code, readCode (withHeaders headers other.2) = .ok code) ∧
    ((∃ header ∈ headers, '\x00' ∈ header.toList) ∨ DocumentsNull (moduleSources api settings) file ∨
      NestedTooDeeply (withHeaders headers file.2))

theorem breaksOff_iff_of_run (done : (run settings filters load).outcome = .ok api) :
    BreaksOff settings headers api ↔ ∃ error, render settings headers [] api = .error error ∧ ¬ IsDeclared error := by
  rw [undeclared_iff, BreaksOff]
  refine and_congr_right fun _ => exists_congr fun before => exists_congr fun file => exists_congr fun behind =>
    and_congr_right fun split => and_congr_right fun _ => ?_
  have member : file ∈ layOut (moduleSources api settings) := split ▸ List.mem_append_right _ List.mem_cons_self
  rw [null_mem_withHeaders_iff,
    (coherent_of_run done).null_mem_file_iff (accessors_named_of_run done) member, or_assoc]

/-- However the program is called, it explains only faults that are declared and breaks off only at others. -/
theorem explained_or_broken (workspace : Workspace) (arguments : List String) (error : RenderError) :
    ((CommandLine.run workspace arguments).ending = .refused (.files error) → IsDeclared error) ∧
      ((CommandLine.run workspace arguments).ending = .broken (.rendering error) → ¬ IsDeclared error) := by
  rcases run_ending workspace arguments with finished | ofRun
  · simp [finished]
  · constructor
    · intro explained
      rw [explained] at ofRun
      cases ofRun with
      | reported reported => exact isDeclared_iff.mpr reported
    · intro broken
      rw [broken] at ofRun
      cases ofRun with
      | abrupt abrupt => simp [isDeclared_iff, abrupt]

/-- **What breaks a run off.** What a run gives out is written, or refused with a report, unless the first file that is
not read holds a null character or is nested too deeply. Behind headers of comments and blank lines nothing is nested
too deeply, so a schema that documents no null character gets files or a report, whatever its packages are called; and
a null character that is documented breaks the run off, unless code cannot import from the client's package or a class
is there twice. On the command line a report is an explanation and anything else a breakdown, neither of them has
written anything, and however the program is called, its explanations and breakdowns for files are of these faults. -/
theorem faults_reported (done : (run settings filters load).outcome = .ok api) :
    (∀ headers, ((∃ files, render settings headers [] api = .ok files) ∨
        ∃ error, render settings headers [] api = .error error ∧ IsDeclared error) ↔
      ¬ BreaksOff settings headers api) ∧
    (∀ headers, (∀ header ∈ headers, IsHeader header) →
      ∀ file ∈ layOut (moduleSources api settings), ¬ NestedTooDeeply (withHeaders headers file.2)) ∧
    (∀ headers, (∀ header ∈ headers, IsHeader header) →
      (∀ document, (load ()).outcome = .ok document → Schema.Documentable document) →
        (∃ files, render settings headers [] api = .ok files) ∨
          ∃ error, render settings headers [] api = .error error ∧ IsDeclared error) ∧
    (∀ headers, (∀ header ∈ headers, IsHeader header) → IsImportable settings.clientPackage →
      (render settings headers [] api = .error .nullCharacter ↔
        ¬ RepeatsClass settings api ∧ ∃ projection ∈ api.projections, ¬ projection.Documentable)) ∧
    (∀ headers error, render settings headers [] api = .error error → ∀ output progress, ∃ ending,
      (Run.writeFiles output settings headers api).run progress = (.error ending, progress) ∧
        (IsDeclared error → ending = .refused (.files error)) ∧
        (¬ IsDeclared error → ending = .broken (.rendering error))) ∧
    ∀ workspace arguments error,
      ((CommandLine.run workspace arguments).ending = .refused (.files error) → IsDeclared error) ∧
        ((CommandLine.run workspace arguments).ending = .broken (.rendering error) → ¬ IsDeclared error) := by
  have exactly (headers : List String) :=
    (@declared_iff headers settings api).trans (breaksOff_iff_of_run done).not.symm
  have shallow (headers : List String) (areHeaders : ∀ header ∈ headers, IsHeader header) :=
    not_nestedTooDeeply done areHeaders
  have noNull (headers : List String) (areHeaders : ∀ header ∈ headers, IsHeader header)
      (breaks : BreaksOff settings headers api) : ∃ projection ∈ api.projections, ¬ projection.Documentable := by
    obtain ⟨_, before, file, behind, split, _, cause⟩ := breaks
    rcases cause with ⟨header, listed, inHeader⟩ | ⟨source, listed, _, found⟩ | nested
    · exact absurd inHeader (areHeaders header listed).1
    · obtain ⟨projection, inSource, undocumentable⟩ := found
      exact ⟨projection, Api.Coherent.mem_projections_of_source listed inSource, undocumentable⟩
    · exact absurd nested (shallow headers areHeaders file (split ▸ List.mem_append_right _ List.mem_cons_self))
  refine ⟨exactly, shallow, fun headers areHeaders documentable => ?_, fun headers areHeaders importable => ?_,
    fun headers error failed output progress => ?_, explained_or_broken⟩
  · refine (exactly headers).mpr fun breaks => ?_
    obtain ⟨projection, inApi, undocumentable⟩ := noNull headers areHeaders breaks
    exact undocumentable (documentable_of_run done documentable projection inApi)
  · constructor
    · intro failed
      have breaks := (breaksOff_iff_of_run done).mpr ⟨_, failed, by simp [isDeclared_iff, RenderError.isAbrupt]⟩
      exact ⟨breaks.1, noNull headers areHeaders breaks⟩
    · rintro ⟨unique, documented⟩
      exact render_of_undocumentable done areHeaders importable unique documented
  · refine ⟨_, Run.writeFiles_of_error failed output progress, fun declared => ?_, fun undeclared => ?_⟩
    · rw [if_neg (by simp [isDeclared_iff.mp declared])]
    · rw [if_pos (by simpa [isDeclared_iff] using undeclared)]

end Generation

open Target

/-- A schema with names and documentation that are hard to write has no fault but those that are reported. -/
theorem Projection.Reserved.reserved_reported :
    (Generation.run {} [] fun _ => ⟨.ok schema, "", []⟩).outcome = .ok api ∧
      ((∃ files, render {} ["# Made from a schema.\n\n"] [] api = .ok files) ∨
        ∃ error, render {} ["# Made from a schema.\n\n"] [] api = .error error ∧ IsDeclared error) := by
  have areHeaders : ∀ header ∈ ["# Made from a schema.\n\n"], IsHeader header := by decide +kernel
  exact ⟨generated, (Generation.faults_reported generated).2.2.1 _ areHeaders documentable⟩

/-! A schema that documents a null character, which takes an escape. -/

namespace Projection.Unprintable

open Sdl Schema

def text : String := "type Query \x7b t: T \x7d \"\\u0000\" type T \x7b a: Int \x7d"

theorem isName_type : isName "T".toList = true := by decide

theorem isName_leaf : isName "a".toList = true := by decide

theorem isName_field : isName "t".toList = true := by decide

def documented : Projection.Target where
  fst := 1
  snd.kind := .object
  snd.name := ⟨"T", isName_type⟩
  snd.description := some "\x00"
  snd.fields := [{ name := ⟨"a", isName_leaf⟩, type := ⟨[], ⟨"Int", Reserved.isName_int⟩⟩ }]

def query : TypeDefinition where
  kind := .object
  name := customaryQuery
  fields := [{ name := ⟨"t", isName_field⟩, type := ⟨[], documented.name⟩ }]

def schema : Document := [.type query, .type documented.2]

def context : Context := ⟨{}, schema⟩

def api : Api where
  queryTypes := [context.rootProjectionOf 0 query]
  clientProjections := [context.projection documented]

theorem read_text : (Document.read text).toOption = some schema := by decide +kernel

theorem descent : context.Descent (context.rootTargets 0 query) [] [documented] [documented.entry] none := by
  have ofQuery : context.rootTargets 0 query = [documented] := by decide
  rw [ofQuery]
  exact .alone rfl (by decide) .done

theorem generated : (Generation.run {} [] fun _ => ⟨.ok schema, "", []⟩).outcome = .ok api := by
  have root : findRoot? schema .query = some (0, query) := by decide
  exact Generation.outcome_of_descent rfl root descent

/-- The schema is accepted and a run has a result, but writing it ends with a fault that is not reported. -/
theorem null_unreported :
    (Document.read text).toOption = some schema ∧
      (Generation.run {} [] fun _ => ⟨.ok schema, "", []⟩).outcome = .ok api ∧
      render {} [] [] api = .error .nullCharacter ∧ ¬ IsDeclared .nullCharacter := by
  have noHeaders : ∀ header ∈ ([] : List String), IsHeader header := by simp
  have importable : IsImportable ({} : Settings).clientPackage := by decide +kernel
  have unique : ¬ RepeatsClass {} api := checkUnique_modules_iff.mp (by decide +kernel)
  have undocumentable : ¬ (context.projection documented).Documentable := fun documentable =>
    absurd (documentable.description "\x00" rfl) (by decide)
  refine ⟨read_text, generated, ?_, by simp [isDeclared_iff, RenderError.isAbrupt]⟩
  exact Generation.render_of_undocumentable generated noHeaders importable unique
    ⟨_, List.mem_append_right _ List.mem_cons_self, undocumentable⟩

end Projection.Unprintable

end SelectionGen
