import SelectionGen.Proofs.CodeReading

/-! The files that make packages of directories. Such a file brings in the classes of the modules of its package and
says what the package offers. Both are lists in brackets with one name on each line, so they are lines that go on
behind line ends. -/
namespace SelectionGen.Target

section Rows

open Target.Part

/-- Names on lines of their own, each with a comma behind it. -/
def itemParts (item : String → Part) (names : List String) : List Part :=
  names.flatMap fun name => [blank, blank, blank, blank, item name, sign .comma, lineBreak]

/-- How the classes of a module come into its package. -/
def exportParts (moduleName : String) (names : List String) : List Part :=
  [word "from", blank, sign .dot, word moduleName, blank, word "import", blank, sign .parenOpen, lineBreak]
    ++ (itemParts word names ++ [sign .parenClose])

/-- What a package says that it offers. -/
def offerParts (names : List String) : List Part :=
  [word "__all__", blank, sign .equals, blank, sign .bracketOpen, lineBreak]
    ++ (itemParts (quoted '"') names ++ [sign .bracketClose])

/-- The modules of a package. -/
def modulesIn (package : String) (sources : List ModuleSource) : List ModuleSource :=
  sources.filter fun source => source.package == package

/-- What a package says about itself. -/
def packageTitle : String := "Generated GraphQL client package."

def packageRows (package : String) (sources : List ModuleSource) : List Row :=
  .line 0 [documentation packageTitle] ::
    if (modulesIn package sources).isEmpty then []
    else
      .blank
        :: ((modulesIn package sources).map fun source => .line 0 (exportParts source.moduleName source.classNames))
        ++ [.blank, .line 0 (offerParts (exportedNames package sources))]

/-- Lines with a line end behind each. -/
theorem toList_intercalate_lines (lines : List String) :
    ("\n".intercalate (lines ++ [""])).toList = lines.flatMap fun line => line.toList ++ ['\n'] := by
  cases lines with
  | nil => rfl
  | cons first others =>
    have each : ∀ front : List Char, front ++ (others ++ [""]).flatMap (fun line => "\n".toList ++ line.toList)
        = front ++ ['\n'] ++ others.flatMap fun line => line.toList ++ ['\n'] := by
      induction others with
      | nil => simp
      | cons next others ih =>
        intro front
        have later := ih (front ++ '\n' :: next.toList)
        simpa using later
    rw [List.cons_append, Text.toList_intercalate_cons, each, List.flatMap_cons]

theorem itemParts_text (item : String → Part) (names : List String) : (itemParts item names).flatMap Part.text
    = names.flatMap fun name => "    ".toList ++ ((item name).text ++ [',', '\n']) := by
  rw [itemParts, List.flatMap_assoc]
  refine List.flatMap_congr fun name _ => ?_
  simp [Part.text.eq_2, Part.text.eq_3, Part.text.eq_4, Sign.text]

theorem exportLines_toList (source : ModuleSource) :
    (exportLines source).flatMap (fun line => line.toList ++ ['\n'])
      = (Row.line 0 (exportParts source.moduleName source.classNames)).text := by
  simp [exportLines, exportParts, Row.text, List.flatMap_map, itemParts_text, Part.text, Sign.text]

theorem packageLines_toList (package : String) (sources : List ModuleSource) :
    ("\n".intercalate (packageLines package sources)).toList = (packageRows package sources).flatMap Row.text := by
  have titled : "\"\"\"Generated GraphQL client package.\"\"\"".toList = (documentation packageTitle).text := by
    decide
  unfold packageLines packageRows
  change ("\n".intercalate (_ ++ if (modulesIn package sources).isEmpty then [] else _)).toList = _
  split_ifs with empty
  · have text := toList_intercalate_lines ["\"\"\"Generated GraphQL client package.\"\"\""]
    simpa [Row.text, titled] using text
  · have exports : ((modulesIn package sources).flatMap exportLines).flatMap (fun line => line.toList ++ ['\n'])
        = ((modulesIn package sources).map fun source =>
            Row.line 0 (exportParts source.moduleName source.classNames)).flatMap Row.text := by
      rw [List.flatMap_assoc, List.flatMap_map]
      exact List.flatMap_congr fun source _ => exportLines_toList source
    have offers : ((exportedNames package sources).map fun name => "    \"" ++ name ++ "\",").flatMap
          (fun line => line.toList ++ ['\n'])
        = (itemParts (quoted '"') (exportedNames package sources)).flatMap Part.text := by
      rw [List.flatMap_map, itemParts_text]
      refine List.flatMap_congr fun name _ => ?_
      simp [Part.text]
    have text := toList_intercalate_lines (["\"\"\"Generated GraphQL client package.\"\"\"", ""]
      ++ (modulesIn package sources).flatMap exportLines ++ ["", "__all__ = ["]
      ++ (exportedNames package sources).map (fun name => "    \"" ++ name ++ "\",") ++ ["]"])
    simp only [List.flatMap_append, exports, offers, List.append_assoc] at text
    simp only [List.append_assoc]
    refine text.trans ?_
    simp [Row.text, titled, offerParts, Part.text, Sign.text]

/-- Names that stand in a list as they are, or in quotes. -/
def IsItem (item : String → Part) : Prop := item = word ∨ item = quoted '"'

variable {item : String → Part} {names : List String} {closing : Sign}

theorem itemParts_spelled (isItem : IsItem item) (named : ∀ name ∈ names, Sdl.isName name.toList = true) :
    ∀ part ∈ itemParts item names, part.Spelled := by
  refine List.forall_mem_flatMap.mpr fun name member => ?_
  have here := named name member
  obtain rfl | rfl := isItem <;> simp [here]

theorem itemParts_fit (isItem : IsItem item) (names : List String) (closing : Sign) :
    (lineBreak :: (itemParts item names ++ [sign closing])).IsChain Part.Fits := by
  induction names with
  | nil => simp [itemParts]
  | cons name names ih => obtain rfl | rfl := isItem <;> simpa [itemParts] using ih

/-- A bracket is open from the first to the last of the names. -/
theorem itemParts_balanced (isItem : IsItem item) (names : List String)
    (closes : closing = .parenClose ∨ closing = .bracketClose) :
    Balanced 1 (itemParts item names ++ [sign closing]) := by
  have room : 1 ≤ Formatted.nestingLimit := by decide
  induction names with
  | nil => obtain rfl | rfl := closes <;> simp [itemParts]
  | cons name names ih => obtain rfl | rfl := isItem <;> simpa [itemParts, room] using ih

theorem isLine_exportParts {moduleName : String} (moduleNamed : Sdl.isName moduleName.toList = true)
    (named : ∀ name ∈ names, Sdl.isName name.toList = true) : IsLine (exportParts moduleName names) where
  spelled := by
    refine List.forall_mem_append.mpr ⟨?_, List.forall_mem_append.mpr ⟨itemParts_spelled (.inl rfl) named, by simp⟩⟩
    simp [moduleNamed, Sdl.isNameStart, Sdl.isNameContinue]
  fits := by simpa [exportParts] using itemParts_fit (.inl rfl) names .parenClose
  balanced := by
    have room : 1 ≤ Formatted.nestingLimit := by decide
    simpa [exportParts, room] using itemParts_balanced (.inl rfl) names (.inl rfl)
  begins := by simp [exportParts]
  isSome := by simp [exportParts]

theorem isLine_offerParts (named : ∀ name ∈ names, Sdl.isName name.toList = true) : IsLine (offerParts names) where
  spelled := by
    refine List.forall_mem_append.mpr ⟨?_, List.forall_mem_append.mpr ⟨itemParts_spelled (.inr rfl) named, by simp⟩⟩
    simp [Sdl.isNameStart, Sdl.isNameContinue]
  fits := by simpa [offerParts] using itemParts_fit (.inr rfl) names .bracketClose
  balanced := by
    have room : 1 ≤ Formatted.nestingLimit := by decide
    simpa [offerParts, room] using itemParts_balanced (.inr rfl) names (.inr rfl)
  begins := by simp [offerParts]
  isSome := by simp [offerParts]

end Rows

section Reading

open Grammar

variable {names : List String} {moduleName : String}

theorem itemParts_kinds (item : String → Part) (names : List String) :
    (itemParts item names).flatMap Part.kinds = names.flatMap fun name => (item name).kinds ++ [.mark ","] := by
  rw [itemParts, List.flatMap_assoc]
  refine List.flatMap_congr fun name _ => ?_
  simp [Part.kinds.eq_2, Part.kinds.eq_3, Part.kinds.eq_4, Sign.text]

/-- Classes as they are brought in, under their own names. -/
def entriesOf (names : List String) : List ImportEntry := names.map fun name => ⟨name, none⟩

theorem takes_exportParts (moduleName : String) (modulePlain : moduleName ∉ Projection.keywords) (isSome : names ≠ [])
    (plain : ∀ name ∈ names, name ∉ Projection.keywords) :
    Takes 0 (lineKinds (exportParts moduleName names)) (Import.Imports 1 moduleName (entriesOf names)) := by
  intro within lines rest room
  obtain ⟨token, within, rfl⟩ := List.exists_cons_of_length_pos room
  let behindItems : List TokenKind := .mark ")" :: .lineEnd :: rest
  let items : List TokenKind := names.flatMap (fun name => [.name name] ++ [.mark ","]) ++ behindItems
  have kinds : lineKinds (exportParts moduleName names) ++ rest
      = .name "from" :: .mark "." :: .name moduleName :: .name "import" :: .mark "(" :: items := by
    simp [items, behindItems, lineKinds, exportParts, itemParts_kinds, Part.kinds, Sign.text]
  have single : ".".intercalate [moduleName] = moduleName := by
    rw [← String.toList_inj, Text.toList_intercalate_cons, List.flatMap_nil, List.append_nil]
  have stops (lines : Nat → Nat) :
      (mark "." (numbered lines (.name "import" :: .mark "(" :: items))).bind identifier = none := rfl
  obtain ⟨behindSource, sourceRead⟩ := Import.moduleName_of_names (List.forall_mem_singleton.mpr modulePlain) stops
    fun place => lines (place + 2)
  rw [single] at sourceRead
  obtain ⟨found, further, read, meant⟩ : ∃ found further,
      listed (aliased identifier) (numbered (fun place => behindSource (place + 2)) items)
        = some (⟨found, true⟩, numbered further behindItems) ∧
      List.Forall₂ (fun name found => ImportEntry.mk name none = Import.entryOf found) names found :=
    listed_numbered isSome (fun name member lines behind =>
      @Import.entry_numbered ⟨name, none⟩ (plain name member) (by simp) _ (fun _ => rfl) lines) (fun _ => rfl) _
  have dotRead : repeatedly dots (numbered (fun place => lines (place + 1))
      (.mark "." :: .name moduleName :: .name "import" :: .mark "(" :: items))
        = ([1], numbered (fun place => lines (place + 2)) (.name moduleName :: .name "import" :: .mark "(" :: items)) :=
    rfl
  have imported : importedNames (numbered (fun place => behindSource (place + 1)) (.mark "(" :: items))
      = some (some found, numbered (fun place => further (place + 1)) (.lineEnd :: rest)) := by
    have whole := congrArg (Option.bind · fun found => (mark ")" found.2).bind fun rest =>
      some (some found.1.items, rest)) read
    exact whole
  have form : importFrom (numbered (fun place => lines (place + 1))
      (.mark "." :: .name moduleName :: .name "import" :: .mark "(" :: items))
        = some (.importsFrom 1 (some moduleName) (some found),
            numbered (fun place => further (place + 1)) (.lineEnd :: rest)) :=
    Import.importFrom_of_read dotRead sourceRead imported
  have named : entriesOf names = found.map Import.entryOf := by
    rw [← List.forall₂_eq_eq_eq, entriesOf, List.forall₂_map_left_iff, List.forall₂_map_right_iff]
    exact meant
  rw [kinds]
  exact ⟨_, fun place => further (place + 2), simpleLine_of_form form, lines 0, found, rfl, named⟩

/-- The statement says that a package offers these names. -/
def Offers (names : List String) (statement : Statement) : Prop :=
  ∃ lines : Nat → Nat, ∃ values,
    statement = ⟨lines 0, .assignment [⟨lines 0, .name "__all__"⟩] ⟨lines 2, .list values⟩⟩ ∧
    List.Forall₂ (fun name value => ∃ line, value = ⟨line, .constant (.text name)⟩) names values

theorem takes_offerParts (isSome : names ≠ []) : Takes 0 (lineKinds (offerParts names)) (Offers names) := by
  intro within lines rest room
  obtain ⟨token, within, rfl⟩ := List.exists_cons_of_length_pos room
  let behindItems : List TokenKind := .mark "]" :: .lineEnd :: rest
  let items : List TokenKind := names.flatMap (fun name => [.literal (.text name)] ++ [.mark ","]) ++ behindItems
  have kinds : lineKinds (offerParts names) ++ rest = .name "__all__" :: .mark "=" :: .mark "[" :: items := by
    simp [items, behindItems, lineKinds, offerParts, itemParts_kinds, Part.kinds, Sign.text]
  obtain ⟨first, others, begins⟩ : ∃ name others, items = .literal (.text name) :: others := by
    obtain ⟨name, names, rfl⟩ := List.exists_cons_of_ne_nil isSome
    exact ⟨_, _, rfl⟩
  let value := numbered (fun place => lines (place + 2)) (.mark "[" :: items)
  let inner : List Token := ⟨.literal (.text first), lines 3⟩ :: numbered (fun place => lines (place + 4)) others
  have shape : value = ⟨.mark "[", lines 2⟩ :: inner := by simp only [value, inner, begins, numbered]
  obtain ⟨values, further, read, meant⟩ : ∃ values further,
      listed (element (expressionWithin inner)) (numbered (fun place => lines (place + 3)) items)
        = some (⟨values, true⟩, numbered further behindItems) ∧
      List.Forall₂ (fun name value => ∃ line, value = ⟨line, .constant (.text name)⟩) names values := by
    refine listed_numbered isSome (fun name member lines behind => ?_) (fun _ => rfl) _
    have literal : expressionWithin inner .whole (numbered lines (.literal (.text name) :: .mark "," :: behind))
        = some (⟨lines 0, .constant (.text name)⟩,
            numbered (fun place => lines (place + 1)) (.mark "," :: behind)) := by
      have ends : EndsExpression (numbered (fun place => lines (place + 1)) (.mark "," :: behind)) :=
        ⟨.mark ",", _, _, rfl, by simp [endings]⟩
      exact ends.whole_literal name _
    exact ⟨⟨lines 0, .constant (.text name)⟩, fun place => lines (place + 1), literal, lines 0, rfl⟩
  have ends : EndsExpression (numbered (fun place => further (place + 1)) (.lineEnd :: rest)) :=
    ⟨.lineEnd, _, _, rfl, by simp [endings]⟩
  have bracketed : primary (expressionWithin inner) value
      = some (⟨lines 2, .list values⟩, numbered (fun place => further (place + 1)) (.lineEnd :: rest)) := by
    have notEmpty : mark "]" (numbered (fun place => lines (place + 3)) items) = none := by
      rw [begins]
      rfl
    exact primary_of_list notEmpty read ends _
  have assigned : assignmentsWithin value value
      = some (([], ⟨lines 2, .list values⟩), numbered (fun place => further (place + 1)) (.lineEnd :: rest)) := by
    have begins : BeginsExpression value := .list _ _
    have read : expressionWithin (⟨.mark "[", lines 2⟩ :: inner) .whole value
        = some (⟨lines 2, .list values⟩, numbered (fun place => further (place + 1)) (.lineEnd :: rest)) :=
      whole_of_primary begins bracketed ends
    rw [← shape] at read
    exact assigned_of_whole begins read
  have form : simpleForm (⟨.name "__all__", lines 0⟩ :: ⟨.mark "=", lines 1⟩ :: value)
      = some (.assignment [⟨lines 0, .name "__all__"⟩] ⟨lines 2, .list values⟩,
          numbered (fun place => further (place + 1)) (.lineEnd :: rest)) :=
    behindExpressions_of_assigned assigned _ (lines 1) false
  rw [kinds]
  exact ⟨_, fun place => further (place + 2), simpleLine_of_form form, lines, values, rfl, meant⟩

/-- What stands in the file of a package. -/
def packageMeanings (package : String) (sources : List ModuleSource) : List Meaning :=
  (lineKinds [.documentation packageTitle], (documenting (Docstring.asRead packageTitle)).Fits) ::
    if (modulesIn package sources).isEmpty then []
    else
      ((modulesIn package sources).map fun source => (lineKinds (exportParts source.moduleName source.classNames),
          Import.Imports 1 source.moduleName (entriesOf source.classNames)))
        ++ [(lineKinds (offerParts (exportedNames package sources)), Offers (exportedNames package sources))]

/-- A name that can be defined. -/
structure IsDefinable (name : String) : Prop where
  named : Sdl.isName name.toList = true
  plain : name ∉ Projection.keywords

/-- A module that defines something that its package can offer. -/
structure ModuleSource.Exportable (source : ModuleSource) : Prop where
  isSome : source.classNames ≠ []
  moduleName : IsDefinable source.moduleName
  classNames : ∀ name ∈ source.classNames, IsDefinable name

variable {package : String} {sources : List ModuleSource}

theorem exportedNames_definable (exportable : ∀ source ∈ sources, source.Exportable) :
    ∀ name ∈ exportedNames package sources, IsDefinable name :=
  List.forall_mem_flatMap.mpr fun source member => (exportable source (List.mem_filter.mp member).1).classNames

theorem exportedNames_ne_nil (exportable : ∀ source ∈ sources, source.Exportable)
    (isSome : modulesIn package sources ≠ []) : exportedNames package sources ≠ [] := by
  obtain ⟨source, others, shape⟩ := List.exists_cons_of_ne_nil isSome
  have member : source ∈ modulesIn package sources := by simp [shape]
  have names := (exportable source (List.mem_filter.mp member).1).isSome
  change (modulesIn package sources).flatMap ModuleSource.classNames ≠ []
  simp [shape, names]

theorem package_laid (exportable : ∀ source ∈ sources, source.Exportable) :
    Laid [] (packageRows package sources) ((packageMeanings package sources).flatMap Prod.fst) := by
  have stays : Indentation.arrange ⟨0, 0⟩ [] = some ([], []) := rfl
  have titled : IsLine [.documentation packageTitle] := isLine_documentation (by decide)
  unfold packageRows packageMeanings
  split_ifs with empty
  · exact Laid.row titled stays (.done [])
  · have exports : ∀ parts ∈ (modulesIn package sources).map fun source =>
        exportParts source.moduleName source.classNames, IsLine parts :=
      List.forall_mem_map.mpr fun source member =>
        have known := exportable source (List.mem_filter.mp member).1
        isLine_exportParts known.moduleName.named fun name listed => (known.classNames name listed).named
    have offers : IsLine (offerParts (exportedNames package sources)) :=
      isLine_offerParts fun name listed => (exportedNames_definable exportable name listed).named
    have laid := Laid.row titled stays
      (.blank (Laid.sequence exports stays (.blank (Laid.row offers stays (.done [])))))
    simpa [List.flatMap_map, Function.comp_def] using laid

theorem takes_packageMeanings (exportable : ∀ source ∈ sources, source.Exportable) :
    ∀ item ∈ packageMeanings package sources, ∃ depth < item.1.length, Takes depth item.1 item.2 := by
  have long (parts : List Part) : 0 < (lineKinds parts).length := by simp [lineKinds]
  refine List.forall_mem_cons.mpr ⟨⟨0, long _, takes_documenting _⟩, ?_⟩
  split_ifs with empty
  · simp
  · refine List.forall_mem_append.mpr ⟨List.forall_mem_map.mpr fun source member => ?_, fun item member => ?_⟩
    · have known := exportable source (List.mem_filter.mp member).1
      exact ⟨0, long _, takes_exportParts _ known.moduleName.plain known.isSome fun name listed =>
        (known.classNames name listed).plain⟩
    · obtain rfl := List.mem_singleton.mp member
      exact ⟨0, long _, takes_offerParts (exportedNames_ne_nil exportable (by simpa using empty))⟩

end Reading

end SelectionGen.Target
