import SelectionGen.Proofs.ImportedPackages

/-! Faults of rendering. Before any file is looked at, the names of the classes in each package are checked; that check
goes by names alone and refuses exactly what defines a class twice in a package. Then the first file that is no code is
reported. A file that holds a null character, or a header with code that is nested too deeply, ends the run without a
report; nothing else does. -/
namespace SelectionGen

/-- What is done for the items of a list fails where it first fails for one of them. -/
theorem mapM_eq_error_iff {α β ε : Type} {f : α → Except ε β} {items : List α} {error : ε} :
    items.mapM f = .error error ↔ ∃ before item behind, items = before ++ item :: behind ∧
      (∀ other ∈ before, ∃ result, f other = .ok result) ∧ f item = .error error := by
  constructor
  · intro failed
    induction items with
    | nil => cases failed
    | cons item items ih =>
      rw [List.mapM_cons] at failed
      cases here : f item with
      | error found =>
        rw [here] at failed
        cases failed
        exact ⟨[], item, items, rfl, by simp, here⟩
      | ok result =>
        cases later : items.mapM f with
        | ok results => rw [here, later] at failed; cases failed
        | error found =>
          rw [here, later] at failed
          cases failed
          obtain ⟨before, first, behind, rfl, good, bad⟩ := ih later
          exact ⟨item :: before, first, behind, rfl, List.forall_mem_cons.mpr ⟨⟨result, here⟩, good⟩, bad⟩
  · rintro ⟨before, item, behind, rfl, good, bad⟩
    induction before with
    | nil => rw [List.nil_append, List.mapM_cons, bad]; rfl
    | cons first before ih =>
      obtain ⟨⟨result, here⟩, good⟩ := List.forall_mem_cons.mp good
      rw [List.cons_append, List.mapM_cons, here, ih good]
      rfl

namespace Target

/-! Classes that are there twice. -/

section Names

variable {seen names : List String} {package : String} {before sources : List ModuleSource}

theorem firstRepeated_eq_none_iff :
    firstRepeated? seen names = none ↔ names.Nodup ∧ ∀ name ∈ names, name ∉ seen := by
  induction names generalizing seen with
  | nil => simp [firstRepeated?]
  | cons name rest ih =>
    rw [firstRepeated?, List.nodup_cons, List.forall_mem_cons]
    by_cases known : name ∈ seen
    · simp [known]
    · have others : (∀ other ∈ rest, other ∉ name :: seen) ↔ name ∉ rest ∧ ∀ other ∈ rest, other ∉ seen := by
        simp only [List.mem_cons, not_or]
        constructor
        · exact fun each => ⟨fun member => (each name member).1 rfl, fun other member => (each other member).2⟩
        · rintro ⟨fresh, each⟩ other member
          exact ⟨fun same => fresh (same ▸ member), each other member⟩
      simp only [List.contains_eq_mem, known, decide_false, Bool.false_eq_true, if_false, ih, others]
      tauto

theorem exportedNames_append (package : String) (before sources : List ModuleSource) :
    exportedNames package (before ++ sources) = exportedNames package before ++ exportedNames package sources := by
  simp [exportedNames]

theorem exportedNames_singleton (package : String) (source : ModuleSource) :
    exportedNames package [source] = if source.package = package then source.classNames else [] := by
  by_cases same : source.package = package
  · simp [exportedNames, same]
  · simp [exportedNames, same]

/-- What a package offers, by packages and the names of classes alone. -/
theorem exportedNames_eq (package : String) (sources : List ModuleSource) : exportedNames package sources
    = ((sources.map fun source => (source.package, source.classNames)).filter
        fun pair => pair.1 == package).flatMap Prod.snd := by
  rw [exportedNames, List.filter_map, List.flatMap_map]
  rfl

/-- The check passes where no package is given a name twice. -/
theorem checkUnique_eq_ok_iff (distinct : ∀ package, (exportedNames package before).Nodup) :
    checkUnique before sources = .ok () ↔ ∀ package, (exportedNames package (before ++ sources)).Nodup := by
  induction sources generalizing before with
  | nil => simpa [checkUnique] using distinct
  | cons source rest ih =>
    have here : firstRepeated? [] (source.classNames ++ exportedNames source.package before) = none ↔
        (exportedNames source.package (before ++ [source])).Nodup := by
      rw [firstRepeated_eq_none_iff, exportedNames_append, exportedNames_singleton, if_pos rfl,
        List.perm_append_comm.nodup_iff]
      simp
    have split : before ++ source :: rest = before ++ [source] ++ rest := by simp
    rw [checkUnique]
    cases repeated : firstRepeated? [] (source.classNames ++ exportedNames source.package before) with
    | none =>
      have stillDistinct : ∀ package, (exportedNames package (before ++ [source])).Nodup := by
        intro package
        by_cases same : source.package = package
        · exact same ▸ here.mp repeated
        · rw [exportedNames_append, exportedNames_singleton, if_neg same, List.append_nil]
          exact distinct package
      rw [split]
      exact ih stillDistinct
    | some name =>
      refine iff_of_false (by simp) fun all => ?_
      have whole := all source.package
      rw [split, exportedNames_append] at whole
      rw [here.mpr whole.of_append_left] at repeated
      cases repeated

/-- The check goes by packages and the names of classes, whatever else the classes are. -/
theorem checkUnique_congr {others otherSources : List ModuleSource}
    (sameBefore : before.map (fun source => (source.package, source.classNames))
      = others.map fun source => (source.package, source.classNames))
    (same : sources.map (fun source => (source.package, source.classNames))
      = otherSources.map fun source => (source.package, source.classNames)) :
    checkUnique before sources = checkUnique others otherSources := by
  induction sources generalizing before others otherSources with
  | nil =>
    obtain rfl := List.map_eq_nil_iff.mp same.symm
    rfl
  | cons source rest ih =>
    cases otherSources with
    | nil => cases same
    | cons other more =>
      obtain ⟨⟨samePackage, sameNames⟩, sameRest⟩ := by simpa using same
      rw [checkUnique, checkUnique, samePackage, sameNames, exportedNames_eq _ before, sameBefore,
        ← exportedNames_eq]
      cases firstRepeated? [] (other.classNames ++ exportedNames other.package others) with
      | some name => rfl
      | none => exact ih (by simp [sameBefore, samePackage, sameNames]) (by simpa using sameRest)

end Names

section Modules

variable {settings : Settings} {api : Api} {headers : List String} {error : RenderError}

/-- Which classes are to be defined in which packages. -/
theorem moduleSources_names (settings : Settings) (api : Api) :
    (moduleSources api settings).map (fun source => (source.package, source.classNames))
      = [(settings.clientPackage, api.clientProjections.map Projection.name),
          (settings.queriesPackage, api.queryTypes.map Projection.name)].filter fun pair => !pair.2.isEmpty := by
  cases noClients : api.clientProjections with
  | nil => cases noEntries : api.queryTypes <;> simp [moduleSources, ModuleSource.classNames, noClients, noEntries]
  | cons => cases noEntries : api.queryTypes <;> simp [moduleSources, ModuleSource.classNames, noClients, noEntries]

theorem exportedNames_moduleSources (package : String) :
    exportedNames package (moduleSources api settings)
      = (if settings.clientPackage = package then api.clientProjections.map Projection.name else [])
        ++ if settings.queriesPackage = package then api.queryTypes.map Projection.name else [] := by
  rw [exportedNames_eq, moduleSources_names]
  generalize api.clientProjections.map Projection.name = client
  generalize api.queryTypes.map Projection.name = entries
  -- Modules without classes are left out, but they would offer nothing.
  cases client <;> cases entries <;> simp [List.filter_cons] <;> split_ifs <;> simp

/-- A class is to be defined twice in a package: two classes of the client share their name, or two entry points do, or
one of each where both go into one package. -/
def RepeatsClass (settings : Settings) (api : Api) : Prop :=
  ¬ (api.clientProjections.map Projection.name).Nodup ∨ ¬ (api.queryTypes.map Projection.name).Nodup ∨
    settings.clientPackage = settings.queriesPackage ∧
      ∃ client ∈ api.clientProjections, ∃ entry ∈ api.queryTypes, client.name = entry.name

theorem checkUnique_modules_iff :
    checkUnique [] (moduleSources api settings) = .ok () ↔ ¬ RepeatsClass settings api := by
  rw [checkUnique_eq_ok_iff (by simp [exportedNames])]
  simp only [List.nil_append, exportedNames_moduleSources, RepeatsClass, not_or, not_and, not_not, not_exists]
  constructor
  · intro all
    have ofClient := all settings.clientPackage
    have ofEntries := all settings.queriesPackage
    rw [if_pos rfl] at ofClient
    rw [if_pos (rfl : settings.queriesPackage = _)] at ofEntries
    refine ⟨ofClient.of_append_left, ofEntries.of_append_right, fun same client inClient entry inEntries named => ?_⟩
    rw [if_pos same.symm] at ofClient
    exact List.disjoint_of_nodup_append ofClient (List.mem_map_of_mem inClient) (named ▸ List.mem_map_of_mem inEntries)
  · rintro ⟨client, entries, apart⟩ package
    split_ifs with ofClient ofEntries
    · refine client.append entries fun name inClient inEntries => ?_
      obtain ⟨projection, listed, rfl⟩ := List.mem_map.mp inClient
      obtain ⟨entry, alsoListed, same⟩ := List.mem_map.mp inEntries
      exact apart (ofClient.trans ofEntries.symm) projection listed entry alsoListed same.symm
    · simpa using client
    · simpa using entries
    · exact List.nodup_nil

end Modules

/-! Which fault is reported. -/

section Faults

variable {settings : Settings} {api : Api} {headers : List String} {error : RenderError} {file : String × String}

/-- How what is wrong with the text of a file is reported. -/
def faultAt {ε : Type} (path : String) : TextFault → RenderError ε
  | .nullCharacter => .nullCharacter
  | .malformed => .malformed path
  | .unreadable => .unreadable
  | .tooDeep => .tooDeep

theorem finish_eq {ε : Type} (headers : List String) (file : String × String) :
    (finish headers file : Except (RenderError ε) (String × String)) = match readCode (withHeaders headers file.2) with
      | .ok _ => .ok (file.1, withHeaders headers file.2)
      | .error fault => .error (faultAt file.1 fault) := by
  rw [finish]
  cases readCode (withHeaders headers file.2) with
  | ok code => rfl
  | error fault => cases fault <;> rfl

theorem finish_eq_error_iff {ε : Type} {error : RenderError ε} : finish headers file = .error error ↔
    ∃ fault, readCode (withHeaders headers file.2) = .error fault ∧ faultAt file.1 fault = error := by
  rw [finish_eq]
  cases readCode (withHeaders headers file.2) <;> simp

theorem render_of_unique (unique : checkUnique [] (moduleSources api settings) = .ok ()) :
    render settings headers [] api = (layOut (moduleSources api settings)).mapM (finish headers) := by
  rw [render_declared, unique]
  rfl

theorem render_of_refused (refused : checkUnique [] (moduleSources api settings) = .error error) :
    render settings headers [] api = .error error := by
  rw [render_declared, refused]
  rfl

/-- Rendering fails where the check of names does, or else where the first file is no code. -/
theorem render_eq_error_iff : render settings headers [] api = .error error ↔
    checkUnique [] (moduleSources api settings) = .error error ∨
      checkUnique [] (moduleSources api settings) = .ok () ∧
        ∃ before file behind, layOut (moduleSources api settings) = before ++ file :: behind ∧
          (∀ other ∈ before, ∃ code, readCode (withHeaders headers other.2) = .ok code) ∧
          ∃ fault, readCode (withHeaders headers file.2) = .error fault ∧ faultAt file.1 fault = error := by
  cases unique : checkUnique [] (moduleSources api settings) with
  | error found => simp [render_of_refused unique]
  | ok _ =>
    rw [render_of_unique unique, mapM_eq_error_iff]
    simp only [finish_eq_error_iff, finish_eq_ok_iff, exists_and_left, exists_eq', and_true, reduceCtorEq, false_or,
      true_and]

theorem faultAt_ne_duplicateClass (path : String) (fault : TextFault) (package className : String) :
    (faultAt path fault : RenderError) ≠ .duplicateClass package className := by
  cases fault <;> simp [faultAt]

theorem render_eq_duplicateClass_iff {package className : String} :
    render settings headers [] api = .error (.duplicateClass package className) ↔
      checkUnique [] (moduleSources api settings) = .error (.duplicateClass package className) := by
  rw [render_eq_error_iff]
  refine or_iff_left ?_
  rintro ⟨_, _, file, _, _, _, fault, _, same⟩
  exact faultAt_ne_duplicateClass _ _ _ _ same

end Faults

end Target

namespace Projection.Context

/-- The class of the root is called like that of a type which the root leads to. -/
def RootNameReached (context : Context) : Prop :=
  ∃ position definition target, Schema.findRoot? context.document .query = some (position, definition) ∧
    context.Reached (context.rootTargets position definition) target ∧
    target.className = className definition.name.text

end Projection.Context

namespace Generation

open Target Schema Projection

variable {settings : Settings} {filters : List TypeFilter} {load : Unit → Loading} {api : Api}

/-- What a run gives out repeats a class only where the entry points and the client go into one package and the root
leads to a type whose class is called like its own. -/
theorem repeatsClass_iff_of_run (done : (run settings filters load).outcome = .ok api) :
    RepeatsClass settings api ↔ settings.clientPackage = settings.queriesPackage ∧ settings.generatesClient = true ∧
      ∃ document, (load ()).outcome = .ok document ∧
        Context.RootNameReached ⟨settings, TypeFilter.applyAll filters document⟩ := by
  have coherent := coherent_of_run done
  have entries : (api.queryTypes.map Projection.name).Nodup := by
    rcases descent_of_run done with rfl | ⟨_, _, _, _, _, _, _, _, rfl⟩ <;> simp
  have clientOnly : RepeatsClass settings api ↔ settings.clientPackage = settings.queriesPackage ∧
      ∃ client ∈ api.clientProjections, ∃ entry ∈ api.queryTypes, client.name = entry.name := by
    rw [RepeatsClass, or_iff_right (not_not.mpr coherent.distinct), or_iff_right (not_not.mpr entries)]
  rw [clientOnly]
  refine and_congr_right fun _ => ⟨?_, ?_⟩
  · rintro ⟨client, inClient, entry, inEntries, same⟩
    rcases descent_of_run done with rfl | ⟨document, position, definition, given, final, loaded, root, descent, rfl⟩
    · cases inClient
    · obtain ⟨target, inGiven, rfl⟩ := List.mem_map.mp inClient
      obtain rfl := List.mem_singleton.mp inEntries
      have wanted : settings.generatesClient = true := by
        by_contra unwanted
        cases (run_unwanted unwanted).symm.trans done
      exact ⟨wanted, document, loaded, position, definition, target, root, descent.given_reached target inGiven, same⟩
  · rintro ⟨wanted, document, loaded, position, definition, target, root, reached, same⟩
    rw [run_of_loaded loaded, outcome_ok_iff wanted root] at done
    obtain ⟨given, final, descent, rfl⟩ := Context.generate_ok done
    have inGiven := (descent.mem_given_iff fun _ => Context.resolves_of_mem_rootTargets).mpr reached
    exact ⟨_, List.mem_map_of_mem inGiven, _, List.mem_cons_self, same⟩

/-- **Classes that are there twice are found.** Whatever is to be written, rendering refuses it as repeating a class
exactly if two classes of the client share their name, or two entry points do, or one of each where both go into one
package. Nothing but the names has a part in that: neither the packages of the classes, nor headers, nor whether the
files could be read as code. For what a run gives out it comes down to one package for both and a root whose class is
called like that of a type which the root leads to. -/
theorem duplicates_found :
    (∀ settings headers api, (∃ package className,
        render settings headers [] api = .error (.duplicateClass package className)) ↔ RepeatsClass settings api) ∧
    (∀ settings headers others (api another : Api),
      api.clientProjections.map Projection.name = another.clientProjections.map Projection.name →
      api.queryTypes.map Projection.name = another.queryTypes.map Projection.name → ∀ package className,
        (render settings headers [] api = .error (.duplicateClass package className) ↔
          render settings others [] another = .error (.duplicateClass package className))) ∧
    ∀ settings filters load headers api, (run settings filters load).outcome = .ok api →
      ((∃ package className, render settings headers [] api = .error (.duplicateClass package className)) ↔
        settings.clientPackage = settings.queriesPackage ∧ settings.generatesClient = true ∧
          ∃ document, (load ()).outcome = .ok document ∧
            Context.RootNameReached ⟨settings, TypeFilter.applyAll filters document⟩) := by
  have found (settings : Settings) (headers : List String) (api : Api) : (∃ package className,
      render settings headers [] api = .error (.duplicateClass package className)) ↔ RepeatsClass settings api := by
    simp only [render_eq_duplicateClass_iff]
    constructor
    · rintro ⟨package, className, refused⟩
      by_contra unique
      rw [checkUnique_modules_iff.mpr unique] at refused
      cases refused
    · intro repeats
      cases unique : checkUnique [] (moduleSources api settings) with
      | ok _ => exact absurd repeats (checkUnique_modules_iff.mp unique)
      | error error =>
        obtain ⟨package, className, rfl⟩ := checkUnique_error unique
        exact ⟨package, className, rfl⟩
  refine ⟨found, fun settings headers others api another sameClient sameEntries package className => ?_,
    fun settings filters load headers api done => (found settings headers api).trans (repeatsClass_iff_of_run done)⟩
  have names : (moduleSources api settings).map (fun source => (source.package, source.classNames))
      = (moduleSources another settings).map fun source => (source.package, source.classNames) := by
    rw [moduleSources_names, moduleSources_names, sameClient, sameEntries]
  rw [render_eq_duplicateClass_iff, render_eq_duplicateClass_iff, checkUnique_congr rfl names]

end Generation

/-! A root that leads to its own type. The class of that type is one of the client. -/
open Target

namespace Projection.Mirror

open Sdl Schema

def query : TypeDefinition where
  kind := .object
  name := customaryQuery
  fields := [{ name := ⟨"again", by decide +kernel⟩, type := ⟨[.nonNull], customaryQuery⟩ }]

def schema : Document := [.type query]

/-- Settings that put the entry point into the package of the client. -/
def together : Settings where
  queriesPart := ({} : Settings).clientPart

def context : Context := ⟨together, schema⟩

def root : Projection.Target where
  fst := 0
  snd := query

def api : Api where
  queryTypes := [context.rootProjectionOf 0 query]
  clientProjections := [context.projection root]

theorem rootTargets_eq : context.rootTargets 0 query = [root] := by decide

theorem descent : context.Descent (context.rootTargets 0 query) [] [root] [root.entry] none := by
  rw [rootTargets_eq]
  exact .alone rfl (by decide) .done

theorem root_found : findRoot? schema .query = some (0, query) := by decide

theorem generated : (Generation.run together [] fun _ => ⟨.ok schema, "", []⟩).outcome = .ok api :=
  Generation.outcome_of_descent rfl root_found descent

/-- In one package the class would be there twice, and in two it is not. -/
theorem mirror_refused :
    (Generation.run together [] fun _ => ⟨.ok schema, "", []⟩).outcome = .ok api ∧
    (∃ package className, render together [] [] api = .error (.duplicateClass package className)) ∧
    ¬ ∃ package className, render {} [] [] api = .error (.duplicateClass package className) := by
  obtain ⟨found, _, ofRun⟩ := Generation.duplicates_found
  have packages : together.clientPackage = together.queriesPackage := rfl
  have reached : context.RootNameReached := by
    refine ⟨0, query, root, root_found, .start ?_, rfl⟩
    rw [rootTargets_eq]
    exact List.mem_cons_self
  refine ⟨generated, (ofRun together [] _ [] api generated).mpr ⟨packages, rfl, schema, rfl, reached⟩, ?_⟩
  rw [found]
  have apart : ({} : Settings).clientPackage ≠ ({} : Settings).queriesPackage := by decide
  rintro (twice | twice | ⟨same, _⟩)
  · exact twice (by simp [api])
  · exact twice (by simp [api])
  · exact apart same

end Projection.Mirror

end SelectionGen
