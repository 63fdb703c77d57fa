import SelectionGen.Generation
import SelectionGen.Proofs.Descent

/-! Whole runs without filters. What a run on files and texts gives is what it gives on the document that they
hold, and that is nothing unless a client is wanted and the document has a root of queries. From the
root on, a result is what one descent lists. -/
namespace SelectionGen.Generation

open Sdl Schema Projection

variable {settings : Settings} {document : Document} {position : Nat} {definition : TypeDefinition}

/-- A run on a schema that was loaded is a run on what was loaded. -/
theorem outcome_of_loaded {tree : Files.Tree} {current : Files.Place}
    (loaded : (load tree current settings.schemaPaths settings.schemas).outcome = .ok document) :
    (ofSettings settings [] tree current).outcome
      = (ofGivenDocument settings [] document).outcome := by
  simp only [ofSettings, ofGivenDocument, run, loaded]
  split <;> rfl

/-- A run that loads a document and filters it is a run on what the filters leave. -/
theorem run_of_loaded {filters : List TypeFilter} {load : Unit → Loading}
    (loaded : (load ()).outcome = .ok document) :
    (run settings filters load).outcome
      = (ofGivenDocument settings [] (TypeFilter.applyAll filters document)).outcome := by
  simp only [ofGivenDocument, run, loaded, TypeFilter.applyAll, List.foldl_nil]
  split <;> rfl

/-- A run that wants a client and loads nothing has no result. -/
theorem run_of_failed {filters : List TypeFilter} {load : Unit → Loading} {error : LoadError}
    (wanted : settings.generatesClient = true) (failed : (load ()).outcome = .error error) :
    (run settings filters load).outcome = .error (.load error) := by
  simp only [run, failed, if_pos wanted]

/-- A run that wants a client has no result unless it loads a document. -/
theorem loaded_of_run {filters : List TypeFilter} {load : Unit → Loading} {api : Api}
    (wanted : settings.generatesClient = true)
    (done : (run settings filters load).outcome = .ok api) :
    ∃ document, (load ()).outcome = .ok document := by
  cases loaded : (load ()).outcome with
  | ok document => exact ⟨document, rfl⟩
  | error error =>
    rw [run_of_failed wanted loaded] at done
    cases done

theorem run_unwanted {filters : List TypeFilter} {load : Unit → Loading}
    (unwanted : ¬ settings.generatesClient = true) :
    (run settings filters load).outcome = .ok {} := by
  rw [run, if_neg unwanted]

theorem outcome_unwanted (unwanted : ¬ settings.generatesClient = true) :
    (ofGivenDocument settings [] document).outcome = .ok {} := by
  rw [ofGivenDocument, run, if_neg unwanted]

theorem outcome_without_root (missing : findRoot? document .query = none) :
    (ofGivenDocument settings [] document).outcome = .ok {} := by
  by_cases wanted : settings.generatesClient = true
  · simp only [ofGivenDocument, run, TypeFilter.applyAll, List.foldl_nil, ofDocument, missing,
      if_pos wanted]
  · exact outcome_unwanted wanted

/-- A run on a schema with a root gives what the root leads to. -/
theorem outcome_of_root (wanted : settings.generatesClient = true)
    (root : findRoot? document .query = some (position, definition)) :
    (ofGivenDocument settings [] document).outcome
      = (Context.generate ⟨settings, document⟩ position definition).1.mapError .clash := by
  simp only [ofGivenDocument, run, TypeFilter.applyAll, List.foldl_nil, ofDocument, root,
    if_pos wanted]

/-- A run on a schema with a root has the result of the walk from there, if that has one. -/
theorem outcome_ok_iff (wanted : settings.generatesClient = true)
    (root : findRoot? document .query = some (position, definition)) {api : Api} :
    (ofGivenDocument settings [] document).outcome = .ok api ↔
      (Context.generate ⟨settings, document⟩ position definition).1 = .ok api := by
  rw [outcome_of_root wanted root]
  cases (Context.generate ⟨settings, document⟩ position definition).1 with
  | error clash => exact iff_of_false nofun nofun
  | ok found =>
    show (Except.ok found : Except GenerationError Api) = .ok api ↔ _
    rw [Except.ok.injEq, Except.ok.injEq]

/-- A descent from the root of its schema is what a run gives out. -/
theorem outcome_of_descent (wanted : settings.generatesClient = true)
    (root : findRoot? document .query = some (position, definition)) {given : List Target} {final : Registry}
    (descent : Context.Descent ⟨settings, document⟩
      (Context.rootTargets ⟨settings, document⟩ position definition) [] given final none) :
    (ofGivenDocument settings [] document).outcome
      = .ok { queryTypes := [Context.rootProjectionOf ⟨settings, document⟩ position definition]
              clientProjections := given.map (Context.projection ⟨settings, document⟩) } :=
  (outcome_ok_iff wanted root).mpr (Context.generate_of_descent descent)

/-- A run with a result gives nothing out, or what a descent from the root of its schema lists. -/
theorem descent_of_outcome {api : Api} (done : (ofGivenDocument settings [] document).outcome = .ok api) :
    api = {} ∨ ∃ position definition given final,
      findRoot? document .query = some (position, definition) ∧
      Context.Descent ⟨settings, document⟩
        (Context.rootTargets ⟨settings, document⟩ position definition) [] given final none ∧
      api = { queryTypes := [Context.rootProjectionOf ⟨settings, document⟩ position definition]
              clientProjections := given.map (Context.projection ⟨settings, document⟩) } := by
  by_cases wanted : settings.generatesClient = true
  · cases root : findRoot? document .query with
    | none =>
      rw [outcome_without_root root] at done
      exact .inl (Except.ok.inj done).symm
    | some found =>
      obtain ⟨position, definition⟩ := found
      rw [outcome_of_root wanted root] at done
      cases generated : (Context.generate ⟨settings, document⟩ position definition).1 with
      | error clash =>
        rw [generated] at done
        cases done
      | ok result =>
        rw [generated] at done
        cases done
        obtain ⟨given, final, descent, rfl⟩ := Context.generate_ok generated
        exact .inr ⟨position, definition, given, final, rfl, descent, rfl⟩
  · rw [outcome_unwanted wanted] at done
    exact .inl (Except.ok.inj done).symm

end SelectionGen.Generation
