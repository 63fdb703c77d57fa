import SelectionGen.Projection.Walk
import SelectionGen.Schema.Load
import SelectionGen.Schema.Lookup
import SelectionGen.Schema.TypeFilter

/-! One run from settings to projections: load the schema, filter it, find the root of queries and walk
from there. A schema without a root, and settings that want no client, give an empty API. -/
namespace SelectionGen

/-- Why a run gives no API. -/
inductive GenerationError
  | load (error : Schema.LoadError)
  | clash (clash : Projection.Clash)
deriving DecidableEq, Repr

/-- The result of a run and what it reported. -/
structure Generation where
  outcome : Except GenerationError Api
  journal : Journal

namespace Generation

open Schema

/-- The API of a schema that is loaded and filtered. -/
def ofDocument (settings : Settings) (document : Sdl.Document) : Generation :=
  match findRoot? document .query with
  | none => ⟨.ok {}, [.rootMissing (rootName document .query).text]⟩
  | some (position, definition) =>
    let (result, journal) := Projection.Context.generate ⟨settings, document⟩ position definition
    ⟨result.mapError .clash, journal⟩

/-- A run on a schema that `load` provides when it is needed. -/
def run (settings : Settings) (filters : List TypeFilter) (load : Unit → Loading) : Generation :=
  if settings.generatesClient then
    let loading := load ()
    match loading.outcome with
    | .error error => ⟨.error (.load error), loading.journal⟩
    | .ok document =>
      let rest := ofDocument settings (TypeFilter.applyAll filters document)
      { rest with journal := loading.journal ++ rest.journal }
  else ⟨.ok {}, [.generationDisabled]⟩

/-- A run on the files and texts that the settings name. -/
def ofSettings (settings : Settings) (filters : List TypeFilter) (tree : Files.Tree)
    (current : Files.Place) : Generation :=
  run settings filters fun _ => load tree current settings.schemaPaths settings.schemas

/-- A run on a document that is already there. -/
def ofGivenDocument (settings : Settings) (filters : List TypeFilter) (document : Sdl.Document) :
    Generation :=
  run settings filters fun _ => ⟨.ok document, "", []⟩

end Generation

end SelectionGen
