import SelectionGen.Projection.Walk
import SelectionGen.Schema.Subject

/-! Building from definitions that are picked by their place in a document. Besides a clash, what is picked
can be at fault: it may have no name, or be an input object, whose fields cannot be selected. -/
namespace SelectionGen.Projection

open Sdl Schema

/-- Why nothing can be built from a definition. -/
inductive BuildError
  | subject (error : SubjectError)
  | clash (clash : Clash)
deriving DecidableEq, Repr

namespace Context

/-- The error of an input object: its fields take no arguments, and below the root that is asked for. -/
def inputFieldError : SubjectError := .missing "InputValueDefinitionNode" "arguments"

/-- Whether a type has a field of an input object that survives the policies. Its own fields come before
those of extensions, so such a field is then the first that is followed. -/
def startsWithInputField (context : Context) (definition : TypeDefinition) : Bool :=
  definition.kind == .inputObject
    && !(filteredFields context.settings definition.name.text
      (firstOccurrences [] definition.fields)).isEmpty

/-- Builds the projection of the definition at a position under a class name of its own choosing, on top
of what a registry holds. The class of an input object is registered before its fields are at fault. -/
def buildTypeAt (context : Context) (baseName : String) (position : Nat) (registry : Registry) :
    Except BuildError Api × Registry :=
  match subjectAt context.document position with
  | .error error => (.error (.subject error), registry)
  | .ok definition =>
    if (registry.lookup (className baseName)).isNone && context.startsWithInputField definition then
      (.error (.subject inputFieldError), registry ++ [(className baseName, definition.name.text)])
    else
      let (result, outcome) := context.buildType baseName position definition registry
      (result.mapError .clash, outcome.registry)

/-- Builds the entry point of the definition at a position, on top of what a registry holds. -/
def buildRootAt (context : Context) (position : Nat) (registry : Registry) :
    Except BuildError Api × Registry :=
  match subjectAt context.document position with
  | .error error => (.error (.subject error), registry)
  | .ok definition =>
    let (result, outcome) := context.buildRoot position definition registry
    (result.mapError .clash, outcome.registry)

/-- Everything that the definition at a position leads to as a root, from an empty registry. -/
def generateAt (context : Context) (position : Nat) : Except BuildError Api :=
  match subjectAt context.document position with
  | .error error => .error (.subject error)
  | .ok definition => (context.generate position definition).1.mapError .clash

end Context

end SelectionGen.Projection
