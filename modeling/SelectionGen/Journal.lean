import SelectionGen.Sdl.Token
import SelectionGen.Text.Split

/-! What a run reports on the way. A record is kept as what happened; its level, the stage it belongs to
and its words follow from that. -/
namespace SelectionGen

inductive Level
  | debug
  | info
  | warning
  | error
deriving DecidableEq, Repr

def Level.label : Level → String
  | .debug => "DEBUG"
  | .info => "INFO"
  | .warning => "WARNING"
  | .error => "ERROR"

/-- An event of a run. -/
inductive Event
  | sourceRejected (source : String) (error : Sdl.SyntaxError)
  | sourcesRead (count : Nat)
  | generationDisabled
  | rootMissing (typeName : String)
  | repeatedField (typeName fieldName : String)
  | alreadyGenerated (className : String)
  | undefinedFieldType (typeName fieldName : String)
  | rootFieldSkipped (rootName fieldName : String)
  | generated (roots projections : Nat) (rootName : String)
deriving DecidableEq, Repr

namespace Event

def level : Event → Level
  | sourceRejected .. => .error
  | rootMissing _ => .warning
  | generationDisabled => .info
  | generated .. => .info
  | sourcesRead _ => .debug
  | repeatedField .. => .debug
  | alreadyGenerated _ => .debug
  | undefinedFieldType .. => .debug
  | rootFieldSkipped .. => .debug

/-- The stage that reports the event. -/
def stage : Event → String
  | sourceRejected .. => "parser"
  | sourcesRead _ => "parser"
  | generationDisabled => "codegen"
  | rootMissing _ => "codegen"
  | repeatedField .. => "type_utils"
  | alreadyGenerated _ => "projection_generator"
  | undefinedFieldType .. => "projection_generator"
  | rootFieldSkipped .. => "projection_generator"
  | generated .. => "projection_generator"

def message : Event → String
  | sourceRejected source error => "Error parsing " ++ source ++ ": " ++ error.message
  | sourcesRead count => "Parsed " ++ toString count ++ " schema source(s)"
  | generationDisabled =>
    "Client API generation disabled (language=python), nothing to generate"
  | rootMissing typeName => "Schema has no " ++ typeName ++ " type, nothing to generate"
  | repeatedField typeName fieldName =>
    "Ignoring duplicate field " ++ typeName ++ "." ++ fieldName
  | alreadyGenerated className =>
    "Projection " ++ className ++ " already generated, skipping"
  | undefinedFieldType typeName fieldName =>
    "No definition for " ++ typeName ++ "." ++ fieldName ++ ", treating as leaf"
  | rootFieldSkipped rootName fieldName =>
    "Root field " ++ rootName ++ "." ++ fieldName ++ " is not an object type, no entry point"
  | generated roots projections rootName =>
    "Generated " ++ toString roots ++ " root type(s) and " ++ toString projections ++
      " projection(s) from " ++ rootName

/-- The event as one line of a log. -/
def line (event : Event) : String :=
  event.level.label ++ " " ++ event.stage ++ ": " ++ Text.firstLine event.message

end Event

/-- The events of a run in order. -/
abbrev Journal := List Event

end SelectionGen
