import SelectionGen.Sdl.Document
import SelectionGen.Text.Split

/-! Filters on types by how their names begin and end. A filter removes the definitions and extensions of
the types it rejects and keeps everything else. A field whose type was removed leads nowhere. -/
namespace SelectionGen.Schema

/-- What names of types must not and what they must begin and end with. An empty text asks nothing. -/
structure TypeFilter where
  excludedStart : Option String := none
  excludedEnd : Option String := none
  requiredStart : Option String := none
  requiredEnd : Option String := none
deriving DecidableEq, Repr

namespace TypeFilter

/-- Whether a filter rejects names because of a part of them, given how the part is looked for. -/
def excludes (part : Option String) (occurs : String → Bool) : Bool :=
  match part with
  | some text => text ≠ "" && occurs text
  | none => false

/-- Whether a part that a filter asks for is missing. -/
def misses (part : Option String) (occurs : String → Bool) : Bool :=
  excludes part fun text => !occurs text

def keeps (filter : TypeFilter) (name : String) : Bool :=
  !(excludes filter.excludedStart (Text.beginsWith · name)
    || excludes filter.excludedEnd (Text.endsWith · name)
    || misses filter.requiredStart (Text.beginsWith · name)
    || misses filter.requiredEnd (Text.endsWith · name))

def keepsDefinition (filter : TypeFilter) (definition : Sdl.Definition) : Bool :=
  match definition.type? with
  | some found => filter.keeps found.name.text
  | none => true

def apply (document : Sdl.Document) (filter : TypeFilter) : Sdl.Document :=
  document.filter filter.keepsDefinition

/-- A document after filters, applied one after the other. -/
def applyAll (filters : List TypeFilter) (document : Sdl.Document) : Sdl.Document :=
  filters.foldl apply document

/-! What filters leave. -/

/-- Whether all filters keep a name. -/
def keepAll (filters : List TypeFilter) (name : Sdl.Name) : Bool := filters.all fun filter => filter.keeps name.text

/-- Whether all filters leave an entry where it is: whatever is no type, and types whose names are kept. -/
def leave (filters : List TypeFilter) (entry : Sdl.Definition) : Bool :=
  entry.type?.all fun found => keepAll filters found.name

variable {filters others : List TypeFilter}

/-- Filters one after the other keep what each of them keeps. -/
theorem applyAll_eq_filter (filters : List TypeFilter) (document : Sdl.Document) :
    applyAll filters document = document.filter (leave filters) := by
  induction filters generalizing document with
  | nil =>
    have all : document.filter (leave []) = document := by
      apply List.filter_eq_self.mpr
      intro entry _
      cases entry <;> rfl
    exact all.symm
  | cons filter rest ih =>
    have tail := ih (apply document filter)
    rw [apply, List.filter_filter] at tail
    refine tail.trans (List.filter_congr fun entry _ => ?_)
    cases entry with
    | type definition => exact Bool.and_comm _ _
    | schema | directive | operation | fragment => rfl

/-- Which filters there are decides, not their order nor how often they are there. -/
theorem keepAll_congr (same : ∀ filter, filter ∈ others ↔ filter ∈ filters) :
    keepAll others = keepAll filters := by
  funext name
  rw [Bool.eq_iff_iff, keepAll, keepAll, List.all_eq_true, List.all_eq_true]
  constructor
  · intro kept filter member
    exact kept filter ((same filter).mpr member)
  · intro kept filter member
    exact kept filter ((same filter).mp member)

theorem applyAll_congr (same : ∀ filter, filter ∈ others ↔ filter ∈ filters) :
    applyAll others = applyAll filters := by
  funext document
  have leaves : leave others = leave filters := by
    funext entry
    rw [leave, leave, keepAll_congr same]
  rw [applyAll_eq_filter, applyAll_eq_filter, leaves]

theorem applyAll_sublist (filters : List TypeFilter) (document : Sdl.Document) :
    (applyAll filters document).Sublist document := by
  rw [applyAll_eq_filter]
  exact List.filter_sublist

theorem applyAll_append (filters : List TypeFilter) (document behind : Sdl.Document) :
    applyAll filters (document ++ behind) = applyAll filters document ++ applyAll filters behind := by
  rw [applyAll_eq_filter, applyAll_eq_filter, applyAll_eq_filter, List.filter_append]

end TypeFilter

end SelectionGen.Schema
