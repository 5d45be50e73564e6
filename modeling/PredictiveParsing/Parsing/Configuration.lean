import PredictiveParsing.Numeral.Reading
import PredictiveParsing.Parsing.Options
import PredictiveParsing.Text.Json

/-!
Options read from a JSON document: an object with the options by name, or an
array with the first ones in order. What is missing has its standard value.
-/
namespace PredictiveParsing.Parsing

open Text.Json (Scalar Document)

/-- The names of the options, in order. -/
def optionNames : List String :=
  ["reject_first_set_overlap", "check_actions", "require_end_of_input", "max_depth"]

/-- Sets the option of this name to a value of the right kind; a depth is a natural
number below `2 ^ 64` in digits. -/
def Options.assign? (o : Options) (name : String) (v : Scalar) : Option Options :=
  match name, v with
  | "reject_first_set_overlap", .bool b => some { o with rejectOverlap := b }
  | "check_actions", .bool b => some { o with checkActions := b }
  | "require_end_of_input", .bool b => some { o with requireEnd := b }
  | "max_depth", .number text => (Numeral.readWord? text).map fun n => { o with maxDepth := n }
  | _, _ => none

/-- Sets the options of an object. Names that are no option are ignored; an option
may be given once. -/
def Options.assignMembers? (o : Options) (seen : List String) :
    List (String × Scalar) → Option Options
  | [] => some o
  | (name, v) :: more =>
    if name ∈ seen then none
    else if name ∈ optionNames then
      (o.assign? name v).bind fun o => o.assignMembers? (name :: seen) more
    else o.assignMembers? seen more

/-- Sets the options in order; there may be no more values than names. -/
def Options.assignItems? (o : Options) : List String → List Scalar → Option Options
  | _, [] => some o
  | [], _ :: _ => none
  | name :: names, v :: vs => (o.assign? name v).bind fun o => o.assignItems? names vs

/-- The options of a document. -/
def Options.ofDocument? : Document → Option Options
  | .object members => Options.standard.assignMembers? [] members
  | .array items => Options.standard.assignItems? optionNames items

/-- The options that a JSON text gives. -/
def Options.ofJson? (text : String) : Option Options :=
  (Document.ofText? text).bind Options.ofDocument?

end PredictiveParsing.Parsing
