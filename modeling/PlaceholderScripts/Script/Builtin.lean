import PlaceholderScripts.Script.Builtin.Collection
import PlaceholderScripts.Script.Builtin.Number
import PlaceholderScripts.Script.Builtin.Text

/-!
# Built-in functions and properties

Functions are found by their name and the types of their arguments, operators among them. Some of the
functions of a single value can be read as properties too.

The language has further functions that are left out: those for times and for waiting, whose answers are
not determined by the script, and those for sequences of bytes, for runs of bits, for ranges of doubles or
characters, for tags of values, and for reading JSON. A script that calls one of these ends with the error
that there is no such function.
-/

namespace PlaceholderScripts.Script.Builtin

/-- Functions of every value. -/
def ofAny (name : String) (v : Value) (arguments : List Value) : Result :=
  match name, arguments with
  | "to_string", [] => give (.text v.shown)
  | "to_debug", [] => give (.text v.shownInside)
  | "type_of", [] => give (.text v.typeName)
  | "is_shared", [] => give (.bool false)
  | "print", [] | "debug", [] => give .unit
  | _, _ => none

/-- Functions of the type of the first argument. -/
def ofType (name : String) (v : Value) (arguments : List Value) : Result :=
  match v with
  | .int i => ofInteger name i arguments
  | .float x => ofDouble name x arguments
  | .char c => ofChar name c arguments
  | .text s => (ofText name s arguments).orElse fun _ => parsed name s arguments
  | .list items => ofList name items arguments
  | .map entries => ofMap name entries arguments
  | .range first last inclusive => ofRange name first last inclusive arguments
  | _ => none

/-- Operators that are called as functions. -/
def ofOperator (name : String) (v : Value) (arguments : List Value) : Result :=
  match arguments with
  | [] => (unaryOperator name v).map (·.map fun v => { value := v })
  | [w] => (binaryOperator name v w).map (·.map fun v => { value := v })
  | _ => none

/-- Functions without arguments. -/
def ofNothing (name : String) : Result :=
  match name with
  | "print" | "debug" => give .unit
  | "PI" => give (.float ⟨0x400921fb54442d18⟩)
  | "E" => give (.float ⟨0x4005bf0a8b145769⟩)
  | _ => none

/-- The function of a name for some arguments, and what it gives. -/
def call (name : String) : List Value → Result
  | [] => ofNothing name
  | v :: arguments =>
    ((ofType name v arguments).orElse fun _ => ofAny name v arguments).orElse fun _ =>
      ofOperator name v arguments

/-- The names of the properties of a value that are not kept in it. -/
def propertyNames : Value → List String
  | .int _ => ["is_zero", "is_odd", "is_even"]
  | .float _ =>
    ["is_zero", "is_nan", "is_finite", "is_infinite", "floor", "ceiling", "round", "int", "fraction"]
  | .text _ => ["len", "bytes", "is_empty", "chars"]
  | .list _ => ["len", "is_empty"]
  | .range _ _ _ => ["start", "end", "is_inclusive", "is_exclusive", "is_empty"]
  | _ => []

/-- A property of a value. -/
def property? (name : String) (v : Value) : Option Value :=
  match v with
  | .function f _ _ =>
    match name with
    | "name" => some (.text f)
    | "is_anonymous" => some (.bool (isAnonymous f))
    | _ => none
  | v =>
    if (propertyNames v).contains name then
      match ofType name v [] with
      | some (.ok outcome) => some outcome.value
      | _ => none
    else none

end PlaceholderScripts.Script.Builtin
