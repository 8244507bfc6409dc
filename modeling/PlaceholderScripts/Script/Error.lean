import PlaceholderScripts.Script.Parser
import PlaceholderScripts.Script.Value

/-!
# Errors of scripts

A fault is what went wrong, and a script error is a fault with its place, inside the function calls
that it escaped from. The text of an error names the fault first and then, line by line, the calls from
the inside to the outside. What a script can catch of an error is the value that was thrown, or a map
that describes the fault.
-/

namespace PlaceholderScripts.Script

inductive ArithmeticFault where
  /-- The result has more than 64 bits. -/
  | overflow (operation symbol : String) (left right : Int)
  | negationOverflow
  /-- The value without its sign has more than 64 bits. -/
  | magnitudeOverflow (operand : Int)
  | divisionByZero (left right : Int)
  | noRemainder (left right : Int)
  | negativePower (left right : Int)
  | powerTooLarge (left right : Int)
  | exponentTooLarge (left right : Int)
  | notInteger (text reason : String)
  | notNumber (text reason : String)
  /-- A double that is no 64-bit integer. -/
  | beyondIntegers (value : Double)
  | other (message : String)
  deriving DecidableEq

namespace ArithmeticFault

def infixText (symbol : String) (x y : Int) : String :=
  toString x ++ " " ++ symbol ++ " " ++ toString y

def message : ArithmeticFault → String
  | overflow operation symbol x y => operation ++ " overflow: " ++ infixText symbol x y
  | negationOverflow => "integer overflow"
  | magnitudeOverflow x => "Negation overflow: -" ++ toString x
  | divisionByZero x y => "Division by zero: " ++ infixText "/" x y
  | noRemainder x y => "Modulo division by zero or overflow: " ++ infixText "%" x y
  | negativePower x y => "Integer raised to a negative power: " ++ infixText "**" x y
  | powerTooLarge x y => "Exponential overflow: " ++ infixText "**" x y
  | exponentTooLarge x y => "Integer raised to too large an index: " ++ infixText "**" x y
  | notInteger text reason => "Error parsing integer number '" ++ text ++ "': " ++ reason
  | notNumber text reason => "Error parsing floating-point number '" ++ text ++ "': " ++ reason
  | beyondIntegers x => "Integer overflow: to_int(" ++ String.ofList (Value.floatText x) ++ ")"
  | other message => message

end ArithmeticFault

inductive Fault where
  | invalidScript (cause : ParseError)
  | noVariable (name : String)
  | noFunction (signature : String)
  | noModule (name : String)
  | thrown (value : Value)
  | wrongType (expected actual : String)
  | arithmetic (cause : ArithmeticFault)
  | noGetter (property type : String)
  | noSetter (property type valueType : String)
  | notIndexed (types : String)
  | listBounds (length : Nat) (index : Int)
  | textBounds (length : Nat) (index : Int)
  | bitBounds (index : Int)
  | notIterable
  | noSelf
  | constant (name : String)
  | changingCall (method : String)
  | callsTooDeep

def integerBits : Nat := 64

namespace Fault

/-- Elements as the messages about indices count them. -/
def countText (empty one many : String) : Nat → String
  | 0 => empty
  | 1 => "only 1 " ++ one
  | n => "only " ++ toString n ++ " " ++ many

/-- The fault without its place. -/
def message : Fault → String
  | invalidScript e => "Syntax error: " ++ e.message
  | noVariable name => "Variable not found: " ++ name
  | noFunction signature => "Function not found: " ++ signature
  | noModule name => "Module not found: " ++ name
  | thrown v =>
    match v with
    | .unit | .text "" => "Runtime error"
    | v => "Runtime error: " ++ v.resultText
  | wrongType expected actual => "Data type incorrect: " ++ actual ++ " (expecting " ++ expected ++ ")"
  | arithmetic cause => cause.message
  | noGetter property type =>
    "Unknown property '" ++ property ++ "' - a getter is not registered for type '" ++ type ++ "'"
  | noSetter property type valueType =>
    "No writable property '" ++ property ++ "' - a setter is not registered for type '" ++ type ++
      "' to handle '" ++ valueType ++ "'"
  | notIndexed types => "Indexer unavailable: " ++ types
  | listBounds length index =>
    "Array index " ++ toString index ++ " out of bounds: " ++
      countText "array is empty" "element in array" "elements in array" length
  | textBounds length index =>
    "String index " ++ toString index ++ " out of bounds: " ++
      countText "string is empty" "character in string" "characters in string" length
  | bitBounds index =>
    "Bit-field index " ++ toString index ++ " out of bounds: only " ++ toString integerBits ++
      " bits in bit-field"
  | notIterable => "For loop expects iterable type"
  | noSelf => "'this' not bound"
  | constant name => "Cannot modify constant: " ++ name
  | changingCall method => "Non-pure method '" ++ method ++ "' cannot be called on constant"
  | callsTooDeep => "Stack overflow"

/-- The name of the fault and what it is about, as a script sees them. -/
def fields : Fault → List (String × Value)
  | invalidScript _ => [("error", .text "ErrorParsing")]
  | noVariable name => [("error", .text "ErrorVariableNotFound"), ("variable", .text name)]
  | noFunction signature => [("error", .text "ErrorFunctionNotFound"), ("function", .text signature)]
  | noModule name => [("error", .text "ErrorModuleNotFound"), ("module", .text name)]
  | thrown _ => [("error", .text "ErrorRuntime")]
  | wrongType expected actual =>
    [("error", .text "ErrorMismatchDataType"), ("requested", .text expected), ("actual", .text actual)]
  | arithmetic _ => [("error", .text "ErrorArithmetic")]
  | noGetter property type =>
    [("error", .text "ErrorDotExpr"), ("property", .text (noGetter property type).message)]
  | noSetter property type valueType =>
    [("error", .text "ErrorDotExpr"), ("property", .text (noSetter property type valueType).message)]
  | notIndexed types => [("error", .text "ErrorIndexingType"), ("type", .text types)]
  | listBounds length index =>
    [("error", .text "ErrorArrayBounds"), ("length", .int length), ("index", .int index)]
  | textBounds length index =>
    [("error", .text "ErrorStringBounds"), ("length", .int length), ("index", .int index)]
  | bitBounds index =>
    [("error", .text "ErrorBitFieldBounds"), ("length", .int integerBits), ("index", .int index)]
  | notIterable => [("error", .text "ErrorFor")]
  | noSelf => [("error", .text "ErrorUnboundThis")]
  | constant name => [("error", .text "ErrorAssignmentToConstant"), ("variable", .text name)]
  | changingCall method =>
    [("error", .text "ErrorNonPureMethodCallOnConstant"), ("function", .text method)]
  | callsTooDeep => [("error", .text "ErrorStackOverflow")]

/-- Whether a script may go on after the fault. -/
def isCatchable : Fault → Bool
  | invalidScript _ | callsTooDeep => false
  | _ => true

end Fault

structure Location where
  position : Position
  home : Option String := none
  deriving DecidableEq, Repr

/-- The module and the position as messages give them. -/
def Location.text (l : Location) : String :=
  (match l.home with
    | some name => " @ '" ++ name ++ "'"
    | none => "") ++ " (" ++ l.position.text ++ ")"

/-- A fault with its place, inside the calls it escaped from. -/
inductive ScriptError where
  | raised (fault : Fault) (at_ : Location)
  /-- An error that escaped from a function, of a module perhaps, that was called from `at_`. -/
  | inCall (function : String) (home : Option String) (inner : ScriptError) (at_ : Location)

namespace ScriptError

/-- The fault inside all calls. -/
def fault : ScriptError → Fault
  | raised f _ => f
  | inCall _ _ inner _ => inner.fault

/-- The place of the outermost part. -/
def location : ScriptError → Location
  | raised _ l => l
  | inCall _ _ _ l => l

/-- The same error at another place. -/
def movedTo (l : Location) : ScriptError → ScriptError
  | raised f _ => raised f l
  | inCall function home inner _ => inCall function home inner l

/-- The text of a call behind the text of what escaped from it. -/
def callText (function : String) (home : Option String) : String :=
  (if isAnonymous function then "\nin call to closure" else "\nin call to function '" ++ function ++ "'") ++
    match home with
    | some name => " (from '" ++ name ++ "')"
    | none => ""

/-- The whole text. -/
def text : ScriptError → String
  | raised f l => f.message ++ l.text
  | inCall function home inner l => inner.text ++ callText function home ++ l.text

/-- The text without the outermost place. -/
def message : ScriptError → String
  | raised f _ => f.message
  | inCall function home inner _ => inner.text ++ callText function home

/-- The fields that describe the outermost part. -/
def fields : ScriptError → List (String × Value)
  | raised f _ => f.fields
  | inCall function home _ _ =>
    [("error", .text "ErrorInFunctionCall"), ("function", .text function),
      ("source", .text (home.getD ""))]

/-- What a script catches: the value that was thrown, or a description. -/
def caught (e : ScriptError) : Value :=
  match e.fault with
  | .thrown v => v
  | _ =>
    let l := e.location
    let source := match l.home with
      | some name => [("source", Value.text name)]
      | none => []
    .map (Entries.ofList
      ([("message", .text e.message), ("line", .int l.position.line),
        ("position", .int l.position.column)] ++ source ++ e.fields))

end ScriptError

end PlaceholderScripts.Script
