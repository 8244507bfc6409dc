import PlaceholderScripts.Script.Token

/-!
# The syntax of scripts

A script is a list of functions and a list of expressions. Everything that a script does is an
expression: a declaration, an assignment or a loop has a value too, if only the unit value. What reads
or changes a part of something is a root with links behind it: properties, methods and indices.
-/

namespace PlaceholderScripts.Script

inductive Literal where
  | unit
  | bool (value : Bool)
  | int (value : Int)
  | float (value : Double)
  | char (value : Char)
  | text (value : String)
  deriving DecidableEq, Repr

/-- The operations that an assignment may carry out on the way. -/
abbrev OperatorName := String

mutual

inductive Expr where
  | literal (value : Literal) (at_ : Position)
  | variable (name : String) (at_ : Position)
  /-- The object of a method call. -/
  | self (at_ : Position)
  /-- A text put together from the values of its parts. -/
  | template (parts : List Expr) (at_ : Position)
  | list (items : List Expr) (at_ : Position)
  /-- A map; the names and the values have the same number. -/
  | map (names : List String) (values : List Expr) (at_ : Position)
  /-- A call by name, which operators are too. -/
  | call (name : String) (arguments : List Expr) (at_ : Position)
  /-- A call of a function of a module. -/
  | pathCall (path : List String) (name : String) (arguments : List Expr) (pathAt at_ : Position)
  /-- A constant of a module. -/
  | pathVariable (path : List String) (name : String) (pathAt at_ : Position)
  | and (left right : Expr) (at_ : Position)
  | or (left right : Expr) (at_ : Position)
  /-- The left value, or the right one in the place of unit. -/
  | orElse (left right : Expr) (at_ : Position)
  | chain (root : Expr) (links : List Link) (at_ : Position)
  /-- A function without a name, and the variables of its surroundings that it uses. -/
  | closure (name : String) (captured : List String) (at_ : Position)
  | block (body : List Expr) (at_ : Position)
  /-- A declaration; the value of an exported one can be read from outside of a module. -/
  | declare (name : String) (constant exported : Bool) (value : Expr) (at_ : Position)
  /-- An assignment, through an operation if one is named. -/
  | assign (target : Expr) (operation : Option OperatorName) (value : Expr) (at_ : Position)
  | ifElse (condition : Expr) (yes : List Expr) (no : List Expr) (at_ : Position)
  | choose (subject : Expr) (cases : List Case) (at_ : Position)
  /-- Repeats while the condition holds, or, with `negated`, until it does. With `first`, the body
  comes before the condition. -/
  | whileLoop (first negated : Bool) (condition : Expr) (body : List Expr) (at_ : Position)
  | forLoop (name : String) (counter : Option String) (range : Expr) (body : List Expr)
      (at_ : Position)
  | breakLoop (value : Expr) (at_ : Position)
  | continueLoop (at_ : Position)
  | returnValue (value : Expr) (at_ : Position)
  | throwValue (value : Expr) (at_ : Position)
  | tryCatch (body : List Expr) (caught : Option String) (handler : List Expr) (at_ : Position)
  | importModule (path : Expr) (at_ : Position)
  /-- Exports a variable under a name. -/
  | exportName (name : String) (alias_ : String) (at_ : Position)

/-- A step from a value to a part of it. A safe step from unit stays there. -/
inductive Link where
  | property (name : String) (safe : Bool) (at_ : Position)
  | method (name : String) (arguments : List Expr) (safe : Bool) (at_ : Position)
  | index (key : Expr) (safe : Bool) (at_ : Position)

/-- A case of a choice: the values or ranges it stands for, none for every value, and a condition. -/
inductive Case where
  | mk (values : List Expr) (condition : Option Expr) (body : Expr)

end

namespace Expr

/-- The place that messages about the expression give. -/
def position : Expr → Position
  | .literal _ p | .variable _ p | .self p | .template _ p | .list _ p | .map _ _ p | .call _ _ p
  | .pathCall _ _ _ _ p | .pathVariable _ _ _ p | .and _ _ p | .or _ _ p | .orElse _ _ p
  | .chain _ _ p | .closure _ _ p | .block _ p | .declare _ _ _ _ p | .assign _ _ _ p
  | .ifElse _ _ _ p | .choose _ _ p | .whileLoop _ _ _ _ p | .forLoop _ _ _ _ p
  | .breakLoop _ p | .continueLoop p | .returnValue _ p | .throwValue _ p | .tryCatch _ _ _ p
  | .importModule _ p | .exportName _ _ p => p

/-- The place where the expression begins. -/
def start : Expr → Position
  | .and left _ _ | .or left _ _ | .orElse left _ _ => left.start
  | .chain root _ _ => root.start
  | e => e.position

/-- Expressions that need no semicolon behind them. -/
def endsItself : Expr → Bool
  | .block _ _ | .ifElse _ _ _ _ | .choose _ _ _ | .forLoop _ _ _ _ _ | .tryCatch _ _ _ _ => true
  | .whileLoop first _ _ _ _ => !first
  | _ => false

mutual

/-- Expressions that can be left out where nobody asks for their value. The use of a variable is one
of them, even where there is no such variable. -/
def isIdle : Expr → Bool
  | .literal _ _ | .variable _ _ | .pathVariable _ _ _ _ => true
  | .template parts _ => allIdle parts
  | .list items _ => allIdle items
  | .map _ values _ => allIdle values
  | .and left right _ | .or left right _ | .orElse left right _ => left.isIdle && right.isIdle
  | .block body _ => allIdle body
  | .ifElse condition yes no _ => condition.isIdle && allIdle yes && allIdle no
  | .forLoop _ _ range body _ => range.isIdle && allIdle body
  | .tryCatch body _ handler _ => allIdle body && allIdle handler
  | _ => false

def allIdle : List Expr → Bool
  | [] => true
  | e :: rest => e.isIdle && allIdle rest

end

/-- A body without its idle expressions. The last expression stays, as its value is that of the body. -/
def dropIdle : List Expr → List Expr
  | [] => []
  | [e] => [e]
  | e :: rest => if e.isIdle then dropIdle rest else e :: dropIdle rest

/-- A body whose value nobody asks for, without its idle expressions. -/
def dropAllIdle (body : List Expr) : List Expr := body.filter fun e => !e.isIdle

end Expr

/-- The beginning of the names of functions that have none in the script. -/
def anonymousMark : String := "anon$"

def isAnonymous (function : String) : Bool := anonymousMark.toList.isPrefixOf function.toList

structure Function where
  name : String
  parameters : List String
  body : List Expr
  isPrivate : Bool := false

structure ParsedScript where
  functions : List Function
  body : List Expr

instance : Inhabited Expr := ⟨.literal .unit {}⟩

end PlaceholderScripts.Script
