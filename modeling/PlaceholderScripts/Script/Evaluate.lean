import PlaceholderScripts.Script.HigherOrder
import PlaceholderScripts.Script.HostFunction
import PlaceholderScripts.Script.Part

/-!
# The evaluation of scripts

Evaluation follows the syntax, and functions are called through a caller that allows only so many calls
inside each other. What is called by name is first looked for among the functions of the script, then
among the built-in functions, and then among those of the host.

Methods and built-in functions may change the value that they are called on: a variable, the object of
a method, or a part of one of these, which is put back behind the change.
-/

namespace PlaceholderScripts.Script

def Value.ofLiteral : Literal → Value
  | .unit => .unit
  | .bool b => .bool b
  | .int i => .int i
  | .float x => .float x
  | .char c => .char c
  | .text s => .text s

namespace Evaluate

open Builtin (Outcome)

/-- The number of parameters of a function value, without those that are bound already. -/
def parameterCount (f : Frame) : Value → Option Nat
  | .function name bound home =>
    let functions := match home with
      | some m => (f.module? m).elim [] Module.functions
      | none => f.units.flatMap CodeUnit.functions
    (functions.find? (·.name = name)).map fun g => g.parameters.length - bound.length
  | _ => none

/-- A function that is built in or belongs to the host. -/
def callNative (f : Frame) (name : String) (arguments : List Value) (p : Position) : Run Outcome :=
  match Builtin.call name arguments with
  | some r => Run.located (f.locate p) r
  | none =>
    let missing : Run Outcome := Run.raise (.noFunction (signature name arguments)) (f.locate p)
    match arguments with
    | .host object :: rest =>
      match object.function? name rest with
      | some answer => do
        let v ← Run.located (f.locate p) (← Run.host answer)
        return { value := v }
      | none => missing
    | _ => missing

/-- Calls a function value. -/
def callValue (call : Caller) (f : Frame) (p : Position) (function : Value) (self : Option Value)
    (arguments : List Value) : Run (Value × Option Value) :=
  match function with
  | .function name bound home =>
    let all := bound ++ arguments
    match f.calleeOf? home name all.length with
    | some callee => call f callee self all (f.locate p)
    | none => do return ((← callNative f name all p).value, self)
  | v => Run.raise (.wrongType "Fn" v.typeName) (f.locate p)

/-- An error inside a built-in function that calls functions has passed through this one too. -/
def throughNative (f : Frame) (name : String) (p : Position) (r : Run Outcome) : Run Outcome := do
  match ← Run.attempt r with
  | .error (.error e) => throw (.error (.inCall name none e (f.locate p)))
  | outcome => Run.conclude outcome

/-- A built-in function that calls functions, if it is one. -/
def callHigherOrder? (call : Caller) (f : Frame) (name : String) (arguments : List Value)
    (p : Position) : Option (Run Outcome) :=
  let callback (g : Value) : HigherOrder.Callback := ⟨g, parameterCount f g, callValue call f p⟩
  let found := match arguments with
    | .list items :: .function g bound home :: others =>
      HigherOrder.ofList name items (callback (.function g bound home)) others
    | [.list items, .list others, .function g bound home] =>
      HigherOrder.ofLists name items others (callback (.function g bound home))
    | .map entries :: [.function g bound home] =>
      HigherOrder.ofMap name entries (callback (.function g bound home))
    | _ => none
  found.map (throughNative f name p)

/-- Calls what is not a function of the script. -/
def callBuiltin (call : Caller) (f : Frame) (name : String) (arguments : List Value) (p : Position) :
    Run Outcome :=
  match callHigherOrder? call f name arguments p with
  | some r => r
  | none => callNative f name arguments p

/-- Calls a function by name. -/
def callNamed (call : Caller) (f : Frame) (name : String) (arguments : List Value) (p : Position) :
    Run Outcome :=
  match f.callee? name arguments.length with
  | some callee => do return { value := (← call f callee none arguments (f.locate p)).1 }
  | none => callBuiltin call f name arguments p

/-- The functions that need to see the variables, and all others. -/
def callFunction (call : Caller) (f : Frame) (name : String) (arguments : List Value) (p : Position) :
    Run Outcome :=
  let mismatch (expected : String) (v : Value) : Run Outcome :=
    Run.raise (.wrongType expected v.typeName) (f.locate p)
  match name, arguments with
  | "is_def_var", [.text x] => do return { value := .bool (← Run.lookup? x).isSome }
  | "is_def_var", [v] => mismatch "string" v
  | "is_def_fn", [.text g, .int n] => return { value := .bool (0 ≤ n && (f.callee? g n.toNat).isSome) }
  | "exit", [] => throw (.exited .unit)
  | "exit", [v] => throw (.exited v)
  | "Fn", [.text g] => return { value := .function g [] none }
  | "Fn", [v] => mismatch "string" v
  | "call", g :: rest => do return { value := (← callValue call f p g none rest).1 }
  | "curry", .function g bound home :: rest =>
    return { value := .function g (bound ++ rest) home }
  | "curry", v :: _ => mismatch "Fn" v
  | _, _ => callNamed call f name arguments p

def changedObject (before : Value) (after : Option Value) : Option Value :=
  after.filter fun v => !v.same before

/-- The function under a name in a map. -/
def methodIn? (name : String) : Value → Option Value
  | .map entries =>
    match Entries.get? name entries with
    | some (.function g bound home) => some (.function g bound home)
    | _ => none
  | _ => none

/-- Calls a method of an object. -/
def callMethod (call : Caller) (f : Frame) (object : Value) (name : String) (arguments : List Value)
    (p : Position) : Run Outcome := do
  match name, object, arguments with
  | "call", .function g bound home, _ =>
    return { value := (← callValue call f p (.function g bound home) none arguments).1 }
  | "call", _, .function g bound home :: rest =>
    let (v, after) ← callValue call f p (.function g bound home) (some object) rest
    return ⟨v, changedObject object after⟩
  | "curry", .function g bound home, _ =>
    return { value := .function g (bound ++ arguments) home }
  | _, _, _ =>
    match methodIn? name object with
    | some g =>
      let (v, after) ← callValue call f p g (some object) arguments
      return ⟨v, changedObject object after⟩
    | none =>
      match f.callee? name arguments.length with
      | some callee =>
        let (v, after) ← call f callee (some object) arguments (f.locate p)
        return ⟨v, changedObject object after⟩
      | none => callBuiltin call f name (object :: arguments) p

/-- A property of a value that is no map. -/
def property? (name : String) : Value → Option Value
  | .host object => object.property? name
  | v => Builtin.property? name v

inductive Step where
  | property (name : String) (safe : Bool) (at_ : Position)
  | method (name : String) (arguments : List Value) (safe : Bool) (at_ : Position)
  | index (key : Value) (safe : Bool) (at_ keyAt : Position)

/-- The place of a fault of an index: the index, or its bracket where the value takes no index. -/
def indexLocation (f : Frame) (at_ keyAt : Position) : Fault → Location
  | .notIndexed _ => f.locate at_
  | _ => f.locate keyAt

def locatedIndex {α : Type} (f : Frame) (at_ keyAt : Position) : Except Fault α → Run α
  | .ok a => return a
  | .error fault => Run.raise fault (indexLocation f at_ keyAt fault)

/-- Whether a step stops here: a safe one at unit. -/
def stops (safe : Bool) (v : Value) : Bool := safe && (match v with
  | .unit => true
  | _ => false)

/-- Follows steps from a value: what they lead to, and the value itself, if that was changed. -/
def follow (call : Caller) (f : Frame) : List Step → Value → Run (Value × Option Value)
  | [], v => return (v, none)
  | .property name safe p :: rest, v => do
    if stops safe v then return (.unit, none)
    match v with
    | .map entries =>
      match Entries.get? name entries with
      | some part =>
        let (r, changed) ← follow call f rest part
        return (r, changed.map fun new => .map (Entries.insert name new entries))
      | none => return ((← follow call f rest .unit).1, none)
    | v =>
      match property? name v with
      | some part => return ((← follow call f rest part).1, none)
      | none => Run.raise (.noGetter name v.typeName) (f.locate p)
  | .method name arguments safe p :: rest, v => do
    if stops safe v then return (.unit, none)
    let outcome ← callMethod call f v name arguments p
    return ((← follow call f rest outcome.value).1, outcome.changed)
  | .index key safe at_ keyAt :: rest, v => do
    if stops safe v then return (.unit, none)
    let part ← locatedIndex f at_ keyAt (Part.get v key)
    let (r, changed) ← follow call f rest part
    match changed with
    | some new =>
      if Part.isKept v key then return (r, some (← locatedIndex f at_ keyAt (Part.set v key new)))
      else return (r, none)
    | none => return (r, none)

/-- The value that an assignment leaves in the place of another. -/
def combine (f : Frame) (operation : Option String) (old new : Value) (p : Position) : Run Value :=
  match operation with
  | none => return new
  | some name =>
    match assigned name old new with
    | some r => Run.located (f.locate p) r
    | none => Run.raise (.noFunction (signature name [old, new])) (f.locate p)

/-- Assigns to the end of the steps, and gives the value with its part changed. -/
def assignTo (call : Caller) (f : Frame) (operation : Option String) (new : Value) (p : Position) :
    List Step → Value → Run (Option Value)
  | [], v => some <$> combine f operation v new p
  | .property name safe at_ :: rest, v => do
    if stops safe v then return none
    match v with
    | .map entries =>
      let part := Entries.get? name entries
      let changed ← assignTo call f operation new p rest (part.getD .unit)
      if rest.isEmpty || part.isSome then
        return changed.map fun new => .map (Entries.insert name new entries)
      else return none
    | v =>
      match rest with
      | [] =>
        match operation, property? name v with
        | some _, none => Run.raise (.noGetter name v.typeName) (f.locate at_)
        | _, part =>
          let new ← combine f operation (part.getD .unit) new p
          Run.raise (.noSetter name v.typeName new.typeName) (f.locate at_)
      | rest =>
        match property? name v with
        | some part =>
          let _ ← assignTo call f operation new p rest part
          return none
        | none => Run.raise (.noGetter name v.typeName) (f.locate at_)
  | .method name arguments safe at_ :: rest, v => do
    if stops safe v then return none
    let outcome ← callMethod call f v name arguments at_
    let _ ← assignTo call f operation new p rest outcome.value
    return outcome.changed
  | .index key safe at_ keyAt :: rest, v => do
    if stops safe v then return none
    if rest.isEmpty && operation.isNone then
      return some (← locatedIndex f at_ keyAt (Part.set v key new))
    let part ← locatedIndex f at_ keyAt (Part.get v key)
    match ← assignTo call f operation new p rest part with
    | some new =>
      if rest.isEmpty || Part.isKept v key then
        return some (← locatedIndex f at_ keyAt (Part.set v key new))
      else return none
    | none => return none

/-- What happened to the value that steps began at. -/
def changeText : List Step → Option String
  | [] => none
  | .method name _ _ _ :: _ => some name
  | _ :: rest => changeText rest

/-- Puts a changed value back into its variable, unless that is a constant. -/
def putBack (f : Frame) (name : String) (p : Position) (fault : Fault) : Option Value → Run Unit
  | none => return
  | some v => do
    let x ← Run.lookup name (f.locate p)
    if x.constant then Run.raise fault (f.locate p) else Run.write name v

/-- The object of the method that is running. -/
def self (f : Frame) (p : Position) : Run Value := do
  match (← get).self with
  | some v => return v
  | none => Run.raise .noSelf (f.locate p)

def setSelf : Option Value → Run Unit
  | none => return
  | some v => modify fun s => { s with self := some v }

/-- A public function of a module by its path. -/
def pathCallee? (m : Module) (path : List String) (name : String) (count : Nat) : Option Callee :=
  if path.length = 1 then
    (Frame.functionIn name count (m.functions.filter (!·.isPrivate))).map (Callee.mk (some m.name))
  else none

/-- Calls a function of a module. -/
def callPath (call : Caller) (f : Frame) (path : List String) (name : String)
    (arguments : List Value) (pathAt p : Position) : Run Value := do
  let route := "::".intercalate path
  match path.head?.bind f.module? with
  | none => Run.raise (.noModule route) (f.locate pathAt)
  | some m =>
    match pathCallee? m path name arguments.length with
    | some callee => return (← call f callee none arguments (f.locate p)).1
    | none => Run.raise (.noFunction (signature (route ++ "::" ++ name) arguments)) (f.locate p)

/-- The path of the constants of the main part that the code belongs to. -/
def globalPath : String := "global"

/-- Reads what a module exports, or a constant of the main part. -/
def readPath (f : Frame) (path : List String) (name : String) (p : Position) : Run Value := do
  let route := "::".intercalate path
  let found (values : List (String × Value)) : Run Value :=
    match values.lookup name with
    | some v => return v
    | none => Run.raise (.noVariable (route ++ "::" ++ name)) (f.locate p)
  match path.head?.bind f.module? with
  | some m => found (if path.length = 1 then m.exports else [])
  | none =>
    if path = [globalPath] then found (← get).constants
    else Run.raise (.noModule route) (f.locate p)

/-- Records a constant that is declared outside of all blocks, if there are functions to read it. -/
def recordConstant (f : Frame) (name : String) (v : Value) : Run Unit :=
  modify fun s =>
    if s.level = 0 && f.units.any (!·.functions.isEmpty) then
      { s with constants := (name, v) :: s.constants }
    else s

/-- A condition must be a truth value. -/
def truth (f : Frame) (p : Position) : Value → Run Bool
  | .bool b => return b
  | v => Run.raise (.wrongType "bool" v.typeName) (f.locate p)

/-- The operators, which no script can define. -/
def operators : List String :=
  ["+", "-", "*", "/", "%", "**", "<<", ">>", "&", "|", "^", "==", "!=", "<", "<=", ">", ">=", "..",
    "..=", "!"]

inductive CaseKind where
  | value
  | range
  | otherwise

/-- Whether the values of a case stand for the subject. -/
def CaseKind.admits (kind : CaseKind) (subject : Value) (values : List Value) : Bool :=
  match kind with
  | .value => values.any fun v => v.same subject
  | .range => values.any fun v =>
    match v, subject with
    | .range first last inclusive, .int i => first ≤ i && (i < last || (inclusive && i = last))
    | _, _ => false
  | .otherwise => values.isEmpty

/-- The value that an error leaves to the script. -/
def declareCaught (name : Option String) (e : ScriptError) : Run Unit :=
  match name with
  | some x => Run.declare { name := x, value := e.caught }
  | none => return

/-- What a handler ends with. An error thrown without a value is the one that is handled, at a new
place. -/
def rethrown (e : ScriptError) : Except Signal Value → Run Value
  | .ok _ => return .unit
  | .error (.error (.raised (.thrown .unit) l)) => throw (.error (e.movedTo l))
  | .error s => throw s

mutual

/-- The value of an expression. -/
def eval (call : Caller) (f : Frame) : Expr → Run Value
  | .literal v _ => return .ofLiteral v
  | .variable name p => Run.read name (f.locate p)
  | .self p => self f p
  | .template parts _ => return .text (← evalText call f parts)
  | .list items _ => return .list (← evalAll call f items)
  | .map names values _ => return .map (Entries.ofList (names.zip (← evalAll call f values)))
  | .call name arguments p => do
    if operators.contains name then
      return (← callNative f name (← evalAll call f arguments) p).value
    let (first, arguments) ← evalArguments call f arguments
    let outcome ← callFunction call f name arguments p
    if let some x := first then putBack f x p (.changingCall name) outcome.changed
    return outcome.value
  | .pathCall path name arguments pathAt p => do
    callPath call f path name (← evalArguments call f arguments).2 pathAt p
  | .pathVariable path name pathAt _ => readPath f path name pathAt
  | .and left right _ => do
    if ← truth f left.position (← eval call f left) then
      return .bool (← truth f right.position (← eval call f right))
    else return .bool false
  | .or left right _ => do
    if ← truth f left.position (← eval call f left) then return .bool true
    else return .bool (← truth f right.position (← eval call f right))
  | .orElse left right _ => do
    match ← eval call f left with
    | .unit => eval call f right
    | v => return v
  | .chain root links _ => do
    let steps ← evalLinks call f links
    match root with
    | .variable x p =>
      let (r, changed) ← follow call f steps (← Run.read x (f.locate p))
      putBack f x p (.changingCall ((changeText steps).getD x)) changed
      return r
    | .self p =>
      let (r, changed) ← follow call f steps (← self f p)
      setSelf changed
      return r
    | _ => return (← follow call f steps (← eval call f root)).1
  | .closure name captured p => do
    let cells ← captured.mapM fun x => Run.share x (f.locate p)
    return .function name cells f.home
  | .block body _ => Run.enclosed (evalBody call f body)
  | .declare name constant exported value _ => do
    let v ← eval call f value
    Run.declare ⟨name, v, constant, if exported then [name] else []⟩
    if constant then recordConstant f name v
    return .unit
  | .assign target operation value p => do
    let new ← eval call f value
    match target with
    | .variable x q =>
      let old ← Run.read x (f.locate q)
      putBack f x q (.constant x) (some (← combine f operation old new p))
    | .self q => setSelf (some (← combine f operation (← self f q) new p))
    | .chain root links _ =>
      let steps ← evalLinks call f links
      match root with
      | .variable x q =>
        putBack f x q (.constant x)
          (← assignTo call f operation new p steps (← Run.read x (f.locate q)))
      | .self q => setSelf (← assignTo call f operation new p steps (← self f q))
      | _ =>
        let _ ← assignTo call f operation new p steps (← eval call f root)
    | _ => Run.raise (.constant "") (f.locate p)
    return .unit
  | .ifElse condition yes no _ => do
    if ← truth f condition.position (← eval call f condition) then
      Run.enclosed (evalBody call f yes)
    else Run.enclosed (evalBody call f no)
  | .choose subject cases _ => do
    let v ← eval call f subject
    match ← evalCases call f .value v cases with
    | some r => return r
    | none =>
      match ← evalCases call f .range v cases with
      | some r => return r
      | none => return (← evalCases call f .otherwise v cases).getD .unit
  | .whileLoop first negated condition body _ =>
    let check : Run Bool := do
      return (← truth f condition.position (← eval call f condition)) != negated
    let body := Run.enclosed (evalBody call f body)
    if first then Run.repeatUntil check body f.rounds else Run.repeatWhile check body f.rounds
  | .forLoop name counter range body _ => do
    let round (item : Value) (n : Nat) : Run Value := Run.enclosed do
      if let some counter := counter then Run.declare { name := counter, value := .int n }
      Run.declare { name, value := item }
      evalBody call f body
    match ← eval call f range with
    | .list items => Run.forItems round items 0
    | .text s => Run.forItems round (s.toList.map .char) 0
    | .range first last inclusive =>
      Run.forIntegers round 1 first 0 ((if inclusive then last + 1 else last) - first).toNat
    | .steps first step count => Run.forIntegers round step first 0 count
    | _ => Run.raise .notIterable (f.locate range.start)
  | .breakLoop value _ => do throw (.broke (← eval call f value))
  | .continueLoop _ => throw .continued
  | .returnValue value _ => do throw (.returned (← eval call f value))
  | .throwValue value p => do Run.raise (.thrown (← eval call f value)) (f.locate p)
  | .tryCatch body caught handler _ => do
    match ← Run.attempt (Run.enclosed (evalBody call f body)) with
    | .ok _ => return .unit
    | .error (.error e) =>
      if e.fault.isCatchable then
        rethrown e (← Run.attempt (Run.enclosed do
          declareCaught caught e
          evalBody call f handler))
      else throw (.error e)
    | .error s => throw s
  | .importModule path _ => do
    match ← eval call f path with
    | .text s => Run.raise (.noModule s) (f.locate path.position)
    | v => Run.raise (.wrongType "string" v.typeName) (f.locate path.position)
  | .exportName name alias_ p => do
    Run.exportVariable name alias_ (f.locate p)
    return .unit

/-- The values of expressions from left to right. -/
def evalAll (call : Caller) (f : Frame) : List Expr → Run (List Value)
  | [] => return []
  | e :: rest => do
    let v ← eval call f e
    return v :: (← evalAll call f rest)

/-- The arguments of a function. A variable in the first place is read last, and named, since the
function may change it. -/
def evalArguments (call : Caller) (f : Frame) : List Expr → Run (Option String × List Value)
  | [] => return (none, [])
  | e :: rest => do
    match e with
    | .variable x p =>
      let others ← evalAll call f rest
      return (some x, (← Run.read x (f.locate p)) :: others)
    | _ =>
      let v ← eval call f e
      return (none, v :: (← evalAll call f rest))

/-- The text of the values of expressions. -/
def evalText (call : Caller) (f : Frame) : List Expr → Run String
  | [] => return ""
  | e :: rest => do
    let v ← eval call f e
    return v.shown ++ (← evalText call f rest)

/-- The value of the last of some expressions; unit, where there is none. -/
def evalBody (call : Caller) (f : Frame) : List Expr → Run Value
  | [] => return .unit
  | [e] => eval call f e
  | e :: rest => do
    let _ ← eval call f e
    evalBody call f rest

/-- Links with their arguments evaluated from left to right. -/
def evalLinks (call : Caller) (f : Frame) : List Link → Run (List Step)
  | [] => return []
  | l :: rest => do
    let step ← evalLink call f l
    return step :: (← evalLinks call f rest)

def evalLink (call : Caller) (f : Frame) : Link → Run Step
  | .property name safe p => return .property name safe p
  | .method name arguments safe p => return .method name (← evalAll call f arguments) safe p
  | .index key safe p => return .index (← eval call f key) safe p key.start

/-- The first case of a kind that stands for the subject and whose condition holds. -/
def evalCases (call : Caller) (f : Frame) (kind : CaseKind) (subject : Value) :
    List Case → Run (Option Value)
  | [] => return none
  | c :: rest => do
    match ← evalCase call f kind subject c with
    | some v => return some v
    | none => evalCases call f kind subject rest

def evalCase (call : Caller) (f : Frame) (kind : CaseKind) (subject : Value) :
    Case → Run (Option Value)
  | .mk values condition body => do
    if kind.admits subject (← evalAll call f values) then
      if ← evalGuard call f condition then return some (← eval call f body)
      else return none
    else return none

def evalGuard (call : Caller) (f : Frame) : Option Expr → Run Bool
  | none => return true
  | some e => do truth f e.position (← eval call f e)

end

/-- The error that leaves a function: too many calls inside each other go through to the first one. -/
def escaping (callee : Callee) (e : ScriptError) (l : Location) : ScriptError :=
  match e with
  | .raised .callsTooDeep _ => .raised .callsTooDeep l
  | e => .inCall callee.function.name callee.home e l

/-- What a function gives, from how its body ended. -/
def conclude (callee : Callee) (l : Location) : Except Signal Value → Run Value
  | .ok v => return v
  | .error (.returned v) => return v
  | .error (.broke v) => return v
  | .error .continued => return .unit
  | .error (.error e) => throw (.error (escaping callee e l))
  | .error .exhausted => throw .exhausted
  | .error (.exited v) => throw (.exited v)

def parameterScope (names : List String) (arguments : List Value) : List Variable :=
  (names.zipWith (fun name value => { name, value }) arguments).reverse

/-- Calls a function, inside of which there may be `depth` calls more. The function sees its parameters
and no other variables. -/
def callAt : Nat → Caller
  | 0, _, _, _, _, l => Run.raise .callsTooDeep l
  | depth + 1, f, callee, self, arguments, l => do
    let outer ← get
    let constants := (callee.home.bind f.module?).elim outer.constants Module.constants
    set { outer with
      scope := parameterScope callee.function.parameters arguments
      self, constants
      level := outer.level + 1 }
    let outcome ← Run.attempt (evalBody (callAt depth) (f.enter callee.home) callee.function.body)
    let inner ← get
    set { inner with
      scope := outer.scope
      self := outer.self
      constants := outer.constants
      level := outer.level }
    let v ← conclude callee l outcome
    return (v, inner.self)

end Evaluate

end PlaceholderScripts.Script
