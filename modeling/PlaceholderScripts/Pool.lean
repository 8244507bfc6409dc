import PlaceholderScripts.Bindings
import PlaceholderScripts.Library.Basic
import PlaceholderScripts.Script.Evaluate

/-!
# Interpreters and their pool

An interpreter has the modules of a library ready for scripts. Making one runs the code of every module,
which may fail. A pool keeps one interpreter for each worker, made at the worker's first use; a context
on it holds the variables of a single execution.
-/

namespace PlaceholderScripts

inductive RunError where
  | script (e : Script.ScriptError)
  /-- A loop went on for more rounds than it may. -/
  | exhausted

def RunError.message : RunError → String
  | .script e => e.text
  | .exhausted => "Too many operations"

structure CreationError where
  moduleName : String
  cause : RunError

def CreationError.message (e : CreationError) : String :=
  "Failed to instantiate library module \x60" ++ e.moduleName ++ "\x60: " ++ e.cause.message

inductive ExecutionError where
  /-- An index outside of a list of this length. -/
  | indexOutOfBounds (length : Nat) (index : Int)
  | script (message : String)
  deriving DecidableEq, Repr

def ExecutionError.message : ExecutionError → String
  | .indexOutOfBounds length index =>
    "Index " ++ toString index ++ " out of bounds for length " ++ toString length
  | .script message => message

/-- An index outside of a list is told apart from all other errors, whatever calls it escaped from. -/
def ExecutionError.ofRun : RunError → ExecutionError
  | .script e =>
    match e.fault with
    | .listBounds length index => .indexOutOfBounds length index
    | _ => .script e.text
  | .exhausted => .script RunError.exhausted.message

namespace Script

/-- How many calls may be inside each other. -/
def callDepth : Nat := 64

/-- How many rounds a loop may take where the program runs scripts: more than any 64-bit integer counts. -/
def allowedRounds : Nat := 2 ^ 63

/-- What the main part of a script ends with. -/
def outcome : Except Signal Value → Except RunError Value
  | .ok v => .ok v
  | .error (.returned v) | .error (.broke v) | .error (.exited v) => .ok v
  | .error .continued => .ok .unit
  | .error (.error e) => .error (.script e)
  | .error .exhausted => .error .exhausted

/-- Runs the main part of a script, and gives the variables that it leaves as well. -/
def ParsedScript.runWith (script : ParsedScript) (modules : List Module) (rounds : Nat) (scope : List Variable) :
    Hosted (Except RunError Value × State) :=
  let frame : Frame := { units := [⟨none, script.functions⟩], modules, rounds }
  do
    let (result, state) ←
      (Evaluate.evalBody (Evaluate.callAt callDepth) frame script.body).run.run { scope }
    return (outcome result, state)

def notRun (e : ParseError) : RunError :=
  .script (.raised (.invalidScript e) ⟨e.position, none⟩)

/-- Reads and runs a script. -/
def execute (code : String) (modules : List Module) (rounds : Nat) (scope : List Variable) :
    Hosted (Except RunError Value) :=
  match Script.parse code with
  | .error e => return .error (notRun e)
  | .ok script => do return (← script.runWith modules rounds scope).1

/-- The replies to code that has no host. -/
def unhosted : Unit → (call : HostCall) → call.Reply × Unit
  | (), .get _ => (none, ())
  | (), .set _ _ => ((), ())
  | (), .remove _ => (none, ())
  | (), .clear => ((), ())
  | (), .keys => ([], ())
  | (), .save => (.ok (), ())
  | (), .substitute _ _ text => (.ok text, ())

def exportsOf (state : State) : List (String × Value) :=
  state.scope.flatMap fun v => v.exports.map fun name => (name, Run.contents state.cells v.value)

end Script

/-- An interpreter, told from all others of its pool by its number. -/
structure Interpreter where
  serial : Nat
  modules : List Script.Module

structure Factory where
  library : Library
  /-- The number of extensions that every interpreter gets from its host. -/
  extensions : Nat := 0
  /-- How many rounds a loop may take. -/
  rounds : Nat

namespace Factory

/-- No interpreter can read code that a script makes, or load modules from outside of the library. -/
def isRestricted (_ : Factory) : Bool := true

def withExtension (factory : Factory) : Factory := { factory with extensions := factory.extensions + 1 }

/-- A factory on the library that is injected, or else on the one in the source, which is injected then if it
is accepted. -/
def acquire (rounds : Nat) (injected : Option Library) (source : LibrarySource) :
    Program (Except LibraryError Factory × Option Library) := do
  let (result, injected) ← Library.inject injected source
  return (result.map fun library => { library, rounds }, injected)

/-- Runs the code of a module, which sees the modules before it. -/
def instantiate (rounds : Nat) (before : List Script.Module) (m : LibraryModule) :
    Except CreationError Script.Module :=
  match (Dialogue.run Script.unhosted (m.script.runWith before rounds []) ()).1 with
  | (.ok _, state) => 
    .ok ⟨m.name, m.script.functions, Script.exportsOf state, state.constants⟩
  | (.error cause, _) => .error ⟨m.name, cause⟩

/-- Runs the code of modules one after the other. -/
def instantiateAll (rounds : Nat) (before : List Script.Module) :
    List LibraryModule → Except CreationError (List Script.Module)
  | [] => .ok before
  | m :: rest =>
    match instantiate rounds before m with
    | .ok made => instantiateAll rounds (before ++ [made]) rest
    | .error e => .error e

def create (factory : Factory) (serial : Nat) : Except CreationError Interpreter :=
  (instantiateAll factory.rounds [] factory.library.modules).map fun modules => ⟨serial, modules⟩

end Factory

/-- Who uses an interpreter. -/
abbrev Worker := Nat

/-- The interpreters of workers, in the order in which they were made. -/
structure Pool where
  factory : Factory
  slots : List (Worker × Interpreter) := []
  /-- The number for the next interpreter. -/
  next : Nat := 0

structure Context where
  interpreter : Interpreter
  rounds : Nat
  scope : List Script.Variable

namespace Pool

def interpreter? (pool : Pool) (worker : Worker) : Option Interpreter := pool.slots.lookup worker

/-- Makes an interpreter for a worker. The attempt uses up a number, whether it succeeds or not. -/
def create (pool : Pool) : Except CreationError Interpreter × Pool :=
  (pool.factory.create pool.next, { pool with next := pool.next + 1 })

/-- Keeps an interpreter for a worker, in the place of an earlier one. -/
def insert (pool : Pool) (worker : Worker) (interpreter : Interpreter) : Pool :=
  { pool with
    slots := pool.slots.filter (fun s => s.1 ≠ worker) ++ [(worker, interpreter)] }

def size (pool : Pool) : Nat := pool.slots.length

def isEmpty (pool : Pool) : Bool := pool.slots.isEmpty

/-- The variables for bindings, the latest one first. -/
def boundVariables (bindings : Bindings) : List Script.Variable :=
  (bindings.entries.map fun e => { name := e.1, value := e.2 : Script.Variable }).reverse

def context (pool : Pool) (interpreter : Interpreter) (defaults : Bindings) : Context :=
  ⟨interpreter, pool.factory.rounds, boundVariables defaults⟩

/-- A fresh context for a worker, on the interpreter that the worker has or gets. -/
def acquire (pool : Pool) (worker : Worker) (defaults : Bindings) : Except CreationError Context × Pool :=
  match pool.interpreter? worker with
  | some interpreter => (.ok (pool.context interpreter defaults), pool)
  | none =>
    match pool.create with
    | (.ok interpreter, pool) =>
      (.ok (pool.context interpreter defaults), pool.insert worker interpreter)
    | (.error e, pool) => (.error e, pool)

end Pool

namespace Context

def isBound (context : Context) (name : String) : Bool := context.scope.any fun v => v.name = name

/-- Executes a script, for which further bindings come over those of the context. -/
def execute (context : Context) (bindings : Bindings) (code : String) :
    Script.Hosted (Except ExecutionError Script.Value) := do
  let result ← Script.execute code context.interpreter.modules context.rounds
    (Pool.boundVariables bindings ++ context.scope)
  return result.mapError ExecutionError.ofRun

end Context

end PlaceholderScripts
