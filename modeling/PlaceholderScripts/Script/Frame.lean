import PlaceholderScripts.Script.Run

/-!
# What code can call

Code calls the functions of the script or module that it belongs to, and those of the code that called
it; functions of modules are called by the name of the module. The calls inside each other are limited
in number, and so are the rounds of a loop.
-/

namespace PlaceholderScripts.Script

structure Module where
  name : String
  functions : List Function
  exports : List (String × Value) := []
  /-- The constants that its own functions can read. -/
  constants : List (String × Value) := []

/-- Functions that code can call by name alone, with the module that they belong to. -/
structure CodeUnit where
  home : Option String
  functions : List Function

structure Callee where
  home : Option String
  function : Function

/-- What a piece of code can reach. -/
structure Frame where
  /-- The functions that can be called by name alone, the nearest first. -/
  units : List CodeUnit
  modules : List Module
  /-- The module that the code belongs to. -/
  home : Option String := none
  /-- How many rounds a loop may take. -/
  rounds : Nat

/-- How a function is called: with an object, if it is a method, and with arguments. It gives its value
and what became of the object. -/
abbrev Caller :=
  Frame → Callee → Option Value → List Value → Location → Run (Value × Option Value)

namespace Frame

def locate (f : Frame) (p : Position) : Location := ⟨p, f.home⟩

def functionIn (name : String) (count : Nat) (functions : List Function) : Option Function :=
  functions.find? fun g => g.name = name && g.parameters.length = count

/-- The nearest function of a name with so many parameters. -/
def callee? (f : Frame) (name : String) (count : Nat) : Option Callee :=
  f.units.findSome? fun u => (functionIn name count u.functions).map (Callee.mk u.home)

/-- The module of a name; of several the one that came last. -/
def module? (f : Frame) (name : String) : Option Module := f.modules.reverse.find? (·.name = name)

/-- The function that a value of the module `home` stands for. -/
def calleeOf? (f : Frame) (home : Option String) (name : String) (count : Nat) : Option Callee :=
  match home with
  | none => f.callee? name count
  | some m =>
    ((f.module? m).bind fun m => functionIn name count m.functions).map (Callee.mk home)

/-- What the code of a function can reach: the functions of its module come first. -/
def enter (f : Frame) (home : Option String) : Frame :=
  match home.bind f.module? with
  | some m => { f with home, units := ⟨home, m.functions⟩ :: f.units }
  | none => { f with home }

end Frame

end PlaceholderScripts.Script
