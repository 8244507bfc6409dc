import PlaceholderScripts.Proofs.Evaluation.Moments
import PlaceholderScripts.Proofs.Library.Accepted

/-!
# Calls of library functions

Scripts call the functions of the embedded library by the names of its modules. Inside of such a call a function
that the calling code has of its own comes before a built-in function of the same name, so what a library function
comes to depends on its caller, unless the caller has none of the names that the function uses.
-/

namespace PlaceholderScripts.Library

open Script Script.Evaluate

inductive EmbeddedModule where
  | text
  | numbers

namespace EmbeddedModule

def name : EmbeddedModule → String
  | text => "text"
  | numbers => "numbers"

def source : EmbeddedModule → String
  | text => Embedded.textSource
  | numbers => Embedded.numbersSource

end EmbeddedModule

/-- A function of the library, and the built-in functions that it calls, each with the number of parameters of a
function that would come before it. -/
structure LibraryFunction where
  home : EmbeddedModule
  tree : Function
  builtins : List (String × Nat)

/-- Code can call no function by one of these names alone that has so many parameters, unless it is built in. -/
def Unshadowed (f : Frame) (names : List (String × Nat)) : Prop :=
  ∀ b ∈ names, f.callee? b.1 b.2 = none

variable {f : Frame} {g : LibraryFunction} {script : ParsedScript}

namespace LibraryFunction

/-- The script has the function for others to call, and none under the names of the built-in functions that it
calls. -/
def isIn (g : LibraryFunction) (script : ParsedScript) : Bool :=
  (Frame.functionIn g.tree.name g.tree.parameters.length (script.functions.filter (!·.isPrivate))).any (·.same g.tree) &&
    g.builtins.all fun b => (Frame.functionIn b.1 b.2 script.functions).isNone

theorem functionIn_of_isIn (h : g.isIn script = true) :
    Frame.functionIn g.tree.name g.tree.parameters.length (script.functions.filter (!·.isPrivate)) = some g.tree := by
  rw [isIn, Bool.and_eq_true, Option.any_eq_true] at h
  obtain ⟨⟨found, hfound, hsame⟩, -⟩ := h
  rwa [Function.eq_of_same hsame] at hfound

theorem functionIn_eq_none_of_isIn (h : g.isIn script = true) :
    ∀ b ∈ g.builtins, Frame.functionIn b.1 b.2 script.functions = none := by
  rw [isIn, Bool.and_eq_true, List.all_eq_true] at h
  exact fun b hb => Option.isNone_iff_eq_none.mp (h.2 b hb)

def IsEmbedded (g : LibraryFunction) : Prop :=
  ∃ script, Script.parse g.home.source = .ok script ∧ g.isIn script = true

/-- The characters of the literal are taken apart at once, not one by one. -/
theorem isEmbedded_of_isIn {cs : List Char} (hsource : g.home.source = String.ofList cs)
    (h : (parseChars cs).toOption.any g.isIn = true) : g.IsEmbedded := by
  rw [← parse_ofList, ← hsource] at h
  exact exists_eq_ok_of_any h

end LibraryFunction

theorem IsEmbedded.module?_eq (h : IsEmbedded f.modules) {m : EmbeddedModule}
    (hparse : Script.parse m.source = .ok script) : f.module? m.name = some ⟨m.name, script.functions, [], []⟩ := by
  cases m with
  | text => exact h.module?_text hparse
  | numbers => exact h.module?_numbers hparse

/-- The code runs on an interpreter of the embedded library as the program makes them, and has no functions of these
names. -/
structure Reaches (f : Frame) (names : List (String × Nat)) : Prop where
  embedded : IsEmbedded f.modules
  unshadowed : Unshadowed f names

/-- Wherever the arguments of a call of the function come to these values, the call comes to the value, and changes
nothing that the arguments have left. -/
def Gives (f : Frame) (g : LibraryFunction) (values : List Value) (v : Value) : Prop :=
  ∀ (σ : Type) (reply : σ → (q : Request) → q.Reply × σ) (before after : Moment σ) (depth : Nat)
    (first : Option String) (arguments : List Expr) (pathAt p : Position),
    before.run reply (evalArguments (callAt (depth + 1)) f arguments) = (.ok (first, values), after) →
    before.run reply (eval (callAt (depth + 1)) f (.pathCall [g.home.name] g.tree.name arguments pathAt p)) =
      (.ok v, after)

/-- The call comes to what the body of the function comes to, or returns. -/
theorem gives_of_body (h : Reaches f g.builtins) (hg : g.IsEmbedded) {values : List Value} {v : Value}
    (hlength : values.length = g.tree.parameters.length) {outcome : Except Signal Value}
    (houtcome : outcome = .ok v ∨ outcome = .error (.returned v))
    (hbody : ∀ (call : Caller) (f' : Frame) (state : State), Unshadowed f' g.builtins → f'.rounds = f.rounds →
      ∃ inner, (evalBody call f' g.tree.body).Ends
        { state with scope := parameterScope g.tree.parameters values } outcome inner ∧ inner.cells = state.cells) :
    Gives f g values v := by
  obtain ⟨script, hparse, hin⟩ := hg
  let m : Module := ⟨g.home.name, script.functions, [], []⟩
  have hmodule : f.module? m.name = some m := h.embedded.module?_eq hparse
  have hfunction := LibraryFunction.functionIn_of_isIn hin
  rw [← hlength] at hfunction
  have hunshadowed : Unshadowed (f.enter (some m.name)) g.builtins := fun b hb =>
    (callee?_enter hmodule (LibraryFunction.functionIn_eq_none_of_isIn hin b hb)).trans (h.unshadowed b hb)
  have hrounds : (f.enter (some m.name)).rounds = f.rounds := by rw [enter_of_module? hmodule]
  intro σ reply before after depth first arguments pathAt p harguments
  obtain ⟨inner, hinner, hcells⟩ := hbody (callAt depth) (f.enter (some m.name))
    { after.state with self := none, constants := [], level := after.state.level + 1 } hunshadowed hrounds
  have hcall := Moment.run_pathCall (p := p) (q := pathAt) harguments hmodule hfunction hinner hcells houtcome
  exact hcall

/-- A script without functions of its own, on an interpreter of the embedded library. -/
theorem exists_reaches (names : List (String × Nat)) : ∃ f, Reaches f names ∧ f.rounds = allowedRounds := by
  obtain ⟨modules, hmodules⟩ := exists_isEmbedded
  exact ⟨{ units := [⟨none, []⟩], modules, rounds := allowedRounds }, ⟨hmodules, fun _ _ => rfl⟩, rfl⟩

section Alone

/-- What a script ends with that runs by itself on the modules. -/
def alone (modules : List Script.Module) (code : String) : Except RunError Value :=
  (Dialogue.run Script.unhosted (Script.execute code modules allowedRounds []) ()).1

def failsWith (message : String) : Except RunError Value → Bool
  | .error e => e.message = message
  | .ok _ => false

theorem alone_eq {modules : List Script.Module} {code : String} (h : Script.parse code = .ok script) :
    alone modules code = (Dialogue.run Script.unhosted (script.runWith modules allowedRounds []) ()).1.1 := by
  rw [alone, Script.execute, h]
  exact congrArg Prod.fst (Dialogue.run_bind _ _ _ _)

/-- The check of a script's end, from the characters of the files and of the script. -/
def checkAlone (texts numbers cs : List Char) (check : Except RunError Value → Bool) : Bool :=
  (parseChars texts).toOption.any fun text => (parseChars numbers).toOption.any fun numbers =>
    (parseChars cs).toOption.any fun script => check
      (Dialogue.run Script.unhosted (script.runWith
        [⟨"text", text.functions, [], []⟩, ⟨"numbers", numbers.functions, [], []⟩] allowedRounds []) ()).1.1

variable {modules : List Script.Module} {texts numbers cs : List Char}

/-- What can be computed of a script's end is so on every interpreter of the embedded library. -/
theorem alone_of_check (h : IsEmbedded modules) (code : String) (check : Except RunError Value → Bool)
    (htexts : Embedded.textSource = String.ofList texts) (hnumbers : Embedded.numbersSource = String.ofList numbers)
    (hcode : code = String.ofList cs) (hcheck : checkAlone texts numbers cs check = true) :
    check (alone modules code) = true := by
  obtain ⟨text, htext, hnext⟩ := exists_eq_ok_of_any hcheck
  obtain ⟨others, hothers, hlast⟩ := exists_eq_ok_of_any hnext
  obtain ⟨script, hscript, hends⟩ := exists_eq_ok_of_any hlast
  rw [← parse_ofList, ← htexts] at htext
  rw [← parse_ofList, ← hnumbers] at hothers
  rw [← parse_ofList, ← hcode] at hscript
  obtain rfl := (isEmbedded_iff htext hothers).mp h
  rw [alone_eq hscript]
  exact hends

theorem alone_eq_ok (h : IsEmbedded modules) (code : String) (v : Value)
    (htexts : Embedded.textSource = String.ofList texts) (hnumbers : Embedded.numbersSource = String.ofList numbers)
    (hcode : code = String.ofList cs)
    (hcheck : checkAlone texts numbers cs (fun ends => ends.toOption.any fun w => w.same v) = true) :
    alone modules code = .ok v := by
  obtain ⟨w, hw, hsame⟩ := exists_eq_ok_of_any (alone_of_check h code _ htexts hnumbers hcode hcheck)
  rwa [Value.same_iff.mp hsame] at hw

end Alone

end PlaceholderScripts.Library
