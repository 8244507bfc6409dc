import PlaceholderScripts.Proofs.Script.Contracts

/-!
# Effects of code

Code names the variables that it writes: those that it declares, assigns to, shares with functions without a name or
exports, and those on which it calls methods or functions, which may change them. Code that is allowed to write what
it writes keeps to every contract that leaves the host free. Functions see none of the variables of their callers.
-/

namespace PlaceholderScripts.Script

namespace Expr

/-- The name of a variable that stands alone. -/
def alone? : Expr → Option String
  | .variable x _ => some x
  | _ => none

/-- The variable that an assignment to the expression changes, if only in a part. -/
def assigned? : Expr → Option String
  | .chain root _ _ => root.alone?
  | e => e.alone?

end Expr

def Link.isMethod : Link → Bool
  | .method _ _ _ _ => true
  | _ => false

/-- The variable that a call by name may change. -/
def Expr.changedBy (name : String) (arguments : List Expr) : Option String :=
  if Evaluate.operators.contains name then none else arguments.head?.bind Expr.alone?

/-- The variable that methods may change. -/
def Expr.changedIn (root : Expr) (links : List Link) : Option String :=
  if links.any Link.isMethod then root.alone? else none

def Evaluate.Step.isMethod : Evaluate.Step → Bool
  | .method _ _ _ _ => true
  | _ => false

mutual

/-- The names of the variables that an expression may write. -/
def Expr.written : Expr → List String
  | .literal _ _ | .variable _ _ | .self _ | .pathVariable _ _ _ _ | .continueLoop _ => []
  | .template parts _ => Expr.writtenAll parts
  | .list items _ => Expr.writtenAll items
  | .map _ values _ => Expr.writtenAll values
  | .call name arguments _ => (Expr.changedBy name arguments).toList ++ Expr.writtenAll arguments
  | .pathCall _ _ arguments _ _ => Expr.writtenAll arguments
  | .and left right _ | .or left right _ | .orElse left right _ => left.written ++ right.written
  | .chain root links _ => (root.changedIn links).toList ++ (root.written ++ Link.writtenAll links)
  | .closure _ captured _ => captured
  | .block body _ => Expr.writtenAll body
  | .declare name _ _ value _ => name :: value.written
  | .assign target _ value _ => target.assigned?.toList ++ (target.written ++ value.written)
  | .ifElse condition yes no _ => condition.written ++ (Expr.writtenAll yes ++ Expr.writtenAll no)
  | .choose subject cases _ => subject.written ++ Case.writtenAll cases
  | .whileLoop _ _ condition body _ => condition.written ++ Expr.writtenAll body
  | .forLoop name counter range body _ => name :: (counter.toList ++ (range.written ++ Expr.writtenAll body))
  | .breakLoop value _ | .returnValue value _ | .throwValue value _ => value.written
  | .tryCatch body caught handler _ => caught.toList ++ (Expr.writtenAll body ++ Expr.writtenAll handler)
  | .importModule path _ => path.written
  | .exportName name _ _ => [name]

def Expr.writtenAll : List Expr → List String
  | [] => []
  | e :: rest => e.written ++ Expr.writtenAll rest

def Link.written : Link → List String
  | .property _ _ _ => []
  | .method _ arguments _ _ => Expr.writtenAll arguments
  | .index key _ _ => key.written

def Link.writtenAll : List Link → List String
  | [] => []
  | l :: rest => l.written ++ Link.writtenAll rest

def Case.written : Case → List String
  | .mk values condition body => Expr.writtenAll values ++ (Expr.writtenIfAny condition ++ body.written)

def Case.writtenAll : List Case → List String
  | [] => []
  | c :: rest => c.written ++ Case.writtenAll rest

def Expr.writtenIfAny : Option Expr → List String
  | none => []
  | some e => e.written

end

namespace Contract

variable {terms : Contract} {names others : List String}

def Allows (terms : Contract) (names : List String) : Prop := ∀ x ∈ names, terms.writable x

theorem Allows.left (h : terms.Allows (names ++ others)) : terms.Allows names :=
  (List.forall_mem_append.mp h).1

theorem Allows.right (h : terms.Allows (names ++ others)) : terms.Allows others :=
  (List.forall_mem_append.mp h).2

theorem Allows.head {name : String} (h : terms.Allows (name :: names)) : terms.writable name :=
  h name List.mem_cons_self

theorem Allows.tail {name : String} (h : terms.Allows (name :: names)) : terms.Allows names :=
  fun x hx => h x (List.mem_cons_of_mem _ hx)

theorem Allows.of_eq_some {name? : Option String} (h : terms.Allows name?.toList) {x : String}
    (hx : name? = some x) : terms.writable x :=
  h x (Option.mem_toList.mpr hx)

end Contract

namespace Evaluate

open HigherOrder (Callback)
open Run (located)

variable {terms : Contract}

structure CallsMeet (call : Caller) (terms : Contract) : Prop where
  calls : ∀ f callee self arguments l, (call f callee self arguments l).Meets terms
  asks : ∀ q, terms.asks q

section Calls

variable {call : Caller} (f : Frame) (name : String) (arguments : List Value) (p : Position)

theorem meets_callNative (hasks : ∀ q, terms.asks q) : (callNative f name arguments p).Meets terms := by
  have hcall := Builtin.failsSoundly_call name arguments
  unfold callNative
  split
  · next r hr => exact .located (hcall r hr) _
  · dsimp only
    split
    · next object rest _ =>
      have hanswer := HostObject.answersSoundly_function? name object rest
      split
      · next answer hfound =>
        exact .bind_host ((hanswer answer hfound).obeys hasks) fun r hr => .bind (.located hr _) fun _ => .pure _
      · exact .raise (by trivial) _
    · exact .raise (by trivial) _

variable (h : CallsMeet call terms)
include h

theorem meets_callValue (function : Value) (self : Option Value) :
    (callValue call f p function self arguments).Meets terms := by
  unfold callValue
  split
  · dsimp only
    split
    · exact h.calls _ _ _ _ _
    · exact .bind (meets_callNative _ _ _ _ h.asks) fun _ => .pure _
  · exact .raise (by trivial) _

omit h in
theorem meets_throughNative {r : Run Builtin.Outcome} (hr : r.Meets terms) :
    (throughNative f name p r).Meets terms := by
  refine .bind_attempt hr fun result hended => ?_
  split
  · exact .throw hended
  · exact .conclude hended

theorem meets_callHigherOrder? : IfAny (Run.Meets · terms) (callHigherOrder? call f name arguments p) := by
  have hcallback (g : Value) :
      Callback.Meets ⟨g, parameterCount f g, callValue call f p⟩ terms :=
    fun g self arguments => meets_callValue f arguments p h g self
  unfold callHigherOrder?
  refine .map ?_ fun r hr => meets_throughNative f name p hr
  split
  · exact HigherOrder.meets_ofList (hcallback _) _ _ _
  · exact HigherOrder.meets_ofLists (hcallback _) _ _ _
  · exact HigherOrder.meets_ofMap (hcallback _) _ _
  · exact .none

theorem meets_callBuiltin : (callBuiltin call f name arguments p).Meets terms := by
  unfold callBuiltin
  split
  · next r hr => exact meets_callHigherOrder? f name arguments p h r hr
  · exact meets_callNative f name arguments p h.asks

theorem meets_callNamed : (callNamed call f name arguments p).Meets terms := by
  unfold callNamed
  split
  · exact .bind (h.calls _ _ _ _ _) fun _ => .pure _
  · exact meets_callBuiltin f name arguments p h

theorem meets_callFunction : (callFunction call f name arguments p).Meets terms := by
  unfold callFunction
  dsimp only
  split
  · exact .bind (.lookup? _) fun _ => .pure _
  · exact .raise (by trivial) _
  · exact .pure _
  · exact .throw trivial
  · exact .throw trivial
  · exact .pure _
  · exact .raise (by trivial) _
  · exact .bind (meets_callValue f _ p h _ _) fun _ => .pure _
  · exact .pure _
  · exact .raise (by trivial) _
  · exact meets_callNamed f name arguments p h

theorem meets_callMethod (object : Value) : (callMethod call f object name arguments p).Meets terms := by
  unfold callMethod
  split
  · exact .bind (meets_callValue f _ p h _ _) fun _ => .pure _
  · exact .bind (meets_callValue f _ p h _ _) fun _ => .pure _
  · exact .pure _
  · split
    · exact .bind (meets_callValue f _ p h _ _) fun _ => .pure _
    · split
      · exact .bind (h.calls _ _ _ _ _) fun _ => .pure _
      · exact meets_callBuiltin f name _ p h

end Calls

section Steps

variable {call : Caller} (f : Frame)

theorem meets_locatedIndex {α : Type} (at_ keyAt : Position) {r : Except Fault α} (hr : FailsSoundly r) :
    (locatedIndex f at_ keyAt r).Meets terms := by
  cases r with
  | ok a => exact .pure a
  | error fault => exact .raise (FailsSoundly.error_iff.mp hr) _

theorem meets_combine (operation : Option String) (old new : Value) (p : Position) :
    (combine f operation old new p).Meets terms := by
  unfold combine
  split
  · exact .pure _
  · next name =>
    have hassigned := failsSoundly_assigned name old new
    split
    · next r hr => exact .located (hassigned r hr) _
    · exact .raise (by trivial) _

theorem meets_follow (h : CallsMeet call terms) (steps : List Step) (v : Value) :
    (follow call f steps v).Meets terms := by
  induction steps generalizing v with
  | nil => exact .pure _
  | cons step rest ih =>
    cases step with
    | property name safe p =>
      unfold follow
      split
      · exact .pure _
      · split
        · split
          · exact .bind (ih _) fun _ => .pure _
          · exact .bind (ih _) fun _ => .pure _
        · split
          · exact .bind (ih _) fun _ => .pure _
          · exact .raise (by trivial) _
    | method name arguments safe p =>
      unfold follow
      split
      · exact .pure _
      · exact .bind (meets_callMethod f name arguments p h v) fun _ => .bind (ih _) fun _ => .pure _
    | index key safe at_ keyAt =>
      unfold follow
      split
      · exact .pure _
      · refine .bind (meets_locatedIndex f _ _ (Part.failsSoundly_get v key)) fun part =>
          .bind (ih part) fun (r, changed) => ?_
        cases changed with
        | none => exact .pure _
        | some new =>
          dsimp only
          split
          · exact .bind (meets_locatedIndex f _ _ (Part.failsSoundly_set v key new)) fun _ => .pure _
          · exact .pure _

theorem gives_follow {steps : List Step} (hsteps : steps.any Step.isMethod = false) (v : Value) :
    (follow call f steps v).Gives fun r => r.2 = none := by
  induction steps generalizing v with
  | nil => exact .pure rfl
  | cons step rest ih =>
    obtain ⟨hstep, hrest⟩ := Bool.or_eq_false_iff.mp hsteps
    cases step with
    | property name safe p =>
      unfold follow
      split
      · exact .pure rfl
      · split
        · split
          · exact .bind (ih hrest _) fun r hr => .pure (by rw [hr]; rfl)
          · exact .bind (.any _) fun _ _ => .pure rfl
        · split
          · exact .bind (.any _) fun _ _ => .pure rfl
          · exact .raise _ _
    | method name arguments safe p => cases hstep
    | index key safe at_ keyAt =>
      unfold follow
      split
      · exact .pure rfl
      · refine .bind (.any _) fun part _ => .bind (ih hrest part) ?_
        rintro ⟨r, _⟩ rfl
        exact .pure rfl

theorem meets_assignTo (operation : Option String) (new : Value) (p : Position) {steps : List Step}
    (h : steps.any Step.isMethod = true → CallsMeet call terms) (v : Value) :
    (assignTo call f operation new p steps v).Meets terms := by
  induction steps generalizing v with
  | nil => exact .map (meets_combine f operation v new p) _
  | cons step rest ih =>
    replace ih := ih fun hrest => h (by rw [List.any_cons, hrest, Bool.or_true])
    cases step with
    | property name safe at_ =>
      unfold assignTo
      split
      · exact .pure _
      · split
        · refine .bind (ih _) fun changed => ?_
          split <;> exact .pure _
        · split
          · split
            · exact .raise (by trivial) _
            · exact .bind (meets_combine f _ _ _ _) fun _ => .raise (by trivial) _
          · split
            · exact .bind (ih _) fun _ => .pure _
            · exact .raise (by trivial) _
    | method name arguments safe at_ =>
      unfold assignTo
      split
      · exact .pure _
      · exact .bind (meets_callMethod f name arguments at_ (h rfl) v) fun _ => .bind (ih _) fun _ => .pure _
    | index key safe at_ keyAt =>
      have hset (new : Value) : (locatedIndex f at_ keyAt (Part.set v key new)).Meets terms :=
        meets_locatedIndex f at_ keyAt (Part.failsSoundly_set v key new)
      unfold assignTo
      split
      · exact .pure _
      · split
        · exact .bind (hset new) fun _ => .pure _
        · refine .bind (meets_locatedIndex f _ _ (Part.failsSoundly_get v key)) fun part =>
            .bind (ih part) fun changed => ?_
          split
          · split
            · exact .bind (hset _) fun _ => .pure _
            · exact .pure _
          · exact .pure _

end Steps

section Names

variable (f : Frame) (p : Position)

theorem meets_putBack {name : String} {fault : Fault} (hfault : fault.Sound) {changed : Option Value}
    (hname : ∀ v, changed = some v → terms.writable name) : (putBack f name p fault changed).Meets terms := by
  cases changed with
  | none => exact .pure _
  | some v =>
    refine .bind (.lookup name _) fun x => ?_
    split
    · exact .raise hfault _
    · exact .write (hname v rfl) v

theorem meets_self : (self f p).Meets terms := by
  refine .bind .get fun s => ?_
  split
  · exact .pure _
  · exact .raise (by trivial) _

theorem meets_setSelf (changed : Option Value) : (setSelf changed).Meets terms := by
  cases changed with
  | none => exact .pure _
  | some v => exact .modify fun s => terms.refl _

theorem meets_callPath {call : Caller} (h : CallsMeet call terms) (path : List String) (name : String)
    (arguments : List Value) (pathAt : Position) :
    (callPath call f path name arguments pathAt p).Meets terms := by
  unfold callPath
  dsimp only
  split
  · exact .raise (by trivial) _
  · split
    · exact .bind (h.calls _ _ _ _ _) fun _ => .pure _
    · exact .raise (by trivial) _

theorem meets_readPath (path : List String) (name : String) : (readPath f path name p).Meets terms := by
  unfold readPath
  dsimp only
  split
  · split
    · exact .pure _
    · exact .raise (by trivial) _
  · split
    · refine .bind .get fun _ => ?_
      split
      · exact .pure _
      · exact .raise (by trivial) _
    · exact .raise (by trivial) _

theorem meets_truth (v : Value) : (truth f p v).Meets terms := by
  unfold truth
  split
  · exact .pure _
  · exact .raise (by trivial) _

end Names

theorem meets_recordConstant (f : Frame) (name : String) (v : Value) : (recordConstant f name v).Meets terms :=
  .modify fun s => by split <;> exact terms.refl _

theorem meets_declareCaught {name : Option String} (h : terms.Allows name.toList) (e : ScriptError) :
    (declareCaught name e).Meets terms := by
  cases name with
  | none => exact .pure _
  | some x => exact .declare (h.of_eq_some rfl)

theorem fault_movedTo (e : ScriptError) (l : Location) : (e.movedTo l).fault = e.fault := by
  cases e <;> rfl

theorem meets_rethrown {e : ScriptError} (he : e.fault.Sound) {outcome : Except Signal Value}
    (hended : EndsSoundly outcome) : (rethrown e outcome).Meets terms := by
  unfold rethrown
  split
  · exact .pure _
  · refine .throw ?_
    rwa [Signal.Sound, fault_movedTo]
  · exact .throw hended

section Gives

variable {call : Caller} (f : Frame)

theorem gives_evalLink (l : Link) : (evalLink call f l).Gives fun step => step.isMethod = l.isMethod := by
  cases l with
  | property name safe p => exact .pure rfl
  | method name arguments safe p => exact .bind (.any _) fun _ _ => .pure rfl
  | index key safe p => exact .bind (.any _) fun _ _ => .pure rfl

theorem gives_evalLinks (ls : List Link) :
    (evalLinks call f ls).Gives fun steps => steps.any Step.isMethod = ls.any Link.isMethod := by
  induction ls with
  | nil => exact .pure rfl
  | cons l ls ih =>
    exact .bind (gives_evalLink f l) fun step hstep => .bind ih fun steps hsteps =>
      .pure (by rw [List.any_cons, List.any_cons, hstep, hsteps])

/-- The variable in the first place is the only one that a function may change. -/
theorem gives_evalArguments (es : List Expr) :
    (evalArguments call f es).Gives fun r => ∀ x, r.1 = some x → es.head?.bind Expr.alone? = some x := by
  cases es with
  | nil => exact .pure nofun
  | cons e rest =>
    unfold evalArguments
    split
    · exact .bind (.any _) fun _ _ => .bind (.any _) fun _ _ => .pure fun _ => id
    · exact .bind (.any _) fun _ _ => .bind (.any _) fun _ _ => .pure nofun

end Gives

/-! ### Expressions

An expression keeps to the terms whenever its parts do and it may write what it writes. -/

section Parts

variable {call : Caller} (f : Frame)

theorem meets_and {left right : Expr} (hleft : (eval call f left).Meets terms)
    (hright : (eval call f right).Meets terms) (p : Position) : (eval call f (.and left right p)).Meets terms := by
  refine .bind hleft fun v => .bind (meets_truth f _ v) fun holds => ?_
  split
  · exact .bind hright fun w => .bind (meets_truth f _ w) fun _ => .pure _
  · exact .pure _

theorem meets_or {left right : Expr} (hleft : (eval call f left).Meets terms)
    (hright : (eval call f right).Meets terms) (p : Position) : (eval call f (.or left right p)).Meets terms := by
  refine .bind hleft fun v => .bind (meets_truth f _ v) fun holds => ?_
  split
  · exact .pure _
  · exact .bind hright fun w => .bind (meets_truth f _ w) fun _ => .pure _

theorem meets_orElse {left right : Expr} (hleft : (eval call f left).Meets terms)
    (hright : (eval call f right).Meets terms) (p : Position) :
    (eval call f (.orElse left right p)).Meets terms := by
  refine .bind hleft fun v => ?_
  split
  · exact hright
  · exact .pure _

theorem meets_declare {name : String} {value : Expr} (hvalue : (eval call f value).Meets terms)
    (hname : terms.writable name) (constant exported : Bool) (p : Position) :
    (eval call f (.declare name constant exported value p)).Meets terms := by
  refine .bind hvalue fun v => .bind (.declare hname) fun _ => ?_
  split
  · exact .bind (meets_recordConstant f name v) fun _ => .pure _
  · exact .pure _

theorem meets_ifElse {condition : Expr} {yes no : List Expr} (hcondition : (eval call f condition).Meets terms)
    (hyes : (evalBody call f yes).Meets terms) (hno : (evalBody call f no).Meets terms) (p : Position) :
    (eval call f (.ifElse condition yes no p)).Meets terms := by
  refine .bind hcondition fun v => .bind (meets_truth f _ v) fun holds => ?_
  split
  · exact .enclosed hyes
  · exact .enclosed hno

theorem meets_choose {subject : Expr} {cases : List Case} (hsubject : (eval call f subject).Meets terms)
    (hcases : ∀ kind v, (evalCases call f kind v cases).Meets terms) (p : Position) :
    (eval call f (.choose subject cases p)).Meets terms := by
  refine .bind hsubject fun v => .bind (hcases .value v) fun found => ?_
  split
  · exact .pure _
  · refine .bind (hcases .range v) fun found => ?_
    split
    · exact .pure _
    · exact .bind (hcases .otherwise v) fun _ => .pure _

theorem meets_whileLoop {condition : Expr} {body : List Expr} (hcondition : (eval call f condition).Meets terms)
    (hbody : (evalBody call f body).Meets terms) (first negated : Bool) (p : Position) :
    (eval call f (.whileLoop first negated condition body p)).Meets terms := by
  have hcheck : Run.Meets (do
      return (← truth f condition.position (← eval call f condition)) != negated) terms :=
    .bind hcondition fun v => .bind (meets_truth f _ v) fun _ => .pure _
  unfold eval
  dsimp only
  split
  · exact .repeatUntil hcheck (.enclosed hbody) _
  · exact .repeatWhile hcheck (.enclosed hbody) _

theorem meets_forLoop {name : String} {counter : Option String} {range : Expr} {body : List Expr}
    (hrange : (eval call f range).Meets terms) (hbody : (evalBody call f body).Meets terms)
    (hname : terms.writable name) (hcounter : terms.Allows counter.toList) (p : Position) :
    (eval call f (.forLoop name counter range body p)).Meets terms := by
  unfold eval
  extract_lets round
  have hround (item : Value) (n : Nat) : (round item n).Meets terms := by
    refine .enclosed ?_
    cases counter with
    | none => exact .bind (.declare hname) fun _ => hbody
    | some counter => exact .bind (.declare (hcounter.of_eq_some rfl)) fun _ => .bind (.declare hname) fun _ => hbody
  refine .bind hrange fun v => ?_
  split
  · exact .forItems hround _ _
  · exact .forItems hround _ _
  · exact .forIntegers hround _ _ _ _
  · exact .forIntegers hround _ _ _ _
  · exact .raise (by trivial) _

theorem meets_tryCatch {body handler : List Expr} {caught : Option String}
    (hbody : (evalBody call f body).Meets terms) (hhandler : (evalBody call f handler).Meets terms)
    (hcaught : terms.Allows caught.toList) (p : Position) :
    (eval call f (.tryCatch body caught handler p)).Meets terms := by
  refine .bind_attempt (.enclosed hbody) fun outcome hended => ?_
  split
  · exact .pure _
  · next e =>
    split
    · refine .bind_attempt (.enclosed ?_) fun handled hhandled => meets_rethrown hended hhandled
      exact .bind (meets_declareCaught hcaught e) fun _ => hhandler
    · exact .throw hended
  · exact .throw hended

theorem meets_importModule {path : Expr} (hpath : (eval call f path).Meets terms) (p : Position) :
    (eval call f (.importModule path p)).Meets terms := by
  refine .bind hpath fun v => ?_
  split
  · exact .raise (by trivial) _
  · exact .raise (by trivial) _

theorem meets_call (h : CallsMeet call terms) {arguments : List Expr}
    (hall : (evalAll call f arguments).Meets terms) (harguments : (evalArguments call f arguments).Meets terms)
    {name : String} (hchanged : terms.Allows (Expr.changedBy name arguments).toList) (p : Position) :
    (eval call f (.call name arguments p)).Meets terms := by
  unfold eval
  split
  · exact .bind hall fun _ => .bind (meets_callNative f _ _ _ h.asks) fun _ => .pure _
  · next hname =>
    refine .bind_gives harguments (gives_evalArguments f arguments) fun (first, values) hfirst =>
      .bind (meets_callFunction f name values p h) fun outcome => ?_
    cases first with
    | none => exact .pure _
    | some x =>
      have hx : Expr.changedBy name arguments = some x := by
        rw [Expr.changedBy, if_neg hname]
        exact hfirst x rfl
      exact .bind (meets_putBack f p (by trivial) fun _ _ => hchanged.of_eq_some hx) fun _ => .pure _

theorem meets_chain (h : CallsMeet call terms) {root : Expr} {links : List Link}
    (hroot : (eval call f root).Meets terms) (hlinks : (evalLinks call f links).Meets terms)
    (hchanged : terms.Allows (root.changedIn links).toList) (p : Position) :
    (eval call f (.chain root links p)).Meets terms := by
  unfold eval
  refine .bind_gives hlinks (gives_evalLinks f links) fun steps hsteps => ?_
  split
  · next x q =>
    cases hmethods : links.any Link.isMethod with
    | true =>
      have hx : (Expr.variable x q).changedIn links = some x := by rw [Expr.changedIn, hmethods]; rfl
      exact .bind (.read _ _) fun v => .bind (meets_follow f h steps v) fun _ =>
        .bind (meets_putBack f _ (by trivial) fun _ _ => hchanged.of_eq_some hx) fun _ => .pure _
    | false =>
      -- What is read through properties and indices alone is not written back.
      refine .bind (.read _ _) fun v =>
        .bind_gives (meets_follow f h steps v) (gives_follow f (hsteps.trans hmethods) v) ?_
      rintro ⟨r, _⟩ rfl
      exact .bind (meets_putBack f _ (by trivial) fun _ => nofun) fun _ => .pure _
  · exact .bind (meets_self f _) fun v => .bind (meets_follow f h steps v) fun _ =>
      .bind (meets_setSelf _) fun _ => .pure _
  · exact .bind hroot fun v => .bind (meets_follow f h steps v) fun _ => .pure _

theorem meets_assign {target value : Expr} (hvalue : (eval call f value).Meets terms)
    (htarget : ∀ root links q, target = .chain root links q →
      (eval call f root).Meets terms ∧ (evalLinks call f links).Meets terms ∧
        (links.any Link.isMethod = true → CallsMeet call terms))
    (hassigned : terms.Allows target.assigned?.toList) (operation : Option String) (p : Position) :
    (eval call f (.assign target operation value p)).Meets terms := by
  unfold eval
  refine .bind hvalue fun new => ?_
  dsimp only
  split
  · exact .bind (.read _ _) fun old => .bind (meets_combine f operation old new p) fun _ =>
      .bind (meets_putBack f _ (by trivial) fun _ _ => hassigned.of_eq_some rfl) fun _ => .pure _
  · exact .bind (meets_self f _) fun old => .bind (meets_combine f operation old new p) fun _ =>
      .bind (meets_setSelf _) fun _ => .pure _
  · next root links q =>
    obtain ⟨hroot, hlinks, hmethods⟩ := htarget root links q rfl
    refine .bind_gives hlinks (gives_evalLinks f links) fun steps hsteps => ?_
    have hassign : ∀ v, (assignTo call f operation new p steps v).Meets terms :=
      meets_assignTo f operation new p fun hany => hmethods (hsteps.symm.trans hany)
    split
    · exact .bind (.read _ _) fun v => .bind (hassign v) fun _ =>
        .bind (meets_putBack f _ (by trivial) fun _ _ => hassigned.of_eq_some rfl) fun _ => .pure _
    · exact .bind (meets_self f _) fun v => .bind (hassign v) fun _ => .bind (meets_setSelf _) fun _ => .pure _
    · exact .bind hroot fun v => .bind (hassign v) fun _ => .pure _
  · exact .bind (.raise (by trivial) _) fun _ => .pure _

end Parts

section Expressions

variable {call : Caller} (f : Frame)

mutual

theorem meets_eval (h : CallsMeet call terms) (e : Expr) (hw : terms.Allows e.written) :
    (eval call f e).Meets terms := by
  match e with
  | .literal v _ =>
    rw [eval]
    exact .pure v
  | .variable name p =>
    rw [eval]
    exact .read name _
  | .self p => exact meets_self f p
  | .template parts _ => exact .bind (meets_evalText h parts hw) fun _ => .pure _
  | .list items _ => exact .bind (meets_evalAll h items hw) fun _ => .pure _
  | .map names values _ => exact .bind (meets_evalAll h values hw) fun _ => .pure _
  | .call name arguments p =>
    exact meets_call f h (meets_evalAll h arguments hw.right) (meets_evalArguments h arguments hw.right) hw.left p
  | .pathCall path name arguments pathAt p =>
    exact .bind (meets_evalArguments h arguments hw) fun _ => meets_callPath f p h _ _ _ _
  | .pathVariable path name pathAt _ => exact meets_readPath f pathAt path name
  | .and left right p => exact meets_and f (meets_eval h left hw.left) (meets_eval h right hw.right) p
  | .or left right p => exact meets_or f (meets_eval h left hw.left) (meets_eval h right hw.right) p
  | .orElse left right p => exact meets_orElse f (meets_eval h left hw.left) (meets_eval h right hw.right) p
  | .chain root links p =>
    exact meets_chain f h (meets_eval h root hw.right.left) (meets_evalLinks h links hw.right.right) hw.left p
  | .closure name captured p => exact .bind (.mapM fun x hx => .share _ (hw x hx)) fun _ => .pure _
  | .block body _ => exact .enclosed (meets_evalBody h body hw)
  | .declare name constant exported value p =>
    exact meets_declare f (meets_eval h value hw.tail) hw.head constant exported p
  | .assign target operation value p =>
    refine meets_assign f (meets_eval h value hw.right.right) ?_ hw.left operation p
    -- The parts of a chain are smaller than the assignment only once it is seen that they are in the target.
    cases target with
    | chain root links q =>
      rintro _ _ _ ⟨⟩
      exact ⟨meets_eval h root hw.right.left.right.left, meets_evalLinks h links hw.right.left.right.right, fun _ => h⟩
    | _ => exact fun _ _ _ => nofun
  | .ifElse condition yes no p =>
    exact meets_ifElse f (meets_eval h condition hw.left) (meets_evalBody h yes hw.right.left)
      (meets_evalBody h no hw.right.right) p
  | .choose subject cases p =>
    exact meets_choose f (meets_eval h subject hw.left) (fun kind v => meets_evalCases h kind v cases hw.right) p
  | .whileLoop first negated condition body p =>
    exact meets_whileLoop f (meets_eval h condition hw.left) (meets_evalBody h body hw.right) first negated p
  | .forLoop name counter range body p =>
    exact meets_forLoop f (meets_eval h range hw.tail.right.left) (meets_evalBody h body hw.tail.right.right)
      hw.head hw.tail.left p
  | .breakLoop value _ => exact .bind (meets_eval h value hw) fun _ => .throw trivial
  | .continueLoop _ => exact .throw trivial
  | .returnValue value _ => exact .bind (meets_eval h value hw) fun _ => .throw trivial
  | .throwValue value p => exact .bind (meets_eval h value hw) fun _ => .raise (by trivial) _
  | .tryCatch body caught handler p =>
    exact meets_tryCatch f (meets_evalBody h body hw.right.left) (meets_evalBody h handler hw.right.right) hw.left p
  | .importModule path p => exact meets_importModule f (meets_eval h path hw) p
  | .exportName name alias_ p => exact .bind (.exportVariable _ hw.head alias_) fun _ => .pure _
termination_by structural e

theorem meets_evalAll (h : CallsMeet call terms) (es : List Expr) (hw : terms.Allows (Expr.writtenAll es)) :
    (evalAll call f es).Meets terms := by
  match es with
  | [] => exact .pure _
  | e :: rest =>
    exact .bind (meets_eval h e hw.left) fun _ => .bind (meets_evalAll h rest hw.right) fun _ => .pure _
termination_by structural es

theorem meets_evalArguments (h : CallsMeet call terms) (es : List Expr) (hw : terms.Allows (Expr.writtenAll es)) :
    (evalArguments call f es).Meets terms := by
  match es with
  | [] => exact .pure _
  | e :: rest =>
    unfold evalArguments
    split
    · exact .bind (meets_evalAll h rest hw.right) fun _ => .bind (.read _ _) fun _ => .pure _
    · exact .bind (meets_eval h e hw.left) fun _ => .bind (meets_evalAll h rest hw.right) fun _ => .pure _
termination_by structural es

theorem meets_evalText (h : CallsMeet call terms) (es : List Expr) (hw : terms.Allows (Expr.writtenAll es)) :
    (evalText call f es).Meets terms := by
  match es with
  | [] => exact .pure _
  | e :: rest =>
    exact .bind (meets_eval h e hw.left) fun _ => .bind (meets_evalText h rest hw.right) fun _ => .pure _
termination_by structural es

theorem meets_evalBody (h : CallsMeet call terms) (es : List Expr) (hw : terms.Allows (Expr.writtenAll es)) :
    (evalBody call f es).Meets terms := by
  match es with
  | [] => exact .pure _
  | [e] => exact meets_eval h e hw.left
  | e :: e' :: rest => exact .bind (meets_eval h e hw.left) fun _ => meets_evalBody h (e' :: rest) hw.right
termination_by structural es

theorem meets_evalLinks (h : CallsMeet call terms) (ls : List Link) (hw : terms.Allows (Link.writtenAll ls)) :
    (evalLinks call f ls).Meets terms := by
  match ls with
  | [] => exact .pure _
  | l :: rest =>
    exact .bind (meets_evalLink h l hw.left) fun _ => .bind (meets_evalLinks h rest hw.right) fun _ => .pure _
termination_by structural ls

theorem meets_evalLink (h : CallsMeet call terms) (l : Link) (hw : terms.Allows l.written) :
    (evalLink call f l).Meets terms := by
  match l with
  | .property name safe p => exact .pure _
  | .method name arguments safe p => exact .bind (meets_evalAll h arguments hw) fun _ => .pure _
  | .index key safe p => exact .bind (meets_eval h key hw) fun _ => .pure _
termination_by structural l

theorem meets_evalCases (h : CallsMeet call terms) (kind : CaseKind) (subject : Value) (cs : List Case)
    (hw : terms.Allows (Case.writtenAll cs)) : (evalCases call f kind subject cs).Meets terms := by
  match cs with
  | [] => exact .pure _
  | c :: rest =>
    refine .bind (meets_evalCase h kind subject c hw.left) fun found => ?_
    split
    · exact .pure _
    · exact meets_evalCases h kind subject rest hw.right
termination_by structural cs

theorem meets_evalCase (h : CallsMeet call terms) (kind : CaseKind) (subject : Value) (c : Case)
    (hw : terms.Allows c.written) : (evalCase call f kind subject c).Meets terms := by
  match c with
  | .mk values condition body =>
    refine .bind (meets_evalAll h values hw.left) fun vs => ?_
    split
    · refine .bind (meets_evalGuard h condition hw.right.left) fun holds => ?_
      split
      · exact .bind (meets_eval h body hw.right.right) fun _ => .pure _
      · exact .pure _
    · exact .pure _
termination_by structural c

theorem meets_evalGuard (h : CallsMeet call terms) (condition : Option Expr)
    (hw : terms.Allows (Expr.writtenIfAny condition)) : (evalGuard call f condition).Meets terms := by
  match condition with
  | none => exact .pure _
  | some e => exact .bind (meets_eval h e hw) fun v => meets_truth f _ v
termination_by structural condition

end

end Expressions

theorem fault_escaping (callee : Callee) (e : ScriptError) (l : Location) :
    (escaping callee e l).fault = e.fault := by
  unfold escaping
  split <;> rfl

theorem meets_conclude (callee : Callee) (l : Location) {outcome : Except Signal Value}
    (hended : EndsSoundly outcome) : (conclude callee l outcome).Meets terms := by
  unfold conclude
  split
  · exact .pure _
  · exact .pure _
  · exact .pure _
  · exact .pure _
  · refine .throw ?_
    rwa [Signal.Sound, fault_escaping]
  · exact .throw trivial
  · exact .throw trivial

/-- Functions may write what they want, since they see none of the variables of their callers. -/
theorem callsMeet_callAt (hasks : ∀ q, terms.asks q) (depth : Nat) : CallsMeet (callAt depth) terms := by
  refine ⟨?_, hasks⟩
  induction depth generalizing terms with
  | zero => exact fun _ _ _ _ _ => .raise (by trivial) _
  | succ depth ih =>
    intro f callee self arguments l s
    have hfree : CallsMeet (callAt depth) (Contract.asking fun _ => True) := ⟨ih fun _ => trivial, fun _ => trivial⟩
    have hbody := meets_evalBody (f.enter callee.home) hfree callee.function.body fun _ _ => trivial
    refine Run.Meets.attempt_bind hbody (fun q _ => hasks q) fun outcome inner hended _ => ?_
    have hconclude : (conclude callee l outcome >>= fun v => pure (v, inner.self)).Meets terms :=
      .bind (meets_conclude callee l hended) fun _ => .pure _
    exact hconclude { inner with scope := s.scope, self := s.self, constants := s.constants, level := s.level }

/-- Code that does not write a name leaves the variables of the name, whatever it calls and asks. -/
theorem meets_sparing {name : String} (depth : Nat) (f : Frame) {body : List Expr} (h : name ∉ Expr.writtenAll body) :
    (evalBody (callAt depth) f body).Meets (.sparing name) :=
  meets_evalBody f (callsMeet_callAt (fun _ => trivial) depth) body fun _ hother heq => h (heq ▸ hother)

end Evaluate

end PlaceholderScripts.Script
