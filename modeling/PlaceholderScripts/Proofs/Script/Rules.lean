import PlaceholderScripts.Script.Evaluate

/-!
# Rules of evaluation

How parts of a script come to an outcome that does not ask the host: one rule for each kind of expression, from
the outcomes of its parts, one for a loop whose rounds lead from state to state, and one for a function, whose
variables are gone when it is left.
-/

namespace PlaceholderScripts.Script

namespace Run

variable {α β : Type} {r : Run α} {k : α → Run β} {a : α} {e : Signal} {s s₁ s' : State}

/-- From the first state the run comes to the outcome and to the second state, and the host is not asked. -/
def Ends (r : Run α) (s : State) (outcome : Except Signal α) (s' : State) : Prop :=
  r.run.run s = .done (outcome, s')

theorem ends_pure (a : α) (s : State) : Ends (pure a) s (.ok a) s := rfl

theorem Ends.bind {outcome : Except Signal β} (h : r.Ends s (.ok a) s₁) (hk : (k a).Ends s₁ outcome s') :
    (r >>= k).Ends s outcome s' := by
  rw [Ends, ExceptT.run_bind, StateT.run_bind, h]
  exact hk

theorem Ends.bind_error (h : r.Ends s (.error e) s') : (r >>= k).Ends s (.error e) s' := by
  rw [Ends, ExceptT.run_bind, StateT.run_bind, h]
  rfl

theorem Ends.attempt {outcome : Except Signal α} (h : r.Ends s outcome s') :
    (Run.attempt r).Ends s (.ok outcome) s' := by
  rw [Ends, Run.attempt, ExceptT.run_lift, StateT.run_map, h]
  rfl

theorem ends_conclude (outcome : Except Signal α) (s : State) : (conclude outcome).Ends s outcome s := by
  cases outcome <;> rfl

theorem ends_get (s : State) : (get : Run State).Ends s (.ok s) s := rfl

theorem ends_set (s s' : State) : (set s' : Run Unit).Ends s (.ok ()) s' := rfl

theorem ends_modify (change : State → State) (s : State) :
    (modify change : Run Unit).Ends s (.ok ()) (change s) := rfl

/-- Code in a block, whose variables are forgotten. -/
theorem Ends.enclosed_drop {outcome : Except Signal α} (s : State) (scope : List Variable)
    (h : r.Ends { s with level := s.level + 1 } outcome s')
    (hscope : s'.scope.drop (s'.scope.length - s.scope.length) = scope) :
    (Run.enclosed r).Ends s outcome { s' with scope, level := s.level } := by
  have hmodify := ends_modify
    (fun inner => { inner with scope := inner.scope.drop (inner.scope.length - s.scope.length), level := s.level }) s'
  rw [hscope] at hmodify
  exact (ends_get s).bind ((ends_set _ _).bind (h.attempt.bind (hmodify.bind (ends_conclude _ _))))

/-- Code in a block that declares no variables. -/
theorem Ends.enclosed {outcome : Except Signal α} (s : State) (h : r.Ends { s with level := s.level + 1 } outcome s')
    (hscope : s'.scope.length = s.scope.length) :
    (Run.enclosed r).Ends s outcome { s' with level := s.level } :=
  Ends.enclosed_drop s s'.scope h (by rw [hscope, Nat.sub_self, List.drop_zero])

theorem ends_read {name : String} {x : Variable} (h : s.scope.find? (fun x => x.name = name) = some x)
    (l : Location) : (read name l).Ends s (.ok (contents s.cells x.value)) s := by
  have hlookup : (lookup name l).Ends s (.ok x) s := by
    refine ((ends_get s).bind (ends_pure _ _)).bind ?_
    rw [h]
    exact ends_pure _ _
  exact hlookup.bind ((ends_get s).bind (ends_pure _ _))

theorem ends_round {body : Run Value} {v : Value} (h : body.Ends s (.ok v) s') :
    (round body).Ends s (.ok none) s' := h.attempt.bind (ends_pure _ _)

/-- Rounds that lead from one state to the next, up to the one in which the check fails. -/
theorem ends_repeatWhile {check : Run Bool} {body : Run Value} {states : Nat → State} {count rounds : Nat}
    (hcount : count < rounds) (hgoes : ∀ i < count, check.Ends (states i) (.ok true) (states i))
    (hbody : ∀ i < count, ∃ v, body.Ends (states i) (.ok v) (states (i + 1)))
    (hstops : check.Ends (states count) (.ok false) (states count)) :
    (repeatWhile check body rounds).Ends (states 0) (.ok .unit) (states count) := by
  induction count generalizing states rounds with
  | zero =>
    obtain ⟨rounds, rfl⟩ : ∃ more, rounds = more + 1 := ⟨rounds - 1, by omega⟩
    exact hstops.bind (ends_pure _ _)
  | succ count ih =>
    obtain ⟨rounds, rfl⟩ : ∃ more, rounds = more + 1 := ⟨rounds - 1, by omega⟩
    obtain ⟨v, hfirst⟩ := hbody 0 (Nat.succ_pos count)
    have hrest := @ih (fun i => states (i + 1)) rounds (by omega)
      (fun i hi => hgoes (i + 1) (by omega)) (fun i hi => hbody (i + 1) (by omega)) hstops
    exact (hgoes 0 (Nat.succ_pos count)).bind ((ends_round hfirst).bind hrest)

theorem ends_forItems {each : Value → Nat → Run Value} {items : List Value} {states : Nat → State} (n : Nat)
    (h : ∀ (i : Nat) (hi : i < items.length), ∃ v, (each items[i] (n + i)).Ends (states i) (.ok v) (states (i + 1))) :
    (forItems each items n).Ends (states 0) (.ok .unit) (states items.length) := by
  induction items generalizing n states with
  | nil => exact ends_pure _ _
  | cons item items ih =>
    obtain ⟨v, hfirst⟩ := h 0 (Nat.succ_pos _)
    refine (ends_round hfirst).bind (@ih (fun i => states (i + 1)) (n + 1) fun i hi => ?_)
    have hnumber : n + 1 + i = n + (i + 1) := by omega
    rw [hnumber]
    exact h (i + 1) (Nat.succ_lt_succ hi)

end Run

namespace Evaluate

open Run

variable {call : Caller} {f : Frame} {s s₁ s₂ s' : State} {p q : Position}

section Expressions

theorem ends_literal (v : Literal) : (eval call f (.literal v p)).Ends s (.ok (.ofLiteral v)) s := by
  rw [eval]
  exact ends_pure _ _

theorem ends_variable {name : String} {x : Variable} {v : Value}
    (h : s.scope.find? (fun x => x.name = name) = some x) (hv : contents s.cells x.value = v) :
    (eval call f (.variable name p)).Ends s (.ok v) s := by
  rw [eval, ← hv]
  exact ends_read h _

theorem ends_evalAll_nil : (evalAll call f []).Ends s (.ok []) s := by
  rw [evalAll]
  exact ends_pure _ _

theorem ends_evalAll_cons {e : Expr} {es : List Expr} {v : Value} {vs : List Value}
    (h : (eval call f e).Ends s (.ok v) s₁) (hrest : (evalAll call f es).Ends s₁ (.ok vs) s') :
    (evalAll call f (e :: es)).Ends s (.ok (v :: vs)) s' := by
  rw [evalAll]
  exact h.bind (hrest.bind (ends_pure _ _))

/-- Operators cannot be defined by scripts. -/
theorem eval_operator {name : String} {arguments : List Expr} (h : operators.contains name = true) :
    eval call f (.call name arguments p) = do
      return (← callNative f name (← evalAll call f arguments) p).value := by
  rw [eval, if_pos h]

theorem ends_operator {name : String} {arguments : List Expr} {vs : List Value} {u : Value}
    (h : operators.contains name = true) (harguments : (evalAll call f arguments).Ends s (.ok vs) s')
    (hcall : Builtin.call name vs = some (.ok { value := u })) :
    (eval call f (.call name arguments p)).Ends s (.ok u) s' := by
  rw [eval_operator h]
  refine harguments.bind ?_
  rw [callNative, hcall]
  exact ends_pure _ _

theorem ends_binary {name : String} {left right : Expr} (v w : Value) {u : Value}
    (h : operators.contains name = true) (hleft : (eval call f left).Ends s (.ok v) s₁)
    (hright : (eval call f right).Ends s₁ (.ok w) s')
    (hcall : Builtin.call name [v, w] = some (.ok { value := u })) :
    (eval call f (.call name [left, right] p)).Ends s (.ok u) s' :=
  ends_operator h (ends_evalAll_cons hleft (ends_evalAll_cons hright ends_evalAll_nil)) hcall

theorem ends_truth (b : Bool) (s : State) : (truth f p (.bool b)).Ends s (.ok b) s := ends_pure _ _

theorem ends_and_of_false {left right : Expr} (h : (eval call f left).Ends s (.ok (.bool false)) s') :
    (eval call f (.and left right p)).Ends s (.ok (.bool false)) s' := by
  rw [eval]
  exact h.bind ((ends_truth _ _).bind (ends_pure _ _))

theorem ends_and_of_true {left right : Expr} {b : Bool}
    (h : (eval call f left).Ends s (.ok (.bool true)) s₁)
    (hright : (eval call f right).Ends s₁ (.ok (.bool b)) s') :
    (eval call f (.and left right p)).Ends s (.ok (.bool b)) s' := by
  rw [eval]
  exact h.bind ((ends_truth _ _).bind (hright.bind ((ends_truth _ _).bind (ends_pure _ _))))

/-- A built-in function is called where neither the value nor the script has one of the name. -/
theorem callMethod_builtin {name : String} {v : Value} {vs : List Value} {outcome : Builtin.Outcome}
    (hname : name ≠ "call" ∧ name ≠ "curry") (hmap : methodIn? name v = none)
    (hown : f.callee? name vs.length = none) (hhigher : callHigherOrder? call f name (v :: vs) q = none)
    (hcall : Builtin.call name (v :: vs) = some (.ok outcome)) :
    callMethod call f v name vs q = pure outcome := by
  have hnative : callBuiltin call f name (v :: vs) q = pure outcome := by
    rw [callBuiltin, hhigher]
    simp only [callNative, hcall]
    rfl
  unfold callMethod
  split
  · exact absurd rfl hname.1
  · exact absurd rfl hname.1
  · exact absurd rfl hname.2
  · simp only [hmap, hown, hnative]

theorem ends_evalLinks_method {name : String} {arguments : List Expr} {vs : List Value}
    (h : (evalAll call f arguments).Ends s (.ok vs) s') :
    (evalLinks call f [.method name arguments false q]).Ends s (.ok [.method name vs false q]) s' := by
  have hlink : (evalLink call f (.method name arguments false q)).Ends s (.ok (.method name vs false q)) s' := by
    rw [evalLink]
    exact h.bind (ends_pure _ _)
  rw [evalLinks, evalLinks]
  exact hlink.bind ((ends_pure _ _).bind (ends_pure _ _))

theorem ends_follow_method {name : String} {vs : List Value} {v w : Value}
    (h : callMethod call f v name vs q = pure { value := w }) :
    (follow call f [.method name vs false q] v).Ends s (.ok (w, none)) s := by
  have hend : (follow call f [] w).Ends s (.ok (w, none)) s := by
    rw [follow]
    exact ends_pure _ _
  have hgoes : stops false v = false := rfl
  rw [follow, h, hgoes, if_neg Bool.false_ne_true]
  exact (ends_pure _ _).bind (hend.bind (ends_pure _ _))

theorem ends_method_variable {name x : String} {arguments : List Expr} {vs : List Value} {w : Value}
    {y : Variable} {r : Position} (harguments : (evalAll call f arguments).Ends s (.ok vs) s')
    (hread : s'.scope.find? (fun y => y.name = x) = some y)
    (h : callMethod call f (contents s'.cells y.value) name vs q = pure { value := w }) :
    (eval call f (.chain (.variable x p) [.method name arguments false q] r)).Ends s (.ok w) s' := by
  rw [eval]
  refine (ends_evalLinks_method harguments).bind ?_
  exact (ends_read hread _).bind ((ends_follow_method h).bind ((ends_pure _ _).bind (ends_pure _ _)))

/-- The method of what a call gives, whose arguments come before the call. -/
theorem ends_method_call {name g : String} {arguments others : List Expr} {vs : List Value} {v w : Value}
    {r : Position} (harguments : (evalAll call f arguments).Ends s (.ok vs) s₁)
    (hcall : (eval call f (.call g others p)).Ends s₁ (.ok v) s')
    (h : callMethod call f v name vs q = pure { value := w }) :
    (eval call f (.chain (.call g others p) [.method name arguments false q] r)).Ends s (.ok w) s' := by
  rw [eval]
  refine (ends_evalLinks_method harguments).bind ?_
  exact hcall.bind ((ends_follow_method h).bind (ends_pure _ _))

end Expressions

section Statements

theorem ends_evalBody_cons {e : Expr} {es : List Expr} {v : Value} {outcome : Except Signal Value}
    (h : (eval call f e).Ends s (.ok v) s₁) (hrest : (evalBody call f es).Ends s₁ outcome s') (hne : es ≠ []) :
    (evalBody call f (e :: es)).Ends s outcome s' := by
  obtain ⟨e', es, rfl⟩ := List.exists_cons_of_ne_nil hne
  rw [evalBody]
  · exact h.bind hrest
  · simp

theorem ends_evalBody_error {e : Expr} {es : List Expr} {signal : Signal}
    (h : (eval call f e).Ends s (.error signal) s') :
    (evalBody call f (e :: es)).Ends s (.error signal) s' := by
  cases es with
  | nil =>
    rw [evalBody]
    exact h
  | cons e' es =>
    rw [evalBody]
    · exact h.bind_error
    · simp

/-- A branch is a block. Both come to the same where the outcome and the state do not depend on the condition. -/
theorem ends_ifElse {condition : Expr} {yes no : List Expr} {P : Prop} [Decidable P]
    {outcome : Except Signal Value} (s' : State)
    (h : (eval call f condition).Ends s (.ok (.bool (decide P))) s)
    (hyes : P → (evalBody call f yes).Ends { s with level := s.level + 1 } outcome { s' with level := s.level + 1 })
    (hno : ¬ P → (evalBody call f no).Ends { s with level := s.level + 1 } outcome { s' with level := s.level + 1 })
    (hscope : s'.scope.length = s.scope.length) (hlevel : s'.level = s.level) :
    (eval call f (.ifElse condition yes no p)).Ends s outcome s' := by
  have hleft {body : List Expr} (hbody : (evalBody call f body).Ends { s with level := s.level + 1 } outcome
      { s' with level := s.level + 1 }) : (Run.enclosed (evalBody call f body)).Ends s outcome s' := by
    have hend := Run.Ends.enclosed s hbody hscope
    rwa [← hlevel] at hend
  rw [eval]
  refine h.bind ((ends_truth _ _).bind ?_)
  by_cases hP : P
  · rw [decide_eq_true hP]
    exact hleft (hyes hP)
  · rw [decide_eq_false hP]
    exact hleft (hno hP)

theorem ends_declare {name : String} {value : Expr} {v : Value}
    (h : (eval call f value).Ends s (.ok v) s') :
    (eval call f (.declare name false false value p)).Ends s (.ok .unit)
      { s' with scope := { name, value := v } :: s'.scope } := by
  rw [eval]
  exact h.bind ((ends_modify _ _).bind (ends_pure _ _))

theorem ends_returnValue {value : Expr} {v : Value} (h : (eval call f value).Ends s (.ok v) s') :
    (eval call f (.returnValue value p)).Ends s (.error (.returned v)) s' := by
  rw [eval]
  exact h.bind rfl

/-- An assignment to a variable that is no constant and not shared. -/
theorem ends_assign {x : String} {value : Expr} {operation : Option OperatorName} (s' : State) (y : Variable)
    (new v : Value) (h : (eval call f value).Ends s (.ok new) s')
    (hread : s'.scope.find? (fun y => y.name = x) = some y) (hvariable : y.constant = false)
    (hunshared : ∀ id, y.value ≠ .cell id) (hcombine : combine f operation y.value new p = pure v) :
    (eval call f (.assign (.variable x q) operation value p)).Ends s (.ok .unit)
      { s' with scope := changeIn x (fun y => { y with value := v }) s'.scope } := by
  have hcontents : contents s'.cells y.value = y.value := by
    cases hvalue : y.value with
    | cell id => exact absurd hvalue (hunshared id)
    | _ => rfl
  have hold := ends_read hread (f.locate q)
  rw [hcontents] at hold
  have hlookup : (lookup x (f.locate q)).Ends s' (.ok y) s' := by
    refine ((ends_get s').bind (ends_pure _ _)).bind ?_
    rw [hread]
    exact ends_pure _ _
  have hwrite : (write x v).Ends s' (.ok ())
      { s' with scope := changeIn x (fun y => { y with value := v }) s'.scope } := by
    refine (ends_modify _ s').trans ?_
    rw [hread]
    obtain ⟨name, value, constant, exports⟩ := y
    cases value with
    | cell id => exact absurd rfl (hunshared id)
    | _ => rfl
  have hput : (putBack f x q (.constant x) (some v)).Ends s' (.ok ())
      { s' with scope := changeIn x (fun y => { y with value := v }) s'.scope } := by
    refine hlookup.bind ?_
    rw [hvariable]
    exact hwrite
  rw [eval]
  refine h.bind (hold.bind ?_)
  rw [hcombine]
  exact (ends_pure _ _).bind (hput.bind (ends_pure _ _))

theorem ends_whileLoop {condition : Expr} {body : List Expr} {states : Nat → State} {count : Nat}
    (hcount : count < f.rounds)
    (hgoes : ∀ i ≤ count, (eval call f condition).Ends (states i) (.ok (.bool (decide (i < count)))) (states i))
    (hbody : ∀ i < count, ∃ v,
      (Run.enclosed (evalBody call f body)).Ends (states i) (.ok v) (states (i + 1))) :
    (eval call f (.whileLoop false false condition body p)).Ends (states 0) (.ok .unit) (states count) := by
  have hcheck (i : Nat) (hi : i ≤ count) : Ends (do
      return (← truth f condition.position (← eval call f condition)) != false) (states i)
      (.ok (decide (i < count))) (states i) := by
    rw [← Bool.bne_false (decide (i < count))]
    exact (hgoes i hi).bind ((ends_truth _ _).bind (ends_pure _ _))
  rw [eval]
  refine ends_repeatWhile hcount ?_ hbody ?_
  · intro i hi
    have hgo := hcheck i (Nat.le_of_lt hi)
    rwa [decide_eq_true hi] at hgo
  · have hstop := hcheck count (Nat.le_refl count)
    rwa [decide_eq_false (Nat.lt_irrefl count)] at hstop

/-- A loop over the items of a list whose rounds lead from one state to the next. The item is a variable of its
round. -/
theorem ends_forLoop {name : String} {range : Expr} {body : List Expr} {items : List Value} {states : Nat → State}
    (hrange : (eval call f range).Ends (states 0) (.ok (.list items)) (states 0))
    (hbody : ∀ (i : Nat) (hi : i < items.length), ∃ v, ∃ inner : State,
      (evalBody call f body).Ends
        { states i with
          scope := { name, value := items[i] } :: (states i).scope
          level := (states i).level + 1 } (.ok v) inner ∧
      inner.scope.drop (inner.scope.length - (states i).scope.length) = (states (i + 1)).scope ∧
      { inner with scope := (states (i + 1)).scope, level := (states i).level } = states (i + 1)) :
    (eval call f (.forLoop name none range body p)).Ends (states 0) (.ok .unit) (states items.length) := by
  rw [eval]
  refine hrange.bind (ends_forItems 0 fun i hi => ?_)
  obtain ⟨v, inner, hinner, hscope, hnext⟩ := hbody i hi
  refine ⟨v, hnext ▸ Ends.enclosed_drop (states i) _ ?_ hscope⟩
  exact (ends_modify _ _).bind hinner

end Statements

/-- A function is run with its parameters for its only variables. Only what it changed in shared variables is
left. -/
theorem ends_callAt {depth : Nat} {callee : Callee} {arguments : List Value} {l : Location}
    {outcome : Except Signal Value} {inner : State}
    (h : (evalBody (callAt depth) (f.enter callee.home) callee.function.body).Ends
      { s with
        scope := parameterScope callee.function.parameters arguments
        self := none
        constants := (callee.home.bind f.module?).elim s.constants Module.constants
        level := s.level + 1 } outcome inner) {final : Except Signal Value}
    (hfinal : (conclude callee l outcome).Ends { s with cells := inner.cells } final { s with cells := inner.cells }) :
    (callAt (depth + 1) f callee none arguments l).Ends s (final.map fun v => (v, inner.self))
      { s with cells := inner.cells } := by
  rw [callAt]
  refine (ends_get s).bind ((ends_set s _).bind (h.attempt.bind ((ends_get inner).bind ((ends_set _ _).bind ?_))))
  cases final with
  | ok v => exact hfinal.bind (ends_pure _ _)
  | error e => exact hfinal.bind_error

section Modules

variable {m : Module} {name : String}

theorem enter_of_module? (hmodule : f.module? m.name = some m) :
    f.enter (some m.name) = { f with home := some m.name, units := ⟨some m.name, m.functions⟩ :: f.units } := by
  rw [Frame.enter, Option.bind_some, hmodule]

/-- Code of a module reaches a function of its caller where the module has none of the name. -/
theorem callee?_enter {count : Nat} (hmodule : f.module? m.name = some m)
    (hnone : Frame.functionIn name count m.functions = none) :
    (f.enter (some m.name)).callee? name count = f.callee? name count := by
  rw [enter_of_module? hmodule, Frame.callee?, List.findSome?_cons, hnone]
  rfl

/-- The call of a public function of a module comes to what the body of the function comes to. -/
theorem ends_callPath {depth : Nat} {g : Function} {arguments : List Value} {outcome final : Except Signal Value}
    {inner : State} (hmodule : f.module? m.name = some m)
    (hfunction : Frame.functionIn name arguments.length (m.functions.filter (!·.isPrivate)) = some g)
    (h : (evalBody (callAt depth) (f.enter (some m.name)) g.body).Ends
      { s with
        scope := parameterScope g.parameters arguments
        self := none
        constants := m.constants
        level := s.level + 1 } outcome inner)
    (hcells : inner.cells = s.cells)
    (hfinal : (conclude ⟨some m.name, g⟩ (f.locate p) outcome).Ends s final s) :
    (callPath (callAt (depth + 1)) f [m.name] name arguments q p).Ends s final s := by
  have hconstants : ((some m.name).bind f.module?).elim s.constants Module.constants = m.constants := by
    rw [Option.bind_some, hmodule]
    rfl
  have hcallee : pathCallee? m [m.name] name arguments.length = some ⟨some m.name, g⟩ := by
    have hfound := congrArg (Option.map (Callee.mk (some m.name))) hfunction
    exact hfound
  have hcall : (callAt (depth + 1) f ⟨some m.name, g⟩ none arguments (f.locate p)).Ends s
      (final.map fun v => (v, inner.self)) s := by
    have hreturned := @ends_callAt f s depth ⟨some m.name, g⟩ arguments (f.locate p) outcome inner
      (by rw [hconstants]; exact h) final (by rw [hcells]; exact hfinal)
    rwa [hcells] at hreturned
  have hhead : [m.name].head?.bind f.module? = some m := hmodule
  rw [callPath, hhead]
  dsimp only
  rw [hcallee]
  cases final with
  | ok v => exact hcall.bind (ends_pure _ _)
  | error e => exact hcall.bind_error

end Modules

end Evaluate

end PlaceholderScripts.Script
