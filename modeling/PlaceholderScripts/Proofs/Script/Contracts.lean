import PlaceholderScripts.Proofs.Script.Bounds

/-!
# Contracts of runs

A contract says what a run may ask the host, which variables it may write, and from which variables it may lead to
which. A run that meets a contract also ends soundly: an index outside of a list with which it fails is outside of a
list of the length that the error names. What is put together from runs that meet a contract meets it too.
-/

namespace PlaceholderScripts

namespace Dialogue

variable {Ask : Type} {Reply : Ask → Type} {α : Type} {P P' : Ask → Prop} {Q Q' : α → Prop} {d : Dialogue Ask Reply α}

theorem Obeys.imp (h : d.Obeys P Q) (hP : ∀ q, P q → P' q) (hQ : ∀ a, Q a → Q' a) : d.Obeys P' Q' := by
  induction d with
  | done a => exact hQ a h
  | ask q next ih => exact ⟨hP q h.1, fun r => ih r (h.2 r)⟩

theorem Obeys.and_ensures (h : d.Obeys P Q) (h' : d.Ensures Q') : d.Obeys P fun a => Q a ∧ Q' a := by
  induction d with
  | done a => exact ⟨h, h'⟩
  | ask q next ih => exact ⟨h.1, fun r => ih r (h.2 r) (h' r)⟩

theorem Ensures.of_forall (h : ∀ a, Q a) : d.Ensures Q := by
  induction d with
  | done a => exact h a
  | ask q next ih => exact fun r => ih r

theorem Ensures.obeys (h : d.Ensures Q) (hP : ∀ q, P q) : d.Obeys P Q := by
  induction d with
  | done a => exact h
  | ask q next ih => exact ⟨hP q, fun r => ih r (h r)⟩

end Dialogue

namespace Script

/-- If the signal is an error, then its fault is sound. -/
def Signal.Sound : Signal → Prop
  | .error e => e.fault.Sound
  | _ => True

def EndsSoundly {α : Type} : Except Signal α → Prop
  | .ok _ => True
  | .error signal => signal.Sound

structure Contract where
  /-- What the host may be asked. -/
  asks : HostCall → Prop
  /-- The names of the variables that may be written. -/
  writable : String → Prop
  /-- From which variables a run may lead to which. -/
  moves : List Variable → List Variable → Prop
  refl : ∀ scope, moves scope scope
  trans : ∀ {a b c}, moves a b → moves b c → moves a c
  declares : ∀ v scope, writable v.name → moves scope (v :: scope)
  changes : ∀ {name} {change : Variable → Variable} scope, writable name → (∀ v, (change v).name = v.name) →
    moves scope (Run.changeIn name change scope)
  /-- The variables that were declared since are forgotten. -/
  leaves : ∀ {outer inner}, moves outer inner → moves outer (inner.drop (inner.length - outer.length))

/-- Only what is asked matters. -/
def Contract.asking (asks : HostCall → Prop) : Contract where
  asks
  writable _ := True
  moves _ _ := True
  refl _ := trivial
  trans _ _ := trivial
  declares _ _ _ := trivial
  changes _ _ _ := trivial
  leaves _ := trivial

section Sparing

variable {x : String} {before after later : List Variable}

/-- What matters of a variable to one who reads the variables of a name. -/
def Variable.seenBy (x : String) (v : Variable) : String × Option Value :=
  (v.name, if v.name = x then some v.value else none)

/-- The variables of the name are still there with their values, and no new one hides them. -/
def Spares (x : String) (before after : List Variable) : Prop :=
  ∃ new, after.map (Variable.seenBy x) = new ++ before.map (Variable.seenBy x) ∧ ∀ e ∈ new, e.1 ≠ x

theorem Spares.refl (x : String) (scope : List Variable) : Spares x scope scope := ⟨[], rfl, nofun⟩

theorem Spares.trans (h : Spares x before after) (h' : Spares x after later) : Spares x before later := by
  obtain ⟨new, hafter, hnew⟩ := h
  obtain ⟨newer, hlater, hnewer⟩ := h'
  refine ⟨newer ++ new, by rw [hlater, hafter, List.append_assoc], fun e he => ?_⟩
  cases List.mem_append.mp he with
  | inl he => exact hnewer e he
  | inr he => exact hnew e he

theorem spares_declare {v : Variable} (h : v.name ≠ x) (scope : List Variable) : Spares x scope (v :: scope) :=
  ⟨[v.seenBy x], rfl, fun _ he => List.mem_singleton.mp he ▸ h⟩

theorem spares_changeIn {name : String} {change : Variable → Variable} (h : name ≠ x)
    (hchange : ∀ v, (change v).name = v.name) (scope : List Variable) :
    Spares x scope (Run.changeIn name change scope) := by
  refine ⟨[], ?_, nofun⟩
  induction scope with
  | nil => rfl
  | cons v rest ih =>
    rw [Run.changeIn]
    split
    · next hv =>
      have hseen : (change v).seenBy x = v.seenBy x := by
        have hname : v.name ≠ x := hv ▸ h
        rw [Variable.seenBy, Variable.seenBy, hchange v, if_neg hname, if_neg hname]
      rw [List.map_cons, hseen]
      rfl
    · exact congrArg (v.seenBy x :: ·) ih

theorem Spares.drop (h : Spares x before after) :
    Spares x before (after.drop (after.length - before.length)) := by
  obtain ⟨new, hafter, -⟩ := h
  have hlength : after.length - before.length = new.length := by
    have hlengths := congrArg List.length hafter
    simp only [List.length_map, List.length_append] at hlengths
    omega
  refine ⟨[], ?_, nofun⟩
  rw [List.map_drop, hafter, hlength, List.drop_left, List.nil_append]

theorem find?_seenBy (x : String) (scope : List Variable) :
    (scope.find? fun v => v.name = x).map Variable.value =
      ((scope.map (Variable.seenBy x)).find? fun e => e.1 = x).bind Prod.snd := by
  induction scope with
  | nil => rfl
  | cons v rest ih =>
    by_cases hv : v.name = x
    · simp [Variable.seenBy, hv]
    · simpa [Variable.seenBy, hv] using ih

theorem Spares.find? (h : Spares x before after) :
    (after.find? fun v => v.name = x).map Variable.value = (before.find? fun v => v.name = x).map Variable.value := by
  obtain ⟨new, hafter, hnew⟩ := h
  have hnone : (new.find? fun e => e.1 = x) = none := by
    rw [List.find?_eq_none]
    simpa using hnew
  rw [find?_seenBy, find?_seenBy, hafter, List.find?_append, hnone, Option.none_or]

/-- Everything may be asked, and all variables but those of the name may be written. -/
def Contract.sparing (x : String) : Contract where
  asks _ := True
  writable name := name ≠ x
  moves := Spares x
  refl := Spares.refl x
  trans := Spares.trans
  declares _ scope h := spares_declare h scope
  changes scope h hchange := spares_changeIn h hchange scope
  leaves := Spares.drop

end Sparing
namespace Run

variable {α β : Type}

/-- Whatever the host replies, the run keeps to the terms and ends soundly. -/
def Meets (r : Run α) (terms : Contract) : Prop :=
  ∀ s, (r.run.run s).Obeys terms.asks fun p => EndsSoundly p.1 ∧ terms.moves s.scope p.2.scope

def Gives (r : Run α) (P : α → Prop) : Prop := ∀ s, (r.run.run s).Ensures fun p => ∀ a, p.1 = .ok a → P a

namespace Gives

variable {P : α → Prop} {Q : β → Prop} {r : Run α}

theorem pure {a : α} (h : P a) : Gives (pure a) P := by
  rintro s _ ⟨⟩
  exact h

theorem any (r : Run α) : r.Gives fun _ => True :=
  fun _ => Dialogue.Ensures.of_forall fun _ _ _ => trivial

theorem bind {k : α → Run β} (h : r.Gives P) (hk : ∀ a, P a → (k a).Gives Q) : (r >>= k).Gives Q := by
  intro s
  refine (h s).bind ?_
  rintro ⟨result, s'⟩ hgiven
  cases result with
  | ok a => exact hk a (hgiven a rfl) s'
  | error signal => exact fun _ => nofun

theorem raise (fault : Fault) (l : Location) : Gives (raise fault l : Run α) P := fun _ _ => nofun

end Gives

namespace Meets

variable {terms : Contract} {r : Run α}

theorem pure (a : α) : Meets (pure a) terms := fun _ => ⟨trivial, terms.refl _⟩

theorem throw {signal : Signal} (h : signal.Sound) : Meets (throw signal : Run α) terms :=
  fun _ => ⟨h, terms.refl _⟩

theorem bind_gives {P : α → Prop} {k : α → Run β} (h : r.Meets terms) (hgives : r.Gives P)
    (hk : ∀ a, P a → (k a).Meets terms) : (r >>= k).Meets terms := by
  intro s
  refine ((h s).and_ensures (hgives s)).bind ?_
  rintro ⟨result, s'⟩ ⟨⟨hresult, hmoves⟩, hgiven⟩
  cases result with
  | ok a => exact (hk a (hgiven a rfl) s').imp (fun _ => id) fun _ hp => ⟨hp.1, terms.trans hmoves hp.2⟩
  | error signal => exact ⟨hresult, hmoves⟩

theorem bind {k : α → Run β} (h : r.Meets terms) (hk : ∀ a, (k a).Meets terms) : (r >>= k).Meets terms := by
  intro s
  refine (h s).bind ?_
  rintro ⟨result, s'⟩ ⟨hresult, hmoves⟩
  cases result with
  | ok a => exact (hk a s').imp (fun _ => id) fun _ hp => ⟨hp.1, terms.trans hmoves hp.2⟩
  | error signal => exact ⟨hresult, hmoves⟩

theorem map (h : r.Meets terms) (f : α → β) : (f <$> r).Meets terms := by
  rw [← bind_pure_comp]
  exact h.bind fun a => .pure (f a)

/-- Code that is attempted keeps to terms of its own, and what follows it knows how it ended. -/
theorem attempt_bind {inner : Contract} (h : r.Meets inner) (hasks : ∀ q, inner.asks q → terms.asks q)
    {k : Except Signal α → Run β} {s : State} {Q : Except Signal β × State → Prop}
    (hk : ∀ outcome s', EndsSoundly outcome → inner.moves s.scope s'.scope →
      ((k outcome).run.run s').Obeys terms.asks Q) :
    ((attempt r >>= k).run.run s).Obeys terms.asks Q := by
  refine Dialogue.Obeys.bind (P := terms.asks)
    (Q := fun p => ∃ outcome, p.1 = .ok outcome ∧ EndsSoundly outcome ∧ inner.moves s.scope p.2.scope) ?_ ?_
  · refine ((h s).imp hasks fun _ => id).bind ?_
    rintro ⟨outcome, s'⟩ hended
    exact ⟨outcome, rfl, hended⟩
  · rintro ⟨_, s'⟩ ⟨outcome, rfl, hsound, hmoves⟩
    exact hk outcome s' hsound hmoves

theorem bind_attempt {k : Except Signal α → Run β} (h : r.Meets terms)
    (hk : ∀ outcome, EndsSoundly outcome → (k outcome).Meets terms) : (attempt r >>= k).Meets terms :=
  fun _ => attempt_bind h (fun _ => id) fun outcome s' hsound hmoves =>
    (hk outcome hsound s').imp (fun _ => id) fun _ hp => ⟨hp.1, terms.trans hmoves hp.2⟩

theorem bind_host {d : Hosted α} {P : α → Prop} {k : α → Run β} (h : d.Obeys terms.asks P)
    (hk : ∀ a, P a → (k a).Meets terms) : (host d >>= k).Meets terms := by
  intro s
  refine Dialogue.Obeys.bind (P := terms.asks) (Q := fun p => ∃ a, p = (.ok a, s) ∧ P a) ?_ ?_
  · have hlifted : ((StateT.lift d : StateT State Hosted α).run s).Obeys terms.asks
        fun p => p.2 = s ∧ P p.1 := h.bind fun a ha => ⟨rfl, ha⟩
    refine hlifted.bind ?_
    rintro ⟨a, _⟩ ⟨rfl, ha⟩
    exact ⟨a, rfl, ha⟩
  · rintro _ ⟨a, rfl, ha⟩
    exact hk a ha s

theorem get : Meets get terms := fun _ => ⟨trivial, terms.refl _⟩

theorem modify {change : State → State} (h : ∀ s, terms.moves s.scope (change s).scope) :
    Meets (modify change) terms := fun s => ⟨trivial, h s⟩

theorem raise {fault : Fault} (h : fault.Sound) (l : Location) : Meets (raise fault l : Run α) terms :=
  .throw h

theorem conclude {outcome : Except Signal α} (h : EndsSoundly outcome) : (conclude outcome).Meets terms := by
  cases outcome with
  | ok a => exact .pure a
  | error signal => exact .throw h

theorem located {result : Except Fault α} (h : FailsSoundly result) (l : Location) :
    (located l result).Meets terms := by
  cases result with
  | ok a => exact .pure a
  | error fault => exact .raise (FailsSoundly.error_iff.mp h) l

theorem enclosed (h : r.Meets terms) : (enclosed r).Meets terms := by
  intro s
  change ((attempt r >>= _).run.run { s with level := s.level + 1 }).Obeys _ _
  refine attempt_bind h (fun _ => id) fun outcome s' hsound hmoves => ?_
  cases outcome with
  | ok a => exact ⟨trivial, terms.leaves hmoves⟩
  | error signal => exact ⟨hsound, terms.leaves hmoves⟩

theorem mapM {f : α → Run β} {l : List α} (h : ∀ a ∈ l, (f a).Meets terms) : (l.mapM f).Meets terms := by
  induction l with
  | nil => exact .pure []
  | cons a l ih =>
    rw [List.mapM_cons]
    exact .bind (h a List.mem_cons_self) fun b =>
      .bind (ih fun a ha => h a (List.mem_cons_of_mem _ ha)) fun bs => .pure (b :: bs)

section Variables

variable (name : String) (l : Location)

theorem lookup? : (lookup? name).Meets terms := .bind .get fun _ => .pure _

theorem lookup : (lookup name l).Meets terms := by
  refine .bind (.lookup? name) fun found => ?_
  cases found with
  | some v => exact .pure v
  | none => exact .raise (by trivial) l

theorem read : (read name l).Meets terms := .bind (.lookup name l) fun _ => .bind .get fun _ => .pure _

theorem declare {v : Variable} (h : terms.writable v.name) : (declare v).Meets terms :=
  .modify fun s => terms.declares v s.scope h

variable {name} (h : terms.writable name)
include h

theorem write (v : Value) : (write name v).Meets terms := by
  refine .modify fun s => ?_
  split
  · exact terms.refl _
  · exact terms.changes _ h fun _ => rfl

theorem share : (share name l).Meets terms := by
  refine .bind (.lookup name l) fun v => ?_
  cases v.value
  case cell id => exact .pure _
  all_goals exact .bind .get fun _ => .bind (.modify fun _ => terms.changes _ h fun _ => rfl) fun _ => .pure _

theorem exportVariable (alias_ : String) : (exportVariable name alias_ l).Meets terms :=
  .bind (.lookup name l) fun _ => .modify fun _ => terms.changes _ h fun _ => rfl

end Variables

section Loops

variable {body : Run Value} {check : Run Bool}

theorem round (h : body.Meets terms) : (round body).Meets terms := by
  refine .bind_attempt h fun result hresult => ?_
  split
  · exact .pure _
  · exact .pure _
  · exact .pure _
  · exact .throw hresult

theorem repeatWhile (hcheck : check.Meets terms) (h : body.Meets terms) (rounds : Nat) :
    (repeatWhile check body rounds).Meets terms := by
  induction rounds with
  | zero => exact .throw trivial
  | succ rounds ih =>
    refine .bind hcheck fun holds => ?_
    split
    · refine .bind h.round fun ended => ?_
      cases ended with
      | some v => exact .pure v
      | none => exact ih
    · exact .pure _

theorem repeatUntil (hcheck : check.Meets terms) (h : body.Meets terms) (rounds : Nat) :
    (repeatUntil check body rounds).Meets terms := by
  induction rounds with
  | zero => exact .throw trivial
  | succ rounds ih =>
    refine .bind h.round fun ended => ?_
    cases ended with
    | some v => exact .pure v
    | none =>
      refine .bind hcheck fun holds => ?_
      split
      · exact ih
      · exact .pure _

variable {each : Value → Nat → Run Value}

theorem forItems (h : ∀ v n, (each v n).Meets terms) (items : List Value) (n : Nat) :
    (forItems each items n).Meets terms := by
  induction items generalizing n with
  | nil => exact .pure _
  | cons item items ih =>
    refine .bind (h item n).round fun ended => ?_
    cases ended with
    | some v => exact .pure v
    | none => exact ih (n + 1)

theorem forIntegers (h : ∀ v n, (each v n).Meets terms) (step first : Int) (n count : Nat) :
    (forIntegers each step first n count).Meets terms := by
  induction count generalizing first n with
  | zero => exact .pure _
  | succ count ih =>
    refine .bind (h (.int first) n).round fun ended => ?_
    cases ended with
    | some v => exact .pure v
    | none => exact ih (first + step) (n + 1)

end Loops

end Meets

end Run

namespace HigherOrder

open Run

def Callback.Meets (c : Callback) (terms : Contract) : Prop :=
  ∀ g self arguments, (c.apply g self arguments).Meets terms

namespace Callback.Meets

variable {terms : Contract} {c : Callback} (h : c.Meets terms)
include h

theorem on (before : List Value) (item : Value) (after : List Value) : (c.on before item after).Meets terms := by
  unfold Callback.on
  dsimp only
  split
  · exact .bind (h _ _ _) fun _ => .pure _
  · split
    · exact .bind (h _ _ _) fun _ => .pure _
    · exact .bind (h _ _ _) fun _ => .pure _

theorem holds (item : Value) (n : Nat) : (c.holds item n).Meets terms := by
  refine .bind (h.on _ _ _) fun v => ?_
  split <;> exact .pure _

theorem map (items : List Value) (n : Nat) : (c.map items n).Meets terms := by
  induction items generalizing n with
  | nil => exact .pure _
  | cons item items ih => exact .bind (h.on _ _ _) fun _ => .bind (ih _) fun _ => .pure _

theorem partition (items : List Value) (n : Nat) : (c.partition items n).Meets terms := by
  induction items generalizing n with
  | nil => exact .pure _
  | cons item items ih => exact .bind (h.holds _ _) fun _ => .bind (ih _) fun _ => .pure _

theorem find (items : List Value) (n : Nat) : (c.find items n).Meets terms := by
  induction items generalizing n with
  | nil => exact .pure _
  | cons item items ih =>
    refine .bind (h.holds _ _) fun found => ?_
    split
    · exact .pure _
    · exact ih _

theorem fold (items : List Value) (n : Nat) (v : Value) : (c.fold items n v).Meets terms := by
  induction items generalizing n v with
  | nil => exact .pure _
  | cons item items ih => exact .bind (h.on _ _ _) fun _ => ih _ _

theorem foldBack (items : List (Nat × Value)) (v : Value) : (c.foldBack items v).Meets terms := by
  induction items generalizing v with
  | nil => exact .pure _
  | cons item items ih => exact .bind (h.on _ _ _) fun _ => ih _

theorem findMap (items : List Value) (n : Nat) : (c.findMap items n).Meets terms := by
  induction items generalizing n with
  | nil => exact .pure _
  | cons item items ih =>
    refine .bind (h.on _ _ _) fun v => ?_
    split
    · exact ih _
    · exact .pure _

theorem zip (items : List (Value × Value)) (n : Nat) : (c.zip items n).Meets terms := by
  induction items generalizing n with
  | nil => exact .pure _
  | cons item items ih => exact .bind (h _ _ _) fun _ => .bind (ih _) fun _ => .pure _

theorem tried (arguments : List Value) : (c.tried arguments).Meets terms := by
  refine .bind_attempt (h _ _ _) fun outcome hended => ?_
  split
  · exact .pure _
  · exact .pure _
  · exact .throw hended

theorem each (items : List Value) (n : Nat) : (c.each items n).Meets terms := by
  induction items generalizing n with
  | nil => exact .pure _
  | cons item items ih => exact .bind (h _ _ _) fun _ => .bind (ih _) fun _ => .pure _

theorem insert (item : Value) (items : List Value) : (c.insert item items).Meets terms := by
  induction items with
  | nil => exact .pure _
  | cons other items ih =>
    refine .bind (h.tried _) fun order => ?_
    split
    · exact .pure _
    · exact .bind ih fun _ => .pure _

theorem sort (items done : List Value) : (c.sort items done).Meets terms := by
  induction items generalizing done with
  | nil => exact .pure _
  | cons item items ih => exact .bind (h.insert _ _) fun _ => ih _

theorem dedup (items : List Value) (kept : Option Value) : (c.dedup items kept).Meets terms := by
  induction items generalizing kept with
  | nil => cases kept <;> exact .pure _
  | cons item items ih =>
    cases kept with
    | none => exact .bind (ih _) fun _ => .pure _
    | some kept =>
      refine .bind (h.tried _) fun same => ?_
      split
      · exact ih _
      · exact .bind (ih _) fun _ => .pure _

theorem partitionEntries (entries : List (String × Value)) : (c.partitionEntries entries).Meets terms := by
  induction entries with
  | nil => exact .pure _
  | cons entry entries ih =>
    refine .bind (h _ _ _) fun answer => ?_
    dsimp only
    split <;> exact .bind (.pure _) fun _ => .bind ih fun _ => .pure _

end Callback.Meets

variable {terms : Contract} {c : Callback}

theorem meets_give (v : Value) : (give v).Meets terms := .pure _

theorem meets_change (first v : Value) : (change first v).Meets terms := .pure _

theorem meets_ofList (h : c.Meets terms) (name : String) (items others : List Value) :
    IfAny (Run.Meets · terms) (ofList name items c others) := by
  unfold ofList
  split
  · exact .some (.bind (h.map _ _) fun _ => meets_give _)
  · exact .some (.bind (h.partition _ _) fun _ => meets_give _)
  · exact .some (.bind (h.each _ _) fun _ => meets_change _ _)
  · exact .some (.bind (h.fold _ _ _) fun _ => meets_give _)
  · exact .some (.bind (h.fold _ _ _) fun _ => meets_give _)
  · exact .some (.bind (h.foldBack _ _) fun _ => meets_give _)
  · exact .some (.bind (h.foldBack _ _) fun _ => meets_give _)
  · exact .some (.bind (h.findMap _ _) fun _ => meets_give _)
  · exact .some (.bind (h.dedup _ _) fun _ => meets_change _ _)
  · exact .some (.bind (h.find _ _) fun _ => meets_give _)
  · exact .some (.bind (h.partition _ _) fun _ => meets_give _)
  · exact .some (.bind (h.find _ _) fun _ => meets_give _)
  · exact .some (.bind (h.find _ _) fun _ => meets_give _)
  · exact .some (.bind (h.partition _ _) fun _ => meets_change _ _)
  · exact .some (.bind (h.partition _ _) fun _ => meets_change _ _)
  · exact .some (.bind (h.sort _ _) fun _ => meets_change _ _)
  · exact .none

theorem meets_ofLists (h : c.Meets terms) (name : String) (items others : List Value) :
    IfAny (Run.Meets · terms) (ofLists name items others c) := by
  unfold ofLists
  split
  · exact .some (.bind (h.zip _ _) fun _ => meets_give _)
  · exact .none

theorem meets_ofMap (h : c.Meets terms) (name : String) (entries : List (String × Value)) :
    IfAny (Run.Meets · terms) (ofMap name entries c) := by
  unfold ofMap
  split
  · exact .some (.bind (h.partitionEntries _) fun _ => meets_give _)
  · exact .some (.bind (h.partitionEntries _) fun _ => meets_change _ _)
  · exact .some (.bind (h.partitionEntries _) fun _ => meets_change _ _)
  · exact .none

end HigherOrder

end Script

end PlaceholderScripts
