import PlaceholderScripts.Dialogue

/-!
# Calls in turn

A callback that may fail is called on the items of a list, one after the other, each time in the state that the
last call has left. Either all calls succeed, or there is a first one that fails. A pass over the list, in
whatever kind of computation the callback is made, has the values of the calls in the one case, and stops at the
failure in the other. A callback that keeps a log of its calls behaves like the one without.
-/

namespace PlaceholderScripts

section Turns

variable {σ α β ε κ : Type}

/-- The calls on all items of the list succeed, with these values, and lead from the one state to the other. -/
inductive AllSucceed (callback : α → σ → Except ε β × σ) : σ → List α → List β → σ → Prop
  | nil (s : σ) : AllSucceed callback s [] [] s
  | cons {s t s' : σ} {a : α} {b : β} {as : List α} {bs : List β} :
      callback a s = (.ok b, t) → AllSucceed callback t as bs s' →
      AllSucceed callback s (a :: as) (b :: bs) s'

/-- The calls on the items of the list succeed up to one that fails. The items that the callback was called on
end with that one, and the state is the one that its failure leaves. -/
def FailsFirst (callback : α → σ → Except ε β × σ) (s : σ) (as called : List α) (e : ε) (s' : σ) : Prop :=
  ∃ before a after bs t, as = before ++ a :: after ∧ called = before ++ [a] ∧
    AllSucceed callback s before bs t ∧ callback a t = (.error e, s')

/-- The callback, which writes down each time what it is called on. -/
def logged {γ : Type} (note : α → κ) (callback : α → σ → γ × σ) (a : α) (s : σ × List κ) :
    γ × (σ × List κ) :=
  ((callback a s.1).1, (callback a s.1).2, s.2 ++ [note a])

variable {callback : α → σ → Except ε β × σ} {s t s' : σ} {as called : List α} {bs : List β} {e : ε}

theorem AllSucceed.length_eq (h : AllSucceed callback s as bs s') : bs.length = as.length := by
  induction h with
  | nil s => rfl
  | cons _ _ ih => simp only [List.length_cons, ih]

theorem AllSucceed.exists_append {as' : List α} (h : AllSucceed callback s (as ++ as') bs s') :
    ∃ cs ds t, bs = cs ++ ds ∧ AllSucceed callback s as cs t ∧ AllSucceed callback t as' ds s' := by
  induction as generalizing s bs with
  | nil => exact ⟨[], bs, s, rfl, .nil s, h⟩
  | cons a as ih =>
    cases h with
    | cons hcall hrest =>
      obtain ⟨cs, ds, t, rfl, hfirst, hsecond⟩ := ih hrest
      exact ⟨_ :: cs, ds, t, rfl, .cons hcall hfirst, hsecond⟩

theorem FailsFirst.of_head {a : α} (h : callback a s = (.error e, s')) (as : List α) :
    FailsFirst callback s (a :: as) [a] e s' :=
  ⟨[], a, as, [], s, rfl, rfl, .nil s, h⟩

theorem FailsFirst.of_tail {a : α} {b : β} (hcall : callback a s = (.ok b, t))
    (h : FailsFirst callback t as called e s') :
    FailsFirst callback s (a :: as) (a :: called) e s' := by
  obtain ⟨before, a', after, bs, t', rfl, rfl, hbefore, hfails⟩ := h
  exact ⟨a :: before, a', after, b :: bs, t', rfl, rfl, .cons hcall hbefore, hfails⟩

theorem allSucceed_or_failsFirst (callback : α → σ → Except ε β × σ) (s : σ) (as : List α) :
    (∃ bs s', AllSucceed callback s as bs s') ∨ ∃ called e s', FailsFirst callback s as called e s' := by
  induction as generalizing s with
  | nil => exact .inl ⟨[], s, .nil s⟩
  | cons a as ih =>
    rcases hcall : callback a s with ⟨result, t⟩
    cases result with
    | error e => exact .inr ⟨[a], e, t, .of_head hcall as⟩
    | ok b =>
      rcases ih t with ⟨bs, s', hrest⟩ | ⟨called, e, s', hrest⟩
      · exact .inl ⟨b :: bs, s', .cons hcall hrest⟩
      · exact .inr ⟨a :: called, e, s', .of_tail hcall hrest⟩

/-- Calls on two lists fail on the first one, or on the second one after all calls on the first. -/
theorem FailsFirst.of_append {as' : List α} (h : FailsFirst callback s (as ++ as') called e s') :
    FailsFirst callback s as called e s' ∨
      ∃ cs t rest, AllSucceed callback s as cs t ∧ FailsFirst callback t as' rest e s' := by
  obtain ⟨before, a, after, bs, t, hsplit, rfl, hbefore, hfails⟩ := h
  rcases List.append_eq_append_iff.mp hsplit with ⟨c, rfl, rfl⟩ | ⟨c, rfl, hc⟩
  · obtain ⟨cs, ds, t', -, hfirst, hsecond⟩ := hbefore.exists_append
    exact .inr ⟨cs, t', c ++ [a], hfirst, c, a, after, ds, t, rfl, rfl, hsecond, hfails⟩
  · cases c with
    | nil =>
      obtain rfl : a :: after = as' := hc
      rw [List.append_nil]
      exact .inr ⟨bs, t, [a], hbefore, .of_head hfails after⟩
    | cons a' c =>
      obtain ⟨rfl, -⟩ := List.cons.inj hc
      exact .inl ⟨before, a, c, bs, t, rfl, rfl, hbefore, hfails⟩

/-- A callback that always does the same with an item fails first on the first item on which it fails. -/
theorem FailsFirst.of_results {results : α → Except ε β} {steady : σ → Prop}
    (hsteady : ∀ a s, steady s → (callback a s).1 = results a ∧ steady (callback a s).2)
    {before : List α} (hbefore : ∀ a ∈ before, ∃ b, results a = .ok b) {a : α}
    (ha : results a = .error e) (after : List α) {s : σ} (hs : steady s) :
    ∃ s', FailsFirst callback s (before ++ a :: after) (before ++ [a]) e s' := by
  induction before generalizing s with
  | nil =>
    refine ⟨(callback a s).2, .of_head ?_ after⟩
    rw [← ha, ← (hsteady a s hs).1]
  | cons first before ih =>
    obtain ⟨⟨b, hb⟩, hrest⟩ := List.forall_mem_cons.mp hbefore
    obtain ⟨hresult, hs'⟩ := hsteady first s hs
    obtain ⟨s', htail⟩ := ih hrest hs'
    refine ⟨s', .of_tail (b := b) ?_ htail⟩
    rw [← hb, ← hresult]

theorem AllSucceed.logged (h : AllSucceed callback s as bs s') (note : α → κ) (log : List κ) :
    AllSucceed (logged note callback) (s, log) as bs (s', log ++ as.map note) := by
  induction h generalizing log with
  | nil s => rw [List.map_nil, List.append_nil]; exact .nil _
  | @cons s t s' a b as bs hcall _ ih =>
    have hnoted : PlaceholderScripts.logged note callback a (s, log) = (.ok b, t, log ++ [note a]) := by
      rw [PlaceholderScripts.logged, hcall]
    have hrest := ih (log ++ [note a])
    rw [List.append_assoc, List.singleton_append] at hrest
    exact .cons hnoted hrest

theorem FailsFirst.logged (h : FailsFirst callback s as called e s') (note : α → κ) (log : List κ) :
    FailsFirst (logged note callback) (s, log) as called e (s', log ++ called.map note) := by
  obtain ⟨before, a, after, bs, t, rfl, rfl, hbefore, hfails⟩ := h
  refine ⟨before, a, after, bs, (t, log ++ before.map note), rfl, rfl, hbefore.logged note log, ?_⟩
  rw [PlaceholderScripts.logged, hfails, List.map_append, List.map_singleton, List.append_assoc]

end Turns

/-- A way to carry out computations from a state, where each part starts in the state that the part before it
has left. -/
structure Threading (m : Type → Type) [Monad m] (σ : Type) where
  run : {γ : Type} → m γ → σ → γ × σ
  run_pure : ∀ {γ : Type} (a : γ) (s : σ), run (pure a) s = (a, s)
  run_bind : ∀ {γ δ : Type} (x : m γ) (k : γ → m δ) (s : σ),
    run (x >>= k) s = run (k (run x s).1) (run x s).2

namespace Threading

variable {m : Type → Type} [Monad m] {σ α β γ ε : Type} (t : Threading m σ) {s s' : σ} {e : ε}

theorem run_bind_of_ok {x : ExceptT ε m α} {a : α} (h : t.run x.run s = (.ok a, s'))
    (k : α → ExceptT ε m β) : t.run (x >>= k).run s = t.run (k a).run s' := by
  rw [ExceptT.run_bind, t.run_bind, h]

theorem run_bind_of_error {x : ExceptT ε m α} (h : t.run x.run s = (.error e, s'))
    (k : α → ExceptT ε m β) : t.run (x >>= k).run s = (.error e, s') := by
  rw [ExceptT.run_bind, t.run_bind, h]
  exact t.run_pure _ _

variable [LawfulMonad m]

theorem run_map_of_ok {x : ExceptT ε m α} {a : α} (h : t.run x.run s = (.ok a, s')) (g : α → β) :
    t.run (g <$> x).run s = (.ok (g a), s') := by
  rw [← bind_pure_comp, t.run_bind_of_ok h, ExceptT.run_pure, t.run_pure]

theorem run_map_of_error {x : ExceptT ε m α} (h : t.run x.run s = (.error e, s')) (g : α → β) :
    t.run (g <$> x).run s = (.error e, s') := by
  rw [← bind_pure_comp, t.run_bind_of_error h]

variable {f : α → ExceptT ε m β} {as called : List α} {bs : List β}

/-- A pass over a list in which all calls succeed has their values. -/
theorem run_mapM_of_allSucceed (h : AllSucceed (fun a => t.run (f a).run) s as bs s') :
    t.run (as.mapM f).run s = (.ok bs, s') := by
  induction h with
  | nil s => rw [List.mapM_nil, ExceptT.run_pure, t.run_pure]
  | cons hcall _ ih =>
    rw [List.mapM_cons, t.run_bind_of_ok hcall, t.run_bind_of_ok ih, ExceptT.run_pure, t.run_pure]

theorem run_mapM_of_failsFirst (h : FailsFirst (fun a => t.run (f a).run) s as called e s') :
    t.run (as.mapM f).run s = (.error e, s') := by
  obtain ⟨before, a, after, bs, middle, rfl, -, hbefore, hfails⟩ := h
  rw [List.mapM_append, t.run_bind_of_ok (t.run_mapM_of_allSucceed hbefore)]
  apply t.run_bind_of_error
  rw [List.mapM_cons]
  exact t.run_bind_of_error hfails _

variable {x : ExceptT ε m γ} {g : List β → γ}

theorem run_of_eq_mapM_of_allSucceed (hx : x = g <$> as.mapM f)
    (h : AllSucceed (fun a => t.run (f a).run) s as bs s') : t.run x.run s = (.ok (g bs), s') := by
  rw [hx]
  exact t.run_map_of_ok (t.run_mapM_of_allSucceed h) g

theorem run_of_eq_mapM_of_failsFirst (hx : x = g <$> as.mapM f)
    (h : FailsFirst (fun a => t.run (f a).run) s as called e s') : t.run x.run s = (.error e, s') := by
  rw [hx]
  exact t.run_map_of_error (t.run_mapM_of_failsFirst h) g

end Threading

/-- Computations with a state of their own. -/
def Threading.ofState (σ : Type) : Threading (StateM σ) σ where
  run := fun x s => x.run s
  run_pure := fun _ _ => rfl
  run_bind := fun _ _ _ => rfl

namespace Dialogue

variable {Ask : Type} {Reply : Ask → Type} {α σ : Type}

/-- Dialogues held with surroundings. -/
def threading (reply : σ → (q : Ask) → Reply q × σ) : Threading (Dialogue Ask Reply) σ where
  run := fun d s => d.run reply s
  run_pure := fun _ _ => rfl
  run_bind := fun d k s => run_bind reply d k s

/-- Surroundings that write down what they are asked. -/
def loggedReply (reply : σ → (q : Ask) → Reply q × σ) (s : σ × List Ask) (q : Ask) :
    Reply q × (σ × List Ask) :=
  ((reply s.1 q).1, (reply s.1 q).2, s.2 ++ [q])

theorem run_loggedReply (reply : σ → (q : Ask) → Reply q × σ) (d : Dialogue Ask Reply α) (s : σ)
    (log : List Ask) :
    d.run (loggedReply reply) (s, log) =
      ((d.run reply s).1, (d.run reply s).2, log ++ d.asked reply s) := by
  induction d generalizing s log with
  | done a => rw [run_done, run_done, asked, List.append_nil]
  | ask q next ih =>
    have hnext := ih (reply s q).1 (reply s q).2 (log ++ [q])
    rw [List.append_assoc, List.singleton_append] at hnext
    exact hnext

end Dialogue

end PlaceholderScripts
