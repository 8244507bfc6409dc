import PlaceholderScripts.Surroundings

/-!
# Dialogues held side by side

Two dialogues, each with surroundings of its own, are coupled if related surroundings lead them to related
results and stay related. Coupled parts make coupled wholes, so it is enough to look at the questions.
-/

namespace PlaceholderScripts

namespace Dialogue

variable {Ask : Type} {Reply : Ask → Type} {α α' β β' σ : Type}

/-- From surroundings related by `R` the dialogues come to results related by `Q`, and to surroundings
that are still related. -/
def Coupled (reply : σ → (q : Ask) → Reply q × σ) (R : σ → σ → Prop) (Q : α → α' → Prop)
    (d : Dialogue Ask Reply α) (d' : Dialogue Ask Reply α') : Prop :=
  ∀ s s', R s s' → Q (d.run reply s).1 (d'.run reply s').1 ∧ R (d.run reply s).2 (d'.run reply s').2

variable {reply : σ → (q : Ask) → Reply q × σ} {R : σ → σ → Prop} {Q : α → α' → Prop}
  {Q' : β → β' → Prop}

theorem Coupled.done {a : α} {a' : α'} (h : Q a a') : Coupled reply R Q (.done a) (.done a') :=
  fun _ _ hs => ⟨h, hs⟩

theorem Coupled.bind {d : Dialogue Ask Reply α} {d' : Dialogue Ask Reply α'}
    {k : α → Dialogue Ask Reply β} {k' : α' → Dialogue Ask Reply β'} (h : Coupled reply R Q d d')
    (hk : ∀ a a', Q a a' → Coupled reply R Q' (k a) (k' a')) :
    Coupled reply R Q' (d.bind k) (d'.bind k') := by
  intro s s' hs
  obtain ⟨hresults, hends⟩ := h s s' hs
  rw [run_bind, run_bind]
  exact hk _ _ hresults _ _ hends

/-- A dialogue that asks only such questions as are replied to alike is coupled to itself. -/
theorem Obeys.coupled {P : Ask → Prop} {I : α → Prop} {d : Dialogue Ask Reply α} (h : d.Obeys P I)
    (hquestion : ∀ q, P q → Coupled reply R Eq (question q : Dialogue Ask Reply (Reply q)) (question q)) :
    Coupled reply R Eq d d := by
  induction d with
  | done a => exact .done rfl
  | ask q next ih =>
    obtain ⟨hq, hnext⟩ := h
    refine Coupled.bind (hquestion q hq) fun r r' hr => ?_
    subst hr
    exact ih r (hnext r)

/-- A relay is coupled to itself if each question is put alike, whatever the state that is carried. -/
theorem coupled_relay {Ask' : Type} {Reply' : Ask' → Type} {τ : Type} {I : τ → Prop}
    {put : τ → (q : Ask') → Dialogue Ask Reply (Reply' q × τ)}
    (hput : ∀ t q, I t → Coupled reply R (fun r r' => r = r' ∧ I r.2) (put t q) (put t q))
    (d : Dialogue Ask' Reply' α) {t : τ} (ht : I t) :
    Coupled reply R (fun r r' => r = r' ∧ I r.2) (d.relay put t) (d.relay put t) := by
  induction d generalizing t with
  | done a => exact .done ⟨rfl, ht⟩
  | ask q next ih =>
    refine (hput t q ht).bind fun r r' hr => ?_
    obtain ⟨rfl, hr⟩ := hr
    exact ih r.1 hr

end Dialogue

end PlaceholderScripts
