/-!
# Dialogues

A computation that asks its surroundings questions and goes on from their replies. A dialogue is
plain data: it does nothing by itself, so one definition serves the command line, where the replies
come from the disk, and a reader who replies from a model of it. What a dialogue can do to its
surroundings is exactly what its questions say, and facts about every dialogue follow by induction.
-/

namespace PlaceholderScripts

/-- Either a finished result or a question together with what follows each reply. -/
inductive Dialogue (Ask : Type) (Reply : Ask → Type) (α : Type) where
  | done (result : α)
  | ask (question : Ask) (next : Reply question → Dialogue Ask Reply α)

namespace Dialogue

variable {Ask : Type} {Reply : Ask → Type} {α β : Type}

/-- Carries on with `k` once the result is known. -/
def bind : Dialogue Ask Reply α → (α → Dialogue Ask Reply β) → Dialogue Ask Reply β
  | .done a, k => k a
  | .ask q next, k => .ask q fun r => (next r).bind k

instance : Monad (Dialogue Ask Reply) where
  pure := .done
  bind := Dialogue.bind

def question (q : Ask) : Dialogue Ask Reply (Reply q) := .ask q .done

/-- Holds the whole conversation with surroundings that remember a state. -/
def run {σ : Type} (reply : σ → (q : Ask) → Reply q × σ) :
    Dialogue Ask Reply α → σ → α × σ
  | .done a, s => (a, s)
  | .ask q next, s => (next (reply s q).1).run reply (reply s q).2

/-- Puts each question in terms of another vocabulary while carrying a state along. -/
def relay {Ask' : Type} {Reply' : Ask' → Type} {σ : Type}
    (reply : σ → (q : Ask) → Dialogue Ask' Reply' (Reply q × σ)) :
    Dialogue Ask Reply α → σ → Dialogue Ask' Reply' (α × σ)
  | .done a, s => .done (a, s)
  | .ask q next, s => (reply s q).bind fun r => (next r.1).relay reply r.2

/-- Holds the conversation in a monad that answers each question by an action. -/
def runM {m : Type → Type} [Monad m] (reply : (q : Ask) → m (Reply q)) :
    Dialogue Ask Reply α → m α
  | .done a => pure a
  | .ask q next => reply q >>= fun r => (next r).runM reply

@[simp] theorem pure_eq_done (a : α) : (pure a : Dialogue Ask Reply α) = done a := rfl

@[simp] theorem bind_eq (d : Dialogue Ask Reply α) (k : α → Dialogue Ask Reply β) :
    d >>= k = d.bind k := rfl

@[simp] theorem done_bind (a : α) (k : α → Dialogue Ask Reply β) : (done a).bind k = k a := rfl

@[simp] theorem ask_bind (q : Ask) (next : Reply q → Dialogue Ask Reply α)
    (k : α → Dialogue Ask Reply β) : (ask q next).bind k = .ask q fun r => (next r).bind k := rfl

/-- The questions of the whole conversation, in order. -/
def asked {σ : Type} (reply : σ → (q : Ask) → Reply q × σ) : Dialogue Ask Reply α → σ → List Ask
  | .done _, _ => []
  | .ask q next, s => q :: (next (reply s q).1).asked reply (reply s q).2

@[simp] theorem run_done {σ : Type} (reply : σ → (q : Ask) → Reply q × σ) (a : α) (s : σ) :
    (done a : Dialogue Ask Reply α).run reply s = (a, s) := rfl

/-- Talking through a sequence is talking through its first part and then its second. -/
theorem run_bind {σ : Type} (reply : σ → (q : Ask) → Reply q × σ) (d : Dialogue Ask Reply α)
    (k : α → Dialogue Ask Reply β) (s : σ) :
    (d.bind k).run reply s = (k (d.run reply s).1).run reply (d.run reply s).2 := by
  induction d generalizing s with
  | done a => rfl
  | ask q next ih => exact ih _ _

theorem bind_done (d : Dialogue Ask Reply α) : d.bind done = d := by
  induction d with
  | done a => rfl
  | ask q next ih => exact congrArg (ask q) (funext ih)

theorem bind_assoc {γ : Type} (d : Dialogue Ask Reply α) (k : α → Dialogue Ask Reply β)
    (l : β → Dialogue Ask Reply γ) : (d.bind k).bind l = d.bind fun a => (k a).bind l := by
  induction d with
  | done a => rfl
  | ask q next ih => exact congrArg (ask q) (funext ih)

instance : LawfulMonad (Dialogue Ask Reply) :=
  LawfulMonad.mk' _ bind_done (fun _ _ => rfl) bind_assoc

/-- The questions of a sequence are those of its first part and then those of its second. -/
theorem asked_bind {σ : Type} (reply : σ → (q : Ask) → Reply q × σ) (d : Dialogue Ask Reply α)
    (k : α → Dialogue Ask Reply β) (s : σ) :
    (d.bind k).asked reply s =
      d.asked reply s ++ (k (d.run reply s).1).asked reply (d.run reply s).2 := by
  induction d generalizing s with
  | done a => rfl
  | ask q next ih => exact congrArg (q :: ·) (ih _ _)

/-- Relaying a sequence is relaying its first part and then its second. -/
theorem relay_bind {Ask' : Type} {Reply' : Ask' → Type} {σ : Type}
    (reply : σ → (q : Ask) → Dialogue Ask' Reply' (Reply q × σ)) (d : Dialogue Ask Reply α)
    (k : α → Dialogue Ask Reply β) (s : σ) :
    (d.bind k).relay reply s = (d.relay reply s).bind fun r => (k r.1).relay reply r.2 := by
  induction d generalizing s with
  | done a => rfl
  | ask q next ih =>
    rw [ask_bind, relay, relay, bind_assoc]
    exact congrArg _ (funext fun r => ih r.1 r.2)

/-- Every result, whatever the replies, is as `P` says. -/
def Ensures (P : α → Prop) : Dialogue Ask Reply α → Prop
  | .done a => P a
  | .ask _ next => ∀ r, (next r).Ensures P

theorem ensures_bind {P : β → Prop} {k : α → Dialogue Ask Reply β} (d : Dialogue Ask Reply α)
    (h : ∀ a, (k a).Ensures P) : (d.bind k).Ensures P := by
  induction d with
  | done a => exact h a
  | ask q next ih => exact fun r => ih r

theorem Ensures.bind {P : α → Prop} {Q : β → Prop} {d : Dialogue Ask Reply α}
    {k : α → Dialogue Ask Reply β} (h : d.Ensures P) (hk : ∀ a, P a → (k a).Ensures Q) :
    (d.bind k).Ensures Q := by
  induction d with
  | done a => exact hk a h
  | ask q next ih => exact fun r => ih r (h r)

theorem Ensures.run {P : α → Prop} {d : Dialogue Ask Reply α} (h : d.Ensures P) {σ : Type}
    (reply : σ → (q : Ask) → Reply q × σ) (s : σ) : P (d.run reply s).1 := by
  induction d generalizing s with
  | done a => exact h
  | ask q next ih => exact ih _ (h _) _

/-- Whatever the replies, every question is as `P` says and every result as `Q` says. -/
def Obeys (P : Ask → Prop) (Q : α → Prop) : Dialogue Ask Reply α → Prop
  | .done a => Q a
  | .ask q next => P q ∧ ∀ r, (next r).Obeys P Q

theorem Obeys.bind {P : Ask → Prop} {Q : α → Prop} {Q' : β → Prop} {d : Dialogue Ask Reply α}
    {k : α → Dialogue Ask Reply β} (h : d.Obeys P Q) (hk : ∀ a, Q a → (k a).Obeys P Q') :
    (d.bind k).Obeys P Q' := by
  induction d with
  | done a => exact hk a h
  | ask q next ih => exact ⟨h.1, fun r => ih r (h.2 r)⟩

theorem Obeys.ensures {P : Ask → Prop} {Q : α → Prop} {d : Dialogue Ask Reply α}
    (h : d.Obeys P Q) : d.Ensures Q := by
  induction d with
  | done a => exact h
  | ask q next ih => exact fun r => ih r (h.2 r)

/-- What every reply to such a question keeps, the whole conversation keeps. -/
theorem Obeys.run {P : Ask → Prop} {Q : α → Prop} {d : Dialogue Ask Reply α} (h : d.Obeys P Q)
    {σ : Type} {reply : σ → (q : Ask) → Reply q × σ} {R : σ → σ → Prop} (refl : ∀ s, R s s)
    (trans : ∀ s t u, R s t → R t u → R s u) (step : ∀ s q, P q → R s (reply s q).2) (s : σ) :
    R s (d.run reply s).2 := by
  induction d generalizing s with
  | done a => exact refl s
  | ask q next ih => exact trans _ _ _ (step s q h.1) (ih _ (h.2 _) _)

/-- A relay that answers each question obediently, so that `I` is kept, is obedient throughout. -/
theorem obeys_relay {Ask' : Type} {Reply' : Ask' → Type} {σ : Type}
    {reply : σ → (q : Ask) → Dialogue Ask' Reply' (Reply q × σ)} {I : σ → Prop} {P : Ask' → Prop}
    (hreply : ∀ s q, I s → (reply s q).Obeys P fun r => I r.2) (d : Dialogue Ask Reply α) {s : σ}
    (hs : I s) : (d.relay reply s).Obeys P fun r => I r.2 := by
  induction d generalizing s with
  | done a => exact hs
  | ask q next ih => exact (hreply s q hs).bind fun r hr => ih r.1 hr

theorem Ensures.relay {Ask' : Type} {Reply' : Ask' → Type} {σ : Type} {P : α → Prop}
    {d : Dialogue Ask Reply α} (h : d.Ensures P)
    (reply : σ → (q : Ask) → Dialogue Ask' Reply' (Reply q × σ)) (s : σ) :
    (d.relay reply s).Ensures fun r => P r.1 := by
  induction d generalizing s with
  | done a => exact h
  | ask q next ih => exact ensures_bind _ fun r => ih r.1 (h r.1) r.2

end Dialogue

end PlaceholderScripts
