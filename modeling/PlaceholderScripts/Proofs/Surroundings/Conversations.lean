import PlaceholderScripts.Dialogue

/-!
# Conversations

What is said in a dialogue, and by whom. The transcript of a dialogue is what is asked in it together with the
replies. A dialogue whose questions are answered by further dialogues can be held as one, and where every
question has always the same reply, only these replies count.
-/

namespace PlaceholderScripts

namespace Dialogue

variable {Ask : Type} {Reply : Ask → Type} {α β σ : Type}

/-- The result where each question has always the same reply. -/
def settle (reply : (q : Ask) → Reply q) : Dialogue Ask Reply α → α
  | .done a => a
  | .ask q next => (next (reply q)).settle reply

theorem settle_bind (reply : (q : Ask) → Reply q) (d : Dialogue Ask Reply α)
    (k : α → Dialogue Ask Reply β) :
    (d.bind k).settle reply = (k (d.settle reply)).settle reply := by
  induction d with
  | done a => rfl
  | ask q next ih => exact ih _

/-- In surroundings that keep to `I` and have a fixed reply to each question, that is the result. -/
theorem run_eq_settle {reply : σ → (q : Ask) → Reply q × σ} {fixed : (q : Ask) → Reply q}
    {I : σ → Prop} (hreply : ∀ s q, I s → (reply s q).1 = fixed q ∧ I (reply s q).2)
    (d : Dialogue Ask Reply α) {s : σ} (hs : I s) : (d.run reply s).1 = d.settle fixed := by
  induction d generalizing s with
  | done a => rfl
  | ask q next ih =>
    obtain ⟨hfixed, hkept⟩ := hreply s q hs
    rw [run, settle, ← hfixed]
    exact ih _ hkept

/-- A dialogue whose questions are answered by dialogues goes on as they are held. -/
theorem run_runM {Ask' : Type} {Reply' : Ask' → Type} (put : (q : Ask') → Dialogue Ask Reply (Reply' q))
    (reply : σ → (q : Ask) → Reply q × σ) (d : Dialogue Ask' Reply' α) (s : σ) :
    (d.runM put).run reply s = d.run (fun s q => (put q).run reply s) s := by
  induction d generalizing s with
  | done a => rfl
  | ask q next ih =>
    rw [runM, bind_eq, run_bind]
    exact ih _ _

/-- The questions of the whole conversation with their replies, in order. -/
def transcript (reply : σ → (q : Ask) → Reply q × σ) :
    Dialogue Ask Reply α → σ → List ((q : Ask) × Reply q)
  | .done _, _ => []
  | .ask q next, s => ⟨q, (reply s q).1⟩ :: (next (reply s q).1).transcript reply (reply s q).2

theorem transcript_bind (reply : σ → (q : Ask) → Reply q × σ) (d : Dialogue Ask Reply α)
    (k : α → Dialogue Ask Reply β) (s : σ) :
    (d.bind k).transcript reply s =
      d.transcript reply s ++ (k (d.run reply s).1).transcript reply (d.run reply s).2 := by
  induction d generalizing s with
  | done a => rfl
  | ask q next ih => exact congrArg (_ :: ·) (ih _ _)

theorem transcript_bind_of_done (reply : σ → (q : Ask) → Reply q × σ) (d : Dialogue Ask Reply α)
    {k : α → Dialogue Ask Reply β} (hk : ∀ a, ∃ b, k a = .done b) (s : σ) :
    (d.bind k).transcript reply s = d.transcript reply s := by
  obtain ⟨b, hb⟩ := hk (d.run reply s).1
  rw [transcript_bind, hb]
  exact List.append_nil _

end Dialogue

end PlaceholderScripts
