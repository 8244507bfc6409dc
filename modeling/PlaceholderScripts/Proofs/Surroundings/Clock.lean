import PlaceholderScripts.Surroundings

/-!
# Surroundings in which time passes

The surroundings of a program may be anything that replies to its requests. What is asked of them here
is that their clock does not go back: every state has a time, a reading of the clock is the time of the
state that it leads to, and no request leads to a state of an earlier time.
-/

namespace PlaceholderScripts

structure ForwardClock {σ : Type} (reply : σ → (q : Request) → q.Reply × σ) (time : σ → Instant) :
    Prop where
  reading : ∀ s, (reply s .now).1 = time (reply s .now).2
  forward : ∀ s q, (time s).nanos ≤ (time (reply s q).2).nanos

/-- A reading of the clock is not before the time at which it is asked for. -/
theorem ForwardClock.le_reading {σ : Type} {reply : σ → (q : Request) → q.Reply × σ}
    {time : σ → Instant} (h : ForwardClock reply time) (s : σ) :
    (time s).nanos ≤ Instant.nanos (reply s .now).1 := by
  rw [h.reading]
  exact h.forward s .now

theorem ForwardClock.run {σ : Type} {reply : σ → (q : Request) → q.Reply × σ} {time : σ → Instant}
    (h : ForwardClock reply time) {α : Type} (program : Program α) (s : σ) :
    (time s).nanos ≤ (time (Dialogue.run reply program s).2).nanos := by
  induction program generalizing s with
  | done a => exact Nat.le_refl _
  | ask q next ih => exact Nat.le_trans (h.forward s q) (ih _ _)

theorem World.forwardClock : ForwardClock World.reply World.clock where
  reading := fun _ => rfl
  forward := by
    intro world q
    cases q with
    | now => exact Nat.le_refl _
    | readText path => exact Nat.le_refl _
    | substitute form identity text => exact Nat.le_refl _
    | writeText path text =>
      simp only [World.reply]
      cases world.files.writeText path text <;> exact Nat.le_refl _
    | createParents path =>
      simp only [World.reply]
      cases Path.parentNames? path with
      | none => exact Nat.le_refl _
      | some names => exact Nat.le_refl _

/-- The replies of a modelled world whose clock moves on by a nanosecond at each reading, as long as it
has a later one. -/
def World.tickingReply (world : World) : (q : Request) → q.Reply × World
  | .now =>
    let later := (Instant.ofNanos? (world.clock.nanos + 1)).getD world.clock
    (later, { world with clock := later })
  | q => world.reply q

theorem World.forwardClock_ticking : ForwardClock World.tickingReply World.clock where
  reading := fun _ => rfl
  forward := by
    intro world q
    cases q with
    | now =>
      change world.clock.nanos ≤ ((Instant.ofNanos? (world.clock.nanos + 1)).getD world.clock).nanos
      unfold Instant.ofNanos?
      split
      · exact Nat.le_succ _
      · exact Nat.le_refl _
    | readText path => exact World.forwardClock.forward world (.readText path)
    | writeText path text => exact World.forwardClock.forward world (.writeText path text)
    | createParents path => exact World.forwardClock.forward world (.createParents path)
    | substitute form identity text =>
      exact World.forwardClock.forward world (.substitute form identity text)

end PlaceholderScripts
