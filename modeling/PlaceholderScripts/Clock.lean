import PlaceholderScripts.Number.Word

/-!
# Time

Durations and readings of a clock that only moves forward, both exact counts of nanoseconds with the
range of a clock that counts seconds in sixty-four bits. Adding a duration to a reading fails where
the sum is out of the clock's range.

Both are computed in words, as whole seconds and the nanoseconds beyond them. In every arithmetic that
is right about results that fit in a word, what is computed is the exact sum or multiple.
-/

namespace PlaceholderScripts

def nanosPerSecond : Nat := 1000000000

structure Duration where
  nanos : Nat
  bounded : nanos < 2 ^ 64 * nanosPerSecond
  deriving DecidableEq, Repr

namespace Duration

variable {m : Type → Type} [Monad m]

def ofNanos? (n : Nat) : Option Duration :=
  if h : n < 2 ^ 64 * nanosPerSecond then some ⟨n, h⟩ else none

def seconds (d : Duration) : Nat := d.nanos / nanosPerSecond

def subsecondNanos (d : Duration) : Nat := d.nanos % nanosPerSecond

def ofParts? (seconds : UInt64) (nanos : UInt32) : Option Duration :=
  ofNanos? (seconds.toNat * nanosPerSecond + nanos.toNat)

/-- So many seconds, which are always a duration. -/
def ofSeconds (n : UInt64) : Duration :=
  ⟨n.toNat * nanosPerSecond, Nat.mul_lt_mul_of_pos_right n.toNat_lt (by decide)⟩

/-- So many nanoseconds, cut into seconds and the rest. -/
def ofNanosIn (keep : Arithmetic m) (n : UInt64) : m (Option Duration) := do
  let nanos ← keep (n % 1000000000).toNat
  return ofParts? (n / 1000000000) nanos

/-- So many parts of a second, `parts` of which are a second. Each of them has `length` nanoseconds. -/
def ofSubsecondsIn (keep : Arithmetic m) (parts : UInt64) (length : Nat) (n : UInt64) :
    m (Option Duration) := do
  let rest ← keep (n % parts).toNat
  let nanos ← keep (rest.toNat * length)
  return ofParts? (n / parts) nanos

theorem ofNanos?_seconds (n : UInt64) : ofNanos? (n.toNat * nanosPerSecond) = some (ofSeconds n) := by
  have hfits : n.toNat * nanosPerSecond < 2 ^ 64 * nanosPerSecond := (ofSeconds n).bounded
  rw [ofNanos?, dif_pos hfits]
  rfl

variable [LawfulMonad m] {keep : Arithmetic m}

theorem ofNanosIn_eq (hkeep : keep.IsExact) (n : UInt64) :
    ofNanosIn keep n = pure (ofNanos? n.toNat) := by
  have hrest : (n % 1000000000).toNat = n.toNat % 1000000000 := UInt64.toNat_mod n _
  have hwhole : (n / 1000000000).toNat = n.toNat / 1000000000 := UInt64.toNat_div n _
  have hfits : n.toNat % 1000000000 < 2 ^ 32 := by omega
  have hnanos : (UInt32.ofNat (n.toNat % 1000000000)).toNat = n.toNat % 1000000000 := by
    rw [UInt32.toNat_ofNat', Nat.mod_eq_of_lt hfits]
  have hsum : n.toNat / 1000000000 * nanosPerSecond + n.toNat % 1000000000 = n.toNat := by
    unfold nanosPerSecond
    omega
  rw [ofNanosIn, hrest, hkeep _ hfits, pure_bind, ofParts?, hwhole, hnanos, hsum]

/-- The rest of a second is less than a second, also when it is counted in nanoseconds. -/
theorem ofSubsecondsIn_eq (hkeep : keep.IsExact) {parts : UInt64} {length : Nat}
    (hsecond : parts.toNat * length = nanosPerSecond) (n : UInt64) :
    ofSubsecondsIn keep parts length n = pure (ofNanos? (n.toNat * length)) := by
  have hlength : 0 < length := Nat.pos_of_ne_zero fun h => by simp [h, nanosPerSecond] at hsecond
  have hparts : 0 < parts.toNat := Nat.pos_of_ne_zero fun h => by simp [h, nanosPerSecond] at hsecond
  have hrest : n.toNat % parts.toNat < parts.toNat := Nat.mod_lt _ hparts
  have hnanos : n.toNat % parts.toNat * length < nanosPerSecond := by
    rw [← hsecond]
    exact Nat.mul_lt_mul_of_pos_right hrest hlength
  have hle : n.toNat % parts.toNat ≤ n.toNat % parts.toNat * length := Nat.le_mul_of_pos_right _ hlength
  have hsecondFits : nanosPerSecond < 2 ^ 32 := by decide
  have hword : (UInt32.ofNat (n.toNat % parts.toNat)).toNat = n.toNat % parts.toNat := by
    rw [UInt32.toNat_ofNat', Nat.mod_eq_of_lt (by omega)]
  have hnanosWord : (UInt32.ofNat (n.toNat % parts.toNat * length)).toNat =
      n.toNat % parts.toNat * length := by
    rw [UInt32.toNat_ofNat', Nat.mod_eq_of_lt (by omega)]
  have hsum : n.toNat / parts.toNat * nanosPerSecond + n.toNat % parts.toNat * length =
      n.toNat * length := by
    rw [← hsecond, ← Nat.mul_assoc, ← Nat.add_mul, Nat.div_add_mod']
  have hsteps : keep ((UInt32.ofNat (n.toNat % parts.toNat)).toNat * length) =
      pure (UInt32.ofNat (n.toNat % parts.toNat * length)) := by
    rw [hword, ← Int.natCast_mul]
    exact hkeep _ (by omega)
  rw [ofSubsecondsIn, UInt64.toNat_mod, hkeep _ (by omega), pure_bind, hsteps, pure_bind, ofParts?,
    UInt64.toNat_div, hnanosWord, hsum]

end Duration

/-- A reading of the clock, below `2 ^ 63` seconds. -/
structure Instant where
  nanos : Nat
  bounded : nanos < 2 ^ 63 * nanosPerSecond
  deriving DecidableEq, Repr

namespace Instant

def ofNanos? (n : Nat) : Option Instant :=
  if h : n < 2 ^ 63 * nanosPerSecond then some ⟨n, h⟩ else none

def zero : Instant := ⟨0, by decide⟩

def seconds (t : Instant) : Nat := t.nanos / nanosPerSecond

def subsecondNanos (t : Instant) : Nat := t.nanos % nanosPerSecond

/-- A reading from its parts, where the clock can count so many seconds. -/
def ofParts? (seconds : Nat) (nanos : UInt32) : Option Instant :=
  if seconds < 2 ^ 63 then ofNanos? (seconds * nanosPerSecond + nanos.toNat) else none

/-- The reading `d` later, computed in words, where the clock has one. A second is carried over when the
nanoseconds come to one. -/
def afterIn {m : Type → Type} [Monad m] (keep : Arithmetic m) (t : Instant) (d : Duration) :
    m (Option Instant) :=
  let seconds := t.seconds + d.seconds
  if seconds < 2 ^ 63 then do
    let nanos ← keep (t.subsecondNanos + d.subsecondNanos)
    if nanosPerSecond ≤ nanos.toNat then
      let nanos ← keep (nanos.toNat - nanosPerSecond)
      return ofParts? (seconds + 1) nanos
    else return ofParts? seconds nanos
  else return none

/-- The reading `d` later, where the clock has one. -/
def after? (t : Instant) (d : Duration) : Option Instant := Id.run (afterIn .wrapping t d)

theorem ofParts?_eq {seconds n : Nat} (hn : n < nanosPerSecond) :
    ofParts? seconds (UInt32.ofNat n) = ofNanos? (seconds * nanosPerSecond + n) := by
  have hword : (UInt32.ofNat n).toNat = n := by
    rw [UInt32.toNat_ofNat', Nat.mod_eq_of_lt (Nat.lt_trans hn (by decide))]
  rw [ofParts?, hword]
  split
  · rfl
  · next hseconds =>
    rw [ofNanos?, dif_neg]
    unfold nanosPerSecond at hn ⊢
    omega

/-- The sum of two rests is less than two seconds, and so only one second is ever carried over. -/
theorem afterIn_eq {m : Type → Type} [Monad m] [LawfulMonad m] {keep : Arithmetic m}
    (hkeep : keep.IsExact) (t : Instant) (d : Duration) :
    afterIn keep t d = pure (ofNanos? (t.nanos + d.nanos)) := by
  have ht : t.subsecondNanos < nanosPerSecond := Nat.mod_lt _ (by decide)
  have hd : d.subsecondNanos < nanosPerSecond := Nat.mod_lt _ (by decide)
  have htwo : nanosPerSecond + nanosPerSecond < 2 ^ 32 := by decide
  have hsum : (t.seconds + d.seconds) * nanosPerSecond + (t.subsecondNanos + d.subsecondNanos) =
      t.nanos + d.nanos := by
    have htparts : t.seconds * nanosPerSecond + t.subsecondNanos = t.nanos := Nat.div_add_mod' _ _
    have hdparts : d.seconds * nanosPerSecond + d.subsecondNanos = d.nanos := Nat.div_add_mod' _ _
    rw [Nat.add_mul]
    omega
  have hword : (UInt32.ofNat (t.subsecondNanos + d.subsecondNanos)).toNat =
      t.subsecondNanos + d.subsecondNanos := by
    rw [UInt32.toNat_ofNat', Nat.mod_eq_of_lt (by omega)]
  have hstep : keep (t.subsecondNanos + d.subsecondNanos : Nat) =
      pure (UInt32.ofNat (t.subsecondNanos + d.subsecondNanos)) := hkeep _ (by omega)
  rw [Int.natCast_add] at hstep
  unfold afterIn
  by_cases hseconds : t.seconds + d.seconds < 2 ^ 63
  · simp only [if_pos hseconds, hstep, pure_bind, hword]
    by_cases hcarry : nanosPerSecond ≤ t.subsecondNanos + d.subsecondNanos
    · have hrest : keep ((t.subsecondNanos + d.subsecondNanos : Nat) - nanosPerSecond) =
          pure (UInt32.ofNat (t.subsecondNanos + d.subsecondNanos - nanosPerSecond)) := by
        rw [← Int.ofNat_sub hcarry]
        exact hkeep _ (by omega)
      have hcarried : (t.seconds + d.seconds + 1) * nanosPerSecond +
          (t.subsecondNanos + d.subsecondNanos - nanosPerSecond) = t.nanos + d.nanos := by
        rw [Nat.add_mul _ 1]
        omega
      rw [if_pos hcarry, hrest, pure_bind, ofParts?_eq (by omega), hcarried]
    · rw [if_neg hcarry, ofParts?_eq (by omega), hsum]
  · have hlarge : ¬ t.nanos + d.nanos < 2 ^ 63 * nanosPerSecond := by
      rw [← hsum]
      unfold nanosPerSecond
      omega
    simp only [if_neg hseconds, ofNanos?, dif_neg hlarge]

theorem after?_eq (t : Instant) (d : Duration) : t.after? d = ofNanos? (t.nanos + d.nanos) :=
  afterIn_eq Arithmetic.isExact_wrapping t d

end Instant

end PlaceholderScripts
