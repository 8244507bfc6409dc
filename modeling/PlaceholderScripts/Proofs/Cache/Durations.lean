import PlaceholderScripts.Proofs.Cache.PolicyGrammar

/-!
# Exact durations

The time for which results are kept is so many units, neither rounded nor wrapped. Each unit is converted
in its own way: fractions of a second are cut into seconds and a rest, larger units are multiplied with a
check, and the clock adds seconds and nanoseconds apart, with a carry. No step of this leaves the range of its
word, and so the clock takes exactly the times that it can count to the end.
-/

namespace PlaceholderScripts

namespace Arithmetic

/-- A step whose result does not fit ends the computation. -/
def strict : Arithmetic Option := fun n =>
  if 0 ≤ n ∧ n < 2 ^ 32 then some (UInt32.ofInt n) else none

theorem isExact_strict : IsExact strict := by
  intro n hn
  have hfits : 0 ≤ (n : Int) ∧ (n : Int) < 2 ^ 32 := by omega
  have hword : UInt32.ofInt n = UInt32.ofNat n := isExact_wrapping n hn
  rw [strict, if_pos hfits, hword]
  rfl

end Arithmetic

namespace Duration

variable (d : Duration)

theorem seconds_add_subsecondNanos : d.seconds * nanosPerSecond + d.subsecondNanos = d.nanos :=
  Nat.div_add_mod' d.nanos nanosPerSecond

theorem subsecondNanos_lt : d.subsecondNanos < nanosPerSecond := Nat.mod_lt _ (by decide)

theorem seconds_lt : d.seconds < 2 ^ 64 := by
  have hparts := d.seconds_add_subsecondNanos
  have hbounded := d.bounded
  unfold nanosPerSecond at hparts hbounded
  omega

end Duration

theorem Instant.seconds_add_subsecondNanos (t : Instant) :
    t.seconds * nanosPerSecond + t.subsecondNanos = t.nanos :=
  Nat.div_add_mod' t.nanos nanosPerSecond

namespace CachePolicy

/-- So many nanoseconds are a duration, and the clock counts seconds as far as their end. -/
structure InReach (now : Instant) (nanos : Nat) : Prop where
  duration : nanos < 2 ^ 64 * nanosPerSecond
  clock : (now.seconds * nanosPerSecond + now.subsecondNanos + nanos) / nanosPerSecond ≤ 2 ^ 63 - 1

variable {now : Instant} {amount : UInt64} {unit : TimeUnit} {nanos : Nat}

theorem InReach.of_le (h : InReach now nanos) {less : Nat} (hle : less ≤ nanos) : InReach now less := by
  have hduration := h.duration
  have hclock := h.clock
  constructor
  · omega
  · have hsum : now.seconds * nanosPerSecond + now.subsecondNanos + less ≤
        now.seconds * nanosPerSecond + now.subsecondNanos + nanos := by omega
    exact Nat.le_trans (Nat.div_le_div_right hsum) hclock

/-- The clock has a reading after a time exactly if it can count its seconds. -/
theorem exists_reading_iff :
    (∃ expiry : Instant, expiry.nanos = now.nanos + nanos) ↔
      (now.seconds * nanosPerSecond + now.subsecondNanos + nanos) / nanosPerSecond ≤ 2 ^ 63 - 1 := by
  rw [now.seconds_add_subsecondNanos]
  constructor
  · intro h
    obtain ⟨expiry, hexpiry⟩ := h
    have hbounded := expiry.bounded
    rw [hexpiry] at hbounded
    unfold nanosPerSecond at hbounded ⊢
    omega
  · intro h
    have hbounded : now.nanos + nanos < 2 ^ 63 * nanosPerSecond := by
      unfold nanosPerSecond at h ⊢
      omega
    exact ⟨⟨_, hbounded⟩, rfl⟩

/-- There is a lifetime of so many units exactly if their exact number of nanoseconds is in reach. -/
theorem exists_isLifetime_iff :
    (∃ ttl, IsLifetime now amount unit ttl) ↔ InReach now (amount.toNat * unit.nanos) := by
  constructor
  · intro h
    obtain ⟨ttl, hexact, hreached⟩ := h
    rw [exists_reading_iff, hexact] at hreached
    constructor
    · rw [← hexact]
      exact ttl.bounded
    · exact hreached
  · intro h
    have hreached := exists_reading_iff.mpr h.clock
    exact ⟨⟨_, h.duration⟩, rfl, hreached⟩

theorem timeBoxed?_eq_ok_iff {policy : CachePolicy} :
    timeBoxed? now amount unit = .ok policy ↔
      ∃ ttl, IsLifetime now amount unit ttl ∧ policy = .timeBoxed amount unit ttl := by
  constructor
  · intro h
    by_cases hlifetime : ∃ ttl, IsLifetime now amount unit ttl
    · obtain ⟨ttl, httl⟩ := hlifetime
      rw [timeBoxed?_of_isLifetime httl] at h
      exact ⟨ttl, httl, (Except.ok.inj h).symm⟩
    · rw [timeBoxed?_of_not_isLifetime (not_exists.mp hlifetime)] at h
      cases h
  · intro h
    obtain ⟨ttl, httl, hpolicy⟩ := h
    rw [hpolicy, timeBoxed?_of_isLifetime httl]

/-- A policy for a time is made exactly if the exact number of nanoseconds is a duration and the clock
counts seconds as far as its end. Its lifetime is that number, in seconds and a rest below one
second, and all shorter times of the unit are taken too. Otherwise the time is refused as too long. The
arithmetic that stops at a result that does not fit in its word never stops, and comes to the same. -/
theorem timeBoxed_is_exact (now : Instant) (amount : UInt64) (unit : TimeUnit) :
    let exact := amount.toNat * unit.nanos
    ((∃ policy, timeBoxed? now amount unit = .ok policy) ↔ InReach now exact) ∧
    (∀ policy, timeBoxed? now amount unit = .ok policy →
      (∃ ttl, policy = .timeBoxed amount unit ttl ∧
        ttl.seconds * nanosPerSecond + ttl.subsecondNanos = exact ∧
        ttl.seconds < 2 ^ 64 ∧ ttl.subsecondNanos < nanosPerSecond) ∧
      ∀ less ≤ amount, ∃ ttl, timeBoxed? now less unit = .ok (.timeBoxed less unit ttl)) ∧
    (¬ InReach now exact → timeBoxed? now amount unit = .error (.durationOverflow amount unit)) ∧
    unit.durationIn .strict amount = some (unit.duration? amount) ∧
    ∀ ttl, now.afterIn .strict ttl = some (now.after? ttl) := by
  intro exact
  refine ⟨?accepted, ?lifetime, ?refused, ?conversion, ?addition⟩
  case accepted =>
    rw [← exists_isLifetime_iff]
    constructor
    · intro h
      obtain ⟨policy, hpolicy⟩ := h
      obtain ⟨ttl, httl, -⟩ := timeBoxed?_eq_ok_iff.mp hpolicy
      exact ⟨ttl, httl⟩
    · intro h
      obtain ⟨ttl, httl⟩ := h
      exact ⟨_, timeBoxed?_of_isLifetime httl⟩
  case lifetime =>
    intro policy hpolicy
    obtain ⟨ttl, httl, heq⟩ := timeBoxed?_eq_ok_iff.mp hpolicy
    constructor
    · have hparts := ttl.seconds_add_subsecondNanos
      rw [httl.exact] at hparts
      exact ⟨ttl, heq, hparts, ttl.seconds_lt, ttl.subsecondNanos_lt⟩
    · intro less hless
      have hreach : InReach now exact := exists_isLifetime_iff.mp ⟨ttl, httl⟩
      have hle : less.toNat * unit.nanos ≤ exact :=
        Nat.mul_le_mul_right _ (UInt64.le_iff_toNat_le.mp hless)
      obtain ⟨shorter, hshorter⟩ := exists_isLifetime_iff.mpr (hreach.of_le hle)
      exact ⟨shorter, timeBoxed?_of_isLifetime hshorter⟩
  case refused =>
    intro h
    have hnone : ¬ ∃ ttl, IsLifetime now amount unit ttl := fun hsome => h (exists_isLifetime_iff.mp hsome)
    exact timeBoxed?_of_not_isLifetime (not_exists.mp hnone)
  case conversion =>
    rw [TimeUnit.durationIn_eq Arithmetic.isExact_strict, TimeUnit.duration?_eq]
    rfl
  case addition =>
    intro ttl
    rw [Instant.afterIn_eq Arithmetic.isExact_strict, Instant.after?_eq]
    rfl

/-- The clock takes its last second as long as the nanoseconds do not come to another one. -/
example :
    timeBoxed? ⟨999999999, by decide⟩ 9223372036854775807 .seconds =
        .ok (.timeBoxed 9223372036854775807 .seconds ⟨9223372036854775807 * nanosPerSecond, by decide⟩) ∧
      timeBoxed? ⟨1000000000, by decide⟩ 9223372036854775807 .seconds =
        .error (.durationOverflow 9223372036854775807 .seconds) := by
  decide +kernel

end CachePolicy

end PlaceholderScripts
