import PlaceholderScripts.Proofs.Cache.PolicyGrammar

/-!
# The texts of cache policies

A policy that was read from some text writes a text of its own, from which it is read again at the same
reading of the clock. Signs, zeros in front and letter case are lost on the way, the policy is not. So the
policies that can be read are told apart by their texts. A disabled policy is none of them.
-/

namespace PlaceholderScripts

namespace CachePolicy

/-- The policies that texts stand for at a reading of the clock. -/
inductive Readable (now : Instant) : CachePolicy → Prop
  | static : Readable now .static
  | timeBoxed {amount : UInt64} {unit : TimeUnit} {ttl : Duration} :
      amount ≠ 0 → IsLifetime now amount unit ttl → Readable now (.timeBoxed amount unit ttl)

namespace Readable

variable {now earlier later : Instant} {policy policy' : CachePolicy}

theorem isEnabled (h : Readable now policy) : policy.isEnabled = true := by
  cases h with
  | static => rfl
  | timeBoxed _ _ => rfl

theorem of_le (h : Readable now policy) (hle : earlier.nanos ≤ now.nanos) : Readable earlier policy := by
  cases h with
  | static => exact .static
  | @timeBoxed amount unit ttl hzero hlifetime =>
    obtain ⟨expiry, hexpiry⟩ := hlifetime.reached
    have hbounded : earlier.nanos + ttl.nanos < 2 ^ 63 * nanosPerSecond := by
      have hlast := expiry.bounded
      omega
    have hreached : ∃ sooner : Instant, sooner.nanos = earlier.nanos + ttl.nanos := ⟨⟨_, hbounded⟩, rfl⟩
    exact .timeBoxed hzero ⟨hlifetime.exact, hreached⟩

theorem parse_text (h : Readable now policy) : parse now policy.text = .ok policy := by
  cases h with
  | static => exact (Reads.static rfl).parse_eq
  | @timeBoxed amount unit ttl hzero hlifetime =>
    have hcuts := cuts_timeText amount unit
    have hwritten := writesAmount_toString amount
    have hreads : Reads now (timeText amount unit) (.ok (.timeBoxed amount unit ttl)) :=
      .timeBoxed hcuts hwritten unit.isNamed_name hzero hlifetime
    exact hreads.parse_eq

/-- Policies with the same text are the same, also where they were read at different times. -/
theorem text_inj (h : Readable now policy) (h' : Readable later policy') :
    policy.text = policy'.text ↔ policy = policy' := by
  constructor
  · intro htext
    -- both texts can be read at the beginning of time, wherever the clock stood
    have hfirst : ∀ t : Instant, Instant.zero.nanos ≤ t.nanos := fun t => Nat.zero_le t.nanos
    have hread := (h.of_le (hfirst now)).parse_text
    have hread' := (h'.of_le (hfirst later)).parse_text
    rw [htext, hread'] at hread
    exact (Except.ok.inj hread).symm
  · intro heq
    rw [heq]

end Readable

theorem readable_of_parse {now : Instant} {text : String} {policy : CachePolicy}
    (h : parse now text = .ok policy) : Readable now policy := by
  have hreads := reads_parse now text
  rw [h] at hreads
  cases hreads with
  | static _ => exact .static
  | forever _ _ _ => exact .static
  | timeBoxed _ _ _ hzero hlifetime => exact .timeBoxed hzero hlifetime

/-- A policy that is read from a text is enabled, and is read from its own text too. A time that it has is not
zero, and lasts as long as its amount and unit say. Policies that are read from two texts write the same
only where they are the same. What a disabled policy writes is no policy. -/
theorem text_round_trips (now : Instant) (text : String) :
    (∀ policy, parse now text = .ok policy →
      policy.isEnabled = true ∧ parse now policy.text = .ok policy ∧
      (∀ amount unit ttl, policy = .timeBoxed amount unit ttl →
        amount ≠ 0 ∧ unit.duration? amount = some ttl ∧ ttl.nanos = amount.toNat * unit.nanos) ∧
      ∀ later other policy', parse later other = .ok policy' →
        (policy.text = policy'.text ↔ policy = policy')) ∧
    parse now CachePolicy.disabled.text = .error (.malformed CachePolicy.disabled.text) := by
  constructor
  · intro policy hparse
    have hreadable := readable_of_parse hparse
    refine ⟨hreadable.isEnabled, hreadable.parse_text, ?lifetime, ?inj⟩
    case lifetime =>
      intro amount unit ttl hpolicy
      rw [hpolicy] at hreadable
      cases hreadable with
      | timeBoxed hzero hlifetime =>
        exact ⟨hzero, duration?_eq_some_iff.mpr hlifetime.exact, hlifetime.exact⟩
    case inj =>
      intro later other policy' hparse'
      exact hreadable.text_inj (readable_of_parse hparse')
  · have hspace : ' ' ∉ CachePolicy.disabled.text.toList := by decide
    have hstatic : CachePolicy.disabled.text ≠ "STATIC" := by decide
    exact (Reads.malformed hspace hstatic).parse_eq

/-- Seven days are written in one way and read in many. -/
theorem text_round_trips_days :
    let policy : CachePolicy := .timeBoxed 7 .days ⟨7 * 86400 * nanosPerSecond, by decide⟩
    parse .zero "+007 dAyS" = .ok policy ∧ policy.text = "7 DAYS" ∧
      parse .zero "7 DAYS" = .ok policy ∧
      (policy.text = CachePolicy.static.text ↔ policy = .static) := by
  intro policy
  have hparse : parse .zero "+007 dAyS" = .ok policy := by decide +kernel
  have hstatic : parse .zero "0 hours" = .ok .static := by decide +kernel
  have htext : policy.text = "7 DAYS" := by decide +kernel
  obtain ⟨hread, -⟩ := text_round_trips .zero "+007 dAyS"
  obtain ⟨-, hagain, -, hinj⟩ := hread policy hparse
  rw [htext] at hagain
  exact ⟨hparse, htext, hagain, hinj _ _ _ hstatic⟩

end CachePolicy

end PlaceholderScripts
