import Mathlib
import PlaceholderScripts.Cache.Policy
import PlaceholderScripts.Proofs.Text.LetterCase

/-!
# The grammar of cache policies

Which texts are cache policies, and what is wrong with the others. A policy is the word `STATIC`, or an
amount and the name of a unit with a single space between them, of which the name may be in any letter
case. The faults of a text are told in a fixed order: that it has no space, then its amount, then its unit,
and last that the clock does not reach so far. An amount of zero is for ever before the clock is asked.
-/

namespace PlaceholderScripts

namespace TimeUnit

def IsNamed (unit : TimeUnit) (text : String) : Prop := Text.SameLetters unit.name.toList text.toList

theorem isNamed_iff {unit : TimeUnit} {text : String} :
    unit.IsNamed text ↔ unit.name.toList = text.toList.map Char.toUpper := by
  apply Text.sameLetters_iff_of_upper
  cases unit <;> decide

theorem isNamed_name (unit : TimeUnit) : unit.IsNamed unit.name := rfl

theorem mem_all (unit : TimeUnit) : unit ∈ all := by
  cases unit <;> decide

theorem name_injective : Function.Injective name := by
  intro unit unit' h
  cases unit <;> cases unit' <;> first | rfl | exact absurd h (by decide)

theorem IsNamed.unique {unit unit' : TimeUnit} {text : String} (h : unit.IsNamed text)
    (h' : unit'.IsNamed text) : unit = unit' := by
  have hname : unit.name.toList = unit'.name.toList := (isNamed_iff.mp h).trans (isNamed_iff.mp h').symm
  exact name_injective (String.toList_inj.mp hname)

theorem parse?_eq_some_iff {text : String} {unit : TimeUnit} :
    parse? text = some unit ↔ unit.IsNamed text := by
  unfold parse?
  constructor
  · intro h
    have hfound := List.find?_some h
    exact isNamed_iff.mpr (by simpa using hfound)
  · intro h
    cases hfound : all.find? fun u => u.name.toList = text.toList.map Char.toUpper with
    | none =>
      have hnone := List.find?_eq_none.mp hfound unit (mem_all unit)
      exact absurd (decide_eq_true (isNamed_iff.mp h)) hnone
    | some other =>
      have hother := List.find?_some hfound
      have hnamed : other.IsNamed text := isNamed_iff.mpr (by simpa using hother)
      rw [hnamed.unique h]

theorem parse?_eq_none_iff {text : String} : parse? text = none ↔ ∀ unit, ¬ IsNamed unit text := by
  simp only [← parse?_eq_some_iff, Option.eq_none_iff_forall_ne_some, ne_eq]

end TimeUnit

namespace CachePolicy

/-- The number that decimal digits write: each digit counts ten times the one behind it. -/
def writtenNumber (digits : List Char) : Nat :=
  Nat.ofDigits 10 (digits.reverse.map fun c => c.toNat - '0'.toNat)

theorem writtenNumber_concat (digits : List Char) (c : Char) :
    writtenNumber (digits ++ [c]) = 10 * writtenNumber digits + (c.toNat - '0'.toNat) := by
  simp only [writtenNumber, List.reverse_append, List.reverse_singleton, List.singleton_append,
    List.map_cons, Nat.ofDigits_cons]
  omega

/-- Reading digits from left to right gives the number that they write. -/
theorem foldl_eq_writtenNumber (digits : List Char) :
    digits.foldl (fun n c => 10 * n + (c.toNat - '0'.toNat)) 0 = writtenNumber digits := by
  induction digits using List.reverseRecOn with
  | nil => rfl
  | append_singleton digits c ih => rw [List.foldl_concat, ih, writtenNumber_concat]

/-- The text is an optional plus sign and one or more decimal digits, which write the amount. -/
def WritesAmount (cs : List Char) (amount : UInt64) : Prop :=
  ∃ sign digits, cs = sign ++ digits ∧ (sign = [] ∨ sign = ['+']) ∧ digits ≠ [] ∧
    (∀ c ∈ digits, c.isDigit = true) ∧ writtenNumber digits = amount.toNat

/-- The text behind an optional plus sign. -/
def unsigned (cs : List Char) : List Char :=
  match cs with
  | '+' :: rest => rest
  | _ => cs

theorem unsigned_eq_or (cs : List Char) : cs = unsigned cs ∨ cs = '+' :: unsigned cs := by
  unfold unsigned
  split
  · exact .inr rfl
  · exact .inl rfl

theorem unsigned_of_digits {digits : List Char} (h : ∀ c ∈ digits, c.isDigit = true) :
    unsigned digits = digits := by
  unfold unsigned
  split
  · exact absurd (h '+' List.mem_cons_self) (by decide)
  · rfl

theorem amount?_eq (cs : List Char) :
    amount? cs = if (unsigned cs).isEmpty || !(unsigned cs).all Char.isDigit then none else
      if writtenNumber (unsigned cs) < 2 ^ 64
        then some (UInt64.ofNat (writtenNumber (unsigned cs))) else none := by
  rw [← foldl_eq_writtenNumber]
  rfl

theorem amount?_eq_some_iff_unsigned {cs : List Char} {amount : UInt64} :
    amount? cs = some amount ↔ unsigned cs ≠ [] ∧ (∀ c ∈ unsigned cs, c.isDigit = true) ∧
      writtenNumber (unsigned cs) = amount.toNat := by
  rw [amount?_eq]
  generalize unsigned cs = digits
  constructor
  · intro h
    split at h
    · cases h
    · next hdigits =>
      obtain ⟨hne, hall⟩ : digits ≠ [] ∧ ∀ c ∈ digits, c.isDigit = true := by simpa using hdigits
      split at h
      · next hlt =>
        refine ⟨hne, hall, ?_⟩
        rw [← Option.some.inj h, UInt64.toNat_ofNat_of_lt' hlt]
      · cases h
  · rintro ⟨hne, hall, hnumber⟩
    have hdigits : ¬ (digits.isEmpty || !digits.all Char.isDigit) = true := by simpa using ⟨hne, hall⟩
    rw [if_neg hdigits, hnumber, if_pos amount.toNat_lt, UInt64.ofNat_toNat]

theorem amount?_eq_some_iff {cs : List Char} {amount : UInt64} :
    amount? cs = some amount ↔ WritesAmount cs amount := by
  rw [amount?_eq_some_iff_unsigned]
  constructor
  · rintro ⟨hne, hdigits, hnumber⟩
    rcases unsigned_eq_or cs with hcs | hcs
    · exact ⟨[], unsigned cs, hcs, .inl rfl, hne, hdigits, hnumber⟩
    · exact ⟨['+'], unsigned cs, hcs, .inr rfl, hne, hdigits, hnumber⟩
  · rintro ⟨sign, digits, rfl, hsign, hne, hdigits, hnumber⟩
    have hunsigned : unsigned (sign ++ digits) = digits := by
      rcases hsign with rfl | rfl
      · exact unsigned_of_digits hdigits
      · rfl
    rw [hunsigned]
    exact ⟨hne, hdigits, hnumber⟩

theorem amount?_eq_none_iff {cs : List Char} :
    amount? cs = none ↔ ∀ amount, ¬ WritesAmount cs amount := by
  simp only [← amount?_eq_some_iff, Option.eq_none_iff_forall_ne_some, ne_eq]

/-- The duration is exactly so many units, and the clock can be read again when it is over. -/
structure IsLifetime (now : Instant) (amount : UInt64) (unit : TimeUnit) (ttl : Duration) : Prop where
  exact : ttl.nanos = amount.toNat * unit.nanos
  reached : ∃ expiry : Instant, expiry.nanos = now.nanos + ttl.nanos

theorem exists_after?_iff {now : Instant} {ttl : Duration} :
    (∃ expiry, now.after? ttl = some expiry) ↔ ∃ expiry : Instant, expiry.nanos = now.nanos + ttl.nanos := by
  simp only [Instant.after?_eq, Instant.ofNanos?]
  constructor
  · rintro ⟨expiry, h⟩
    split at h
    · next hlt => exact ⟨⟨_, hlt⟩, rfl⟩
    · cases h
  · rintro ⟨expiry, h⟩
    have hlt := expiry.bounded
    rw [h] at hlt
    exact ⟨_, dif_pos hlt⟩

theorem duration?_eq_some_iff {amount : UInt64} {unit : TimeUnit} {ttl : Duration} :
    unit.duration? amount = some ttl ↔ ttl.nanos = amount.toNat * unit.nanos := by
  rw [TimeUnit.duration?_eq, Duration.ofNanos?]
  constructor
  · intro h
    split at h
    · rw [← Option.some.inj h]
    · cases h
  · intro h
    have hlt := ttl.bounded
    rw [h] at hlt
    rw [dif_pos hlt]
    simp only [← h]

/-- A policy for a time is made exactly if the time is one that the clock can tell. -/
theorem timeBoxed?_of_isLifetime {now : Instant} {amount : UInt64} {unit : TimeUnit} {ttl : Duration}
    (h : IsLifetime now amount unit ttl) :
    timeBoxed? now amount unit = .ok (.timeBoxed amount unit ttl) := by
  obtain ⟨expiry, hexpiry⟩ := exists_after?_iff.mpr h.reached
  simp only [timeBoxed?, duration?_eq_some_iff.mpr h.exact, hexpiry]

theorem timeBoxed?_of_not_isLifetime {now : Instant} {amount : UInt64} {unit : TimeUnit}
    (h : ∀ ttl, ¬ IsLifetime now amount unit ttl) :
    timeBoxed? now amount unit = .error (.durationOverflow amount unit) := by
  unfold timeBoxed?
  cases hduration : unit.duration? amount with
  | none => rfl
  | some ttl =>
    have hexact := duration?_eq_some_iff.mp hduration
    cases hafter : now.after? ttl with
    | none => simp only [hafter]
    | some expiry => exact absurd ⟨hexact, exists_after?_iff.mp ⟨expiry, hafter⟩⟩ (h ttl)

/-- The text up to its first space, and the text behind it. -/
structure Cuts (text left right : String) : Prop where
  split : text = left ++ " " ++ right
  first : ' ' ∉ left.toList

/-- What the grammar says of a text at a reading of the clock. -/
inductive Reads (now : Instant) (text : String) : Except PolicyError CachePolicy → Prop
  | static : text = "STATIC" → Reads now text (.ok .static)
  | malformed : ' ' ∉ text.toList → text ≠ "STATIC" → Reads now text (.error (.malformed text))
  | invalidDuration {left right : String} :
      Cuts text left right → (∀ amount, ¬ WritesAmount left.toList amount) →
      Reads now text (.error (.invalidDuration text))
  | unknownUnit {left right : String} {amount : UInt64} :
      Cuts text left right → WritesAmount left.toList amount → (∀ unit, ¬ TimeUnit.IsNamed unit right) →
      Reads now text (.error (.unknownUnit right))
  | forever {left right : String} {unit : TimeUnit} :
      Cuts text left right → WritesAmount left.toList 0 → unit.IsNamed right →
      Reads now text (.ok .static)
  | timeBoxed {left right : String} {amount : UInt64} {unit : TimeUnit} {ttl : Duration} :
      Cuts text left right → WritesAmount left.toList amount → unit.IsNamed right → amount ≠ 0 →
      IsLifetime now amount unit ttl → Reads now text (.ok (.timeBoxed amount unit ttl))
  | durationOverflow {left right : String} {amount : UInt64} {unit : TimeUnit} :
      Cuts text left right → WritesAmount left.toList amount → unit.IsNamed right → amount ≠ 0 →
      (∀ ttl, ¬ IsLifetime now amount unit ttl) → Reads now text (.error (.durationOverflow amount unit))

theorem exists_cuts {text : String} (h : ' ' ∈ text.toList) : ∃ left right, Cuts text left right := by
  obtain ⟨left, right, hsplit, hfirst⟩ := List.eq_append_cons_of_mem h
  refine ⟨String.ofList left, String.ofList right, ?_, by simpa using hfirst⟩
  apply String.toList_inj.mp
  simp [hsplit]

variable {now : Instant} {text left right : String} {outcome : Except PolicyError CachePolicy}

theorem parse_of_no_space (h : ' ' ∉ text.toList) :
    parse now text = if text = "STATIC" then .ok .static else .error (.malformed text) := by
  have hnone : text.toList.dropWhile (· ≠ ' ') = [] := by
    rw [List.dropWhile_eq_nil_iff]
    intro c hc
    exact decide_eq_true fun heq => h (heq ▸ hc)
  simp only [parse, hnone]

theorem parse_of_cuts (h : Cuts text left right) :
    parse now text = match amount? left.toList with
      | none => .error (.invalidDuration text)
      | some amount =>
        match TimeUnit.parse? right with
        | none => .error (.unknownUnit right)
        | some unit => if amount = 0 then .ok .static else timeBoxed? now amount unit := by
  have hleft : ∀ c ∈ left.toList, decide (c ≠ ' ') = true := by
    intro c hc
    exact decide_eq_true fun heq => h.first (heq ▸ hc)
  have htext : text.toList = left.toList ++ ' ' :: right.toList := by simp [h.split]
  have htake : text.toList.takeWhile (· ≠ ' ') = left.toList := by
    rw [htext, List.takeWhile_append_of_pos hleft, List.takeWhile_cons_of_neg (by simp),
      List.append_nil]
  have hdrop : text.toList.dropWhile (· ≠ ' ') = ' ' :: right.toList := by
    rw [htext, List.dropWhile_append_of_pos hleft, List.dropWhile_cons_of_neg (by simp)]
  have hparse := parse.eq_def now text
  simp only [htake, hdrop, String.ofList_toList] at hparse
  exact hparse

theorem reads_parse (now : Instant) (text : String) : Reads now text (parse now text) := by
  by_cases hspace : ' ' ∈ text.toList
  · obtain ⟨left, right, hcuts⟩ := exists_cuts hspace
    rw [parse_of_cuts hcuts]
    cases hamount : amount? left.toList with
    | none => exact .invalidDuration hcuts (amount?_eq_none_iff.mp hamount)
    | some amount =>
      have hwritten := amount?_eq_some_iff.mp hamount
      cases hunit : TimeUnit.parse? right with
      | none => exact .unknownUnit hcuts hwritten (TimeUnit.parse?_eq_none_iff.mp hunit)
      | some unit =>
        have hnamed := TimeUnit.parse?_eq_some_iff.mp hunit
        by_cases hzero : amount = 0
        · subst hzero
          exact .forever hcuts hwritten hnamed
        · simp only [if_neg hzero]
          by_cases hlifetime : ∃ ttl, IsLifetime now amount unit ttl
          · obtain ⟨ttl, httl⟩ := hlifetime
            rw [timeBoxed?_of_isLifetime httl]
            exact .timeBoxed hcuts hwritten hnamed hzero httl
          · have hnone := not_exists.mp hlifetime
            rw [timeBoxed?_of_not_isLifetime hnone]
            exact .durationOverflow hcuts hwritten hnamed hzero hnone
  · rw [parse_of_no_space hspace]
    by_cases hstatic : text = "STATIC"
    · rw [if_pos hstatic]
      exact .static hstatic
    · rw [if_neg hstatic]
      exact .malformed hspace hstatic

/-- The grammar says only one thing of a text, and this is what is read. -/
theorem Reads.parse_eq (h : Reads now text outcome) : parse now text = outcome := by
  cases h with
  | static hstatic =>
    rw [hstatic, parse_of_no_space (by decide), if_pos rfl]
  | malformed hspace hne => rw [parse_of_no_space hspace, if_neg hne]
  | invalidDuration hcuts hnone => simp only [parse_of_cuts hcuts, amount?_eq_none_iff.mpr hnone]
  | unknownUnit hcuts hwritten hnone =>
    simp only [parse_of_cuts hcuts, amount?_eq_some_iff.mpr hwritten, TimeUnit.parse?_eq_none_iff.mpr hnone]
  | forever hcuts hwritten hnamed =>
    simp only [parse_of_cuts hcuts, amount?_eq_some_iff.mpr hwritten,
      TimeUnit.parse?_eq_some_iff.mpr hnamed, if_true]
  | timeBoxed hcuts hwritten hnamed hzero httl =>
    simp only [parse_of_cuts hcuts, amount?_eq_some_iff.mpr hwritten,
      TimeUnit.parse?_eq_some_iff.mpr hnamed, if_neg hzero, timeBoxed?_of_isLifetime httl]
  | durationOverflow hcuts hwritten hnamed hzero hnone =>
    simp only [parse_of_cuts hcuts, amount?_eq_some_iff.mpr hwritten,
      TimeUnit.parse?_eq_some_iff.mpr hnamed, if_neg hzero, timeBoxed?_of_not_isLifetime hnone]

theorem toList_toString (n : Nat) : (toString n).toList = Nat.toDigits 10 n := Nat.toList_repr

theorem isDigit_of_mem_toString {n : Nat} {c : Char} (h : c ∈ (toString n).toList) : c.isDigit = true := by
  rw [toList_toString] at h
  exact Nat.isDigit_of_mem_toDigits (by decide) (by decide) h

theorem writesAmount_toString (amount : UInt64) :
    WritesAmount (toString amount.toNat).toList amount := by
  have hne : (toString amount.toNat).toList ≠ [] := by
    rw [toList_toString]
    exact Nat.toDigits_ne_nil
  have hnumber : writtenNumber (toString amount.toNat).toList = amount.toNat := by
    rw [toList_toString, ← foldl_eq_writtenNumber]
    exact Nat.ofDigitChars_ten_toDigits
  exact ⟨[], _, rfl, .inl rfl, hne, fun c => isDigit_of_mem_toString, hnumber⟩

theorem cuts_timeText (amount : UInt64) (unit : TimeUnit) :
    Cuts (timeText amount unit) (toString amount.toNat) unit.name where
  split := rfl
  first := fun hspace => absurd (isDigit_of_mem_toString hspace) (by decide)

/-- A text is read as the grammar says, which says exactly one thing of every text. Where the clock does not
reach far enough, the error names the amount and the unit in upper case as a policy with the same fault. -/
theorem parse_eq_iff_reads (now : Instant) (text : String) :
    (∀ outcome, parse now text = outcome ↔ Reads now text outcome) ∧
      (∃! outcome, Reads now text outcome) ∧
      ∀ amount unit, Reads now text (.error (.durationOverflow amount unit)) →
        Reads now (timeText amount unit) (.error (.durationOverflow amount unit)) := by
  refine ⟨fun outcome => ⟨?_, Reads.parse_eq⟩, ⟨parse now text, reads_parse now text, ?_⟩, ?_⟩
  · rintro rfl
    exact reads_parse now text
  · intro outcome h
    exact h.parse_eq.symm
  · intro amount unit h
    cases h with
    | durationOverflow _ _ _ hzero hnone =>
      exact .durationOverflow (cuts_timeText amount unit) (writesAmount_toString amount)
        unit.isNamed_name hzero hnone

/-- No clock reaches so many days, and the error does not depend on how their name is written. -/
theorem parse_eq_iff_reads_overflow :
    parse .zero "18446744073709551615 dAyS" =
        .error (.durationOverflow 18446744073709551615 .days) ∧
      Reads .zero "18446744073709551615 DAYS"
        (.error (.durationOverflow 18446744073709551615 .days)) := by
  have hparse : parse .zero "18446744073709551615 dAyS" =
      .error (.durationOverflow 18446744073709551615 .days) := by
    decide +kernel
  have htext : timeText 18446744073709551615 .days = "18446744073709551615 DAYS" := by decide +kernel
  obtain ⟨hreads, -, hoverflow⟩ := parse_eq_iff_reads .zero "18446744073709551615 dAyS"
  rw [← htext]
  exact ⟨hparse, hoverflow _ _ ((hreads _).mp hparse)⟩

/-- A second space belongs to the name of the unit, and signs and zeros in front do not count. -/
example : parse .zero "10  seconds" = .error (.unknownUnit " seconds") ∧
    parse .zero "+007 dAyS" = parse .zero "7 DAYS" ∧ parse .zero "+0 hours" = .ok .static := by
  decide +kernel

end CachePolicy

end PlaceholderScripts
