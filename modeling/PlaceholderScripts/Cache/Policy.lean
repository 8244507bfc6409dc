import PlaceholderScripts.Clock

/-!
# Cache policies

How long the result of a script is kept: not at all, forever and for everybody, or for a time and
for each requester apart. A policy is written `STATIC` or as an amount and a unit, and no amount is
ever rounded or wrapped: a duration that the clock cannot add to its reading is refused.
-/

namespace PlaceholderScripts

inductive TimeUnit where
  | nanoseconds
  | microseconds
  | milliseconds
  | seconds
  | minutes
  | hours
  | days
  deriving DecidableEq, Repr

namespace TimeUnit

/-- Every unit, the finest first. -/
def all : List TimeUnit :=
  [.nanoseconds, .microseconds, .milliseconds, .seconds, .minutes, .hours, .days]

def name : TimeUnit → String
  | .nanoseconds => "NANOSECONDS"
  | .microseconds => "MICROSECONDS"
  | .milliseconds => "MILLISECONDS"
  | .seconds => "SECONDS"
  | .minutes => "MINUTES"
  | .hours => "HOURS"
  | .days => "DAYS"

/-- The length of the unit. -/
def nanos : TimeUnit → Nat
  | .nanoseconds => 1
  | .microseconds => 1000
  | .milliseconds => 1000000
  | .seconds => nanosPerSecond
  | .minutes => 60 * nanosPerSecond
  | .hours => 60 * 60 * nanosPerSecond
  | .days => 24 * 60 * 60 * nanosPerSecond

/-- The unit of a name in any case of the ASCII letters. -/
def parse? (text : String) : Option TimeUnit :=
  all.find? fun unit => unit.name.toList = text.toList.map Char.toUpper

/-- `amount` units, computed in words, where that is a duration. -/
def durationIn {m : Type → Type} [Monad m] (keep : Arithmetic m) (unit : TimeUnit) (amount : UInt64) :
    m (Option Duration) :=
  match unit with
  | .nanoseconds => Duration.ofNanosIn keep amount
  | .microseconds => Duration.ofSubsecondsIn keep 1000000 1000 amount
  | .milliseconds => Duration.ofSubsecondsIn keep 1000 1000000 amount
  | .seconds => return some (.ofSeconds amount)
  | .minutes => return (checkedMul? amount 60).map .ofSeconds
  | .hours => return (checkedMul? amount (60 * 60)).map .ofSeconds
  | .days => return (checkedMul? amount (24 * 60 * 60)).map .ofSeconds

def duration? (unit : TimeUnit) (amount : UInt64) : Option Duration :=
  Id.run (unit.durationIn .wrapping amount)

/-- A product that does not fit is more seconds than a duration has. -/
theorem map_ofSeconds_checkedMul? (amount length : UInt64) :
    (checkedMul? amount length).map Duration.ofSeconds =
      Duration.ofNanos? (amount.toNat * (length.toNat * nanosPerSecond)) := by
  rw [← Nat.mul_assoc, checkedMul?]
  split
  · next hfits =>
    rw [← toNat_mul_of_lt hfits, Duration.ofNanos?_seconds, Option.map_some]
  · next hlarge =>
    rw [Duration.ofNanos?, dif_neg, Option.map_none]
    unfold nanosPerSecond
    omega

theorem durationIn_eq {m : Type → Type} [Monad m] [LawfulMonad m] {keep : Arithmetic m}
    (hkeep : keep.IsExact) (unit : TimeUnit) (amount : UInt64) :
    unit.durationIn keep amount = pure (Duration.ofNanos? (amount.toNat * unit.nanos)) := by
  cases unit with
  | nanoseconds =>
    rw [durationIn, Duration.ofNanosIn_eq hkeep, nanos, Nat.mul_one]
  | microseconds => exact Duration.ofSubsecondsIn_eq hkeep (by decide) amount
  | milliseconds => exact Duration.ofSubsecondsIn_eq hkeep (by decide) amount
  | seconds => exact congrArg pure (Duration.ofNanos?_seconds amount).symm
  | minutes => exact congrArg pure (map_ofSeconds_checkedMul? amount 60)
  | hours => exact congrArg pure (map_ofSeconds_checkedMul? amount (60 * 60))
  | days => exact congrArg pure (map_ofSeconds_checkedMul? amount (24 * 60 * 60))

theorem duration?_eq (unit : TimeUnit) (amount : UInt64) :
    unit.duration? amount = Duration.ofNanos? (amount.toNat * unit.nanos) :=
  durationIn_eq Arithmetic.isExact_wrapping unit amount

end TimeUnit

inductive PolicyError where
  | malformed (text : String)
  | invalidDuration (text : String)
  | unknownUnit (text : String)
  | durationOverflow (amount : UInt64) (unit : TimeUnit)
  deriving DecidableEq, Repr

def timeText (amount : UInt64) (unit : TimeUnit) : String :=
  toString amount.toNat ++ " " ++ unit.name

def PolicyError.message : PolicyError → String
  | .malformed text => "The text '" ++ text ++ "' is not a valid time configuration"
  | .invalidDuration text => "Invalid cache duration '" ++ text ++ "'"
  | .unknownUnit text => "Unknown time unit '" ++ text ++ "'"
  | .durationOverflow amount unit =>
    "Cache duration '" ++ timeText amount unit ++ "' is too large"

/-- How long results are kept. -/
inductive CachePolicy where
  | disabled
  /-- Results never expire and every requester shares them. -/
  | static
  /-- Results expire `ttl` after they were stored, and requesters do not share them. -/
  | timeBoxed (amount : UInt64) (unit : TimeUnit) (ttl : Duration)
  deriving DecidableEq, Repr

namespace CachePolicy

/-- A policy for `amount` units, if the clock can tell when a result stored at `now` expires. -/
def timeBoxed? (now : Instant) (amount : UInt64) (unit : TimeUnit) :
    Except PolicyError CachePolicy :=
  match unit.duration? amount with
  | none => .error (.durationOverflow amount unit)
  | some ttl =>
    match now.after? ttl with
    | none => .error (.durationOverflow amount unit)
    | some _ => .ok (.timeBoxed amount unit ttl)

/-- An optional `+` and decimal digits with a value below `2 ^ 64`. -/
def amount? (cs : List Char) : Option UInt64 :=
  let ds := match cs with
    | '+' :: rest => rest
    | _ => cs
  if ds.isEmpty || !ds.all Char.isDigit then none else
  let n := ds.foldl (fun n c => 10 * n + (c.toNat - '0'.toNat)) 0
  if n < 2 ^ 64 then some (UInt64.ofNat n) else none

/-- Reads a policy. An amount of zero means forever. -/
def parse (now : Instant) (text : String) : Except PolicyError CachePolicy :=
  let cs := text.toList
  let left := cs.takeWhile (· ≠ ' ')
  match cs.dropWhile (· ≠ ' ') with
  | [] => if text = "STATIC" then .ok .static else .error (.malformed text)
  | _ :: right =>
    match amount? left with
    | none => .error (.invalidDuration text)
    | some amount =>
      match TimeUnit.parse? (String.ofList right) with
      | none => .error (.unknownUnit (String.ofList right))
      | some unit => if amount = 0 then .ok .static else timeBoxed? now amount unit

/-- The policy as it is written; a disabled one has a text that does not read back. -/
def text : CachePolicy → String
  | .disabled => "disabled"
  | .static => "STATIC"
  | .timeBoxed amount unit _ => timeText amount unit

def isEnabled : CachePolicy → Bool
  | .disabled => false
  | _ => true

theorem isEnabled_eq_false {policy : CachePolicy} :
    policy.isEnabled = false ↔ policy = .disabled := by
  cases policy <;> simp [isEnabled]

def ttl? : CachePolicy → Option Duration
  | .timeBoxed _ _ ttl => some ttl
  | _ => none

end CachePolicy

end PlaceholderScripts
