import PlaceholderScripts.Registry

/-!
# The cleaning of caches

While it is running, the service drops the expired results of every registered script each time an
interval has passed. Lookups drop expired results too, but only those that they come upon.
-/

namespace PlaceholderScripts

/-- The interval between cleanings, whether the service is running, and when the next cleaning is due;
never, where the clock has no such reading. -/
structure Cleanup where
  interval : Duration
  isRunning : Bool := false
  due : Option Instant := none

namespace Cleanup

def start (c : Cleanup) (now : Instant) : Cleanup :=
  if c.isRunning then c else { c with isRunning := true, due := now.after? c.interval }

def stop (c : Cleanup) : Cleanup := { c with isRunning := false, due := none }

/-- Cleans, if a cleaning is due. -/
def tick (c : Cleanup) (now : Instant) (registry : Registry) : Cleanup × Registry :=
  match c.due with
  | some at_ =>
    if at_.nanos ≤ now.nanos then
      ({ c with due := now.after? c.interval }, (registry.purgeExpired now).2)
    else (c, registry)
  | none => (c, registry)

end Cleanup

end PlaceholderScripts
