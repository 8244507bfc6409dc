import Mathlib
import PlaceholderScripts.Proofs.Cache.Purging
import PlaceholderScripts.Proofs.Cleanup.Runtime

/-!
# Purging a registry

A purge of a registry purges the cache of each registered script once, at a reading of the clock of its
own, and answers with the number of entries that all of them have lost. A script that is reached by two
identifiers has nothing to lose the second time.
-/

namespace PlaceholderScripts

def Definition.purged (now : Instant) (d : Definition) : Definition :=
  { d with cache := (d.cache.purgeExpired now).2 }

theorem Definition.purged_purged (now : Instant) (d : Definition) :
    (d.purged now).purged now = d.purged now := by
  simp only [purged, ResultCache.purgeExpired_purgeExpired]

namespace Registry

variable {r : Registry} {handle other : Handle} {now : Instant}

def registeredHandles (r : Registry) : Finset Handle := (r.handles.entries.map Prod.snd).toFinset

theorem exists_definition?_of_registered (h : handle ∈ r.registeredHandles) :
    ∃ d, r.definition? handle = some d := by
  rw [registeredHandles, List.mem_toFinset, List.mem_map] at h
  obtain ⟨e, he, heq⟩ := h
  have hlt : handle < r.scripts.length := heq ▸ r.inRange e he
  exact ⟨r.scripts[handle], List.getElem?_eq_getElem hlt⟩

def dueCount (r : Registry) (now : Instant) (handle : Handle) : Nat :=
  ((r.definition? handle).map fun d => (d.cache.purgeExpired now).1).getD 0

theorem handles_sweep (now : Instant) (r : Registry) (handle : Handle) :
    (r.sweep now handle).handles = r.handles := by
  unfold sweep
  cases r.definition? handle with
  | none => rfl
  | some d => rfl

theorem definition?_sweep_self (now : Instant) (r : Registry) (handle : Handle) :
    (r.sweep now handle).definition? handle = (r.definition? handle).map (Definition.purged now) := by
  cases hd : r.definition? handle with
  | none => rw [sweep, hd, hd, Option.map_none]
  | some d => rw [sweep, hd, definition?_update_self hd, Option.map_some, Definition.purged]

theorem definition?_sweep_of_ne (h : other ≠ handle) :
    (r.sweep now handle).definition? other = r.definition? other := by
  unfold sweep
  cases r.definition? handle with
  | none => rfl
  | some d => exact definition?_update_of_ne h

theorem dueCount_sweep_self (now : Instant) (r : Registry) (handle : Handle) :
    (r.sweep now handle).dueCount now handle = 0 := by
  rw [dueCount, definition?_sweep_self]
  cases r.definition? handle with
  | none => rfl
  | some d => simp [Definition.purged, ResultCache.purgeExpired_purgeExpired]

theorem dueCount_sweep_of_ne (h : other ≠ handle) (later : Instant) :
    (r.sweep now handle).dueCount later other = r.dueCount later other := by
  rw [dueCount, definition?_sweep_of_ne h, dueCount]

variable (reading : Handle → Instant)

theorem purgeHandles_cons_fst (handle : Handle) (rest : List Handle) (r : Registry) :
    (purgeHandles reading (handle :: rest) r).1 =
      r.dueCount (reading handle) handle +
        (purgeHandles reading rest (r.sweep (reading handle) handle)).1 := by
  rw [purgeHandles, dueCount, sweep]
  cases r.definition? handle with
  | none => simp
  | some d => rfl

theorem purgeHandles_fst (handles : List Handle) (r : Registry) :
    (purgeHandles reading handles r).1 =
      ∑ handle ∈ handles.toFinset, r.dueCount (reading handle) handle := by
  induction handles generalizing r with
  | nil => rfl
  | cons handle rest ih =>
    let swept := r.sweep (reading handle) handle
    have hothers : ∀ other ∈ rest.toFinset.erase handle,
        swept.dueCount (reading other) other = r.dueCount (reading other) other := by
      intro other hother
      exact dueCount_sweep_of_ne (Finset.ne_of_mem_erase hother) _
    have hself : swept.dueCount (reading handle) handle = 0 := dueCount_sweep_self _ r handle
    calc (purgeHandles reading (handle :: rest) r).1
        = r.dueCount (reading handle) handle +
            ∑ other ∈ rest.toFinset, swept.dueCount (reading other) other := by
          rw [purgeHandles_cons_fst, ih]
      _ = r.dueCount (reading handle) handle +
            ∑ other ∈ rest.toFinset.erase handle, swept.dueCount (reading other) other := by
          rw [Finset.sum_erase (f := fun other => swept.dueCount (reading other) other) _ hself]
      _ = r.dueCount (reading handle) handle +
            ∑ other ∈ (handle :: rest).toFinset.erase handle, r.dueCount (reading other) other := by
          rw [Finset.sum_congr rfl hothers, List.toFinset_cons, Finset.erase_insert_eq_erase]
      _ = ∑ other ∈ (handle :: rest).toFinset, r.dueCount (reading other) other := by
          apply Finset.add_sum_erase _ fun other => r.dueCount (reading other) other
          simp

theorem handles_purgeHandles (handles : List Handle) (r : Registry) :
    (purgeHandles reading handles r).2.handles = r.handles := by
  rw [purgeHandles_snd]
  induction handles generalizing r with
  | nil => rfl
  | cons handle rest ih => rw [List.foldl_cons, ih, handles_sweep]

theorem definition?_purgeHandles (handles : List Handle) (r : Registry) (handle : Handle) :
    (purgeHandles reading handles r).2.definition? handle =
      if handle ∈ handles then (r.definition? handle).map (Definition.purged (reading handle))
      else r.definition? handle := by
  rw [purgeHandles_snd]
  induction handles generalizing r with
  | nil => rfl
  | cons first rest ih =>
    rw [List.foldl_cons, ih]
    by_cases hfirst : handle = first
    · subst hfirst
      have htwice : Definition.purged (reading handle) ∘ Definition.purged (reading handle) =
          Definition.purged (reading handle) := funext (Definition.purged_purged _)
      rw [definition?_sweep_self, Option.map_map, htwice, ite_self, if_pos List.mem_cons_self]
    · rw [definition?_sweep_of_ne hfirst]
      simp only [List.mem_cons, hfirst, false_or]

/-- What a purge makes of a registry: every registered script loses what is due at its reading of the
clock, as many entries as `dropped` says, and nothing else changes. -/
structure Purged (r : Registry) (reading : Handle → Instant) (dropped : Handle → Nat)
    (left : Registry) : Prop where
  handles : left.handles = r.handles
  registered : ∀ handle ∈ r.registeredHandles, ∃ d cache,
    r.definition? handle = some d ∧ left.definition? handle = some { d with cache } ∧
      d.cache.Purged (reading handle) (dropped handle) cache
  others : ∀ handle ∉ r.registeredHandles, left.definition? handle = r.definition? handle

theorem purged (r : Registry) (reading : Handle → Instant) :
    r.Purged reading (fun handle => r.dueCount (reading handle) handle) (r.purgeReading reading).2 where
  handles := handles_purgeHandles reading _ r
  registered := by
    intro handle hregistered
    obtain ⟨d, hd⟩ := exists_definition?_of_registered hregistered
    have hpurged := d.cache.purged (reading handle)
    have hcount : r.dueCount (reading handle) handle = (d.cache.purgeExpired (reading handle)).1 := by
      rw [dueCount, hd, Option.map_some, Option.getD_some]
    have hleft : (r.purgeReading reading).2.definition? handle = some (d.purged (reading handle)) := by
      rw [purgeReading, definition?_purgeHandles, if_pos (List.mem_toFinset.mp hregistered), hd,
        Option.map_some]
    exact ⟨d, _, hd, hleft, hcount ▸ hpurged⟩
  others := by
    intro handle hother
    rw [purgeReading, definition?_purgeHandles, if_neg fun hmem => hother (List.mem_toFinset.mpr hmem)]

/-- Purging is exact. A cache loses the entries that are due at the reading of the clock, and nothing else,
and the answer is their number. A registry does this to every registered script, whenever it reads the
clock for each, and answers with the sum of these numbers. -/
theorem purge_is_exact :
    (∀ (cache : ResultCache) (now : Instant),
      cache.Purged now (cache.purgeExpired now).1 (cache.purgeExpired now).2) ∧
    ∀ (r : Registry) (reading : Handle → Instant), ∃ dropped : Handle → Nat,
      (r.purgeReading reading).1 = ∑ handle ∈ r.registeredHandles, dropped handle ∧
        r.Purged reading dropped (r.purgeReading reading).2 := by
  constructor
  · intro cache now
    exact cache.purged now
  · intro r reading
    exact ⟨_, purgeHandles_fst reading _ r, r.purged reading⟩

end Registry

end PlaceholderScripts
