import PlaceholderScripts.Cache.Results

/-!
# Caches as tables of stores

What a cache is to its callers: a flat table of all that was stored in it since it was last cleared. A
lookup answers with the latest store under its keys while that one lives. A cache represents such a
table from a clock reading on; which entries it has dropped by then makes no difference, because a
result that has expired once never lives again.
-/

namespace PlaceholderScripts

structure Deposit where
  requester : RequesterKey
  key : String
  value : String
  storedAt : Instant
  deriving DecidableEq, Repr

namespace Deposit

def isUnder (requester : RequesterKey) (key : String) (d : Deposit) : Bool :=
  decide (d.requester = requester ∧ d.key = key)

/-- A result of one requester under a time-boxed policy lives until the time of its store plus the
lifetime, also where that exact sum is no reading of the clock. All other results live forever. -/
def isLive (policy : CachePolicy) (now : Instant) (d : Deposit) : Bool :=
  match d.requester, policy with
  | .requester _, .timeBoxed _ _ ttl => now.nanos < d.storedAt.nanos + ttl.nanos
  | _, _ => true

def entry (policy : CachePolicy) (d : Deposit) : CacheEntry :=
  ⟨d.value, ResultCache.expiry policy d.requester d.storedAt⟩

/-- An expiry that the clock cannot represent is behind all of its readings. -/
theorem isExpired_entry (policy : CachePolicy) (now : Instant) (d : Deposit) :
    (d.entry policy).isExpired now = !d.isLive policy now := by
  obtain ⟨requester, key, value, storedAt⟩ := d
  cases requester with
  | shared => rfl
  | requester id =>
    cases policy with
    | disabled => rfl
    | static => rfl
    | timeBoxed amount unit ttl =>
      have hnow := now.bounded
      simp only [entry, ResultCache.expiry, CachePolicy.ttl?, Option.bind_some, Instant.after?_eq,
        Instant.ofNanos?, CacheEntry.isExpired, isLive]
      by_cases hsum : storedAt.nanos + ttl.nanos < 2 ^ 63 * nanosPerSecond
      · rw [dif_pos hsum, ← decide_not]
        exact decide_eq_decide.mpr Nat.not_lt.symm
      · -- the exact sum is no reading, so no reading reaches it
        rw [dif_neg hsum]
        have hlive : now.nanos < storedAt.nanos + ttl.nanos := by omega
        simp [hlive]

/-- Of two results of one requester the one that was stored later does not expire before the other. -/
theorem isLive_of_storedAt_le {policy : CachePolicy} {now : Instant} {earlier later : Deposit}
    (hsame : earlier.requester = later.requester)
    (hle : earlier.storedAt.nanos ≤ later.storedAt.nanos)
    (h : earlier.isLive policy now = true) : later.isLive policy now = true := by
  unfold isLive at h ⊢
  rw [hsame] at h
  split
  · next id amount unit ttl hid =>
    rw [hid] at h
    rw [decide_eq_true_eq] at h ⊢
    omega
  · rfl

end Deposit

/-- Everything that was stored, the latest first. -/
abbrev Memo := List Deposit

namespace Memo

def latest? (memo : Memo) (requester : RequesterKey) (key : String) : Option Deposit :=
  memo.find? (Deposit.isUnder requester key)

/-- What the table answers under a policy. -/
def answer (policy : CachePolicy) (memo : Memo) (requester : RequesterKey) (key : String)
    (now : Instant) : Option String :=
  if policy.isEnabled then
    ((memo.latest? requester key).filter (Deposit.isLive policy now)).map Deposit.value
  else none

theorem latest?_cons (d : Deposit) (memo : Memo) (requester : RequesterKey) (key : String) :
    latest? (d :: memo) requester key =
      if requester = d.requester ∧ key = d.key then some d else memo.latest? requester key := by
  rw [latest?, List.find?_cons]
  by_cases hkeys : requester = d.requester ∧ key = d.key
  · simp [Deposit.isUnder, hkeys]
  · have hother : Deposit.isUnder requester key d = false := by
      rw [Deposit.isUnder, decide_eq_false_iff_not]
      exact fun h => hkeys ⟨h.1.symm, h.2.symm⟩
    rw [hother, if_neg hkeys]
    rfl

def Ordered (memo : Memo) : Prop :=
  memo.Pairwise fun later earlier => earlier.storedAt.nanos ≤ later.storedAt.nanos

/-- Behind a store that is no longer live there is no live one under the same keys. -/
theorem Ordered.filter_latest? {memo : Memo} (h : memo.Ordered) (policy : CachePolicy)
    (now : Instant) (requester : RequesterKey) (key : String) :
    (memo.latest? requester key).filter (Deposit.isLive policy now) =
      memo.find? fun d => d.isUnder requester key && d.isLive policy now := by
  induction memo with
  | nil => rfl
  | cons d rest ih =>
    obtain ⟨hearlier, hrest⟩ := List.pairwise_cons.mp h
    rw [latest?, List.find?_cons, List.find?_cons]
    cases hunder : d.isUnder requester key with
    | false => exact ih hrest
    | true =>
      cases hlive : d.isLive policy now with
      | true => simp [Option.filter_some, hlive]
      | false =>
        have hnone : ∀ e ∈ rest, ¬ (e.isUnder requester key && e.isLive policy now) = true := by
          intro e he hanswers
          rw [Bool.and_eq_true] at hanswers
          have hsame : e.requester = d.requester :=
            (of_decide_eq_true hanswers.1).1.trans (of_decide_eq_true hunder).1.symm
          have hlater := Deposit.isLive_of_storedAt_le hsame (hearlier e he) hanswers.2
          rw [hlive] at hlater
          exact Bool.noConfusion hlater
        rw [Bool.true_and, List.find?_eq_none.mpr hnone]
        exact Option.filter_some_neg (by simp [hlive])

end Memo

theorem CacheEntry.isExpired_mono {now later : Instant} (h : now.nanos ≤ later.nanos)
    (entry : CacheEntry) (hlive : entry.isExpired later = false) : entry.isExpired now = false := by
  unfold isExpired at hlive ⊢
  split
  · next at_ hat =>
    rw [hat, decide_eq_false_iff_not] at hlive
    rw [decide_eq_false_iff_not]
    omega
  · rfl

theorem filter_live_filter_live {now later : Instant} (h : now.nanos ≤ later.nanos)
    (found : Option CacheEntry) :
    (found.filter fun e => !e.isExpired now).filter (fun e => !e.isExpired later) =
      found.filter fun e => !e.isExpired later := by
  rw [Option.filter_filter]
  congr
  funext e
  cases hlater : e.isExpired later with
  | true => simp
  | false => simp [e.isExpired_mono h hlater]

namespace ResultCache

/-- From `now` on the live entries of the cache are the live ones among the latest stores. -/
def Represents (cache : ResultCache) (memo : Memo) (now : Instant) : Prop :=
  ∀ requester key later, now.nanos ≤ later.nanos →
    (cache.entryAt? requester key).filter (fun e => !e.isExpired later) =
      ((memo.latest? requester key).map (Deposit.entry cache.policy)).filter
        fun e => !e.isExpired later

namespace Represents

variable {cache : ResultCache} {memo : Memo} {now later : Instant}

theorem mono (h : cache.Represents memo now) (hle : now.nanos ≤ later.nanos) :
    cache.Represents memo later :=
  fun requester key t ht => h requester key t (Nat.le_trans hle ht)

theorem of_entryAt?_eq_none (h : ∀ requester key, cache.entryAt? requester key = none)
    (now : Instant) : cache.Represents [] now := by
  intro requester key later _
  rw [h]
  rfl

theorem store (h : cache.Represents memo now) (henabled : cache.policy.isEnabled = true)
    (requester : RequesterKey) (key value : String) (stored : Instant)
    (hle : now.nanos ≤ later.nanos) :
    (cache.store requester key value stored).Represents
      (⟨requester, key, value, stored⟩ :: memo) later := by
  intro requester' key' t ht
  rw [entryAt?_store _ _ _ _ _ _ _ henabled, Memo.latest?_cons]
  split
  · rfl
  · exact h requester' key' t (Nat.le_trans hle ht)

theorem lookup (h : cache.Represents memo now) (hle : now.nanos ≤ later.nanos)
    (requester : RequesterKey) (key : String) :
    (cache.lookup requester key later).2.Represents memo later := by
  intro requester' key' t ht
  have hlater := h requester' key' t (Nat.le_trans hle ht)
  rw [entryAt?_lookup, policy_lookup, ← hlater]
  split
  · next hkeys => rw [filter_live_filter_live ht, hkeys.1, hkeys.2]
  · rfl

theorem purgeExpired (h : cache.Represents memo now) (hle : now.nanos ≤ later.nanos) :
    (cache.purgeExpired later).2.Represents memo later := by
  intro requester key t ht
  rw [entryAt?_purgeExpired, filter_live_filter_live ht]
  exact h requester key t (Nat.le_trans hle ht)

theorem clear (cache : ResultCache) (now : Instant) : cache.clear.Represents [] now :=
  of_entryAt?_eq_none (fun requester key => entryAt?_clear cache requester key) now

theorem lookup_fst (h : cache.Represents memo now) (henabled : cache.policy.isEnabled = true)
    (hle : now.nanos ≤ later.nanos) (requester : RequesterKey) (key : String) :
    (cache.lookup requester key later).1 = memo.answer cache.policy requester key later := by
  have hlive : (fun e : CacheEntry => !e.isExpired later) ∘ Deposit.entry cache.policy =
      Deposit.isLive cache.policy later := by
    funext d
    rw [Function.comp_apply, Deposit.isExpired_entry, Bool.not_not]
  rw [ResultCache.lookup_fst, h requester key later hle, Option.filter_map, Option.map_map, hlive,
    Memo.answer, if_pos henabled]
  rfl

end Represents

structure Keeps (cache : ResultCache) (memo : Memo) (now : Instant) : Prop where
  represents : cache.Represents memo now
  ordered : memo.Ordered
  past : ∀ dep ∈ memo, dep.storedAt.nanos ≤ now.nanos

namespace Keeps

variable {cache : ResultCache} {memo : Memo} {now later : Instant}

theorem mono (h : cache.Keeps memo now) (hle : now.nanos ≤ later.nanos) : cache.Keeps memo later where
  represents := h.represents.mono hle
  ordered := h.ordered
  past := fun dep hdep => Nat.le_trans (h.past dep hdep) hle

theorem store (h : cache.Keeps memo now) (henabled : cache.policy.isEnabled = true)
    (hle : now.nanos ≤ later.nanos) (requester : RequesterKey) (key value : String) :
    (cache.store requester key value later).Keeps (⟨requester, key, value, later⟩ :: memo) later where
  represents := h.represents.store henabled requester key value later hle
  ordered := List.pairwise_cons.mpr ⟨(h.mono hle).past, h.ordered⟩
  past := List.forall_mem_cons.mpr ⟨Nat.le_refl _, (h.mono hle).past⟩

theorem lookup (h : cache.Keeps memo now) (hle : now.nanos ≤ later.nanos) (requester : RequesterKey)
    (key : String) : (cache.lookup requester key later).2.Keeps memo later :=
  { h.mono hle with represents := h.represents.lookup hle requester key }

/-- A cleaning may go by a reading of the clock that is a while ago. -/
theorem purgeExpired (h : cache.Keeps memo now) {reading : Instant} (hle : reading.nanos ≤ now.nanos) :
    (cache.purgeExpired reading).2.Keeps memo now := by
  refine { h with represents := fun requester key t ht => ?_ }
  rw [entryAt?_purgeExpired, filter_live_filter_live (Nat.le_trans hle ht)]
  exact h.represents requester key t ht

theorem lookup_fst (h : cache.Keeps memo now) (henabled : cache.policy.isEnabled = true)
    (hle : now.nanos ≤ later.nanos) (requester : RequesterKey) (key : String) :
    (cache.lookup requester key later).1 =
      (memo.find? fun dep => dep.isUnder requester key && dep.isLive cache.policy later).map
        Deposit.value := by
  rw [h.represents.lookup_fst henabled hle, Memo.answer, if_pos henabled, h.ordered.filter_latest?]

end Keeps

theorem entryAt?_of_disabled {cache : ResultCache} (h : cache.policy.isEnabled = false)
    (requester : RequesterKey) (key : String) : cache.entryAt? requester key = none := by
  rw [entryAt?, buckets_of_disabled h]
  rfl

end ResultCache

end PlaceholderScripts
