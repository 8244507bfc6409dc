import PlaceholderScripts.Proofs.Cache.Refinement

/-!
# Caches that agree from a time on

Two caches of one policy agree from a reading of the clock on if every key reads the same live entry in both
at all later readings. They may differ in what is expired by then, and that is all a purge can change. So a
purge of one of them leaves them in agreement, every other step is taken by both alike, and no answer
tells them apart.
-/

namespace PlaceholderScripts

namespace ResultCache

/-- The caches have one policy, and from `now` on the same live entries. -/
structure AgreeFrom (now : Instant) (cache cache' : ResultCache) : Prop where
  policy : cache'.policy = cache.policy
  live : ∀ requester key later, now.nanos ≤ later.nanos →
    (cache.entryAt? requester key).filter (fun e => !e.isExpired later) =
      (cache'.entryAt? requester key).filter fun e => !e.isExpired later

namespace AgreeFrom

variable {cache cache' : ResultCache} {now later : Instant}

theorem refl (now : Instant) (cache : ResultCache) : AgreeFrom now cache cache :=
  ⟨rfl, fun _ _ _ _ => rfl⟩

theorem mono (h : AgreeFrom now cache cache') (hle : now.nanos ≤ later.nanos) :
    AgreeFrom later cache cache' :=
  ⟨h.policy, fun requester key t ht => h.live requester key t (Nat.le_trans hle ht)⟩

theorem purgeExpired_left (h : AgreeFrom later cache cache') (hle : now.nanos ≤ later.nanos) :
    AgreeFrom later (cache.purgeExpired now).2 cache' where
  policy := h.policy
  live := by
    intro requester key t ht
    rw [entryAt?_purgeExpired, filter_live_filter_live (Nat.le_trans hle ht)]
    exact h.live requester key t ht

theorem lookup_fst (h : AgreeFrom now cache cache') (hle : now.nanos ≤ later.nanos)
    (requester : RequesterKey) (key : String) :
    (cache'.lookup requester key later).1 = (cache.lookup requester key later).1 := by
  rw [ResultCache.lookup_fst, ResultCache.lookup_fst, h.live requester key later hle]

theorem store (h : AgreeFrom now cache cache') (hle : now.nanos ≤ later.nanos)
    (requester : RequesterKey) (key value : String) (stored : Instant) :
    AgreeFrom later (cache.store requester key value stored)
      (cache'.store requester key value stored) := by
  refine ⟨by rw [policy_store, policy_store, h.policy], ?_⟩
  intro requester' key' t ht
  cases henabled : cache.policy.isEnabled with
  | false =>
    have hstored : (cache.store requester key value stored).policy.isEnabled = false := by
      rwa [policy_store]
    have hstored' : (cache'.store requester key value stored).policy.isEnabled = false := by
      rwa [policy_store, h.policy]
    rw [entryAt?_of_disabled hstored, entryAt?_of_disabled hstored']
  | true =>
    have henabled' : cache'.policy.isEnabled = true := by rwa [h.policy]
    rw [entryAt?_store _ _ _ _ _ _ _ henabled, entryAt?_store _ _ _ _ _ _ _ henabled', h.policy]
    split
    · rfl
    · exact h.live requester' key' t (Nat.le_trans hle ht)

theorem lookup (h : AgreeFrom now cache cache') (hle : now.nanos ≤ later.nanos)
    (requester : RequesterKey) (key : String) :
    AgreeFrom later (cache.lookup requester key later).2 (cache'.lookup requester key later).2 := by
  refine ⟨by rw [policy_lookup, policy_lookup, h.policy], ?_⟩
  intro requester' key' t ht
  rw [entryAt?_lookup, entryAt?_lookup]
  split
  · rw [filter_live_filter_live ht, filter_live_filter_live ht]
    exact h.live requester key t (Nat.le_trans hle ht)
  · exact h.live requester' key' t (Nat.le_trans hle ht)

theorem purgeExpired (h : AgreeFrom now cache cache') (hle : now.nanos ≤ later.nanos) :
    AgreeFrom later (cache.purgeExpired later).2 (cache'.purgeExpired later).2 := by
  refine ⟨h.policy, ?_⟩
  intro requester key t ht
  rw [entryAt?_purgeExpired, entryAt?_purgeExpired, filter_live_filter_live ht,
    filter_live_filter_live ht]
  exact h.live requester key t (Nat.le_trans hle ht)

theorem clear (h : AgreeFrom now cache cache') : AgreeFrom later cache.clear cache'.clear := by
  refine ⟨h.policy, ?_⟩
  intro requester key t _
  rw [entryAt?_clear, entryAt?_clear]

theorem step (h : AgreeFrom now cache cache') (hle : now.nanos ≤ later.nanos) (s : CacheStep) :
    AgreeFrom later (cache.step later s) (cache'.step later s) := by
  cases s with
  | store requester key value => exact h.store hle requester key value later
  | lookup requester key => exact h.lookup hle requester key
  | purge => exact h.purgeExpired hle
  | clear => exact h.clear

theorem answers_singleton (h : AgreeFrom now cache cache') (hle : now.nanos ≤ later.nanos)
    (s : CacheStep) : cache'.answers [(later, s)] = cache.answers [(later, s)] := by
  cases s with
  | lookup requester key => exact congrArg (· :: []) (h.lookup_fst hle requester key)
  | store requester key value => rfl
  | purge => rfl
  | clear => rfl

end AgreeFrom

end ResultCache

end PlaceholderScripts
