import Mathlib
import PlaceholderScripts.Cache.Results

/-!
# Purging a cache

A purge leaves exactly the entries that do not expire by its reading of the clock, each with its value and
its expiry, and drops the buckets that have none. All entries of a cache are listed with their
requesters and keys: a purge filters this list, its answer is the number of entries that it takes out, and
the size of a cache is the length of the list.
-/

namespace PlaceholderScripts

def CacheEntry.IsDue (now : Instant) (entry : CacheEntry) : Prop :=
  ∃ expiry, entry.expiresAt = some expiry ∧ expiry.nanos ≤ now.nanos

theorem CacheEntry.isExpired_iff {now : Instant} {entry : CacheEntry} :
    entry.isExpired now = true ↔ entry.IsDue now := by
  unfold isExpired IsDue
  cases entry.expiresAt with
  | none => simp
  | some expiry => simp

namespace Buckets

def listIn (es : List (RequesterKey × Bucket)) : List ((RequesterKey × String) × CacheEntry) :=
  es.flatMap fun e => e.2.entries.map fun x => ((e.1, x.1), x.2)

variable {es : List (RequesterKey × Bucket)}

theorem listIn_cons (e : RequesterKey × Bucket) (es : List (RequesterKey × Bucket)) :
    listIn (e :: es) = (e.2.entries.map fun x => ((e.1, x.1), x.2)) ++ listIn es := rfl

theorem listIn_liveIn (now : Instant) (es : List (RequesterKey × Bucket)) :
    listIn (liveIn now es) = (listIn es).filter fun x => !x.2.isExpired now := by
  induction es with
  | nil => rfl
  | cons e es ih =>
    have hlive : ((liveEntries now e.2).entries.map fun x => ((e.1, x.1), x.2)) =
        (e.2.entries.map fun x => ((e.1, x.1), x.2)).filter fun x => !x.2.isExpired now := by
      rw [List.filter_map]
      rfl
    rw [listIn_cons, List.filter_append, ← ih, ← hlive]
    by_cases hempty : (liveEntries now e.2).isEmpty = true
    · have hnone : (liveEntries now e.2).entries = [] := List.isEmpty_iff.mp hempty
      have hdropped : liveIn now (e :: es) = liveIn now es := by simp [liveIn, hempty]
      rw [hdropped, hnone, List.map_nil, List.nil_append]
    · have hkept : liveIn now (e :: es) = (e.1, liveEntries now e.2) :: liveIn now es := by
        simp [liveIn, hempty]
      rw [hkept, listIn_cons]

theorem not_isEmpty_of_mem_liveIn {now : Instant} {e : RequesterKey × Bucket} (h : e ∈ liveIn now es) :
    e.2.isEmpty = false := by
  have hfiltered := (List.mem_filter.mp h).2
  simpa using hfiltered

theorem liveIn_liveIn (now : Instant) (es : List (RequesterKey × Bucket)) :
    liveIn now (liveIn now es) = liveIn now es := by
  have hlive : ∀ bucket : Bucket, liveEntries now (liveEntries now bucket) = liveEntries now bucket := by
    intro bucket
    apply Dict.ext_entries
    simp [liveEntries, Dict.filter, List.filter_filter]
  have hsame : (liveIn now es).map (fun e => (e.1, liveEntries now e.2)) = liveIn now es := by
    have hentry : ∀ e ∈ liveIn now es, (e.1, liveEntries now e.2) = id e := by
      intro e he
      obtain ⟨e', -, heq⟩ := List.mem_map.mp (List.mem_filter.mp he).1
      rw [← heq, hlive]
      rfl
    rw [List.map_congr_left hentry, List.map_id]
  have hfilter : (liveIn now es).filter (fun e => !e.2.isEmpty) = liveIn now es := by
    apply List.filter_eq_self.mpr
    intro e he
    rw [not_isEmpty_of_mem_liveIn he]
    rfl
  change ((liveIn now es).map fun e => (e.1, liveEntries now e.2)).filter _ = _
  rw [hsame, hfilter]

theorem mem_listIn_iff (hdistinct : (es.map Prod.fst).Nodup) {requester : RequesterKey} {key : String}
    {entry : CacheEntry} :
    ((requester, key), entry) ∈ listIn es ↔ (bucketIn requester es).get? key = some entry := by
  induction es with
  | nil => simp [listIn, bucketIn]
  | cons e es ih =>
    obtain ⟨r, bucket⟩ := e
    obtain ⟨hhead, hrest⟩ := List.nodup_cons.mp hdistinct
    rw [listIn_cons, List.mem_append, ih hrest, bucketIn]
    by_cases hr : requester = r
    · subst hr
      have hother : (Dict.empty : Bucket).get? key = none := rfl
      rw [if_pos rfl, bucketIn_of_not_mem hhead, hother, Dict.get?_eq_some_iff]
      simp
    · rw [if_neg hr]
      simp [Ne.symm hr]

theorem nodup_listIn (hdistinct : (es.map Prod.fst).Nodup) : ((listIn es).map Prod.fst).Nodup := by
  induction es with
  | nil => exact List.nodup_nil
  | cons e es ih =>
    obtain ⟨hhead, hrest⟩ := List.nodup_cons.mp hdistinct
    have hbucket : ((e.2.entries.map fun x => ((e.1, x.1), x.2)).map Prod.fst).Nodup := by
      have hpairs : (e.2.entries.map fun x => ((e.1, x.1), x.2)).map Prod.fst =
          (e.2.entries.map Prod.fst).map (e.1, ·) := by simp
      rw [hpairs]
      exact e.2.nodup_keys.map (Prod.mk_right_injective e.1)
    rw [listIn_cons, List.map_append]
    apply hbucket.append (ih hrest)
    intro keys hmem hmem'
    -- a requester of the rest is not that of the first bucket
    have hfirst : keys.1 = e.1 := by
      simp only [List.map_map, List.mem_map] at hmem
      obtain ⟨x, -, hx⟩ := hmem
      rw [← hx]
      rfl
    have hother : keys.1 ∈ es.map Prod.fst := by
      simp only [listIn, List.mem_map, List.mem_flatMap] at hmem'
      obtain ⟨x, ⟨e', he', y, -, hy⟩, hx⟩ := hmem'
      rw [← hx, ← hy]
      exact List.mem_map_of_mem he'
    exact hhead (hfirst ▸ hother)

theorem count_eq_length (buckets : Buckets) : buckets.count = (listIn buckets.entries).length := by
  unfold count
  generalize buckets.entries = es
  induction es with
  | nil => rfl
  | cons e es ih =>
    rw [List.foldr_cons, ih, listIn_cons, List.length_append, List.length_map]
    rfl

theorem countExpired_eq_length (now : Instant) (buckets : Buckets) :
    buckets.countExpired now = ((listIn buckets.entries).filter fun x => x.2.isExpired now).length := by
  unfold countExpired
  generalize buckets.entries = es
  induction es with
  | nil => rfl
  | cons e es ih =>
    have hbucket : e.2.size - (liveEntries now e.2).size =
        (e.2.entries.filter fun x => x.2.isExpired now).length := by
      have hsplit := List.length_eq_length_filter_add (l := e.2.entries) fun x => x.2.isExpired now
      simp only [Dict.size, liveEntries, Dict.filter]
      omega
    rw [List.foldr_cons, ih, hbucket, listIn_cons, List.filter_append, List.length_append, List.filter_map,
      List.length_map]
    rfl

end Buckets

namespace ResultCache

variable (cache : ResultCache) (now : Instant)

def entryList : List ((RequesterKey × String) × CacheEntry) :=
  (cache.buckets.map fun buckets => Buckets.listIn buckets.entries).getD []

variable {cache} {now}

theorem mem_entryList_iff {requester : RequesterKey} {key : String} {entry : CacheEntry} :
    ((requester, key), entry) ∈ cache.entryList ↔ cache.entryAt? requester key = some entry := by
  unfold entryList entryAt?
  cases cache.buckets with
  | none => simp
  | some buckets => exact Buckets.mem_listIn_iff buckets.distinct

theorem nodup_entryList : (cache.entryList.map Prod.fst).Nodup := by
  unfold entryList
  cases cache.buckets with
  | none => exact List.nodup_nil
  | some buckets => exact Buckets.nodup_listIn buckets.distinct

theorem size_eq_length : cache.size = cache.entryList.length := by
  unfold size entryList
  cases cache.buckets with
  | none => rfl
  | some buckets => exact buckets.count_eq_length

theorem purgeExpired_fst :
    (cache.purgeExpired now).1 = (cache.entryList.filter fun x => x.2.isExpired now).length := by
  unfold purgeExpired entryList
  cases cache.buckets with
  | none => rfl
  | some buckets => exact buckets.countExpired_eq_length now

theorem entryList_purgeExpired :
    (cache.purgeExpired now).2.entryList = cache.entryList.filter fun x => !x.2.isExpired now := by
  obtain ⟨policy, buckets, hallocated⟩ := cache
  cases buckets with
  | none => rfl
  | some buckets => exact Buckets.listIn_liveIn now buckets.entries

/-- The keys of the entries that satisfy `p` are as many as these entries. -/
theorem encard_keys (p : CacheEntry → Bool) :
    {keys : RequesterKey × String | ∃ entry, cache.entryAt? keys.1 keys.2 = some entry ∧ p entry = true}.encard =
      (cache.entryList.filter fun x => p x.2).length := by
  let found := cache.entryList.filter fun x => p x.2
  have hnodup : (found.map Prod.fst).Nodup :=
    nodup_entryList.sublist (List.filter_sublist.map Prod.fst)
  have hset : {keys : RequesterKey × String |
      ∃ entry, cache.entryAt? keys.1 keys.2 = some entry ∧ p entry = true} =
        ((found.map Prod.fst).toFinset : Set (RequesterKey × String)) := by
    ext keys
    simp only [Set.mem_ofPred_eq, List.coe_toFinset, List.mem_map, found, List.mem_filter]
    constructor
    · intro h
      obtain ⟨entry, hentry, hp⟩ := h
      exact ⟨(keys, entry), ⟨mem_entryList_iff.mpr hentry, hp⟩, rfl⟩
    · intro h
      obtain ⟨x, ⟨hx, hp⟩, heq⟩ := h
      subst heq
      exact ⟨x.2, mem_entryList_iff.mp hx, hp⟩
  rw [hset, Set.encard_coe_eq_coe_finsetCard, List.toFinset_card_of_nodup hnodup, List.length_map]

/-- What a purge at a reading of the clock makes of a cache, and how many entries it says that it dropped. -/
structure Purged (cache : ResultCache) (now : Instant) (dropped : Nat) (left : ResultCache) : Prop where
  policy : left.policy = cache.policy
  /-- An entry is left, with its value and expiry, unless it is due. -/
  entries : ∀ requester key entry, left.entryAt? requester key = some entry ↔
    cache.entryAt? requester key = some entry ∧ ¬ entry.IsDue now
  /-- As many keys as it says have lost their entries. -/
  lost : {keys : RequesterKey × String |
    ∃ entry, cache.entryAt? keys.1 keys.2 = some entry ∧ entry.IsDue now}.encard = dropped
  size : left.size + dropped = cache.size
  buckets : ∀ buckets, left.buckets = some buckets → ∀ e ∈ buckets.entries, e.2.isEmpty = false
  /-- Another purge at the same reading finds nothing to drop. -/
  again : left.purgeExpired now = (0, left)

theorem purgeExpired_purgeExpired :
    (cache.purgeExpired now).2.purgeExpired now = (0, (cache.purgeExpired now).2) := by
  have hnone : ((cache.purgeExpired now).2.purgeExpired now).1 = 0 := by
    rw [purgeExpired_fst, entryList_purgeExpired, List.filter_filter, List.length_eq_zero_iff,
      List.filter_eq_nil_iff]
    simp
  have hsame : ((cache.purgeExpired now).2.purgeExpired now).2 = (cache.purgeExpired now).2 := by
    obtain ⟨policy, buckets, hallocated⟩ := cache
    cases buckets with
    | none => rfl
    | some buckets =>
      have hlive : (buckets.live now).live now = buckets.live now := by
        simp only [Buckets.live, Buckets.liveIn_liveIn]
      simp only [purgeExpired, update, Option.map_some, hlive]
  exact Prod.ext hnone hsame

theorem purged (cache : ResultCache) (now : Instant) :
    cache.Purged now (cache.purgeExpired now).1 (cache.purgeExpired now).2 where
  policy := rfl
  entries := by
    intro requester key entry
    rw [entryAt?_purgeExpired, Option.filter_eq_some_iff, ← CacheEntry.isExpired_iff]
    simp
  lost := by
    simp only [← CacheEntry.isExpired_iff]
    rw [encard_keys, purgeExpired_fst]
  size := by
    rw [size_eq_length, size_eq_length, entryList_purgeExpired, purgeExpired_fst, Nat.add_comm]
    exact (List.length_eq_length_filter_add _).symm
  buckets := by
    intro buckets hbuckets e he
    obtain ⟨before, -, heq⟩ := Option.map_eq_some_iff.mp hbuckets
    rw [← heq] at he
    exact Buckets.not_isEmpty_of_mem_liveIn he
  again := purgeExpired_purgeExpired

end ResultCache

end PlaceholderScripts
