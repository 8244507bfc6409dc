import PlaceholderScripts.Cache.Policy
import PlaceholderScripts.Dict
import PlaceholderScripts.Identity

/-!
# Cached results

Results are kept by requester and by the key of the call's arguments. A cache keeps nothing unless
its policy is enabled. Entries of the shared bucket never expire; the entries of one requester
expire a fixed time after they were stored, from the first clock reading at or behind that time.
-/

namespace PlaceholderScripts

/-- Whose bucket a call uses. -/
inductive RequesterKey where
  | shared
  | requester (id : PlayerId)
  deriving DecidableEq, Repr

/-- Only a time-boxed policy keeps the results of known requesters apart. -/
def RequesterKey.resolve (policy : CachePolicy) (requester : Option PlayerId) : RequesterKey :=
  match policy, requester with
  | .timeBoxed _ _ _, some id => .requester id
  | _, _ => .shared

/-- Known requesters have buckets of their own under a time-boxed policy. -/
theorem RequesterKey.resolve_timeBoxed_inj {amount : UInt64} {unit : TimeUnit} {ttl : Duration}
    {requester other : Option PlayerId}
    (h : resolve (.timeBoxed amount unit ttl) requester = resolve (.timeBoxed amount unit ttl) other) :
    requester = other := by
  cases requester <;> cases other <;> simp_all [resolve]

/-- The arguments of a call as one key. No arguments and a single empty one have the same key. -/
def argumentKey (args : List String) : String := "_".intercalate args

structure CacheEntry where
  value : String
  expiresAt : Option Instant
  deriving DecidableEq, Repr

/-- An entry is expired from its expiry on. -/
def CacheEntry.isExpired (now : Instant) (entry : CacheEntry) : Bool :=
  match entry.expiresAt with
  | some at_ => at_.nanos ≤ now.nanos
  | none => false

abbrev Bucket := Dict CacheEntry

def liveEntries (now : Instant) (bucket : Bucket) : Bucket :=
  bucket.filter fun entry => !entry.isExpired now

structure Buckets where
  entries : List (RequesterKey × Bucket)
  distinct : (entries.map Prod.fst).Nodup

namespace Buckets

def empty : Buckets := ⟨[], List.nodup_nil⟩

/-- The bucket of a requester, empty where there is none. -/
def bucketIn (requester : RequesterKey) : List (RequesterKey × Bucket) → Bucket
  | [] => .empty
  | (r, b) :: rest => if requester = r then b else bucketIn requester rest

/-- Replaces the bucket of a requester, behind the others where there was none. -/
def setBucketIn (requester : RequesterKey) (bucket : Bucket) :
    List (RequesterKey × Bucket) → List (RequesterKey × Bucket)
  | [] => [(requester, bucket)]
  | (r, b) :: rest =>
    if requester = r then (r, bucket) :: rest else (r, b) :: setBucketIn requester bucket rest

theorem bucketIn_setBucketIn (requester requester' : RequesterKey) (bucket : Bucket)
    (es : List (RequesterKey × Bucket)) :
    bucketIn requester' (setBucketIn requester bucket es) =
      if requester' = requester then bucket else bucketIn requester' es := by
  induction es with
  | nil => rfl
  | cons e rest ih =>
    obtain ⟨r, b⟩ := e
    simp only [setBucketIn]
    split
    · next h => subst h; by_cases h' : requester' = requester <;> simp [bucketIn, h']
    · next h =>
      by_cases hr : requester' = r
      · subst hr; simp [bucketIn, Ne.symm h]
      · simp [bucketIn, hr, ih]

theorem mem_setBucketIn {requester r : RequesterKey} {bucket : Bucket}
    {es : List (RequesterKey × Bucket)} (h : r ∈ (setBucketIn requester bucket es).map Prod.fst) :
    r = requester ∨ r ∈ es.map Prod.fst := by
  induction es with
  | nil => simpa [setBucketIn] using h
  | cons e rest ih =>
    simp only [setBucketIn] at h
    split at h
    · exact .inr h
    · rcases List.mem_cons.mp h with h | h
      · exact .inr (h ▸ List.mem_cons_self)
      · exact (ih h).imp_right (List.mem_cons_of_mem _)

theorem nodup_setBucketIn (requester : RequesterKey) (bucket : Bucket)
    {es : List (RequesterKey × Bucket)} (h : (es.map Prod.fst).Nodup) :
    ((setBucketIn requester bucket es).map Prod.fst).Nodup := by
  induction es with
  | nil => simp [setBucketIn]
  | cons e rest ih =>
    obtain ⟨hhead, hrest⟩ := List.nodup_cons.mp h
    simp only [setBucketIn]
    split
    · exact h
    · next hne =>
      refine List.nodup_cons.mpr ⟨fun hmem => ?_, ih hrest⟩
      rcases mem_setBucketIn hmem with heq | hmem
      · exact hne heq.symm
      · exact hhead hmem

def bucket (buckets : Buckets) (requester : RequesterKey) : Bucket :=
  bucketIn requester buckets.entries

def setBucket (buckets : Buckets) (requester : RequesterKey) (bucket : Bucket) : Buckets :=
  ⟨setBucketIn requester bucket buckets.entries, nodup_setBucketIn requester bucket buckets.distinct⟩

def liveIn (now : Instant) (es : List (RequesterKey × Bucket)) : List (RequesterKey × Bucket) :=
  (es.map fun e => (e.1, liveEntries now e.2)).filter fun e => !e.2.isEmpty

theorem map_fst_liveIn_sublist (now : Instant) (es : List (RequesterKey × Bucket)) :
    ((liveIn now es).map Prod.fst).Sublist (es.map Prod.fst) := by
  have hkeys : es.map Prod.fst = (es.map fun e => (e.1, liveEntries now e.2)).map Prod.fst := by
    rw [List.map_map]
    rfl
  rw [hkeys]
  exact List.filter_sublist.map _

def live (now : Instant) (buckets : Buckets) : Buckets :=
  ⟨liveIn now buckets.entries, buckets.distinct.sublist (map_fst_liveIn_sublist now _)⟩

def count (buckets : Buckets) : Nat := buckets.entries.foldr (fun e n => e.2.size + n) 0

def countExpired (now : Instant) (buckets : Buckets) : Nat :=
  buckets.entries.foldr (fun e n => (e.2.size - (liveEntries now e.2).size) + n) 0

@[simp] theorem bucket_empty (requester : RequesterKey) : empty.bucket requester = .empty := rfl

theorem bucket_setBucket (buckets : Buckets) (requester requester' : RequesterKey) (b : Bucket) :
    (buckets.setBucket requester b).bucket requester' =
      if requester' = requester then b else buckets.bucket requester' :=
  bucketIn_setBucketIn requester requester' b buckets.entries

theorem bucketIn_of_not_mem {requester : RequesterKey} {es : List (RequesterKey × Bucket)}
    (h : requester ∉ es.map Prod.fst) : bucketIn requester es = .empty := by
  induction es with
  | nil => rfl
  | cons e rest ih =>
    rw [List.map_cons, List.mem_cons, not_or] at h
    rw [bucketIn, if_neg h.1, ih h.2]

/-- A key reads its live entry after a purge, also where its bucket is dropped. -/
theorem get?_bucketIn_liveIn {es : List (RequesterKey × Bucket)} (h : (es.map Prod.fst).Nodup)
    (now : Instant) (requester : RequesterKey) (key : String) :
    (bucketIn requester (liveIn now es)).get? key =
      (liveEntries now (bucketIn requester es)).get? key := by
  induction es with
  | nil => rfl
  | cons e rest ih =>
    obtain ⟨r, b⟩ := e
    obtain ⟨hhead, hrest⟩ := List.nodup_cons.mp h
    by_cases hempty : (liveEntries now b).isEmpty = true
    · have hdropped : liveIn now ((r, b) :: rest) = liveIn now rest := by
        simp [liveIn, hempty]
      rw [hdropped]
      by_cases hr : requester = r
      · subst hr
        have hnone : requester ∉ (liveIn now rest).map Prod.fst := fun hmem =>
          hhead ((map_fst_liveIn_sublist now rest).subset hmem)
        rw [bucketIn_of_not_mem hnone, bucketIn, if_pos rfl, Dict.get?_of_isEmpty hempty]
        rfl
      · rw [ih hrest, bucketIn, if_neg hr]
    · have hkept : liveIn now ((r, b) :: rest) = (r, liveEntries now b) :: liveIn now rest := by
        simp [liveIn, hempty]
      rw [hkept]
      by_cases hr : requester = r
      · rw [bucketIn, if_pos hr, bucketIn, if_pos hr]
      · rw [bucketIn, if_neg hr, bucketIn, if_neg hr, ih hrest]

theorem get?_bucketIn_of_count_eq_zero {es : List (RequesterKey × Bucket)}
    (h : es.foldr (fun e n => e.2.size + n) 0 = 0) (requester : RequesterKey) (key : String) :
    (bucketIn requester es).get? key = none := by
  induction es with
  | nil => rfl
  | cons e rest ih =>
    rw [List.foldr_cons, Nat.add_eq_zero_iff] at h
    obtain ⟨hsize, hrest⟩ := h
    rw [bucketIn]
    split
    · exact Dict.get?_of_isEmpty (List.isEmpty_iff.mpr (List.length_eq_zero_iff.mp hsize)) key
    · exact ih hrest

end Buckets

/-- Results under a policy. The buckets are there exactly when the policy is enabled. -/
structure ResultCache where
  policy : CachePolicy
  buckets : Option Buckets
  allocated : buckets.isSome = policy.isEnabled

namespace ResultCache

def new (policy : CachePolicy) : ResultCache :=
  ⟨policy, if policy.isEnabled then some .empty else none, by cases policy <;> rfl⟩

instance : Inhabited ResultCache := ⟨new .disabled⟩

def isAllocated (cache : ResultCache) : Bool := cache.buckets.isSome

/-- Changes the buckets, if there are any. -/
def update (cache : ResultCache) (f : Buckets → Buckets) : ResultCache :=
  { cache with
    buckets := cache.buckets.map f
    allocated := by rw [Option.isSome_map, cache.allocated] }

/-- The entry under a key, expired or not. -/
def entryAt? (cache : ResultCache) (requester : RequesterKey) (key : String) : Option CacheEntry :=
  cache.buckets.bind fun buckets => (buckets.bucket requester).get? key

/-- The live result under a key. An expired one is dropped. -/
def lookup (cache : ResultCache) (requester : RequesterKey) (key : String) (now : Instant) :
    Option String × ResultCache :=
  match cache.entryAt? requester key with
  | none => (none, cache)
  | some entry =>
    if entry.isExpired now then
      (none, cache.update fun buckets =>
        buckets.setBucket requester ((buckets.bucket requester).erase key))
    else (some entry.value, cache)

/-- When a result stored at `now` expires; never, where the clock has no such reading. -/
def expiry (policy : CachePolicy) (requester : RequesterKey) (now : Instant) : Option Instant :=
  match requester with
  | .shared => none
  | .requester _ => policy.ttl?.bind now.after?

/-- Keeps a result, in the place of an earlier one under the same keys. -/
def store (cache : ResultCache) (requester : RequesterKey) (key value : String) (now : Instant) :
    ResultCache :=
  cache.update fun buckets =>
    buckets.setBucket requester
      ((buckets.bucket requester).insert key ⟨value, expiry cache.policy requester now⟩)

def purgeExpired (cache : ResultCache) (now : Instant) : Nat × ResultCache :=
  ((cache.buckets.map (Buckets.countExpired now)).getD 0, cache.update (Buckets.live now))

def size (cache : ResultCache) : Nat := (cache.buckets.map Buckets.count).getD 0

def clear (cache : ResultCache) : ResultCache := cache.update fun _ => .empty

@[simp] theorem policy_new (policy : CachePolicy) : (new policy).policy = policy := rfl

@[simp] theorem policy_store (cache : ResultCache) (requester : RequesterKey) (key value : String)
    (now : Instant) : (cache.store requester key value now).policy = cache.policy := rfl

@[simp] theorem policy_lookup (cache : ResultCache) (requester : RequesterKey) (key : String)
    (now : Instant) : (cache.lookup requester key now).2.policy = cache.policy := by
  unfold lookup
  split
  · rfl
  · split <;> rfl

@[simp] theorem policy_purgeExpired (cache : ResultCache) (now : Instant) :
    (cache.purgeExpired now).2.policy = cache.policy := rfl

@[simp] theorem policy_clear (cache : ResultCache) : cache.clear.policy = cache.policy := rfl

theorem buckets_of_disabled {cache : ResultCache} (h : cache.policy.isEnabled = false) :
    cache.buckets = none := by
  have hnone := cache.allocated.trans h
  rwa [Option.isSome_eq_false_iff, Option.isNone_iff_eq_none] at hnone

theorem entryAt?_update (cache : ResultCache) (f : Buckets → Buckets) (requester : RequesterKey)
    (key : String) : (cache.update f).entryAt? requester key =
      cache.buckets.bind fun buckets => ((f buckets).bucket requester).get? key := by
  rw [entryAt?, update, Option.bind_map]
  rfl

@[simp] theorem entryAt?_new (policy : CachePolicy) (requester : RequesterKey) (key : String) :
    (new policy).entryAt? requester key = none := by
  cases policy <;> rfl

@[simp] theorem entryAt?_clear (cache : ResultCache) (requester : RequesterKey) (key : String) :
    cache.clear.entryAt? requester key = none := by
  simp [clear, entryAt?_update]

/-- A cache of size zero has no entry under any keys, also where it has buckets. -/
theorem entryAt?_of_size_eq_zero {cache : ResultCache} (h : cache.size = 0)
    (requester : RequesterKey) (key : String) : cache.entryAt? requester key = none := by
  rw [entryAt?]
  cases hbuckets : cache.buckets with
  | none => rfl
  | some buckets =>
    have hcount : buckets.count = 0 := by simpa [size, hbuckets] using h
    exact Buckets.get?_bucketIn_of_count_eq_zero hcount requester key

/-- What is stored is under its keys at once, also where the requester has no bucket yet. -/
theorem entryAt?_store (cache : ResultCache) (requester requester' : RequesterKey)
    (key key' value : String) (now : Instant) (h : cache.policy.isEnabled = true) :
    (cache.store requester key value now).entryAt? requester' key' =
      if requester' = requester ∧ key' = key then
        some ⟨value, expiry cache.policy requester now⟩
      else cache.entryAt? requester' key' := by
  obtain ⟨buckets, hbuckets⟩ := Option.isSome_iff_exists.mp (cache.allocated.trans h)
  rw [store, entryAt?_update, entryAt?, hbuckets, Option.bind_some, Option.bind_some,
    Buckets.bucket_setBucket]
  by_cases hr : requester' = requester
  · subst hr
    by_cases hk : key' = key <;> simp [Dict.get?_insert, hk]
  · simp [hr]

/-- A lookup answers with the entry under its keys while that is live. -/
theorem lookup_fst (cache : ResultCache) (requester : RequesterKey) (key : String) (now : Instant) :
    (cache.lookup requester key now).1 =
      ((cache.entryAt? requester key).filter fun entry => !entry.isExpired now).map
        CacheEntry.value := by
  unfold lookup
  split
  · next h => rw [h]; rfl
  · next entry h =>
    rw [h]
    by_cases hexpired : entry.isExpired now = true <;> simp [hexpired, Option.filter_some]

/-- A lookup drops the entry under its keys if that is expired, and nothing else. -/
theorem entryAt?_lookup (cache : ResultCache) (requester requester' : RequesterKey)
    (key key' : String) (now : Instant) :
    (cache.lookup requester key now).2.entryAt? requester' key' =
      if requester' = requester ∧ key' = key then
        (cache.entryAt? requester key).filter fun entry => !entry.isExpired now
      else cache.entryAt? requester' key' := by
  unfold lookup
  split
  · next h =>
    split
    · next hkeys => rw [hkeys.1, hkeys.2, h]; rfl
    · rfl
  · next entry h =>
    by_cases hexpired : entry.isExpired now = true
    · rw [if_pos hexpired, entryAt?_update]
      simp only [Buckets.bucket_setBucket]
      by_cases hr : requester' = requester
      · subst hr
        by_cases hk : key' = key
        · simp [hk, h, hexpired, Option.filter_some, Dict.get?_erase]
        · simp [hk, Dict.get?_erase, entryAt?]
      · simp [hr, entryAt?]
    · rw [if_neg hexpired]
      split
      · next hkeys => simp [hkeys.1, hkeys.2, h, hexpired, Option.filter_some]
      · rfl

theorem lookup_snd_of_hit {cache : ResultCache} {requester : RequesterKey} {key value : String}
    {now : Instant} (h : (cache.lookup requester key now).1 = some value) :
    (cache.lookup requester key now).2 = cache := by
  unfold lookup at h ⊢
  split
  · rfl
  · split
    · next hentry hexpired => simp [hentry, hexpired] at h
    · rfl

theorem entryAt?_purgeExpired (cache : ResultCache) (requester : RequesterKey) (key : String)
    (now : Instant) :
    (cache.purgeExpired now).2.entryAt? requester key =
      (cache.entryAt? requester key).filter fun entry => !entry.isExpired now := by
  rw [purgeExpired, entryAt?_update, entryAt?]
  cases cache.buckets with
  | none => rfl
  | some buckets =>
    rw [Option.bind_some, Option.bind_some, ← Dict.get?_filter]
    exact Buckets.get?_bucketIn_liveIn buckets.distinct now requester key

end ResultCache

end PlaceholderScripts
