/-!
# Dictionaries in key order

A finite map from texts, kept as an association list whose keys ascend strictly. Equal dictionaries
are equal lists, listing the keys is listing them in order, and every operation is a single walk.
Texts are ordered by code point.

The walks are also used on their own, by values that hold maps of values inside themselves.
-/

namespace PlaceholderScripts

namespace Entries

variable {α : Type}

/-- Puts `value` under `key`, in the place of an earlier value if there is one. -/
def insert (key : String) (value : α) : List (String × α) → List (String × α)
  | [] => [(key, value)]
  | (k, v) :: rest =>
    if key = k then (key, value) :: rest
    else if key < k then (key, value) :: (k, v) :: rest
    else (k, v) :: insert key value rest

/-- Drops the entry under `key`. -/
def erase (key : String) : List (String × α) → List (String × α)
  | [] => []
  | (k, v) :: rest => if key = k then rest else (k, v) :: erase key rest

/-- The value under `key`. -/
def get? (key : String) : List (String × α) → Option α
  | [] => none
  | (k, v) :: rest => if key = k then some v else get? key rest

/-- Inserts the pairs one after the other, so that the last value of a key stays. -/
def ofList (pairs : List (String × α)) : List (String × α) :=
  pairs.foldl (fun es p => insert p.1 p.2 es) []

/-- Keys ascend strictly, so no key occurs twice. -/
def Ascending (es : List (String × α)) : Prop := es.Pairwise fun a b => a.1 < b.1

theorem lt_of_ne_of_not_lt {a b : String} (hne : a ≠ b) (h : ¬ a < b) : b < a := by
  have hle : b ≤ a := String.not_lt.mp h
  exact Std.lt_of_le_of_ne hle (fun e => hne e.symm)

theorem mem_insert {key : String} {value : α} {es : List (String × α)} {e : String × α}
    (h : e ∈ insert key value es) : e = (key, value) ∨ e ∈ es := by
  induction es with
  | nil => simpa [insert] using h
  | cons head rest ih =>
    obtain ⟨k, v⟩ := head
    simp only [insert] at h
    split at h
    · rcases List.mem_cons.mp h with h | h <;> simp [h]
    · split at h
      · simpa using h
      · rcases List.mem_cons.mp h with h | h
        · simp [h]
        · rcases ih h with h | h <;> simp [h]

theorem mem_of_mem_erase {key : String} {es : List (String × α)} {e : String × α}
    (h : e ∈ erase key es) : e ∈ es := by
  induction es with
  | nil => simp [erase] at h
  | cons head rest ih =>
    obtain ⟨k, v⟩ := head
    simp only [erase] at h
    split at h
    · exact List.mem_cons_of_mem _ h
    · rcases List.mem_cons.mp h with h | h
      · simp [h]
      · exact List.mem_cons_of_mem _ (ih h)

theorem Ascending.insert {es : List (String × α)} (h : Ascending es) (key : String) (value : α) :
    Ascending (insert key value es) := by
  induction es with
  | nil => simp [Entries.insert, Ascending]
  | cons head rest ih =>
    obtain ⟨k, v⟩ := head
    obtain ⟨hhead, hrest⟩ := List.pairwise_cons.mp h
    simp only [Entries.insert]
    split
    · next e => subst e; exact List.pairwise_cons.mpr ⟨hhead, hrest⟩
    · next hne =>
      split
      · next hlt =>
        refine List.pairwise_cons.mpr ⟨fun e he => ?_, h⟩
        rcases List.mem_cons.mp he with he | he
        · simpa [he] using hlt
        · exact String.lt_trans hlt (hhead e he)
      · next hnlt =>
        refine List.pairwise_cons.mpr ⟨fun e he => ?_, ih hrest⟩
        rcases mem_insert he with he | he
        · simpa [he] using lt_of_ne_of_not_lt hne hnlt
        · exact hhead e he

theorem Ascending.erase {es : List (String × α)} (h : Ascending es) (key : String) :
    Ascending (erase key es) := by
  induction es with
  | nil => exact h
  | cons head rest ih =>
    obtain ⟨k, v⟩ := head
    obtain ⟨hhead, hrest⟩ := List.pairwise_cons.mp h
    simp only [Entries.erase]
    split
    · exact hrest
    · exact List.pairwise_cons.mpr ⟨fun e he => hhead e (mem_of_mem_erase he), ih hrest⟩

theorem Ascending.ofList (pairs : List (String × α)) : Ascending (ofList pairs) := by
  suffices ∀ es : List (String × α), Ascending es →
      Ascending (pairs.foldl (fun es p => Entries.insert p.1 p.2 es) es) from
    this [] List.Pairwise.nil
  induction pairs with
  | nil => exact fun _ h => h
  | cons p rest ih => exact fun es h => ih _ (h.insert p.1 p.2)

theorem get?_insert (key key' : String) (value : α) (es : List (String × α)) :
    get? key' (insert key value es) = if key' = key then some value else get? key' es := by
  induction es with
  | nil => simp [insert, get?]
  | cons e rest ih =>
    obtain ⟨k, v⟩ := e
    simp only [insert]
    split
    · next h => subst h; by_cases h' : key' = key <;> simp [get?, h']
    · next h =>
      split
      · by_cases h' : key' = key <;> simp [get?, h']
      · by_cases hk : key' = k
        · subst hk; simp [get?, Ne.symm h]
        · simp [get?, hk, ih]

theorem get?_eq_none {key : String} {es : List (String × α)} (h : ∀ e ∈ es, key ≠ e.1) :
    get? key es = none := by
  induction es with
  | nil => rfl
  | cons e rest ih =>
    rw [get?, if_neg (h e List.mem_cons_self)]
    exact ih fun e he => h e (List.mem_cons_of_mem _ he)

theorem Ascending.get?_eq_some_iff {es : List (String × α)} (h : Ascending es) {key : String}
    {value : α} : get? key es = some value ↔ (key, value) ∈ es := by
  induction es with
  | nil => simp [get?]
  | cons e rest ih =>
    obtain ⟨k, v⟩ := e
    obtain ⟨hhead, hrest⟩ := List.pairwise_cons.mp h
    rw [get?, List.mem_cons]
    split
    · next hk =>
      subst hk
      constructor
      · intro hv
        exact .inl (by rw [Option.some.inj hv])
      · rintro (heq | hmem)
        · rw [(Prod.mk.inj heq).2]
        · exact absurd (hhead _ hmem) (String.lt_irrefl _)
    · next hk =>
      rw [ih hrest]
      constructor
      · exact .inr
      · rintro (heq | hmem)
        · exact absurd (Prod.mk.inj heq).1 hk
        · exact hmem

theorem length_insert {key : String} {es : List (String × α)} (h : get? key es = none) (value : α) :
    (insert key value es).length = es.length + 1 := by
  induction es with
  | nil => rfl
  | cons e rest ih =>
    obtain ⟨k, v⟩ := e
    by_cases hk : key = k
    · simp [get?, hk] at h
    · rw [get?, if_neg hk] at h
      rw [insert, if_neg hk]
      split
      · rfl
      · simp [ih h]

theorem insert_of_forall_lt {key : String} {es : List (String × α)} (h : ∀ e ∈ es, e.1 < key)
    (value : α) : insert key value es = es ++ [(key, value)] := by
  induction es with
  | nil => rfl
  | cons e rest ih =>
    obtain ⟨k, v⟩ := e
    have hk : k < key := h _ List.mem_cons_self
    have hne : key ≠ k := fun heq => String.lt_irrefl _ (heq ▸ hk)
    have hnlt : ¬ key < k := fun hlt => String.lt_irrefl _ (String.lt_trans hlt hk)
    rw [insert, if_neg hne, if_neg hnlt, ih fun e he => h e (List.mem_cons_of_mem _ he)]
    rfl

theorem Ascending.insert_get? {es : List (String × α)} (h : Ascending es) {key : String} {value : α}
    (hget : get? key es = some value) : Entries.insert key value es = es := by
  induction es with
  | nil => exact nomatch hget
  | cons e rest ih =>
    obtain ⟨k, v⟩ := e
    obtain ⟨hhead, hrest⟩ := List.pairwise_cons.mp h
    rw [get?] at hget
    rw [Entries.insert]
    split
    · next hk =>
      rw [if_pos hk] at hget
      rw [hk, Option.some.inj hget]
    · next hk =>
      rw [if_neg hk] at hget
      have hlt : k < key := hhead _ ((Ascending.get?_eq_some_iff hrest).mp hget)
      rw [if_neg fun hgt => String.lt_irrefl _ (String.lt_trans hlt hgt), ih hrest hget]

theorem Ascending.nodup_keys {es : List (String × α)} (h : Ascending es) :
    (es.map Prod.fst).Nodup := by
  rw [List.Nodup, List.pairwise_map]
  refine h.imp fun hlt heq => ?_
  rw [heq] at hlt
  exact String.lt_irrefl _ hlt

theorem Ascending.get?_erase {es : List (String × α)} (h : Ascending es) (key key' : String) :
    get? key' (Entries.erase key es) = if key' = key then none else get? key' es := by
  induction es with
  | nil => simp [Entries.erase, get?]
  | cons e rest ih =>
    obtain ⟨k, v⟩ := e
    obtain ⟨hhead, hrest⟩ := List.pairwise_cons.mp h
    simp only [Entries.erase]
    split
    · next hk =>
      subst hk
      by_cases hk' : key' = key
      · subst hk'
        rw [if_pos rfl]
        exact get?_eq_none fun e he heq => String.lt_irrefl _ (heq ▸ hhead e he)
      · rw [if_neg hk', get?, if_neg hk']
    · next hk =>
      by_cases hk' : key' = k
      · subst hk'
        simp [get?, Ne.symm hk]
      · simp [get?, hk', ih hrest]

/-- Dropping entries by their values drops a key exactly if it drops the key's value. -/
theorem Ascending.get?_filter {es : List (String × α)} (h : Ascending es) (p : α → Bool)
    (key : String) : get? key (es.filter fun e => p e.2) = (get? key es).filter p := by
  induction es with
  | nil => rfl
  | cons e rest ih =>
    obtain ⟨k, v⟩ := e
    obtain ⟨hhead, hrest⟩ := List.pairwise_cons.mp h
    by_cases hk : key = k
    · subst hk
      have hnone : get? key (rest.filter fun e => p e.2) = none :=
        get?_eq_none fun e he heq =>
          String.lt_irrefl _ (heq ▸ hhead e (List.mem_filter.mp he).1)
      by_cases hv : p v = true
      · simp [get?, hv, Option.filter_some]
      · simp [get?, hv, hnone, Option.filter_some]
    · by_cases hv : p v = true
      · simp [get?, hv, hk, ih hrest]
      · simp [get?, hv, hk, ih hrest]

end Entries

structure Dict (α : Type) where
  entries : List (String × α)
  ascending : Entries.Ascending entries

namespace Dict

variable {α β : Type}

def empty : Dict α := ⟨[], List.Pairwise.nil⟩

instance : Inhabited (Dict α) := ⟨empty⟩

theorem ext_entries {a b : Dict α} (h : a.entries = b.entries) : a = b := by
  cases a; cases b; simp_all

instance [DecidableEq α] : DecidableEq (Dict α) := fun a b =>
  decidable_of_iff (a.entries = b.entries) ⟨ext_entries, fun h => by rw [h]⟩

def get? (d : Dict α) (key : String) : Option α := Entries.get? key d.entries

def insert (d : Dict α) (key : String) (value : α) : Dict α :=
  ⟨Entries.insert key value d.entries, d.ascending.insert key value⟩

def erase (d : Dict α) (key : String) : Dict α :=
  ⟨Entries.erase key d.entries, d.ascending.erase key⟩

def contains (d : Dict α) (key : String) : Bool := (d.get? key).isSome

def keys (d : Dict α) : List String := d.entries.map Prod.fst

def size (d : Dict α) : Nat := d.entries.length

def isEmpty (d : Dict α) : Bool := d.entries.isEmpty

def ofList (pairs : List (String × α)) : Dict α := ⟨Entries.ofList pairs, .ofList pairs⟩

/-- The same keys with every value changed by `f`. -/
def map (f : α → β) (d : Dict α) : Dict β :=
  ⟨d.entries.map fun p => (p.1, f p.2), by
    simpa [Entries.Ascending, List.pairwise_map] using d.ascending⟩

def filter (p : α → Bool) (d : Dict α) : Dict α :=
  ⟨d.entries.filter fun e => p e.2, d.ascending.filter _⟩

@[simp] theorem get?_empty (key : String) : (empty : Dict α).get? key = none := rfl

/-- Reading after a write gives the written value under its key and the old one elsewhere. -/
theorem get?_insert (d : Dict α) (key key' : String) (value : α) :
    (d.insert key value).get? key' = if key' = key then some value else d.get? key' :=
  Entries.get?_insert key key' value d.entries

theorem insert_get? {d : Dict α} {key : String} {value : α} (h : d.get? key = some value) :
    d.insert key value = d :=
  ext_entries (d.ascending.insert_get? h)

theorem get?_erase (d : Dict α) (key key' : String) :
    (d.erase key).get? key' = if key' = key then none else d.get? key' :=
  d.ascending.get?_erase key key'

theorem get?_eq_some_iff {d : Dict α} {key : String} {value : α} :
    d.get? key = some value ↔ (key, value) ∈ d.entries :=
  d.ascending.get?_eq_some_iff

theorem nodup_keys (d : Dict α) : d.keys.Nodup := d.ascending.nodup_keys

theorem mem_keys_iff {d : Dict α} {key : String} :
    key ∈ d.keys ↔ ∃ value, d.get? key = some value := by
  rw [keys, List.mem_map]
  constructor
  · rintro ⟨⟨k, value⟩, hmem, rfl⟩
    exact ⟨value, get?_eq_some_iff.mpr hmem⟩
  · rintro ⟨value, hvalue⟩
    exact ⟨(key, value), get?_eq_some_iff.mp hvalue, rfl⟩

theorem length_keys (d : Dict α) : d.keys.length = d.size := List.length_map _

theorem size_insert {d : Dict α} {key : String} (h : d.get? key = none) (value : α) :
    (d.insert key value).size = d.size + 1 :=
  Entries.length_insert h value

/-- Entries in order that are inserted behind others are put behind them as they are. -/
theorem foldl_insert {d : Dict α} {rest : List (String × α)}
    (h : Entries.Ascending (d.entries ++ rest)) :
    rest.foldl (fun d e => d.insert e.1 e.2) d = ⟨d.entries ++ rest, h⟩ := by
  induction rest generalizing d with
  | nil => exact ext_entries (List.append_nil _).symm
  | cons e rest ih =>
    have hlast : (d.insert e.1 e.2).entries = d.entries ++ [e] :=
      Entries.insert_of_forall_lt
        (fun e' he' => (List.pairwise_append.mp h).2.2 e' he' e List.mem_cons_self) e.2
    have hall : (d.insert e.1 e.2).entries ++ rest = d.entries ++ e :: rest := by
      rw [hlast, List.append_assoc, List.singleton_append]
    rw [List.foldl_cons, ih (by rwa [hall])]
    exact ext_entries hall

/-- A dictionary is what its entries make when they are inserted one after the other. -/
theorem foldl_insert_entries (d : Dict α) :
    d.entries.foldl (fun d e => d.insert e.1 e.2) empty = d :=
  foldl_insert (d := empty) d.ascending

theorem entries_foldl_insert (d : Dict α) (pairs : List (String × α)) :
    (pairs.foldl (fun d e => d.insert e.1 e.2) d).entries =
      pairs.foldl (fun es e => Entries.insert e.1 e.2 es) d.entries := by
  induction pairs generalizing d with
  | nil => rfl
  | cons e rest ih => exact ih (d.insert e.1 e.2)

theorem ofList_entries (d : Dict α) : ofList d.entries = d :=
  ext_entries ((entries_foldl_insert empty d.entries).symm.trans (congrArg entries d.foldl_insert_entries))

theorem get?_filter (d : Dict α) (p : α → Bool) (key : String) :
    (d.filter p).get? key = (d.get? key).filter p :=
  d.ascending.get?_filter p key

theorem get?_of_isEmpty {d : Dict α} (h : d.isEmpty = true) (key : String) : d.get? key = none := by
  have hentries : d.entries = [] := List.isEmpty_iff.mp h
  rw [get?, hentries]
  rfl

end Dict

end PlaceholderScripts
