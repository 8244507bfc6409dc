import Mathlib.Data.List.Forall2
import PlaceholderScripts.Library.Manifest

/-!
# What a manifest lists

A manifest read as a relation between its lines and the files that they list, each with the digest as it is
written. Reading a manifest gives the listed files with their digests in lower case, or else the first line
that lists no file and is not passed over.
-/

namespace PlaceholderScripts.Library

/-- The digits of numbers in base sixteen, in either case. -/
def IsHexDigit (c : Char) : Prop :=
  ('0' ≤ c ∧ c ≤ '9') ∨ ('a' ≤ c ∧ c ≤ 'f') ∨ ('A' ≤ c ∧ c ≤ 'F')

theorem digitValue_lt_iff (c : Char) : Decimal.digitValue c < 16 ↔ IsHexDigit c := by
  have h9 : '9'.toNat = 57 := rfl
  have hz : 'z'.toNat = 122 := rfl
  have hf : 'f'.toNat = 102 := rfl
  have ha : 'a'.toNat = 97 := rfl
  have hZ : 'Z'.toNat = 90 := rfl
  have hF : 'F'.toNat = 70 := rfl
  have hA : 'A'.toNat = 65 := rfl
  have h0 : '0'.toNat = 48 := rfl
  simp only [Decimal.digitValue, IsHexDigit, Char.isDigit, Char.le_def, UInt32.le_iff_toNat_le,
    Char.toNat_val, Bool.and_eq_true, decide_eq_true_eq, ge_iff_le]
  change (if 48 ≤ c.toNat ∧ c.toNat ≤ 57 then _ else _) < 16 ↔ _
  split
  · omega
  · split
    · omega
    · split <;> omega

structure Listing where
  digest : List Char
  file : List Char

structure Listing.WrittenAs (l : Listing) (line : List Char) : Prop where
  words : Text.words line = [l.digest, l.file]
  length : l.digest.length = 64
  hexadecimal : ∀ c ∈ l.digest, IsHexDigit c

def Listing.entry (l : Listing) : ManifestEntry :=
  ⟨String.ofList (l.digest.map Char.toLower), String.ofList l.file⟩

@[simp] theorem Listing.entry_file (l : Listing) : l.entry.file = String.ofList l.file := rfl

namespace Manifest

theorem isDigest_iff {word : List Char} :
    isDigest word = true ↔ word.length = 64 ∧ ∀ c ∈ word, IsHexDigit c := by
  simp [isDigest, digitValue_lt_iff]

theorem entry_of_writtenAs {l : Listing} {line : List Char} (h : l.WrittenAs line) :
    entry? line = some l.entry := by
  unfold entry?
  rw [h.words]
  exact if_pos (isDigest_iff.mpr ⟨h.length, h.hexadecimal⟩)

theorem exists_writtenAs {line : List Char} {e : ManifestEntry} (h : entry? line = some e) :
    ∃ l : Listing, l.WrittenAs line := by
  unfold entry? at h
  split at h
  · next digest file hwords =>
    split at h
    · next hdigest =>
      obtain ⟨hlength, hhex⟩ := isDigest_iff.mp hdigest
      exact ⟨⟨digest, file⟩, hwords, hlength, hhex⟩
    · cases h
  · cases h

theorem no_entry_iff {line : List Char} :
    entry? line = none ↔ ∀ l : Listing, ¬ l.WrittenAs line := by
  constructor
  · intro h l hl
    rw [entry_of_writtenAs hl] at h
    cases h
  · intro h
    rw [Option.eq_none_iff_forall_ne_some]
    intro e he
    obtain ⟨l, hl⟩ := exists_writtenAs he
    exact h l hl

/-- The lines that are not passed over list these files, in this order. -/
def Lists (lines : List (List Char)) (listings : List Listing) : Prop :=
  List.Forall₂ Listing.WrittenAs listings (lines.filter fun line => !isPassedOver line)

/-- The first line that is not passed over and lists no file has this number, where the lines are numbered
from `n`. -/
def Stumbles (n : Nat) (lines : List (List Char)) (e : ManifestError) : Prop :=
  ∃ before line after listings, lines = before ++ line :: after ∧ Lists before listings ∧
    isPassedOver line = false ∧ (∀ l : Listing, ¬ l.WrittenAs line) ∧
    e = ⟨n + before.length, String.ofList line⟩

variable {line : List Char} {lines : List (List Char)} {l : Listing} {listings : List Listing}

theorem lists_cons_of_passedOver (h : isPassedOver line = true) :
    Lists (line :: lines) listings ↔ Lists lines listings := by
  rw [Lists, List.filter_cons_of_neg (by simp [h]), Lists]

theorem lists_cons_iff (h : isPassedOver line = false) :
    Lists (line :: lines) listings ↔
      ∃ l rest, listings = l :: rest ∧ l.WrittenAs line ∧ Lists lines rest := by
  rw [Lists, List.filter_cons_of_pos (by simp [h]), List.forall₂_cons_right_iff]
  constructor
  · rintro ⟨l, rest, hl, hrest, rfl⟩
    exact ⟨l, rest, rfl, hl, hrest⟩
  · rintro ⟨l, rest, rfl, hl, hrest⟩
    exact ⟨l, rest, hl, hrest, rfl⟩

/-- Behind lines that list files the reading goes on with what follows them. -/
theorem entriesFrom_append (n : Nat) (after : List (List Char)) (h : Lists lines listings) :
    entriesFrom n (lines ++ after) =
      (entriesFrom (n + lines.length) after).map (listings.map Listing.entry ++ ·) := by
  -- lines that are passed over count, too, so the number moves on in both cases
  induction lines generalizing n listings with
  | nil =>
    cases h
    rw [List.nil_append, List.length_nil, Nat.add_zero]
    cases entriesFrom n after <;> rfl
  | cons line lines ih =>
    have hnumber : n + (line :: lines).length = n + 1 + lines.length := by
      rw [List.length_cons]
      omega
    rw [List.cons_append, entriesFrom, hnumber]
    cases hpassed : isPassedOver line with
    | true => exact ih (n + 1) ((lists_cons_of_passedOver hpassed).mp h)
    | false =>
      obtain ⟨l, rest, rfl, hl, hrest⟩ := (lists_cons_iff hpassed).mp h
      simp only [Bool.false_eq_true, if_false, entry_of_writtenAs hl, ih (n + 1) hrest]
      cases entriesFrom (n + 1 + lines.length) after <;> rfl

theorem entriesFrom_of_lists (n : Nat) (h : Lists lines listings) :
    entriesFrom n lines = .ok (listings.map Listing.entry) := by
  have hread := entriesFrom_append n [] h
  rw [List.append_nil] at hread
  rw [hread]
  exact congrArg Except.ok (List.append_nil _)

theorem entriesFrom_of_stumbles {n : Nat} {e : ManifestError} (h : Stumbles n lines e) :
    entriesFrom n lines = .error e := by
  obtain ⟨before, line, after, listings, rfl, hbefore, hpassed, hline, rfl⟩ := h
  rw [entriesFrom_append n _ hbefore, entriesFrom, hpassed, no_entry_iff.mpr hline]
  rfl

theorem Stumbles.cons {n : Nat} {e : ManifestError} (h : Stumbles (n + 1) lines e)
    (hline : isPassedOver line = true ∨ ∃ l : Listing, l.WrittenAs line) :
    Stumbles n (line :: lines) e := by
  obtain ⟨before, other, after, listings, rfl, hbefore, hpassed, hother, rfl⟩ := h
  have hnumber : n + 1 + before.length = n + (line :: before).length := by
    rw [List.length_cons]
    omega
  rw [hnumber]
  cases hpass : isPassedOver line with
  | true =>
    exact ⟨line :: before, other, after, listings, rfl, (lists_cons_of_passedOver hpass).mpr hbefore,
      hpassed, hother, rfl⟩
  | false =>
    rw [hpass] at hline
    obtain ⟨l, hl⟩ := hline.resolve_left Bool.false_ne_true
    exact ⟨line :: before, other, after, l :: listings, rfl,
      (lists_cons_iff hpass).mpr ⟨l, listings, rfl, hl, hbefore⟩, hpassed, hother, rfl⟩

theorem lists_or_stumbles (n : Nat) (lines : List (List Char)) :
    (∃ listings, Lists lines listings) ∨ ∃ e, Stumbles n lines e := by
  induction lines generalizing n with
  | nil => exact .inl ⟨[], .nil⟩
  | cons line lines ih =>
    cases hpass : isPassedOver line with
    | true =>
      refine (ih (n + 1)).imp ?_ ?_
      · exact fun ⟨listings, h⟩ => ⟨listings, (lists_cons_of_passedOver hpass).mpr h⟩
      · exact fun ⟨e, h⟩ => ⟨e, h.cons (.inl hpass)⟩
    | false =>
      by_cases hline : ∃ l : Listing, l.WrittenAs line
      · refine (ih (n + 1)).imp ?_ ?_
        · obtain ⟨l, hl⟩ := hline
          exact fun ⟨listings, h⟩ =>
            ⟨l :: listings, (lists_cons_iff hpass).mpr ⟨l, listings, rfl, hl, h⟩⟩
        · exact fun ⟨e, h⟩ => ⟨e, h.cons (.inr hline)⟩
      · exact .inr ⟨_, [], line, lines, [], rfl, .nil, hpass, not_exists.mp hline, rfl⟩

theorem entriesFrom_eq_ok_iff {n : Nat} {entries : List ManifestEntry} :
    entriesFrom n lines = .ok entries ↔
      ∃ listings, Lists lines listings ∧ entries = listings.map Listing.entry := by
  constructor
  · intro h
    obtain ⟨listings, hlists⟩ | ⟨e, hstumbles⟩ := lists_or_stumbles n lines
    · rw [entriesFrom_of_lists n hlists] at h
      exact ⟨listings, hlists, (Except.ok.inj h).symm⟩
    · rw [entriesFrom_of_stumbles hstumbles] at h
      cases h
  · rintro ⟨listings, hlists, rfl⟩
    exact entriesFrom_of_lists n hlists

theorem entriesFrom_eq_error_iff {n : Nat} {e : ManifestError} :
    entriesFrom n lines = .error e ↔ Stumbles n lines e := by
  constructor
  · intro h
    obtain ⟨listings, hlists⟩ | ⟨e', hstumbles⟩ := lists_or_stumbles n lines
    · rw [entriesFrom_of_lists n hlists] at h
      cases h
    · rw [entriesFrom_of_stumbles hstumbles] at h
      obtain rfl := Except.error.inj h
      exact hstumbles
  · exact entriesFrom_of_stumbles

end Manifest

end PlaceholderScripts.Library
