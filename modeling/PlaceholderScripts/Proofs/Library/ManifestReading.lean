import Mathlib.Data.List.TakeWhile
import PlaceholderScripts.Proofs.Library.ManifestGrammar
import PlaceholderScripts.Proofs.Text.Lines
import PlaceholderScripts.Proofs.Text.Words

/-!
# Reading and writing manifests

What a manifest lists, said of the lines and the words that stand in its text: where blanks and number signs
stand, which two words a line has, and which line is the first that has others. What is written from files
and their digests, a line each, is read back as these.
-/

namespace PlaceholderScripts.Library

open Text (Blanks IsWord HasWords CutsInto isBlank)

/-- The line is blank, or a number sign is its first character that is no blank. -/
def Manifest.IsComment (line : List Char) : Prop :=
  Blanks line ∨ ∃ gap rest, Blanks gap ∧ line = gap ++ '#' :: rest

structure Listing.StandsIn (l : Listing) (line : List Char) : Prop where
  words : HasWords line [l.digest, l.file]
  length : l.digest.length = 64
  hexadecimal : ∀ c ∈ l.digest, IsHexDigit c

theorem Listing.standsIn_iff {l : Listing} {line : List Char} : l.StandsIn line ↔ l.WrittenAs line :=
  ⟨fun h => ⟨h.words.words_eq, h.length, h.hexadecimal⟩,
    fun h => ⟨Text.words_eq_iff.mp h.words, h.length, h.hexadecimal⟩⟩

namespace Manifest

section PassedOver

variable {line rest : List Char} {c : Char}

theorem trimEnd_cons (h : isBlank c = false) (rest : List Char) :
    ∃ kept, Text.trimEnd (c :: rest) = c :: kept := by
  rw [Text.trimEnd, List.reverse_cons, List.dropWhile_append]
  split
  · exact ⟨[], by simp [h]⟩
  · exact ⟨_, by simp; rfl⟩

theorem trimStart_append {gap : List Char} (h : Blanks gap) (rest : List Char) :
    Text.trimStart (gap ++ rest) = Text.trimStart rest := by
  induction gap with
  | nil => rfl
  | cons c gap ih =>
    obtain ⟨hc, hgap⟩ := Text.blanks_cons.mp h
    have hrest := ih hgap
    simp only [Text.trimStart] at hrest ⊢
    simp [hc, hrest]

theorem exists_gap (line : List Char) : ∃ gap, Blanks gap ∧ line = gap ++ Text.trimStart line :=
  ⟨line.takeWhile isBlank, fun _ hc => List.mem_takeWhile_imp hc, List.takeWhile_append_dropWhile.symm⟩

theorem isPassedOver_append {gap : List Char} (hgap : Blanks gap) (hc : isBlank c = false)
    (rest : List Char) : isPassedOver (gap ++ c :: rest) = (c == '#') := by
  have hstart : Text.trimStart (c :: rest) = c :: rest := by simp [Text.trimStart, hc]
  obtain ⟨kept, hkept⟩ := trimEnd_cons hc rest
  simp [isPassedOver, Text.trim, trimStart_append hgap, hstart, hkept]

theorem isPassedOver_of_blanks (h : Blanks line) : isPassedOver line = true := by
  have hstart := trimStart_append h []
  rw [List.append_nil] at hstart
  rw [isPassedOver, Text.trim, hstart]
  rfl

theorem isPassedOver_iff : isPassedOver line = true ↔ IsComment line := by
  constructor
  · intro h
    obtain ⟨gap, hgap, hline⟩ := exists_gap line
    cases hrest : Text.trimStart line with
    | nil =>
      rw [hrest, List.append_nil] at hline
      exact .inl (hline ▸ hgap)
    | cons c rest =>
      have hc : isBlank c = false := by
        have hhead := List.head?_dropWhile_not isBlank line
        rw [Text.trimStart] at hrest
        simpa [hrest] using hhead
      rw [hrest] at hline
      rw [hline, isPassedOver_append hgap hc] at h
      obtain rfl := beq_iff_eq.mp h
      exact .inr ⟨gap, rest, hgap, hline⟩
  · rintro (hblanks | ⟨gap, rest, hgap, rfl⟩)
    · exact isPassedOver_of_blanks hblanks
    · exact isPassedOver_append hgap rfl rest

end PassedOver

/-- The lines that are no comments list these files, in this order. -/
inductive Enumerates : List (List Char) → List Listing → Prop
  | nil : Enumerates [] []
  | comment {line : List Char} {lines : List (List Char)} {listings : List Listing} :
      IsComment line → Enumerates lines listings → Enumerates (line :: lines) listings
  | file {line : List Char} {lines : List (List Char)} {l : Listing} {listings : List Listing} :
      ¬ IsComment line → l.StandsIn line → Enumerates lines listings →
      Enumerates (line :: lines) (l :: listings)

def Offends (line : List Char) : Prop := ¬ IsComment line ∧ ∀ l : Listing, ¬ l.StandsIn line

/-- The first line that offends, counted from one, with its text. -/
def FirstOffence (lines : List (List Char)) (e : ManifestError) : Prop :=
  ∃ before line after, lines = before ++ line :: after ∧ (∀ l ∈ before, ¬ Offends l) ∧ Offends line ∧
    e = ⟨before.length + 1, String.ofList line⟩

section Lines

variable {lines : List (List Char)} {listings : List Listing}

theorem enumerates_iff : Enumerates lines listings ↔ Lists lines listings := by
  constructor
  · intro h
    induction h with
    | nil => exact .nil
    | comment hline _ ih => exact (lists_cons_of_passedOver (isPassedOver_iff.mpr hline)).mpr ih
    | file hline hl _ ih =>
      have hkept := Bool.eq_false_iff.mpr (isPassedOver_iff.not.mpr hline)
      exact (lists_cons_iff hkept).mpr ⟨_, _, rfl, Listing.standsIn_iff.mp hl, ih⟩
  · intro h
    induction lines generalizing listings with
    | nil =>
      cases h
      exact .nil
    | cons line lines ih =>
      cases hpass : isPassedOver line with
      | true => exact .comment (isPassedOver_iff.mp hpass) (ih ((lists_cons_of_passedOver hpass).mp h))
      | false =>
        obtain ⟨l, rest, rfl, hl, hrest⟩ := (lists_cons_iff hpass).mp h
        refine .file ?_ (Listing.standsIn_iff.mpr hl) (ih hrest)
        rw [← isPassedOver_iff, hpass]
        exact Bool.false_ne_true

theorem exists_enumerates_iff : (∃ listings, Enumerates lines listings) ↔ ∀ line ∈ lines, ¬ Offends line := by
  induction lines with
  | nil => simpa using ⟨[], Enumerates.nil⟩
  | cons line lines ih =>
    rw [List.forall_mem_cons, ← ih]
    constructor
    · rintro ⟨listings, h⟩
      cases h with
      | comment hline hrest => exact ⟨fun h => h.1 hline, _, hrest⟩
      | file _ hl hrest => exact ⟨fun h => h.2 _ hl, _, hrest⟩
    · rintro ⟨hline, listings, hrest⟩
      by_cases hcomment : IsComment line
      · exact ⟨listings, .comment hcomment hrest⟩
      · obtain ⟨l, hl⟩ := not_forall_not.mp (not_and.mp hline hcomment)
        exact ⟨l :: listings, .file hcomment hl hrest⟩

theorem offends_iff {line : List Char} :
    Offends line ↔ isPassedOver line = false ∧ ∀ l : Listing, ¬ l.WrittenAs line := by
  simp only [Offends, ← isPassedOver_iff, Bool.not_eq_true, Listing.standsIn_iff]

theorem firstOffence_iff {e : ManifestError} : FirstOffence lines e ↔ Stumbles 1 lines e := by
  constructor
  · rintro ⟨before, line, after, rfl, hbefore, hline, rfl⟩
    obtain ⟨listings, hlists⟩ := exists_enumerates_iff.mpr hbefore
    obtain ⟨hkept, hother⟩ := offends_iff.mp hline
    exact ⟨before, line, after, listings, rfl, enumerates_iff.mp hlists, hkept, hother, by rw [Nat.add_comm]⟩
  · rintro ⟨before, line, after, listings, rfl, hlists, hkept, hother, rfl⟩
    have hbefore := exists_enumerates_iff.mp ⟨listings, enumerates_iff.mpr hlists⟩
    exact ⟨before, line, after, rfl, hbefore, offends_iff.mpr ⟨hkept, hother⟩, by rw [Nat.add_comm]⟩

end Lines

end Manifest

structure ManifestEntry.IsPlain (e : ManifestEntry) : Prop where
  length : e.checksum.toList.length = 64
  digits : ∀ c ∈ e.checksum.toList, ('0' ≤ c ∧ c ≤ '9') ∨ ('a' ≤ c ∧ c ≤ 'f')
  file : IsWord e.file.toList

instance (e : ManifestEntry) : Decidable e.IsPlain :=
  decidable_of_iff (e.checksum.toList.length = 64 ∧
      e.checksum.toList.all (fun c => ('0' ≤ c ∧ c ≤ '9') ∨ ('a' ≤ c ∧ c ≤ 'f')) = true ∧ IsWord e.file.toList)
    ⟨fun h => ⟨h.1, by simpa using h.2.1, h.2.2⟩, fun h => ⟨h.length, by simpa using h.digits, h.file⟩⟩

def ManifestEntry.line (e : ManifestEntry) : List Char := e.checksum.toList ++ ' ' :: ' ' :: e.file.toList

def Manifest.written (entries : List ManifestEntry) : String :=
  String.join (entries.map fun e => e.checksum ++ "  " ++ e.file ++ "\n")

namespace ManifestEntry.IsPlain

theorem toNat_digit {c : Char} (h : ('0' ≤ c ∧ c ≤ '9') ∨ ('a' ≤ c ∧ c ≤ 'f')) :
    (48 ≤ c.toNat ∧ c.toNat ≤ 57) ∨ (97 ≤ c.toNat ∧ c.toNat ≤ 102) := h

theorem isBlank_digit {c : Char} (h : ('0' ≤ c ∧ c ≤ '9') ∨ ('a' ≤ c ∧ c ≤ 'f')) : isBlank c = false := by
  have hrange := toNat_digit h
  rw [Bool.eq_false_iff]
  simp only [isBlank, ne_eq, Bool.or_eq_true, Bool.and_eq_true, beq_iff_eq, decide_eq_true_eq]
  omega

theorem toLower_digit {c : Char} (h : ('0' ≤ c ∧ c ≤ '9') ∨ ('a' ≤ c ∧ c ≤ 'f')) : c.toLower = c := by
  have hrange := toNat_digit h
  have hupper : ¬ (65 ≤ c.toNat ∧ c.toNat ≤ 90) := by omega
  exact dif_neg hupper

variable {e : ManifestEntry} (h : e.IsPlain)
include h

theorem isWord_checksum : IsWord e.checksum.toList where
  nonempty := by
    intro hnil
    simpa [hnil] using h.length
  solid := fun c hc => isBlank_digit (h.digits c hc)

theorem standsIn : Listing.StandsIn ⟨e.checksum.toList, e.file.toList⟩ e.line where
  words := by
    have hfile : HasWords (' ' :: e.file.toList) [e.file.toList] :=
      .cons_blank rfl (.last .nil h.file)
    exact .word .nil h.isWord_checksum rfl hfile
  length := h.length
  hexadecimal := fun c hc => (h.digits c hc).imp_right .inl

theorem entry_eq : Listing.entry ⟨e.checksum.toList, e.file.toList⟩ = e := by
  have hlower : e.checksum.toList.map Char.toLower = e.checksum.toList :=
    (List.map_congr_left fun c hc => toLower_digit (h.digits c hc)).trans (List.map_id _)
  simp [Listing.entry, hlower]

theorem not_isComment : ¬ Manifest.IsComment e.line := by
  obtain ⟨c, digits, hdigits⟩ := List.exists_cons_of_ne_nil h.isWord_checksum.nonempty
  have hc := h.digits c (by simp [hdigits])
  have hkept : Manifest.isPassedOver e.line = (c == '#') := by
    rw [line, hdigits]
    exact Manifest.isPassedOver_append .nil (isBlank_digit hc) _
  rw [← Manifest.isPassedOver_iff, hkept, beq_iff_eq]
  rintro rfl
  exact absurd hc (by decide)

theorem newline_not_mem : '\n' ∉ e.line := by
  have hsolid {word : List Char} (hword : IsWord word) : '\n' ∉ word := by
    intro hmem
    exact absurd (hword.solid _ hmem) (by decide)
  simp [line, hsolid h.isWord_checksum, hsolid h.file]

/-- The line ends with its file, so that no carriage return is taken from it. -/
theorem dropCarriageReturn_line : Text.dropCarriageReturn e.line = e.line := by
  have hlast : e.line.getLast? = e.file.toList.getLast? := by
    have hcut : e.line = (e.checksum.toList ++ [' ', ' ']) ++ e.file.toList := by simp [line]
    rw [hcut, List.getLast?_append_of_ne_nil _ h.file.nonempty]
  rw [Text.dropCarriageReturn, hlast]
  split
  · next hreturn =>
    exact absurd (h.file.trimmed.ends _ hreturn) (by decide)
  · rfl

end ManifestEntry.IsPlain

namespace Manifest

variable {entries : List ManifestEntry}

theorem toList_written (e : ManifestEntry) (entries : List ManifestEntry) :
    (written (e :: entries)).toList = e.line ++ '\n' :: (written entries).toList := by
  simp [written, ManifestEntry.line]

theorem cutsInto_written (h : ∀ e ∈ entries, e.IsPlain) :
    CutsInto '\n' Text.dropCarriageReturn (written entries).toList (entries.map ManifestEntry.line) := by
  induction entries with
  | nil => exact .nil
  | cons e entries ih =>
    obtain ⟨he, hentries⟩ := List.forall_mem_cons.mp h
    have hcut : CutsInto '\n' Text.dropCarriageReturn (e.line ++ '\n' :: (written entries).toList)
        (Text.dropCarriageReturn e.line :: entries.map ManifestEntry.line) :=
      .line he.newline_not_mem (ih hentries)
    rw [he.dropCarriageReturn_line] at hcut
    rw [toList_written]
    exact hcut

theorem enumerates_written (h : ∀ e ∈ entries, e.IsPlain) :
    Enumerates (entries.map ManifestEntry.line)
      (entries.map fun e => ⟨e.checksum.toList, e.file.toList⟩) := by
  induction entries with
  | nil => exact .nil
  | cons e entries ih =>
    obtain ⟨he, hentries⟩ := List.forall_mem_cons.mp h
    exact .file he.not_isComment he.standsIn (ih hentries)

theorem parse_eq_ok_iff {text : String} {entries : List ManifestEntry} :
    parse text = .ok entries ↔
      ∃ listings, Enumerates (Text.lines text.toList) listings ∧ entries = listings.map Listing.entry := by
  simp only [parse, entriesFrom_eq_ok_iff, enumerates_iff]

theorem parse_written (h : ∀ e ∈ entries, e.IsPlain) : parse (written entries) = .ok entries := by
  have hlists := enumerates_written h
  rw [← Text.lines_eq_iff.mpr (cutsInto_written h)] at hlists
  refine parse_eq_ok_iff.mpr ⟨_, hlists, ?_⟩
  rw [List.map_map]
  exact ((List.map_congr_left fun e he => (h e he).entry_eq).trans (List.map_id _)).symm

/-- A manifest is read exactly if each of its lines is a comment or has a digest and a file as its two words.
The entries are those of the lines that are no comments, in order, with the digests in lower case; otherwise
the error is the first line that offends, with its number among all lines. Entries that are written a line
each are read back. -/
theorem parse_reads_lines :
    (∀ text : String, ∃ lines,
      (∀ ls, CutsInto '\n' Text.dropCarriageReturn text.toList ls ↔ ls = lines) ∧
      ((∃ entries, parse text = .ok entries) ↔ ∀ line ∈ lines, ¬ Offends line) ∧
      (∀ entries, parse text = .ok entries ↔
        ∃ listings, Enumerates lines listings ∧ entries = listings.map Listing.entry) ∧
      ∀ e, parse text = .error e ↔ FirstOffence lines e) ∧
    ∀ entries : List ManifestEntry, (∀ e ∈ entries, e.IsPlain) → parse (written entries) = .ok entries := by
  refine ⟨fun text => ⟨Text.lines text.toList, ?_, ?_, fun _ => parse_eq_ok_iff, ?_⟩,
    fun entries => parse_written⟩
  · intro ls
    rw [← Text.lines_eq_iff, eq_comm]
  · simp only [← exists_enumerates_iff, parse_eq_ok_iff]
    constructor
    · rintro ⟨_, listings, hlists, -⟩
      exact ⟨listings, hlists⟩
    · rintro ⟨listings, hlists⟩
      exact ⟨_, listings, hlists, rfl⟩
  · intro e
    rw [parse, entriesFrom_eq_error_iff, firstOffence_iff]

/-- Two entries, of which the second has a number sign and a character of several bytes in its name. -/
def plainEntries : List ManifestEntry :=
  [⟨"20182c2334b7e4245133147c2b2cd4f750ca66a7d34b9cdc91744cc40f0e3e5b", "text.rhai"⟩,
    ⟨"1f58ed5c6f36874f5bf7962fb2b3deca66f76668fc0dd64154c886c1fb3f5f72", "#zahlen-ü"⟩]

theorem parse_reads_lines_plain :
    (∀ e ∈ plainEntries, e.IsPlain) ∧ parse (written plainEntries) = .ok plainEntries := by
  have hplain : ∀ e ∈ plainEntries, e.IsPlain := by
    simp only [plainEntries, List.forall_mem_cons, List.not_mem_nil, false_implies, implies_true, and_true]
    decide +kernel
  exact ⟨hplain, parse_reads_lines.2 plainEntries hplain⟩

/-- Blank lines and comments count, and a digest that is too short is an offence. -/
example : parse "# files\r\n\n abc  text.rhai \n" = .error ⟨3, " abc  text.rhai "⟩ := by decide +kernel

end Manifest

end PlaceholderScripts.Library
