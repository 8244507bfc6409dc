import PlaceholderScripts.Library.Basic
import PlaceholderScripts.Proofs.Library.ManifestGrammar
import PlaceholderScripts.Proofs.Surroundings.Conversations
import PlaceholderScripts.Proofs.Surroundings.Files
import PlaceholderScripts.Proofs.Text.LetterCase

/-!
# Verified libraries

Which libraries are accepted, and for what the others are refused. A listed file becomes a module if it can
be read, has the listed digest and is a script; the first one that does not decides over the library. What
is compiled is always the text that was read right before from a listed file and has the listed digest. This
does not depend on the files staying as they are, nor on what the compiler says.
-/

namespace PlaceholderScripts

theorem Digest.digitChar_toLower {n : Nat} (h : n < 16) :
    (Nat.digitChar n).toLower = Nat.digitChar n := by
  have hdigits : ∀ n < 16, (Nat.digitChar n).toLower = Nat.digitChar n := by decide
  exact hdigits n h

theorem Digest.toLower_ofText (text : String) :
    (ofText text).toList.map Char.toLower = (ofText text).toList := by
  unfold ofText ofBytes
  rw [String.toList_ofList]
  refine List.map_congr_left (fun c hc => ?_) |>.trans (List.map_id _)
  obtain ⟨w, -, hc⟩ := List.mem_flatMap.mp hc
  obtain ⟨i, -, rfl⟩ := List.mem_map.mp hc
  exact digitChar_toLower (Nat.mod_lt _ (by decide))

/-- What there is under the name of a file of a library, where `files` can be read from paths. -/
def LibrarySource.texts (source : LibrarySource) (files : Path → Except FileError String)
    (name : String) : Except LibraryError String :=
  match source with
  | .embedded => Library.embeddedFile name
  | .directory dir => Library.textOfReply (Path.join dir name) name (files (Path.join dir name))

namespace Library

section Texts

variable (texts : String → Except LibraryError String)

/-- The listed file is a script with the listed digest, and the module is what it is compiled to. -/
structure Becomes (l : Listing) (code : String) (m : LibraryModule) : Prop where
  text : texts (String.ofList l.file) = .ok code
  digest : Text.SameLetters l.digest (Digest.ofText code).toList
  script : Script.parse code = .ok m.script
  checksum : m.checksum = Digest.ofText code
  lower : m.checksum.toList.map Char.toLower = m.checksum.toList
  name : m.name = (Path.fileStem? (String.ofList l.file)).getD (String.ofList l.file)

def Passes (l : Listing) (m : LibraryModule) : Prop := ∃ code, Becomes texts l code m

inductive Refused (l : Listing) : LibraryError → Prop
  | unreadable {e : LibraryError} (h : texts (String.ofList l.file) = .error e) : Refused l e
  | mismatch {code : String} (htext : texts (String.ofList l.file) = .ok code)
      (h : ¬ Text.SameLetters l.digest (Digest.ofText code).toList) :
      Refused l (.checksumMismatch (String.ofList l.file) (String.ofList (l.digest.map Char.toLower))
        (Digest.ofText code))
  | notScript {code : String} {e : Script.ParseError} (htext : texts (String.ofList l.file) = .ok code)
      (hdigest : Text.SameLetters l.digest (Digest.ofText code).toList)
      (h : Script.parse code = .error e) : Refused l (.notCompiled (String.ofList l.file) e)

inductive Loads : Except LibraryError Library → Prop
  | unreadable {e : LibraryError} (h : texts manifestFile = .error e) : Loads (.error e)
  | malformed {text : String} {e : ManifestError} (htext : texts manifestFile = .ok text)
      (h : Manifest.Stumbles 1 (Text.lines text.toList) e) : Loads (.error (.invalidManifest e))
  | refused {text : String} {before after : List Listing} {l : Listing} {e : LibraryError}
      (htext : texts manifestFile = .ok text)
      (hlists : Manifest.Lists (Text.lines text.toList) (before ++ l :: after))
      (hbefore : ∀ l ∈ before, ∃ m, Passes texts l m) (h : Refused texts l e) : Loads (.error e)
  | accepted {text : String} {listings : List Listing} {modules : List LibraryModule}
      (htext : texts manifestFile = .ok text)
      (hlists : Manifest.Lists (Text.lines text.toList) listings)
      (h : List.Forall₂ (Passes texts) listings modules) : Loads (.ok ⟨modules⟩)

end Texts

/-- The fixed replies where `texts` stands under the names of the files. -/
def fixedAnswer (texts : String → Except LibraryError String) : (q : Query) → q.Reply
  | .read name => texts name
  | .compile code => Script.parse code

variable {texts : String → Except LibraryError String} {l : Listing}

theorem ofText_eq_checksum_iff {code : String} :
    Digest.ofText code = l.entry.checksum ↔ Text.SameLetters l.digest (Digest.ofText code).toList := by
  rw [Text.sameLetters_iff_of_lower (Digest.toLower_ofText code), Listing.entry, eq_comm,
    ← String.toList_inj, String.toList_ofList]

theorem settle_read_bind {α : Type} (name : String) (k : Except LibraryError String → Inspection α) :
    (Inspection.read name >>= k).settle (fixedAnswer texts) =
      (k (texts name)).settle (fixedAnswer texts) :=
  rfl

theorem settle_compile_bind {α : Type} (code : String)
    (k : Except Script.ParseError Script.ParsedScript → Inspection α) :
    (Inspection.compile code >>= k).settle (fixedAnswer texts) =
      (k (Script.parse code)).settle (fixedAnswer texts) :=
  rfl

/-- What becomes of a listed file. -/
def verdict (texts : String → Except LibraryError String) (l : Listing) :
    Except LibraryError LibraryModule :=
  match texts (String.ofList l.file) with
  | .error e => .error e
  | .ok code => (verify l.entry code).settle (fixedAnswer texts)

theorem verdict_of_text {code : String} (h : texts (String.ofList l.file) = .ok code) :
    verdict texts l = (verify l.entry code).settle (fixedAnswer texts) := by
  rw [verdict, h]

theorem verify_of_mismatch {entry : ManifestEntry} {code : String}
    (h : Digest.ofText code ≠ entry.checksum) :
    verify entry code =
      .done (.error (.checksumMismatch entry.file entry.checksum (Digest.ofText code))) := by
  rw [verify, if_pos h]
  rfl

theorem verify_of_digest {entry : ManifestEntry} {code : String}
    (h : Digest.ofText code = entry.checksum) :
    verify entry code = Inspection.compile code >>= fun compiled =>
      match compiled with
      | .ok script => .done (.ok ⟨moduleName entry.file, Digest.ofText code, script⟩)
      | .error e => .done (.error (.notCompiled entry.file e)) := by
  rw [verify, if_neg (not_not_intro h)]
  rfl

theorem verdict_of_passes {m : LibraryModule} (h : Passes texts l m) : verdict texts l = .ok m := by
  obtain ⟨code, htext, hdigest, hscript, hchecksum, -, hname⟩ := h
  rw [verdict_of_text htext, verify_of_digest (ofText_eq_checksum_iff.mpr hdigest),
    settle_compile_bind, hscript]
  change Except.ok (LibraryModule.mk (moduleName _) _ m.script) = _
  rw [moduleName, Listing.entry, ← hname, ← hchecksum]

theorem verdict_of_refused {e : LibraryError} (h : Refused texts l e) :
    verdict texts l = .error e := by
  cases h with
  | unreadable h => rw [verdict, h]
  | mismatch htext h =>
    rw [verdict_of_text htext, verify_of_mismatch (mt ofText_eq_checksum_iff.mp h)]
    rfl
  | notScript htext hdigest h =>
    rw [verdict_of_text htext, verify_of_digest (ofText_eq_checksum_iff.mpr hdigest),
      settle_compile_bind, h]
    rfl

theorem passes_or_refused (texts : String → Except LibraryError String) (l : Listing) :
    (∃ m, Passes texts l m) ∨ ∃ e, Refused texts l e := by
  cases htext : texts (String.ofList l.file) with
  | error e => exact .inr ⟨e, .unreadable htext⟩
  | ok code =>
    by_cases hdigest : Text.SameLetters l.digest (Digest.ofText code).toList
    · cases hparse : Script.parse code with
      | error e => exact .inr ⟨_, .notScript htext hdigest hparse⟩
      | ok script =>
        exact .inl ⟨⟨moduleName _, Digest.ofText code, script⟩, code, htext, hdigest, hparse, rfl,
          Digest.toLower_ofText code, rfl⟩
    · exact .inr ⟨_, .mismatch htext hdigest⟩

theorem verdict_eq_ok_iff {m : LibraryModule} : verdict texts l = .ok m ↔ Passes texts l m := by
  refine ⟨fun h => ?_, verdict_of_passes⟩
  obtain ⟨m', hpasses⟩ | ⟨e, hrefused⟩ := passes_or_refused texts l
  · obtain rfl : m' = m := Except.ok.inj ((verdict_of_passes hpasses).symm.trans h)
    exact hpasses
  · exact nomatch (verdict_of_refused hrefused).symm.trans h

theorem verdict_eq_error_iff {e : LibraryError} :
    verdict texts l = .error e ↔ Refused texts l e := by
  refine ⟨fun h => ?_, verdict_of_refused⟩
  obtain ⟨m, hpasses⟩ | ⟨e', hrefused⟩ := passes_or_refused texts l
  · exact nomatch (verdict_of_passes hpasses).symm.trans h
  · obtain rfl : e' = e := Except.error.inj ((verdict_of_refused hrefused).symm.trans h)
    exact hrefused

section FirstFailure

variable {α β ε : Type} {f : α → Except ε β} {as : List α}

theorem mapM_cons_of_ok {a : α} {b : β} (h : f a = .ok b) :
    (a :: as).mapM f = (as.mapM f).map (b :: ·) := by
  rw [List.mapM_cons, h]
  change (as.mapM f >>= fun bs => pure (b :: bs)) = _
  cases as.mapM f <;> rfl

theorem mapM_cons_of_error {a : α} {e : ε} (h : f a = .error e) :
    (a :: as).mapM f = .error e := by
  rw [List.mapM_cons, h]
  rfl

theorem mapM_of_forall₂ {bs : List β} (h : List.Forall₂ (fun a b => f a = .ok b) as bs) :
    as.mapM f = .ok bs := by
  induction h with
  | nil => rfl
  | cons hfirst _ ih =>
    rw [mapM_cons_of_ok hfirst, ih]
    rfl

theorem mapM_append_of_error {before after : List α} {a : α} {e : ε}
    (hbefore : ∀ b ∈ before, ∃ r, f b = .ok r) (h : f a = .error e) :
    (before ++ a :: after).mapM f = .error e := by
  induction before with
  | nil => exact mapM_cons_of_error h
  | cons b before ih =>
    obtain ⟨r, hr⟩ := hbefore b List.mem_cons_self
    rw [List.cons_append, mapM_cons_of_ok hr, ih fun b hb => hbefore b (List.mem_cons_of_mem _ hb)]
    rfl

/-- A pass over a list succeeds at every element, or there is a first one at which it fails. -/
theorem forall₂_or_first_error (f : α → Except ε β) (as : List α) :
    (∃ bs, List.Forall₂ (fun a b => f a = .ok b) as bs) ∨
      ∃ before a after e, as = before ++ a :: after ∧ (∀ b ∈ before, ∃ r, f b = .ok r) ∧
        f a = .error e := by
  induction as with
  | nil => exact .inl ⟨[], .nil⟩
  | cons a as ih =>
    cases hfirst : f a with
    | error e => exact .inr ⟨[], a, as, e, rfl, nofun, hfirst⟩
    | ok b =>
      refine ih.imp ?_ ?_
      · exact fun ⟨bs, h⟩ => ⟨b :: bs, .cons hfirst h⟩
      · rintro ⟨before, a', after, e, rfl, hbefore, h⟩
        refine ⟨a :: before, a', after, e, rfl, fun b' hb' => ?_, h⟩
        obtain rfl | hb' := List.mem_cons.mp hb'
        · exact ⟨b, hfirst⟩
        · exact hbefore b' hb'

end FirstFailure

theorem settle_inspectEntries_cons (l : Listing) (rest : List ManifestEntry) :
    (inspectEntries (l.entry :: rest)).settle (fixedAnswer texts) =
      (verdict texts l).bind fun m =>
        ((inspectEntries rest).settle (fixedAnswer texts)).map (m :: ·) := by
  rw [inspectEntries, settle_read_bind, verdict, Listing.entry_file]
  cases texts (String.ofList l.file) with
  | error e => rfl
  | ok code =>
    simp only [Dialogue.bind_eq, Dialogue.settle_bind]
    cases Dialogue.settle (fixedAnswer texts) (verify l.entry code) with
    | error e => rfl
    | ok m =>
      simp only [Dialogue.settle_bind]
      change _ = Except.map (m :: ·) _
      cases Dialogue.settle (fixedAnswer texts) (inspectEntries rest) <;> rfl

theorem settle_inspectEntries (listings : List Listing) :
    (inspectEntries (listings.map Listing.entry)).settle (fixedAnswer texts) =
      listings.mapM (verdict texts) := by
  induction listings with
  | nil => rfl
  | cons l rest ih =>
    rw [List.map_cons, settle_inspectEntries_cons, ih]
    cases hverdict : verdict texts l with
    | error e => exact (mapM_cons_of_error hverdict).symm
    | ok m => exact (mapM_cons_of_ok hverdict).symm

theorem settle_inspect_of_text {text : String} (h : texts manifestFile = .ok text) :
    inspect.settle (fixedAnswer texts) =
      match Manifest.parse text with
      | .error e => .error (.invalidManifest e)
      | .ok entries => ((inspectEntries entries).settle (fixedAnswer texts)).map Library.mk := by
  rw [inspect, settle_read_bind, h]
  dsimp only
  cases Manifest.parse text with
  | error e => rfl
  | ok entries =>
    simp only [Dialogue.bind_eq, Dialogue.settle_bind]
    cases Dialogue.settle (fixedAnswer texts) (inspectEntries entries) <;> rfl

theorem settle_inspect_of_lists {text : String} {listings : List Listing}
    (htext : texts manifestFile = .ok text)
    (hlists : Manifest.Lists (Text.lines text.toList) listings) :
    inspect.settle (fixedAnswer texts) = (listings.mapM (verdict texts)).map Library.mk := by
  have hparse : Manifest.parse text = .ok (listings.map Listing.entry) :=
    Manifest.entriesFrom_of_lists 1 hlists
  rw [settle_inspect_of_text htext, hparse, ← settle_inspectEntries]

theorem settle_inspect_of_error {e : LibraryError} (h : texts manifestFile = .error e) :
    inspect.settle (fixedAnswer texts) = .error e := by
  rw [inspect, settle_read_bind, h]
  rfl

theorem Loads.settle_eq {outcome : Except LibraryError Library} (h : Loads texts outcome) :
    inspect.settle (fixedAnswer texts) = outcome := by
  cases h with
  | unreadable h => exact settle_inspect_of_error h
  | malformed htext h =>
    have hparse : Manifest.parse _ = .error _ := Manifest.entriesFrom_of_stumbles h
    rw [settle_inspect_of_text htext, hparse]
  | refused htext hlists hbefore h =>
    have hpasses := fun l hl => (hbefore l hl).imp fun _ => verdict_of_passes
    rw [settle_inspect_of_lists htext hlists, mapM_append_of_error hpasses (verdict_of_refused h)]
    rfl
  | accepted htext hlists h =>
    rw [settle_inspect_of_lists htext hlists,
      mapM_of_forall₂ (h.imp fun _ _ => verdict_of_passes)]
    rfl

theorem exists_loads (texts : String → Except LibraryError String) :
    ∃ outcome, Loads texts outcome := by
  cases htext : texts manifestFile with
  | error e => exact ⟨_, .unreadable htext⟩
  | ok text =>
    obtain ⟨listings, hlists⟩ | ⟨e, h⟩ := Manifest.lists_or_stumbles 1 (Text.lines text.toList)
    · obtain ⟨modules, h⟩ | ⟨before, l, after, e, rfl, hbefore, h⟩ :=
        forall₂_or_first_error (verdict texts) listings
      · exact ⟨_, .accepted htext hlists (h.imp fun _ _ => verdict_eq_ok_iff.mp)⟩
      · exact ⟨_, .refused htext hlists
          (fun l hl => (hbefore l hl).imp fun _ => verdict_eq_ok_iff.mp) (verdict_eq_error_iff.mp h)⟩
    · exact ⟨_, .malformed htext h⟩

/-- Exactly one outcome is due, and it is the one that inspecting the library has. -/
theorem settle_inspect_eq_iff {outcome : Except LibraryError Library} :
    inspect.settle (fixedAnswer texts) = outcome ↔ Loads texts outcome := by
  refine ⟨fun h => ?_, Loads.settle_eq⟩
  obtain ⟨due, hdue⟩ := exists_loads texts
  rw [← h, hdue.settle_eq]
  exact hdue

/-- In surroundings with files that stay as they are, a library is read as it is inspected. -/
theorem run_load {σ : Type} {reply : σ → (q : Request) → q.Reply × σ}
    {files : σ → Path → Except FileError String} (h : SteadyFiles reply files)
    (source : LibrarySource) (s : σ) :
    (Dialogue.run reply (load source) s).1 =
      inspect.settle (fixedAnswer (source.texts (files s))) := by
  rw [load, Dialogue.run_runM]
  -- the state may change with each reply, but not what can be read in it
  refine Dialogue.run_eq_settle (I := fun s' => files s' = files s) (fun s' q hs' => ?_) inspect rfl
  cases q with
  | compile code => exact ⟨rfl, hs'⟩
  | read name =>
    cases source with
    | embedded => exact ⟨rfl, hs'⟩
    | directory dir =>
      refine ⟨?_, (h.steady s' _ id).trans hs'⟩
      rw [← hs']
      exact congrArg (textOfReply _ _) (h.reading s' _)

section Transcript

variable {α σ : Type} (reply : σ → (q : Query) → q.Reply × σ)

theorem transcript_compile_bind (code : String)
    (k : Except Script.ParseError Script.ParsedScript → Inspection α) (s : σ) :
    (Inspection.compile code >>= k).transcript reply s =
      ⟨.compile code, (reply s (.compile code)).1⟩ ::
        (k (reply s (.compile code)).1).transcript reply (reply s (.compile code)).2 :=
  rfl

theorem transcript_read_bind (name : String)
    (k : Except LibraryError String → Inspection α) (s : σ) :
    (Inspection.read name >>= k).transcript reply s =
      ⟨.read name, (reply s (.read name)).1⟩ ::
        (k (reply s (.read name)).1).transcript reply (reply s (.read name)).2 :=
  rfl

/-- What is asked about listed files, and what is replied, whatever the replies are. -/
inductive Checks : List ManifestEntry → List ((q : Query) × q.Reply) → Prop
  | nil : Checks [] []
  | unreadable (entry : ManifestEntry) (rest : List ManifestEntry) (e : LibraryError) :
    Checks (entry :: rest) [⟨.read entry.file, Except.error e⟩]
  | mismatch {entry : ManifestEntry} (rest : List ManifestEntry) {code : String}
      (h : Digest.ofText code ≠ entry.checksum) :
    Checks (entry :: rest) [⟨.read entry.file, Except.ok code⟩]
  | notScript {entry : ManifestEntry} (rest : List ManifestEntry) {code : String}
      (h : Digest.ofText code = entry.checksum) (e : Script.ParseError) :
    Checks (entry :: rest) [⟨.read entry.file, Except.ok code⟩, ⟨.compile code, Except.error e⟩]
  | passed {entry : ManifestEntry} {rest : List ManifestEntry} {code : String}
      (h : Digest.ofText code = entry.checksum) (script : Script.ParsedScript)
      {more : List ((q : Query) × q.Reply)} (hmore : Checks rest more) :
    Checks (entry :: rest)
      (⟨.read entry.file, Except.ok code⟩ :: ⟨.compile code, Except.ok script⟩ :: more)

theorem checks_inspectEntries (entries : List ManifestEntry) (s : σ) :
    Checks entries ((inspectEntries entries).transcript reply s) := by
  induction entries generalizing s with
  | nil => exact .nil
  | cons entry rest ih =>
    rw [inspectEntries, transcript_read_bind]
    generalize (reply s (.read entry.file)).1 = found
    generalize (reply s (.read entry.file)).2 = s₁
    change Except LibraryError String at found
    cases found with
    | error e => exact .unreadable entry rest e
    | ok code =>
      by_cases h : Digest.ofText code = entry.checksum
      · simp only [verify_of_digest h, bind_assoc]
        rw [transcript_compile_bind]
        generalize (reply s₁ (.compile code)).1 = compiled
        generalize (reply s₁ (.compile code)).2 = s₂
        change Except Script.ParseError Script.ParsedScript at compiled
        cases compiled with
        | error e => exact .notScript rest h e
        | ok script =>
          refine .passed h script ?_
          -- what becomes of the modules behind the first one asks no more questions
          change Checks rest (((inspectEntries rest).bind _).transcript reply s₂)
          rw [Dialogue.transcript_bind_of_done]
          · exact ih s₂
          · rintro (e | ms) <;> exact ⟨_, rfl⟩
      · simp only [verify_of_mismatch h]
        exact .mismatch rest h

theorem read_ne_compile {name code : String} {found : Except LibraryError String}
    {compiled : Except Script.ParseError Script.ParsedScript} :
    (⟨.read name, found⟩ : (q : Query) × q.Reply) ≠ ⟨.compile code, compiled⟩ :=
  fun h => nomatch congrArg Sigma.fst h

/-- Where a conversation begins with a file that is read and a text that is compiled, a text that is compiled
in it is this one, right after the file, or comes later. -/
theorem compile_cases {name code code' : String} {found : Except LibraryError String}
    {compiled compiled' : Except Script.ParseError Script.ParsedScript}
    {before after rest : List ((q : Query) × q.Reply)}
    (h : ⟨.read name, found⟩ :: ⟨.compile code', compiled'⟩ :: rest =
      before ++ ⟨.compile code, compiled⟩ :: after) :
    (before = [⟨.read name, found⟩] ∧ code' = code) ∨
      ∃ later, before = ⟨.read name, found⟩ :: ⟨.compile code', compiled'⟩ :: later ∧
        rest = later ++ ⟨.compile code, compiled⟩ :: after := by
  obtain _ | ⟨first, _ | ⟨second, later⟩⟩ := before
  · exact absurd (List.cons.inj h).1 read_ne_compile
  · obtain ⟨rfl, hsecond⟩ := List.cons.inj h
    exact .inl ⟨rfl, Query.compile.inj (congrArg Sigma.fst (List.cons.inj hsecond).1)⟩
  · obtain ⟨rfl, hsecond⟩ := List.cons.inj h
    obtain ⟨rfl, hrest⟩ := List.cons.inj hsecond
    exact .inr ⟨later, rfl, hrest⟩

/-- What is compiled is the text that was read right before from a listed file, and it has the listed
digest. -/
theorem Checks.compiled {entries : List ManifestEntry} {code : String}
    {all before after : List ((q : Query) × q.Reply)} {compiled : Except Script.ParseError Script.ParsedScript}
    (h : Checks entries all) (hall : all = before ++ ⟨.compile code, compiled⟩ :: after) :
    ∃ earlier, ∃ entry ∈ entries,
      before = earlier ++ [⟨.read entry.file, Except.ok code⟩] ∧
        Digest.ofText code = entry.checksum := by
  induction h generalizing before with
  | nil => simp at hall
  | unreadable entry rest e => cases before <;> simp [read_ne_compile] at hall
  | mismatch rest h => cases before <;> simp [read_ne_compile] at hall
  | notScript rest hdigest e =>
    obtain ⟨rfl, rfl⟩ | ⟨later, -, hrest⟩ := compile_cases hall
    · exact ⟨[], _, List.mem_cons_self, rfl, hdigest⟩
    · simp at hrest
  | passed hdigest script hmore ih =>
    obtain ⟨rfl, rfl⟩ | ⟨later, rfl, hrest⟩ := compile_cases hall
    · exact ⟨[], _, List.mem_cons_self, rfl, hdigest⟩
    · obtain ⟨earlier, other, hmem, rfl, hother⟩ := ih hrest
      exact ⟨_ :: _ :: earlier, other, List.mem_cons_of_mem _ hmem, rfl, hother⟩

/-- In every conversation about a library, what is compiled is the text that was read right before from a
file that the manifest lists with the digest of that text. -/
theorem inspect_compiles {code : String} {s : σ} {before after : List ((q : Query) × q.Reply)}
    {compiled : Except Script.ParseError Script.ParsedScript}
    (h : inspect.transcript reply s = before ++ ⟨.compile code, compiled⟩ :: after) :
    ∃ text listings l earlier, Manifest.Lists (Text.lines text.toList) listings ∧ l ∈ listings ∧
      Text.SameLetters l.digest (Digest.ofText code).toList ∧
      before = ⟨.read manifestFile, Except.ok text⟩ :: earlier ++
        [⟨.read (String.ofList l.file), Except.ok code⟩] := by
  rw [inspect, transcript_read_bind] at h
  generalize (reply s (.read manifestFile)).1 = found at h
  generalize (reply s (.read manifestFile)).2 = s' at h
  change Except LibraryError String at found
  cases before with
  | nil => exact absurd (List.cons.inj h).1 read_ne_compile
  | cons first before =>
    obtain ⟨rfl, hrest⟩ := List.cons.inj h
    cases found with
    | error e => simp [Dialogue.transcript] at hrest
    | ok text =>
      change Dialogue.transcript reply
        (match Manifest.parse text with | .error e => _ | .ok entries => _) s' = _ at hrest
      cases hparse : Manifest.parse text with
      | error e =>
        rw [hparse] at hrest
        simp [Dialogue.transcript] at hrest
      | ok entries =>
        obtain ⟨listings, hlists, rfl⟩ := Manifest.entriesFrom_eq_ok_iff.mp hparse
        rw [hparse] at hrest
        change Dialogue.transcript reply (Dialogue.bind _ _) s' = _ at hrest
        rw [Dialogue.transcript_bind_of_done] at hrest
        · obtain ⟨earlier, entry, hentry, rfl, hdigest⟩ :=
            (checks_inspectEntries reply _ s').compiled hrest
          obtain ⟨l, hl, rfl⟩ := List.mem_map.mp hentry
          exact ⟨text, listings, l, earlier, hlists, hl, ofText_eq_checksum_iff.mp hdigest, rfl⟩
        · rintro (e | modules) <;> exact ⟨_, rfl⟩

end Transcript

/-- A library is accepted exactly if its manifest can be read and each file that it lists can be read, has
the listed digest and is a script. Otherwise it is refused for the first of these that fails. No other text
than such a file's is ever compiled, even if the files change meanwhile or the compiler errs. -/
theorem load_verifies {σ : Type} {reply : σ → (q : Request) → q.Reply × σ}
    {files : σ → Path → Except FileError String} (h : SteadyFiles reply files)
    (source : LibrarySource) (s : σ) :
    (∀ outcome, (Dialogue.run reply (load source) s).1 = outcome ↔
      Loads (source.texts (files s)) outcome) ∧
    ∀ (τ : Type) (answers : τ → (q : Query) → q.Reply × τ) (t : τ) (code : String)
      (compiled : Except Script.ParseError Script.ParsedScript) (before after : List ((q : Query) × q.Reply)),
      inspect.transcript answers t = before ++ ⟨.compile code, compiled⟩ :: after →
      ∃ text listings l earlier, Manifest.Lists (Text.lines text.toList) listings ∧ l ∈ listings ∧
        Text.SameLetters l.digest (Digest.ofText code).toList ∧
        before = ⟨.read manifestFile, Except.ok text⟩ :: earlier ++
          [⟨.read (String.ofList l.file), Except.ok code⟩] := by
  refine ⟨fun outcome => ?_, fun τ answers t code compiled before after => inspect_compiles answers⟩
  rw [run_load h]
  exact settle_inspect_eq_iff

/-- An empty script, with its digest in upper case. -/
def emptyListing : Listing where
  digest := "E3B0C44298FC1C149AFBF4C8996FB92427AE41E4649B934CA495991B7852B855".toList
  file := "empty.rhai".toList

/-- A directory with a manifest that lists nothing but the empty script. -/
def emptyScriptOnly : World where
  files :=
    { nodes :=
        [(["lib"], .directory),
          (["lib", "MANIFEST"], .file (.text (String.ofList
            (emptyListing.digest ++ ' ' :: emptyListing.file)))),
          (["lib", "empty.rhai"], .file (.text ""))]
      working := [] }
  clock := .zero
  service := fun _ _ text => .ok text

/-- The script is accepted under its digest in lower case, and it is what is compiled. -/
theorem load_verifies_emptyScriptOnly :
    SteadyFiles World.reply World.texts ∧
      (∃ script, (emptyScriptOnly.run (load (.directory "lib"))).1 = .ok ⟨[⟨"empty",
        "e3b0c44298fc1c149afbf4c8996fb92427ae41e4649b934ca495991b7852b855", script⟩]⟩) ∧
      ∃ before compiled after,
        inspect.transcript (fun world q => World.run world (answer (.directory "lib") q))
          emptyScriptOnly = before ++ ⟨.compile "", compiled⟩ :: after ∧
        ∃ text listings l earlier, Manifest.Lists (Text.lines text.toList) listings ∧ l ∈ listings ∧
          Text.SameLetters l.digest (Digest.ofText "").toList ∧
          before = ⟨.read manifestFile, Except.ok text⟩ :: earlier ++
            [⟨.read (String.ofList l.file), Except.ok ""⟩] := by
  obtain ⟨houtcome, hcompiled⟩ :=
    load_verifies World.steadyFiles (.directory "lib") emptyScriptOnly
  refine ⟨World.steadyFiles, ?_, ?_⟩
  · have htext : LibrarySource.texts (.directory "lib") emptyScriptOnly.texts manifestFile =
        .ok (String.ofList (emptyListing.digest ++ ' ' :: emptyListing.file)) := by
      decide +kernel
    have hwritten : emptyListing.WrittenAs (emptyListing.digest ++ ' ' :: emptyListing.file) :=
      have hdigits := Manifest.isDigest_iff.mp (by decide +kernel)
      ⟨by decide +kernel, hdigits.1, hdigits.2⟩
    have hlines : (Text.lines (emptyListing.digest ++ ' ' :: emptyListing.file)).filter
        (fun line => !Manifest.isPassedOver line) =
          [emptyListing.digest ++ ' ' :: emptyListing.file] := by
      decide +kernel
    have hlists : Manifest.Lists
        (Text.lines (String.ofList (emptyListing.digest ++ ' ' :: emptyListing.file)).toList)
        [emptyListing] := by
      rw [Manifest.Lists, String.toList_ofList, hlines]
      exact .cons hwritten .nil
    have hdigest : Digest.ofText "" =
        "e3b0c44298fc1c149afbf4c8996fb92427ae41e4649b934ca495991b7852b855" := by
      decide +kernel
    have hsame : Text.SameLetters emptyListing.digest (Digest.ofText "").toList := by
      rw [hdigest]
      decide
    have hparses : (Script.parse "").toBool = true := by decide +kernel
    have hname : "empty" = moduleName (String.ofList emptyListing.file) := by decide +kernel
    cases hscript : Script.parse "" with
    | error e =>
      rw [hscript] at hparses
      exact nomatch hparses
    | ok script =>
      have hbecomes : Becomes (LibrarySource.texts (.directory "lib") emptyScriptOnly.texts)
          emptyListing "" ⟨"empty", Digest.ofText "", script⟩ :=
        ⟨by decide +kernel, hsame, hscript, rfl, Digest.toLower_ofText "", hname⟩
      rw [hdigest] at hbecomes
      exact ⟨script, (houtcome _).mpr (.accepted htext hlists (.cons ⟨"", hbecomes⟩ .nil))⟩
  · have hasked : Query.compile "" ∈
        (inspect.transcript (fun world q => World.run world (answer (.directory "lib") q))
          emptyScriptOnly).map Sigma.fst := by
      decide +kernel
    obtain ⟨⟨q, compiled⟩, hmem, rfl⟩ := List.mem_map.mp hasked
    obtain ⟨before, after, hsplit⟩ := List.append_of_mem hmem
    exact ⟨before, compiled, after, hsplit, hcompiled _ _ _ _ _ _ _ hsplit⟩

end Library

end PlaceholderScripts
