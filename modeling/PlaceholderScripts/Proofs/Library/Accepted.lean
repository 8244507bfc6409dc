import PlaceholderScripts.Pool
import PlaceholderScripts.Proofs.Library.Verification
import PlaceholderScripts.Proofs.Outcomes
import PlaceholderScripts.Proofs.Script.Reading

/-!
# The embedded library is accepted

The embedded files have the digests that the embedded manifest lists, and they are scripts that consist of
functions. So the library is accepted, and its modules can be instantiated: they offer the functions of the
files, and nothing else.
-/

namespace PlaceholderScripts.Library

section Bytes

theorem toList_loop (bytes : ByteArray) (i : Nat) (read : List UInt8) :
    ByteArray.toList.loop bytes i read = read.reverse ++ bytes.data.toList.drop i := by
  induction i, read using ByteArray.toList.loop.induct bytes with
  | case1 i read hi ih =>
    have hinside : i < bytes.data.toList.length := by simpa using hi
    have hget : bytes.get! i = bytes.data.toList[i] := by
      rw [Array.getElem_toList]
      exact getElem!_pos bytes.data i (by simpa using hi)
    rw [ByteArray.toList.loop, if_pos hi, ih, List.drop_eq_getElem_cons hinside, hget, List.reverse_cons,
      List.append_assoc, List.singleton_append]
  | case2 i read hi =>
    have houtside : bytes.data.toList.length ≤ i := by simpa using hi
    rw [ByteArray.toList.loop, if_neg hi, List.drop_eq_nil_of_le houtside, List.append_nil]

theorem digest_ofList (cs : List Char) :
    Digest.ofText (String.ofList cs) = Digest.ofBytes (cs.flatMap String.utf8EncodeChar) := by
  have hbytes : (String.ofList cs).toUTF8 = (cs.flatMap String.utf8EncodeChar).toByteArray := rfl
  rw [Digest.ofText, hbytes, ByteArray.toList, toList_loop]
  simp

end Bytes

def textDigest : String := "20182c2334b7e4245133147c2b2cd4f750ca66a7d34b9cdc91744cc40f0e3e5b"

def numbersDigest : String := "1f58ed5c6f36874f5bf7962fb2b3deca66f76668fc0dd64154c886c1fb3f5f72"

set_option maxRecDepth 10000 in
theorem digests_embedded :
    Digest.ofText Embedded.textSource = textDigest ∧ Digest.ofText Embedded.numbersSource = numbersDigest := by
  constructor
  · refine (digest_ofList _).trans ?_
    decide +kernel
  · refine (digest_ofList _).trans ?_
    decide +kernel

theorem exists_script {code : String}
    (h : (Script.parse code).toOption.any (·.body.isEmpty) = true) :
    ∃ functions, Script.parse code = .ok ⟨functions, []⟩ := by
  obtain ⟨⟨functions, body⟩, hparse, hbody⟩ := exists_eq_ok_of_any h
  obtain rfl := List.isEmpty_iff.mp hbody
  exact ⟨functions, hparse⟩

set_option maxRecDepth 10000 in
theorem exists_embeddedScripts : ∃ text numbers, Script.parse Embedded.textSource = .ok ⟨text, []⟩ ∧
    Script.parse Embedded.numbersSource = .ok ⟨numbers, []⟩ := by
  have htext : (Script.parse Embedded.textSource).toOption.any (·.body.isEmpty) = true := by
    rw [show Script.parse Embedded.textSource = _ from Script.parse_ofList _]
    decide +kernel
  have hnumbers : (Script.parse Embedded.numbersSource).toOption.any (·.body.isEmpty) = true := by
    rw [show Script.parse Embedded.numbersSource = _ from Script.parse_ofList _]
    decide +kernel
  obtain ⟨text, htext⟩ := exists_script htext
  obtain ⟨numbers, hnumbers⟩ := exists_script hnumbers
  exact ⟨text, numbers, htext, hnumbers⟩

theorem runM_answer_embedded {α : Type} (d : Inspection α) :
    d.runM (answer .embedded) = .done (d.settle (fixedAnswer embeddedFile)) := by
  induction d with
  | done a => rfl
  | ask q next ih =>
    have hanswer : answer .embedded q = .done (fixedAnswer embeddedFile q) := by
      cases q <;> rfl
    rw [Dialogue.runM, hanswer]
    exact ih _

def embeddedListings : List Listing :=
  [⟨textDigest.toList, "text.rhai".toList⟩, ⟨numbersDigest.toList, "numbers.rhai".toList⟩]

set_option maxRecDepth 10000 in
theorem parse_manifest : Manifest.parse Embedded.manifest = .ok (embeddedListings.map Listing.entry) := by
  have hchars : Embedded.manifest.toList = _ := String.toList_ofList
  rw [Manifest.parse, hchars]
  decide +kernel

theorem becomes_of_digest {file code digest name : String} {script : Script.ParsedScript}
    (hfile : embeddedFile file = .ok code) (hdigest : Digest.ofText code = digest)
    (hscript : Script.parse code = .ok script) (hname : name = (Path.fileStem? file).getD file) :
    Becomes embeddedFile ⟨digest.toList, file.toList⟩ code ⟨name, digest, script⟩ where
  text := by rwa [String.ofList_toList]
  digest := by rw [hdigest, Text.SameLetters]
  script := hscript
  checksum := hdigest.symm
  lower := by
    rw [← hdigest]
    exact Digest.toLower_ofText code
  name := by rwa [String.ofList_toList]

def embeddedLibrary (text numbers : Script.ParsedScript) : Library :=
  ⟨[⟨"text", textDigest, text⟩, ⟨"numbers", numbersDigest, numbers⟩]⟩

variable {text numbers : Script.ParsedScript}

theorem load_embedded (htext : Script.parse Embedded.textSource = .ok text)
    (hnumbers : Script.parse Embedded.numbersSource = .ok numbers) :
    load .embedded = .done (.ok (embeddedLibrary text numbers)) := by
  have hmanifest : embeddedFile manifestFile = .ok Embedded.manifest := rfl
  have hfirst : Becomes embeddedFile ⟨textDigest.toList, "text.rhai".toList⟩ Embedded.textSource
      ⟨"text", textDigest, text⟩ :=
    becomes_of_digest rfl digests_embedded.1 htext (by decide)
  have hsecond : Becomes embeddedFile ⟨numbersDigest.toList, "numbers.rhai".toList⟩ Embedded.numbersSource
      ⟨"numbers", numbersDigest, numbers⟩ :=
    becomes_of_digest rfl digests_embedded.2 hnumbers (by decide)
  have hverdicts := mapM_of_forall₂ (.cons (verdict_of_passes ⟨_, hfirst⟩)
    (.cons (verdict_of_passes ⟨_, hsecond⟩) .nil))
  rw [load, runM_answer_embedded, settle_inspect_of_text hmanifest, parse_manifest]
  dsimp only
  rw [settle_inspectEntries, embeddedListings, hverdicts]
  rfl

/-- The modules of an interpreter that was made with the embedded library. -/
def IsEmbedded (modules : List Script.Module) : Prop :=
  ∃ library extensions rounds serial interpreter, load .embedded = .done (.ok library) ∧
    Factory.create ⟨library, extensions, rounds⟩ serial = .ok interpreter ∧ interpreter.modules = modules

theorem isEmbedded_iff {modules : List Script.Module}
    (htext : Script.parse Embedded.textSource = .ok text)
    (hnumbers : Script.parse Embedded.numbersSource = .ok numbers) :
    IsEmbedded modules ↔
      modules = [⟨"text", text.functions, [], []⟩, ⟨"numbers", numbers.functions, [], []⟩] := by
  have hload := load_embedded htext hnumbers
  obtain ⟨functions, others, htext', hnumbers'⟩ := exists_embeddedScripts
  obtain rfl := Except.ok.inj (htext'.symm.trans htext)
  obtain rfl := Except.ok.inj (hnumbers'.symm.trans hnumbers)
  have hcreate (extensions rounds serial : Nat) :
      Factory.create ⟨embeddedLibrary ⟨functions, []⟩ ⟨others, []⟩, extensions, rounds⟩ serial =
        .ok ⟨serial, [⟨"text", functions, [], []⟩, ⟨"numbers", others, [], []⟩]⟩ := rfl
  constructor
  · rintro ⟨library, extensions, rounds, serial, interpreter, hlibrary, hmade, rfl⟩
    have hsame := hload.symm.trans hlibrary
    simp only [Dialogue.done.injEq, Except.ok.injEq] at hsame
    subst hsame
    obtain rfl := Except.ok.inj ((hcreate _ _ _).symm.trans hmade)
    rfl
  · rintro rfl
    exact ⟨_, 0, 0, 0, _, hload, hcreate 0 0 0, rfl⟩

theorem exists_isEmbedded : ∃ modules, IsEmbedded modules := by
  obtain ⟨text, numbers, htext, hnumbers⟩ := exists_embeddedScripts
  exact ⟨_, (isEmbedded_iff htext hnumbers).mpr rfl⟩

namespace IsEmbedded

variable {f : Script.Frame} (h : IsEmbedded f.modules)
include h

theorem module?_text (htext : Script.parse Embedded.textSource = .ok text) :
    f.module? "text" = some ⟨"text", text.functions, [], []⟩ := by
  obtain ⟨-, numbers, -, hnumbers⟩ := exists_embeddedScripts
  rw [Script.Frame.module?, (isEmbedded_iff htext hnumbers).mp h]
  rfl

theorem module?_numbers (hnumbers : Script.parse Embedded.numbersSource = .ok numbers) :
    f.module? "numbers" = some ⟨"numbers", numbers.functions, [], []⟩ := by
  obtain ⟨text, -, htext, -⟩ := exists_embeddedScripts
  rw [Script.Frame.module?, (isEmbedded_iff htext hnumbers).mp h]
  rfl

end IsEmbedded

end PlaceholderScripts.Library
