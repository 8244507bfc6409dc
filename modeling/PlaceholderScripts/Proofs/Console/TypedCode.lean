import PlaceholderScripts.Proofs.Console.Transcript
import PlaceholderScripts.Proofs.Expansion.Commands

/-!
# Code typed at the console

The words of a line are joined with single spaces where a command evaluates them. What is evaluated is
therefore the typed code with single spaces for its blanks, in the literals of the code as well.
-/

namespace PlaceholderScripts.Console

open Text (HasWords IsWord Trimmed SingleSpaced)

/-- Code as it comes out of the words that it was typed in. -/
def retyped (code : String) : String := String.ofList (Text.respaced code.toList)

section Retyped

variable {code line : String} {words : List String}

theorem Spells.intercalate_eq (h : Spells code words) : " ".intercalate words = retyped code := by
  have hspace : " ".toList = [' '] := rfl
  rw [retyped, Text.respaced, h.words_eq, ← String.toList_inj, String.toList_intercalate, hspace,
    String.toList_ofList]

theorem retyped_eq_iff (h : Trimmed code.toList) : retyped code = code ↔ SingleSpaced code.toList := by
  rw [← Text.respaced_eq_iff h, retyped, ← String.toList_inj, String.toList_ofList]

theorem spells_retyped_iff : Spells (retyped code) words ↔ Spells code words := by
  have hwords := spells_words code
  have hretyped : Spells (retyped code) ((Text.words code.toList).map String.ofList) := by
    rw [retyped, Text.respaced, Spells, String.toList_ofList]
    simpa using Text.hasWords_intercalate (Text.words_eq_iff.mp rfl : HasWords code.toList _).isWord
  constructor
  · intro h
    rwa [hretyped.unique h]
  · intro h
    rwa [hwords.unique h]

theorem Spells.cons {word : String} (hword : IsWord word.toList) (h : Spells line words) :
    Spells (word ++ " " ++ line) (word :: words) := by
  have hcons := HasWords.word .nil hword (rfl : Text.isBlank ' ' = true) h
  simpa [Spells] using hcons

theorem exists_spells_cons (hne : code ≠ "") (h : Trimmed code.toList) :
    ∃ first more, Spells code (first :: more) := by
  have hwords := spells_words code
  have hnonempty := hwords.ne_nil (by simpa using hne) h.begins
  generalize (Text.words code.toList).map String.ofList = words at hwords hnonempty
  cases words with
  | nil => exact absurd rfl hnonempty
  | cons first more => exact ⟨first, more, hwords⟩

theorem isWord_word (target : ParseTarget) : IsWord target.word.toList := by
  cases target <;> decide

end Retyped

section Step

variable {code : String} {x : Expansion} {identity : Identity}

def parseLine (target : ParseTarget) (code : String) : String :=
  "scriptex" ++ " " ++ ("parse" ++ " " ++ (target.word ++ " " ++ code))

theorem step_parseLine (hne : code ≠ "") (h : Trimmed code.toList) (target : ParseTarget) :
    (start x identity).step (some (parseLine target code)) =
      (x.parse 0 identity target (retyped code)).bind fun r =>
        .done (.output r.1.toLines, start r.2 identity) := by
  obtain ⟨first, more, hcode⟩ := exists_spells_cons hne h
  have hline : Spells (parseLine target code) ("scriptex" :: "parse" :: target.word :: first :: more) := by
    apply Spells.cons (by decide)
    apply Spells.cons (by decide)
    exact hcode.cons (isWord_word target)
  have hcommand : ExpansionCommand.ofArgs ("parse" :: target.word :: first :: more) =
      .parse target (retyped code) :=
    ExpansionCommand.ofArgs_eq_parse_iff.mpr ⟨first, more, rfl, hcode.intercalate_eq.symm⟩
  rw [step_of_command hline (.inl rfl), Expansion.execute, hcommand]

/-- A line has the typed code evaluated with its blanks reduced to single spaces, so that it has the code
evaluated as it was typed exactly if there are no other blanks in it. -/
theorem typed_code_is_respaced (hne : code ≠ "") (h : Trimmed code.toList) (x : Expansion)
    (identity : Identity) :
    (start x identity).step (some ("scriptex parse anon " ++ code)) =
        (x.evaluateCode 0 Expansion.parseIdentifier (retyped code) .anonymous).bind
          (fun r => .done (.output [r.1], start r.2 identity)) ∧
      (∀ words, Spells (retyped code) words ↔ Spells code words) ∧
      Trimmed (retyped code).toList ∧ SingleSpaced (retyped code).toList ∧
      (retyped code = code ↔ SingleSpaced code.toList) := by
  have hwords : HasWords code.toList (Text.words code.toList) := Text.words_eq_iff.mp rfl
  have hline : "scriptex parse anon " ++ code = parseLine .anonymous code := by
    simp [parseLine, ParseTarget.word, ← String.toList_inj]
  refine ⟨?_, fun _ => spells_retyped_iff, ?_, ?_, retyped_eq_iff h⟩
  case refine_1 =>
    rw [hline, step_parseLine hne h]
    exact Dialogue.bind_assoc _ _ _
  case refine_2 =>
    rw [retyped, String.toList_ofList]
    exact Text.trimmed_intercalate hwords.isWord
  case refine_3 =>
    rw [retyped, String.toList_ofList]
    exact Text.singleSpaced_intercalate hwords.isWord

/-- One space between two words. -/
theorem typed_code_is_respaced_single :
    "1 + 1" ≠ "" ∧ Trimmed "1 + 1".toList ∧ retyped "1 + 1" = "1 + 1" := by
  have htrimmed : Trimmed "1 + 1".toList := by decide
  obtain ⟨-, -, -, -, hsame⟩ := typed_code_is_respaced (by decide) htrimmed
    { evaluator := .new { library := ⟨[]⟩, rounds := 10 } {}, loader := .new "" "" } .anonymous
  exact ⟨by decide, htrimmed, hsame.mpr (by decide)⟩

/-- Two spaces in a literal come out as one. -/
theorem typed_literal_loses_space :
    let x : Expansion := { evaluator := .new { library := ⟨[]⟩, rounds := 10 } {}, loader := .new "" "" }
    let world : World := ⟨⟨[], []⟩, .zero, SubstitutionTable.service .empty⟩
    let code := "\"a  b\""
    code ≠ "" ∧ Trimmed code.toList ∧ '\n' ∉ code.toList ∧
      (world.run ((start x .anonymous).step (some ("scriptex parse anon " ++ code)))).1.1 =
        .output ["a b"] ∧
      (world.run (x.evaluateCode 0 Expansion.parseIdentifier code .anonymous)).1.1 = "a  b" := by
  intro x world code
  exact ⟨by decide, by decide, by decide, by decide +kernel, by decide +kernel⟩

end Step

end PlaceholderScripts.Console
