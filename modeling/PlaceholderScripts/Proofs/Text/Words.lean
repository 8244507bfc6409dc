import Mathlib.Data.List.Chain
import PlaceholderScripts.Text.Blank

/-!
# The words of a text

Words stand in a text one behind the other, with blanks around them and at least one blank between two of
them. A text has its words in one way only. Words that are joined by single spaces are the words of the
joined text, and a text is joined from its words in this way exactly if all its blanks are single spaces
between two words.
-/

namespace PlaceholderScripts.Text

def Blanks (cs : List Char) : Prop := ∀ c ∈ cs, isBlank c = true

structure IsWord (cs : List Char) : Prop where
  nonempty : cs ≠ []
  solid : ∀ c ∈ cs, isBlank c = false

instance (cs : List Char) : Decidable (IsWord cs) :=
  decidable_of_iff (cs.isEmpty = false ∧ cs.all (!isBlank ·) = true)
    ⟨fun h => ⟨by simpa using h.1, by simpa using h.2⟩, fun h => ⟨by simpa using h.nonempty, by simpa using h.solid⟩⟩

/-- The text has these words, in this order. -/
inductive HasWords : List Char → List (List Char) → Prop
  | blank {gap : List Char} : Blanks gap → HasWords gap []
  | last {gap word : List Char} : Blanks gap → IsWord word → HasWords (gap ++ word) [word]
  | word {gap word rest : List Char} {b : Char} {words : List (List Char)} :
      Blanks gap → IsWord word → isBlank b = true → HasWords rest words →
      HasWords (gap ++ (word ++ b :: rest)) (word :: words)

theorem Blanks.nil : Blanks [] := by simp [Blanks]

@[simp] theorem blanks_cons {c : Char} {cs : List Char} :
    Blanks (c :: cs) ↔ isBlank c = true ∧ Blanks cs := by
  simp [Blanks]

theorem HasWords.cons_blank {c : Char} {cs : List Char} {words : List (List Char)}
    (hc : isBlank c = true) (h : HasWords cs words) : HasWords (c :: cs) words := by
  cases h with
  | blank hgap => exact .blank (blanks_cons.mpr ⟨hc, hgap⟩)
  | last hgap hword =>
    rw [← List.cons_append]
    exact .last (blanks_cons.mpr ⟨hc, hgap⟩) hword
  | word hgap hword hb hrest =>
    rw [← List.cons_append]
    exact .word (blanks_cons.mpr ⟨hc, hgap⟩) hword hb hrest

theorem wordsFrom_blanks {gap : List Char} (h : Blanks gap) (rest : List Char) :
    wordsFrom [] (gap ++ rest) = wordsFrom [] rest := by
  induction gap with
  | nil => rfl
  | cons c gap ih =>
    obtain ⟨hc, hgap⟩ := blanks_cons.mp h
    simp [wordsFrom, hc, ih hgap]

theorem wordsFrom_append {word : List Char} (h : ∀ c ∈ word, isBlank c = false) (read rest : List Char) :
    wordsFrom read (word ++ rest) = wordsFrom (word.reverse ++ read) rest := by
  induction word generalizing read with
  | nil => rfl
  | cons c word ih =>
    obtain ⟨hc, hword⟩ := List.forall_mem_cons.mp h
    simp [wordsFrom, hc, ih hword]

theorem HasWords.words_eq {cs : List Char} {ws : List (List Char)} (h : HasWords cs ws) : words cs = ws := by
  induction h with
  | @blank gap hgap =>
    have hread := wordsFrom_blanks hgap []
    rw [List.append_nil] at hread
    rw [words, hread]
    rfl
  | @last gap word hgap hword =>
    have hread := wordsFrom_append hword.solid [] []
    rw [List.append_nil, List.append_nil] at hread
    rw [words, wordsFrom_blanks hgap, hread]
    simp [wordsFrom, hword.nonempty]
  | @word gap word rest b ws hgap hword hb _ ih =>
    rw [words, wordsFrom_blanks hgap, wordsFrom_append hword.solid, List.append_nil]
    simp [wordsFrom, hb, hword.nonempty, ← ih, words]

theorem isWord_reverse {read : List Char} (hne : read ≠ []) (h : ∀ c ∈ read, isBlank c = false) :
    IsWord read.reverse where
  nonempty := by simpa using hne
  solid := by simpa using h

theorem hasWords_wordsFrom (cs : List Char) {read : List Char} (h : ∀ c ∈ read, isBlank c = false) :
    HasWords (read.reverse ++ cs) (wordsFrom read cs) := by
  induction cs generalizing read with
  | nil =>
    rw [List.append_nil, wordsFrom]
    by_cases hne : read = []
    · subst hne
      exact .blank .nil
    · rw [if_neg (by simpa using hne)]
      exact .last .nil (isWord_reverse hne h)
  | cons c cs ih =>
    rw [wordsFrom]
    cases hc : isBlank c with
    | false =>
      have hread : ∀ d ∈ c :: read, isBlank d = false := List.forall_mem_cons.mpr ⟨hc, h⟩
      simpa using ih hread
    | true =>
      have hrest : HasWords cs (wordsFrom [] cs) := by
        simpa using @ih [] (by simp)
      by_cases hne : read = []
      · subst hne
        simpa using hrest.cons_blank hc
      · rw [if_pos rfl, if_neg (by simpa using hne)]
        exact .word .nil (isWord_reverse hne h) hc hrest

theorem words_eq_iff {cs : List Char} {ws : List (List Char)} : words cs = ws ↔ HasWords cs ws := by
  constructor
  · rintro rfl
    have hread : ∀ c ∈ ([] : List Char), isBlank c = false := by simp
    exact hasWords_wordsFrom cs hread
  · exact HasWords.words_eq

theorem HasWords.isWord {cs : List Char} {ws : List (List Char)} (h : HasWords cs ws) :
    ∀ w ∈ ws, IsWord w := by
  induction h with
  | blank _ => simp
  | last _ hword => simpa using hword
  | word _ hword _ _ ih => exact List.forall_mem_cons.mpr ⟨hword, ih⟩

theorem HasWords.ne_nil {cs : List Char} {ws : List (List Char)} (h : HasWords cs ws) (hne : cs ≠ [])
    (hbegins : ∀ c ∈ cs.head?, isBlank c = false) : ws ≠ [] := by
  rintro rfl
  cases h with
  | blank hgap =>
    obtain ⟨c, cs, rfl⟩ := List.exists_cons_of_ne_nil hne
    exact absurd (blanks_cons.mp hgap).1 (by simp [hbegins c rfl])

/-- Words with single spaces between them are the words of the text that they make. -/
theorem hasWords_intercalate {ws : List (List Char)} (h : ∀ w ∈ ws, IsWord w) :
    HasWords ([' '].intercalate ws) ws := by
  induction ws with
  | nil => exact .blank .nil
  | cons w ws ih =>
    obtain ⟨hw, hws⟩ := List.forall_mem_cons.mp h
    cases ws with
    | nil => simpa using HasWords.last .nil hw
    | cons w' ws =>
      rw [List.intercalate_cons_cons, List.append_assoc]
      exact .word .nil hw rfl (ih hws)

section Respaced

variable {cs : List Char} {ws : List (List Char)}

def respaced (cs : List Char) : List Char := [' '].intercalate (words cs)

structure Trimmed (cs : List Char) : Prop where
  begins : ∀ c ∈ cs.head?, isBlank c = false
  ends : ∀ c ∈ cs.getLast?, isBlank c = false

instance (cs : List Char) : Decidable (Trimmed cs) :=
  decidable_of_iff (cs.head?.all (!isBlank ·) = true ∧ cs.getLast?.all (!isBlank ·) = true)
    ⟨fun h => ⟨by simpa [Option.all_eq_true] using h.1, by simpa [Option.all_eq_true] using h.2⟩,
      fun h => ⟨by simpa [Option.all_eq_true] using h.begins, by simpa [Option.all_eq_true] using h.ends⟩⟩

/-- Wherever something follows a blank, the blank is a space and what follows is none. -/
def SingleSpaced (cs : List Char) : Prop :=
  cs.IsChain fun c d => isBlank c = true → c = ' ' ∧ isBlank d = false

instance (cs : List Char) : Decidable (SingleSpaced cs) :=
  inferInstanceAs (Decidable (List.IsChain _ cs))

theorem singleSpaced_of_solid (h : ∀ c ∈ cs, isBlank c = false) : SingleSpaced cs := by
  induction cs with
  | nil => exact .nil
  | cons c cs ih =>
    obtain ⟨hc, hcs⟩ := List.forall_mem_cons.mp h
    refine List.isChain_cons.mpr ⟨?_, ih hcs⟩
    simp [hc]

theorem IsWord.trimmed (h : IsWord cs) : Trimmed cs where
  begins := fun c hc => h.solid c (List.mem_of_mem_head? hc)
  ends := fun c hc => h.solid c (List.mem_of_mem_getLast? hc)

theorem trimmed_intercalate (h : ∀ w ∈ ws, IsWord w) : Trimmed ([' '].intercalate ws) := by
  induction ws with
  | nil => exact ⟨by simp, by simp⟩
  | cons w ws ih =>
    obtain ⟨hw, hws⟩ := List.forall_mem_cons.mp h
    cases ws with
    | nil => simpa using hw.trimmed
    | cons w' ws =>
      rw [List.intercalate_cons_cons]
      have hjoined := ih hws
      have hne : [' '].intercalate (w' :: ws) ≠ [] := by
        have hne' := (hws w' (by simp)).nonempty
        cases ws <;> simp [hne', List.intercalate_cons_cons]
      constructor
      · intro c hc
        rw [List.append_assoc, List.head?_append_of_ne_nil _ hw.nonempty] at hc
        exact hw.trimmed.begins c hc
      · intro c hc
        rw [List.getLast?_append_of_ne_nil _ hne] at hc
        exact hjoined.ends c hc

theorem singleSpaced_intercalate (h : ∀ w ∈ ws, IsWord w) : SingleSpaced ([' '].intercalate ws) := by
  induction ws with
  | nil => exact .nil
  | cons w ws ih =>
    obtain ⟨hw, hws⟩ := List.forall_mem_cons.mp h
    cases ws with
    | nil => simpa using singleSpaced_of_solid hw.solid
    | cons w' ws =>
      rw [List.intercalate_cons_cons, List.append_assoc]
      refine List.isChain_append.mpr ⟨singleSpaced_of_solid hw.solid, ?_, ?_⟩
      · refine List.isChain_cons.mpr ⟨?_, ih hws⟩
        intro c hc _
        exact ⟨rfl, (trimmed_intercalate hws).begins c hc⟩
      · intro c hc d _ hblank
        rw [hw.trimmed.ends c hc] at hblank
        cases hblank

/-- A text with single spaces between its words is joined from them. -/
theorem HasWords.intercalate_eq (h : HasWords cs ws) (hbegins : ∀ c ∈ cs.head?, isBlank c = false)
    (hends : ∀ c ∈ cs.getLast?, isBlank c = false) (hsingle : SingleSpaced cs) :
    [' '].intercalate ws = cs := by
  have hgap {gap rest : List Char} (hblanks : Blanks gap)
      (hbegins : ∀ c ∈ (gap ++ rest).head?, isBlank c = false) : gap = [] := by
    cases gap with
    | nil => rfl
    | cons c gap => simp [(blanks_cons.mp hblanks).1] at hbegins
  induction h with
  | @blank gap hblanks =>
    have hnone := @hgap gap [] hblanks (by simpa using hbegins)
    rw [hnone]
    rfl
  | last hblanks _ =>
    rw [hgap hblanks hbegins]
    simp
  | @word gap word rest b ws hblanks hword hb hrest ih =>
    obtain rfl := hgap hblanks hbegins
    rw [List.nil_append] at hends hsingle ⊢
    -- the blank behind the word is not the end of the text, so that it is a space before another word
    have hchain := List.isChain_cons.mp (List.isChain_append.mp hsingle).2.1
    have hne : rest ≠ [] := by
      rintro rfl
      simp [hb] at hends
    have hlast : (word ++ b :: rest).getLast? = rest.getLast? := by
      rw [← List.singleton_append, ← List.append_assoc, List.getLast?_append_of_ne_nil _ hne]
    rw [hlast] at hends
    have hjoined := ih (fun c hc => (hchain.1 c hc hb).2) hends hchain.2
    obtain ⟨d, rest', rfl⟩ := List.exists_cons_of_ne_nil hne
    obtain ⟨rfl, -⟩ := hchain.1 d rfl hb
    cases ws with
    | nil => simp at hjoined
    | cons w ws => rw [List.intercalate_cons_cons, hjoined, List.append_assoc, List.singleton_append]

/-- A trimmed text is joined from its words exactly if its blanks are single spaces. -/
theorem respaced_eq_iff (h : Trimmed cs) : respaced cs = cs ↔ SingleSpaced cs := by
  have hwords : HasWords cs (words cs) := words_eq_iff.mp rfl
  constructor
  · intro heq
    rw [← heq]
    exact singleSpaced_intercalate hwords.isWord
  · exact hwords.intercalate_eq h.begins h.ends

end Respaced

end PlaceholderScripts.Text
