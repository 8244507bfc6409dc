import PlaceholderScripts.Text.Blank

/-!
# The lines of a text

Lines stand in a text one behind the other, with a line break behind each but perhaps the last. What is left
behind the last line break is a line too, unless it is empty. The lines of manifests are cut at newlines, and
a carriage return before the newline does not belong to them; the lines of the console are cut from bytes,
before it is known whether they are text.
-/

namespace PlaceholderScripts.Text

variable {α : Type}

/-- The sequence consists of these lines. Of a line with a break behind it `close` is what counts. -/
inductive CutsInto (newline : α) (close : List α → List α) : List α → List (List α) → Prop
  | nil : CutsInto newline close [] []
  | last {line : List α} : line ≠ [] → newline ∉ line → CutsInto newline close line [line]
  | line {line rest : List α} {lines : List (List α)} :
      newline ∉ line → CutsInto newline close rest lines →
      CutsInto newline close (line ++ newline :: rest) (close line :: lines)

section Pieces

variable {line : List Char}

theorem splitAt_ne_nil (sep : Char) (cs : List Char) : splitAt sep cs ≠ [] := by
  cases cs with
  | nil => simp [splitAt]
  | cons c cs =>
    rw [splitAt]
    split
    · simp
    · split <;> simp

theorem splitAt_of_not_mem {sep : Char} (h : sep ∉ line) : splitAt sep line = [line] := by
  induction line with
  | nil => rfl
  | cons c line ih =>
    obtain ⟨hc, hline⟩ := not_or.mp (h ∘ List.mem_cons.mpr)
    simp [splitAt, Ne.symm hc, ih hline]

theorem splitAt_append {sep : Char} (h : sep ∉ line) (rest : List Char) :
    splitAt sep (line ++ sep :: rest) = line :: splitAt sep rest := by
  induction line with
  | nil => simp [splitAt]
  | cons c line ih =>
    obtain ⟨hc, hline⟩ := not_or.mp (h ∘ List.mem_cons.mpr)
    simp [splitAt, Ne.symm hc, ih hline]

theorem lines_of_not_mem (hne : line ≠ []) (h : '\n' ∉ line) : lines line = [line] := by
  cases line with
  | nil => exact absurd rfl hne
  | cons c line => simp [lines, splitAt_of_not_mem h]

theorem lines_append (h : '\n' ∉ line) (rest : List Char) :
    lines (line ++ '\n' :: rest) = dropCarriageReturn line :: lines rest := by
  have hpieces := splitAt_ne_nil '\n' rest
  rw [lines, splitAt_append h, lines]
  simp only [List.dropLast_cons_of_ne_nil hpieces, List.getLast?_cons_of_ne_nil hpieces, List.map_cons]
  split <;> rfl

end Pieces

theorem exists_cutsInto [DecidableEq α] (newline : α) (close : List α → List α) (xs : List α) :
    ∃ lines, CutsInto newline close xs lines := by
  -- the first line is cut off, and what is left is shorter
  induction hlength : xs.length using Nat.strongRecOn generalizing xs with
  | ind n ih =>
    by_cases hmem : newline ∈ xs
    · obtain ⟨line, rest, rfl, hline⟩ := List.eq_append_cons_of_mem hmem
      have hshorter : rest.length < n := by
        simp at hlength
        omega
      obtain ⟨lines, hrest⟩ := ih rest.length hshorter rest rfl
      exact ⟨close line :: lines, .line hline hrest⟩
    · by_cases hne : xs = []
      · subst hne
        exact ⟨[], .nil⟩
      · exact ⟨[xs], .last hne hmem⟩

/-- Lines that are taken from the front one after the other are the only ones. -/
theorem cut_eq_iff [DecidableEq α] {newline : α} {close : List α → List α} {cut : List α → List (List α)}
    (hnil : cut [] = []) (hlast : ∀ line, line ≠ [] → newline ∉ line → cut line = [line])
    (hline : ∀ line rest, newline ∉ line → cut (line ++ newline :: rest) = close line :: cut rest)
    {xs : List α} {ls : List (List α)} : cut xs = ls ↔ CutsInto newline close xs ls := by
  have heq {ls : List (List α)} (h : CutsInto newline close xs ls) : cut xs = ls := by
    induction h with
    | nil => exact hnil
    | last hne hmem => exact hlast _ hne hmem
    | line hmem _ ih => rw [hline _ _ hmem, ih]
  constructor
  · rintro rfl
    obtain ⟨ls, h⟩ := exists_cutsInto newline close xs
    rwa [heq h]
  · exact heq

theorem lines_eq_iff {cs : List Char} {ls : List (List Char)} :
    lines cs = ls ↔ CutsInto '\n' dropCarriageReturn cs ls :=
  cut_eq_iff rfl (fun _ => lines_of_not_mem) (fun _ rest hline => lines_append hline rest)

end PlaceholderScripts.Text
