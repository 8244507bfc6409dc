import PlaceholderScripts.Proofs.Library.Calls

/-!
# Joined texts

The function `join` of the embedded library puts the texts of a list one behind the other, with a separator between
each two of them. It tells the first text by a flag, so empty texts are separated like all others. Where no text has
a character of the separator, the joined text can be split again.
-/

namespace PlaceholderScripts

namespace Script.TextOperation

variable {piece cs rest first : List Char} {others : List (List Char)}

theorem cut_skip (piece skipped rest : List Char) : cut piece skipped.length (skipped ++ rest) = cut piece 0 rest := by
  induction skipped with
  | nil => rfl
  | cons c skipped ih => rw [List.length_cons, List.cons_append, cut, ih]

theorem cut_piece (hne : piece ≠ []) (rest : List Char) : cut piece 0 (piece ++ rest) = [] :: cut piece 0 rest := by
  obtain ⟨c, tail, rfl⟩ := List.exists_cons_of_ne_nil hne
  have hoccurs : (c :: tail).isPrefixOf (c :: (tail ++ rest)) = true := by simp
  rw [List.cons_append, cut, if_pos hoccurs, List.length_cons, Nat.add_sub_cancel, cut_skip]

theorem cut_append (hne : piece ≠ []) (hcs : ∀ c ∈ cs, c ∉ piece) (hrest : cut piece 0 rest = first :: others) :
    cut piece 0 (cs ++ rest) = (cs ++ first) :: others := by
  induction cs with
  | nil => exact hrest
  | cons c cs ih =>
    obtain ⟨hc, hlater⟩ := List.forall_mem_cons.mp hcs
    obtain ⟨d, tail, rfl⟩ := List.exists_cons_of_ne_nil hne
    have hfirst : d ≠ c := by
      rintro rfl
      exact hc List.mem_cons_self
    have hother : (d :: tail).isPrefixOf (c :: (cs ++ rest)) = false := by
      rw [List.isPrefixOf, beq_false_of_ne hfirst, Bool.false_and]
    rw [List.cons_append, cut, if_neg (by rw [hother]; exact Bool.false_ne_true), ih hlater]
    rfl

/-- Texts without characters of the piece are found again between its occurrences. -/
theorem split_intercalate (hne : piece ≠ []) {items : List (List Char)} (hitems : items ≠ [])
    (h : ∀ item ∈ items, ∀ c ∈ item, c ∉ piece) : split piece (piece.intercalate items) = items := by
  have hcut : cut piece 0 (piece.intercalate items) = items := by
    induction items with
    | nil => exact absurd rfl hitems
    | cons item items ih =>
      obtain ⟨hitem, hlater⟩ := List.forall_mem_cons.mp h
      cases items with
      | nil =>
        have hend : cut piece 0 [] = [[]] := rfl
        simpa using cut_append hne hitem hend
      | cons next items =>
        have hrest := (cut_piece hne _).trans (congrArg ([] :: ·) (ih (List.cons_ne_nil _ _) hlater))
        rw [List.intercalate_cons_cons, List.append_assoc, cut_append hne hitem hrest, List.append_nil]
  rw [split, if_neg (by simpa using hne), hcut]

end Script.TextOperation

namespace Library.Joining

open Script Script.Evaluate

/-- The statement that separates a text from the one before, if there is one. -/
def separatorTree : Expr :=
  .ifElse (.call "!" [.variable "first" ⟨36, 13⟩] ⟨36, 12⟩)
    [.assign (.variable "out" ⟨37, 13⟩) (some "+") (.variable "separator" ⟨37, 20⟩) ⟨37, 17⟩] [] ⟨36, 9⟩

def itemTree : Expr :=
  .assign (.variable "out" ⟨39, 9⟩) (some "+")
    (.chain (.variable "item" ⟨39, 16⟩) [.method "to_string" [] false ⟨39, 21⟩] ⟨39, 20⟩) ⟨39, 13⟩

def flagTree : Expr :=
  .assign (.variable "first" ⟨40, 9⟩) none (.literal (.bool false) ⟨40, 17⟩) ⟨40, 15⟩

def function : Function where
  name := "join"
  parameters := ["items", "separator"]
  body := [
    .declare "out" false false (.literal (.text "") ⟨33, 15⟩) ⟨33, 5⟩,
    .declare "first" false false (.literal (.bool true) ⟨34, 17⟩) ⟨34, 5⟩,
    .forLoop "item" none (.variable "items" ⟨35, 17⟩) [separatorTree, itemTree, flagTree] ⟨35, 5⟩,
    .variable "out" ⟨42, 5⟩]

def joiner : LibraryFunction := ⟨.text, function, [("to_string", 0)]⟩

set_option maxRecDepth 10000 in
theorem isEmbedded_joiner : joiner.IsEmbedded := LibraryFunction.isEmbedded_of_isIn rfl (by decide +kernel)

section Evaluation

/-- The function at its beginning. -/
def entered (state : State) (items : List String) (separator : String) : State :=
  { state with
    scope := [
      { name := "separator", value := .text separator },
      { name := "items", value := .list (items.map .text) }] }

/-- A point of the loop between two rounds. -/
def during (state : State) (items : List String) (separator : String) (first : Bool) (out : String) : State :=
  { state with
    scope := { name := "first", value := .bool first } :: { name := "out", value := .text out } ::
      (entered state items separator).scope }

def inside (item : String) (s : State) : State :=
  { s with scope := { name := "item", value := .text item } :: s.scope, level := s.level + 1 }

def joined (state : State) (items : List String) (separator : String) (i : Nat) : State :=
  during state items separator (decide (i = 0)) (separator.intercalate (items.take i))

variable {call : Caller} {f : Frame} {state : State} {items : List String} {separator item out : String} {first : Bool}

theorem ends_separatorTree :
    (eval call f separatorTree).Ends (inside item (during state items separator first out)) (.ok .unit)
      (inside item (during state items separator first (if first then out else out ++ separator))) := by
  have hcondition : (eval call f (.call "!" [.variable "first" ⟨36, 13⟩] ⟨36, 12⟩)).Ends
      (inside item (during state items separator first out)) (.ok (.bool (decide (first = false))))
      (inside item (during state items separator first out)) := by
    rw [Bool.decide_eq_false]
    exact ends_operator rfl (ends_evalAll_cons (ends_variable rfl rfl) ends_evalAll_nil) rfl
  refine ends_ifElse _ hcondition ?_ ?_ rfl rfl
  · intro hfirst
    subst hfirst
    rw [evalBody]
    exact ends_assign { inside item (during state items separator false out) with level := state.level + 2 }
      { name := "out", value := .text out } (.text separator) (.text (out ++ separator)) (ends_variable rfl rfl) rfl rfl
      (by simp) rfl
  · intro hfirst
    have hstays : first = true := by simpa using hfirst
    subst hstays
    rw [evalBody]
    exact Run.ends_pure _ _

theorem ends_itemTree (h : f.callee? "to_string" 0 = none) :
    (eval call f itemTree).Ends (inside item (during state items separator first out)) (.ok .unit)
      (inside item (during state items separator first (out ++ item))) := by
  have hmethod : callMethod call f (.text item) "to_string" [] ⟨39, 21⟩ = pure { value := .text item } :=
    callMethod_builtin ⟨by decide, by decide⟩ rfl h rfl rfl
  exact ends_assign (inside item (during state items separator first out)) { name := "out", value := .text out }
    (.text item) (.text (out ++ item)) (ends_method_variable ends_evalAll_nil rfl hmethod) rfl rfl nofun rfl

theorem ends_flagTree :
    (eval call f flagTree).Ends (inside item (during state items separator first out)) (.ok .unit)
      (inside item (during state items separator false out)) :=
  ends_assign (inside item (during state items separator first out)) { name := "first", value := .bool first }
    (.bool false) (.bool false) (ends_literal _) rfl rfl nofun rfl

theorem ends_round (h : f.callee? "to_string" 0 = none) :
    (evalBody call f [separatorTree, itemTree, flagTree]).Ends
      (inside item (during state items separator first out)) (.ok .unit)
      (inside item (during state items separator false ((if first then out else out ++ separator) ++ item))) := by
  refine ends_evalBody_cons ends_separatorTree ?_ (by simp)
  refine ends_evalBody_cons (ends_itemTree h) ?_ (by simp)
  rw [evalBody]
  exact ends_flagTree

theorem intercalate_take_succ {i : Nat} (hi : i < items.length) :
    separator.intercalate (items.take (i + 1)) =
      (if decide (i = 0) then separator.intercalate (items.take i)
        else separator.intercalate (items.take i) ++ separator) ++ items[i] := by
  rw [← List.take_append_getElem hi]
  by_cases hzero : i = 0
  · subst hzero
    simp
  · have hne : items.take i ≠ [] := by
      rw [← List.length_pos_iff, List.length_take]
      omega
    rw [String.intercalate_append_of_ne_nil hne (List.cons_ne_nil _ _), String.intercalate_singleton,
      decide_eq_false hzero, if_neg Bool.false_ne_true]

theorem ends_loop (h : f.callee? "to_string" 0 = none) :
    (eval call f (.forLoop "item" none (.variable "items" ⟨35, 17⟩) [separatorTree, itemTree, flagTree] ⟨35, 5⟩)).Ends
      (during state items separator true "") (.ok .unit)
      (during state items separator items.isEmpty (separator.intercalate items)) := by
  have hloop := @ends_forLoop call f ⟨35, 5⟩ "item" (.variable "items" ⟨35, 17⟩) [separatorTree, itemTree, flagTree]
    (items.map .text) (joined state items separator) (ends_variable rfl rfl) ?_
  · have hstart : joined state items separator 0 = during state items separator true "" := by simp [joined]
    have hend : joined state items separator (items.map Value.text).length =
        during state items separator items.isEmpty (separator.intercalate items) := by
      cases items <;> simp [joined]
    rwa [hstart, hend] at hloop
  · intro i hi
    have hi' : i < items.length := by simpa using hi
    have hround := @ends_round call f state items separator items[i] (separator.intercalate (items.take i))
      (decide (i = 0)) h
    rw [← intercalate_take_succ hi'] at hround
    rw [List.getElem_map]
    exact ⟨.unit, _, hround, rfl, by simp [inside, joined, during]⟩

theorem ends_body (h : f.callee? "to_string" 0 = none) :
    (evalBody call f function.body).Ends (entered state items separator)
      (.ok (.text (separator.intercalate items)))
      (during state items separator items.isEmpty (separator.intercalate items)) := by
  refine ends_evalBody_cons (ends_declare (ends_literal _)) ?_ (by simp)
  refine ends_evalBody_cons (ends_declare (ends_literal _)) ?_ (by simp)
  refine ends_evalBody_cons (ends_loop h) ?_ (by simp)
  rw [evalBody]
  exact ends_variable rfl rfl

end Evaluation

section Calls

variable {f : Frame}

theorem gives_intercalate (h : Reaches f joiner.builtins) (items : List String) (separator : String) :
    Gives f joiner [.list (items.map .text), .text separator] (.text (separator.intercalate items)) :=
  gives_of_body h isEmbedded_joiner rfl (.inl rfl) fun call f' state hown _ =>
    ⟨_, @ends_body call f' state items separator (hown ("to_string", 0) (by simp [joiner])), rfl⟩

/-- The function joins the texts of every list with any separator between them, so that no text comes of no texts.
If no text has a character of the separator, which is not empty, then splitting what they are joined to gives them
back. Two lists that are not empty are joined to what each is joined to, with the separator between. -/
theorem join_intersperses (h : Reaches f [("to_string", 0)]) (separator : String) :
    (∀ items : List String,
      Gives f joiner [.list (items.map .text), .text separator] (.text (separator.intercalate items))) ∧
    (∀ items : List String, items ≠ [] → separator ≠ "" → (∀ item ∈ items, ∀ c ∈ item.toList, c ∉ separator.toList) →
      Builtin.call "split" [.text (separator.intercalate items), .text separator] =
        some (.ok { value := .list (items.map .text) })) ∧
    ∀ items others : List String, items ≠ [] → others ≠ [] →
      Gives f joiner [.list ((items ++ others).map .text), .text separator]
        (.text (separator.intercalate items ++ separator ++ separator.intercalate others)) := by
  refine ⟨fun items => gives_intercalate h items separator, ?split, ?concat⟩
  case split =>
    intro items hitems hseparator hfree
    have hpieces := @TextOperation.split_intercalate separator.toList (by simpa using hseparator)
      (items.map String.toList) (by simpa using hitems) (by simpa using hfree)
    have hcall : Builtin.call "split" [.text (separator.intercalate items), .text separator] =
        Builtin.give (Builtin.pieces (TextOperation.split separator.toList (separator.intercalate items).toList)) :=
      rfl
    rw [hcall, String.toList_intercalate, hpieces, Builtin.pieces, List.map_map]
    simp [Builtin.give, Function.comp_def]
  case concat =>
    intro items others hitems hothers
    rw [← String.intercalate_append_of_ne_nil hitems hothers]
    exact gives_intercalate h _ separator

/-- Empty texts are separated like others, and are found again. -/
theorem join_intersperses_empty_texts :
    ∃ f, Reaches f [("to_string", 0)] ∧
      Gives f joiner [.list [.text "", .text "é", .text ""], .text "->"] (.text "->é->") ∧
      Gives f joiner [.list [], .text "->"] (.text "") ∧
      ["", "é", ""] ≠ [] ∧ "->" ≠ "" ∧ (∀ item ∈ ["", "é", ""], ∀ c ∈ item.toList, c ∉ "->".toList) ∧
      Builtin.call "split" [.text "->é->", .text "->"] = some (.ok { value := .list [.text "", .text "é", .text ""] }) ∧
      [""] ≠ [] ∧ ["é", ""] ≠ [] ∧
      Gives f joiner [.list [.text "", .text "é", .text ""], .text "->"] (.text ("" ++ "->" ++ "é->")) := by
  obtain ⟨f, hreaches, -⟩ := exists_reaches [("to_string", 0)]
  have hfree : ∀ item ∈ ["", "é", ""], ∀ c ∈ item.toList, c ∉ "->".toList := by simp
  have htext : "->".intercalate ["", "é", ""] = "->é->" := by decide
  obtain ⟨hjoins, hsplit, hconcat⟩ := join_intersperses hreaches "->"
  have hwhole := hjoins ["", "é", ""]
  have hpieces := hsplit ["", "é", ""] (by decide) (by decide) hfree
  rw [htext] at hwhole hpieces
  exact ⟨f, hreaches, hwhole, hjoins [], by decide, by decide, hfree, hpieces, by decide, by decide,
    hconcat [""] ["é", ""] (by decide) (by decide)⟩

set_option maxRecDepth 10000 in
/-- A function of the script comes before the built-in one that texts are made with, and then the list is joined to
other texts than its own. -/
theorem own_function_changes_joined :
    ∃ modules, IsEmbedded modules ∧
      alone modules "fn to_string() \x7b \"x\" \x7d text::join([\"a\", \"b\"], \"-\")" = .ok (.text "x-x") ∧
      "-".intercalate ["a", "b"] = "a-b" := by
  obtain ⟨modules, hmodules⟩ := exists_isEmbedded
  have hother := alone_eq_ok hmodules "fn to_string() \x7b \"x\" \x7d text::join([\"a\", \"b\"], \"-\")" (.text "x-x")
    rfl rfl rfl (by decide +kernel)
  exact ⟨modules, hmodules, hother, by decide⟩

end Calls

end Library.Joining

end PlaceholderScripts
