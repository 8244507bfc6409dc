import Mathlib.Data.Nat.Digits.Lemmas
import PlaceholderScripts.Proofs.Library.Calls

/-!
# Integers in groups of three digits

The function `format_thousands` of the embedded library goes through the digits of an integer from the last one
to the first, and puts a comma in front of what it has whenever that are three digits more. It comes to the
groups of the decimal text, for all integers that can be negated.
-/

namespace PlaceholderScripts.Library.Thousands

section Grouping

/-- The text consists of these groups: digits with commas between them, three in each group but the first, behind
the sign. Without the commas it is the decimal text of the integer. -/
structure Groups (n : Int) (text : String) (first : List Char) (others : List (List Char)) : Prop where
  layout : text.toList = (if n < 0 then ['-'] else []) ++ [','].intercalate (first :: others)
  leading : 1 ≤ first.length ∧ first.length ≤ 3
  three : ∀ group ∈ others, group.length = 3
  digits : ∀ group ∈ first :: others, ∀ c ∈ group, c.isDigit = true
  number : text.toList.filter (· ≠ ',') = (toString n).toList

def IsGrouped (n : Int) (text : String) : Prop := ∃ first others, Groups n text first others

/-- Digits with a comma behind each that has a positive multiple of three digits behind it. -/
def grouped : List Char → List Char
  | [] => []
  | d :: rest => d :: if rest ≠ [] ∧ rest.length % 3 = 0 then ',' :: grouped rest else grouped rest

variable {ds : List Char}

theorem length_flatten_of_three {groups : List (List Char)} (h : ∀ group ∈ groups, group.length = 3) :
    groups.flatten.length = 3 * groups.length := by
  induction groups with
  | nil => rfl
  | cons group groups ih =>
    obtain ⟨hgroup, hgroups⟩ := List.forall_mem_cons.mp h
    rw [List.flatten_cons, List.length_append, hgroup, ih hgroups, List.length_cons]
    omega

theorem exists_groups (hne : ds ≠ []) :
    ∃ first others, grouped ds = [','].intercalate (first :: others) ∧ (first :: others).flatten = ds ∧
      1 ≤ first.length ∧ first.length ≤ 3 ∧ ∀ group ∈ others, group.length = 3 := by
  induction ds with
  | nil => exact absurd rfl hne
  | cons d rest ih =>
    by_cases hrest : rest = []
    · subst hrest
      exact ⟨[d], [], by simp [grouped], by simp, by simp, by simp, by simp⟩
    · obtain ⟨first, others, hgrouped, hflat, hleast, hmost, hthree⟩ := ih hrest
      have hlength : rest.length = first.length + 3 * others.length := by
        rw [← hflat, List.flatten_cons, List.length_append, length_flatten_of_three hthree]
      by_cases hfull : rest.length % 3 = 0
      · refine ⟨[d], first :: others, ?_, by simp [hflat], by simp, by simp, ?_⟩
        · rw [grouped, if_pos ⟨hrest, hfull⟩, hgrouped, List.intercalate_cons_cons]
          rfl
        · exact List.forall_mem_cons.mpr ⟨by omega, hthree⟩
      · refine ⟨d :: first, others, ?_, by simp [← hflat], by simp, ?_, hthree⟩
        · rw [grouped, if_neg (by simp [hfull]), hgrouped]
          cases others <;> simp [List.intercalate_cons_cons]
        · rw [List.length_cons]
          omega

theorem filter_grouped (h : ∀ c ∈ ds, c.isDigit = true) : (grouped ds).filter (· ≠ ',') = ds := by
  induction ds with
  | nil => rfl
  | cons d rest ih =>
    obtain ⟨hd, hrest⟩ := List.forall_mem_cons.mp h
    have hcomma : d ≠ ',' := by
      rintro rfl
      exact absurd hd (by decide)
    rw [grouped, List.filter_cons_of_pos (by simpa using hcomma)]
    congr 1
    split
    · rw [List.filter_cons_of_neg (by simp), ih hrest]
    · exact ih hrest

def sign (n : Int) : List Char := if n < 0 then ['-'] else []

theorem toList_toString (n : Int) : (toString n).toList = sign n ++ Nat.toDigits 10 n.natAbs := by
  cases n with
  | ofNat m => exact Nat.toList_repr
  | negSucc m =>
    have htext : toString (Int.negSucc m) = "-" ++ Nat.repr (m + 1) := rfl
    rw [htext, String.toList_append, Nat.toList_repr, sign, if_pos (Int.negSucc_lt_zero m)]
    rfl

theorem isGrouped (n : Int) : IsGrouped n (String.ofList (sign n ++ grouped (Nat.toDigits 10 n.natAbs))) := by
  have hdigits : ∀ c ∈ Nat.toDigits 10 n.natAbs, c.isDigit = true := fun c hc =>
    Nat.isDigit_of_mem_toDigits (by decide) (by decide) hc
  obtain ⟨first, others, hgrouped, hflat, hleast, hmost, hthree⟩ := exists_groups (Nat.toDigits_ne_nil (b := 10))
  refine ⟨first, others, ?_, ⟨hleast, hmost⟩, hthree, ?_, ?_⟩
  case refine_1 => rw [String.toList_ofList, hgrouped, sign]
  case refine_2 =>
    intro group hgroup c hc
    exact hdigits c (by rw [← hflat]; exact List.mem_flatten_of_mem hgroup hc)
  case refine_3 =>
    rw [String.toList_ofList, List.filter_append, filter_grouped hdigits, toList_toString, sign]
    split <;> rfl

end Grouping

open Script Script.Evaluate

/-!
The syntax tree of the function, statement by statement, with the places in the file of the library.
-/

/-- Whether the integer is negative, at a place of its own each time. -/
def isNegative (line column : Nat) : Expr :=
  .call "<" [.variable "n" ⟨line, column⟩, .literal (.int 0) ⟨line, column + 4⟩] ⟨line, column + 2⟩

def digitsTree : Expr :=
  .ifElse (isNegative 14 21)
    [.chain (.call "-" [.variable "n" ⟨14, 31⟩] ⟨14, 30⟩) [.method "to_string" [] false ⟨14, 34⟩] ⟨14, 33⟩]
    [.chain (.variable "n" ⟨14, 55⟩) [.method "to_string" [] false ⟨14, 57⟩] ⟨14, 56⟩] ⟨14, 18⟩

def lastTree : Expr :=
  .call "-" [.chain (.variable "digits" ⟨17, 13⟩) [.method "len" [] false ⟨17, 20⟩] ⟨17, 19⟩,
    .literal (.int 1) ⟨17, 28⟩] ⟨17, 26⟩

def goesOnTree : Expr := .call ">=" [.variable "i" ⟨18, 11⟩, .literal (.int 0) ⟨18, 16⟩] ⟨18, 13⟩

def isFullTree : Expr :=
  .and (.call ">" [.variable "count" ⟨19, 12⟩, .literal (.int 0) ⟨19, 20⟩] ⟨19, 18⟩)
    (.call "==" [.call "%" [.variable "count" ⟨19, 25⟩, .literal (.int 3) ⟨19, 33⟩] ⟨19, 31⟩,
      .literal (.int 0) ⟨19, 38⟩] ⟨19, 35⟩) ⟨19, 22⟩

def commaTree : Expr :=
  .assign (.variable "out" ⟨20, 13⟩) none
    (.call "+" [.literal (.text ",") ⟨20, 19⟩, .variable "out" ⟨20, 25⟩] ⟨20, 23⟩) ⟨20, 17⟩

def digitTree : Expr :=
  .assign (.variable "out" ⟨22, 9⟩) none
    (.call "+" [.chain (.variable "digits" ⟨22, 15⟩)
      [.method "sub_string" [.variable "i" ⟨22, 33⟩, .literal (.int 1) ⟨22, 36⟩] false ⟨22, 22⟩] ⟨22, 21⟩,
      .variable "out" ⟨22, 41⟩] ⟨22, 39⟩) ⟨22, 13⟩

/-- A round of the loop. -/
def roundTrees : List Expr := [
  .ifElse isFullTree [commaTree] [] ⟨19, 9⟩,
  digitTree,
  .assign (.variable "count" ⟨23, 9⟩) (some "+") (.literal (.int 1) ⟨23, 18⟩) ⟨23, 15⟩,
  .assign (.variable "i" ⟨24, 9⟩) (some "-") (.literal (.int 1) ⟨24, 14⟩) ⟨24, 11⟩]

def resultTree : Expr :=
  .ifElse (isNegative 26 8)
    [.call "+" [.literal (.text "-") ⟨26, 16⟩, .variable "out" ⟨26, 22⟩] ⟨26, 20⟩]
    [.variable "out" ⟨26, 35⟩] ⟨26, 5⟩

def function : Function where
  name := "format_thousands"
  parameters := ["n"]
  body := [
    .declare "digits" false false digitsTree ⟨14, 5⟩,
    .declare "out" false false (.literal (.text "") ⟨15, 15⟩) ⟨15, 5⟩,
    .declare "count" false false (.literal (.int 0) ⟨16, 17⟩) ⟨16, 5⟩,
    .declare "i" false false lastTree ⟨17, 5⟩,
    .whileLoop false false goesOnTree roundTrees ⟨18, 5⟩,
    resultTree]

def formatter : LibraryFunction := ⟨.numbers, function, [("to_string", 0), ("len", 0), ("sub_string", 2)]⟩

set_option maxRecDepth 10000 in
theorem isEmbedded_formatter : formatter.IsEmbedded :=
  LibraryFunction.isEmbedded_of_isIn rfl (by decide +kernel)

section Evaluation

/-- The variables of the loop. -/
def locals (n : Int) (ds out : List Char) (count : Nat) (i : Int) : List Variable := [
  { name := "i", value := .int i },
  { name := "count", value := .int count },
  { name := "out", value := .text (String.ofList out) },
  { name := "digits", value := .text (String.ofList ds) },
  { name := "n", value := .int n }]

def during (s : State) (n : Int) (ds out : List Char) (count : Nat) (i : Int) : State :=
  { s with scope := locals n ds out count i }

variable {call : Caller} {f : Frame} {s : State} {n i : Int} {ds out : List Char} {count : Nat}

theorem ends_goesOn :
    (eval call f goesOnTree).Ends (during s n ds out count i) (.ok (.bool (decide (0 ≤ i))))
      (during s n ds out count i) := by
  have hcompare : Builtin.call ">=" [.int i, .int 0] = some (.ok { value := .bool (decide (0 ≤ i)) }) := by
    have hreflexive : (decide (0 < i) || (i == 0)) = decide (0 ≤ i) := by
      rw [Bool.eq_iff_iff]
      simp only [Bool.or_eq_true, decide_eq_true_eq, beq_iff_eq]
      omega
    rw [← hreflexive]
    rfl
  exact ends_binary (.int i) (.int 0) rfl (ends_variable rfl rfl) (ends_literal _) hcompare

theorem checked_eq_ok {fault : ArithmeticFault} (h : Arithmetic.fits i = true) :
    Arithmetic.checked fault i = .ok (.int i) := if_pos h

theorem fits_iff : Arithmetic.fits i = true ↔ -2 ^ 63 ≤ i ∧ i < 2 ^ 63 := by
  rw [Arithmetic.fits, Bool.and_eq_true, decide_eq_true_eq, decide_eq_true_eq]

theorem fits_of_lt {m : Nat} (h : m < 2 ^ 63) : Arithmetic.fits m = true := fits_iff.mpr ⟨by omega, by omega⟩

theorem call_mod_three (h : count < 2 ^ 63) :
    Builtin.call "%" [.int count, .int 3] = some (.ok { value := .int (count % 3 : Nat) }) := by
  have hfits : Arithmetic.fits (Int.tdiv count 3) = true := fits_of_lt (m := count / 3) (by omega)
  have hremainder : Arithmetic.remainder count 3 = .ok (.int (count % 3 : Nat)) := by
    rw [Arithmetic.remainder, hfits]
    rfl
  change some ((Arithmetic.remainder count 3).map fun v => { value := v : Builtin.Outcome }) = _
  rw [hremainder]
  rfl

theorem ends_isFull (h : count < 2 ^ 63) :
    (eval call f isFullTree).Ends (during s n ds out count i)
      (.ok (.bool (decide (count ≠ 0 ∧ count % 3 = 0)))) (during s n ds out count i) := by
  have hpositive : Builtin.call ">" [.int count, .int 0] =
      some (.ok { value := .bool (decide (count ≠ 0)) }) := by
    have hdecide : decide (count ≠ 0) = decide ((0 : Int) < count) := by simp [Nat.pos_iff_ne_zero]
    rw [hdecide]
    rfl
  have hmultiple : Builtin.call "==" [.int (count % 3 : Nat), .int 0] =
      some (.ok { value := .bool (decide (count % 3 = 0)) }) := by
    have hdecide : decide (count % 3 = 0) = (((count % 3 : Nat) : Int) == 0) := by
      rw [Bool.eq_iff_iff, decide_eq_true_eq, beq_iff_eq, Int.natCast_eq_zero]
    rw [hdecide]
    rfl
  by_cases hnone : count = 0
  · rw [decide_eq_false (by simp [hnone] : ¬ (count ≠ 0 ∧ count % 3 = 0))]
    rw [decide_eq_false (not_not.mpr hnone)] at hpositive
    exact ends_and_of_false
      (ends_binary (.int count) (.int 0) rfl (ends_variable rfl rfl) (ends_literal _) hpositive)
  · rw [decide_eq_true hnone] at hpositive
    simp only [ne_eq, hnone, not_false_eq_true, true_and]
    refine ends_and_of_true
      (ends_binary (.int count) (.int 0) rfl (ends_variable rfl rfl) (ends_literal _) hpositive) ?_
    refine ends_binary (.int (count % 3 : Nat)) (.int 0) rfl ?_ (ends_literal _) hmultiple
    exact ends_binary (.int count) (.int 3) rfl (ends_variable rfl rfl) (ends_literal _) (call_mod_three h)

theorem call_join (cs ds : List Char) :
    Builtin.call "+" [.text (String.ofList cs), .text (String.ofList ds)] =
      some (.ok { value := .text (String.ofList (cs ++ ds)) }) := by
  rw [String.ofList_append]
  rfl

theorem ends_comma :
    (eval call f commaTree).Ends (during s n ds out count i) (.ok .unit) (during s n ds (',' :: out) count i) := by
  have htext := call_join [','] out
  refine ends_assign (during s n ds out count i) { name := "out", value := .text (String.ofList out) }
    (.text (String.ofList (',' :: out))) (.text (String.ofList (',' :: out))) ?_ rfl rfl nofun rfl
  exact ends_binary (.text ",") (.text (String.ofList out)) rfl (ends_literal _) (ends_variable rfl rfl) htext

theorem ends_separation (h : count < 2 ^ 63) :
    (eval call f (.ifElse isFullTree [commaTree] [] ⟨19, 9⟩)).Ends (during s n ds out count i) (.ok .unit)
      (during s n ds (if count ≠ 0 ∧ count % 3 = 0 then ',' :: out else out) count i) := by
  refine ends_ifElse (during s n ds _ count i) (ends_isFull h) ?_ ?_ rfl rfl
  · intro hfull
    rw [evalBody, if_pos hfull]
    exact @ends_comma call f { s with level := s.level + 1 } n i ds out count
  · intro hpartial
    rw [evalBody, if_neg hpartial]
    exact Run.ends_pure _ _

theorem subText_at (before : List Char) (d : Char) (rest : List Char) :
    Builtin.subText (before ++ d :: rest) before.length 1 = [d] := by
  have hinside : ¬ ((before.length : Int) ≥ (before ++ d :: rest).length) := by
    rw [List.length_append, List.length_cons]
    omega
  have hbeginning : Builtin.beginning (before ++ d :: rest).length before.length = before.length := by
    rw [Builtin.beginning, if_neg (by omega), Int.toNat_natCast]
    exact Nat.min_eq_left (by simp)
  rw [Builtin.subText, decide_eq_false hinside, Builtin.part, hbeginning, List.drop_left]
  rfl

theorem ends_digit (hpart : f.callee? "sub_string" 2 = none) (before : List Char) (d : Char)
    (rest : List Char) :
    (eval call f digitTree).Ends (during s n (before ++ d :: rest) out count before.length) (.ok .unit)
      (during s n (before ++ d :: rest) (d :: out) count before.length) := by
  let ds := before ++ d :: rest
  let point := during s n ds out count before.length
  have hcall : Builtin.call "sub_string" [.text (String.ofList ds), .int before.length, .int 1] =
      some (.ok { value := .text (String.ofList [d]) }) := by
    have hfound := subText_at before d rest
    change Builtin.giveText (Builtin.subText (String.ofList ds).toList before.length 1) = _
    rw [String.toList_ofList, hfound]
    rfl
  have hmethod : callMethod call f (.text (String.ofList ds)) "sub_string" [.int before.length, .int 1] ⟨22, 22⟩ =
      pure { value := .text (String.ofList [d]) } :=
    callMethod_builtin ⟨by decide, by decide⟩ rfl hpart rfl hcall
  have harguments : (evalAll call f [.variable "i" ⟨22, 33⟩, .literal (.int 1) ⟨22, 36⟩]).Ends point
      (.ok [.int before.length, .int 1]) point :=
    ends_evalAll_cons (ends_variable rfl rfl) (ends_evalAll_cons (ends_literal _) ends_evalAll_nil)
  refine ends_assign point { name := "out", value := .text (String.ofList out) }
    (.text (String.ofList (d :: out))) (.text (String.ofList (d :: out))) ?_ rfl rfl nofun rfl
  exact ends_binary (.text (String.ofList [d])) (.text (String.ofList out)) rfl
    (ends_method_variable harguments rfl hmethod) (ends_variable rfl rfl) (call_join [d] out)

theorem ends_count (h : count + 1 < 2 ^ 63) :
    (eval call f (.assign (.variable "count" ⟨23, 9⟩) (some "+") (.literal (.int 1) ⟨23, 18⟩) ⟨23, 15⟩)).Ends
      (during s n ds out count i) (.ok .unit) (during s n ds out (count + 1) i) := by
  have hcombine (l : Position) : combine f (some "+") (.int count) (.int 1) l =
      Run.located (f.locate l) (Arithmetic.checked (.overflow "Addition" "+" count 1) (count + 1 : Nat)) := rfl
  refine ends_assign (during s n ds out count i) { name := "count", value := .int count } (.int 1)
    (.int (count + 1 : Nat)) (ends_literal _) rfl rfl nofun ?_
  rw [hcombine, checked_eq_ok (fits_of_lt h)]
  rfl

theorem ends_step (h : Arithmetic.fits (i - 1) = true) :
    (eval call f (.assign (.variable "i" ⟨24, 9⟩) (some "-") (.literal (.int 1) ⟨24, 14⟩) ⟨24, 11⟩)).Ends
      (during s n ds out count i) (.ok .unit) (during s n ds out count (i - 1)) := by
  have hcombine (l : Position) : combine f (some "-") (.int i) (.int 1) l =
      Run.located (f.locate l) (Arithmetic.checked (.overflow "Subtraction" "-" i 1) (i - 1)) := rfl
  refine ends_assign (during s n ds out count i) { name := "i", value := .int i } (.int 1)
    (.int (i - 1)) (ends_literal _) rfl rfl nofun ?_
  rw [hcombine, checked_eq_ok h]
  rfl

/-- A round takes the last digit that is left. -/
theorem ends_round (hpart : f.callee? "sub_string" 2 = none) (before : List Char) (d : Char) (rest : List Char)
    (h : (before ++ d :: rest).length < 2 ^ 63) :
    (Run.enclosed (evalBody call f roundTrees)).Ends
      (during s n (before ++ d :: rest) (grouped rest) rest.length before.length) (.ok .unit)
      (during s n (before ++ d :: rest) (grouped (d :: rest)) (rest.length + 1) (before.length - 1)) := by
  rw [List.length_append, List.length_cons] at h
  let inside := { s with level := s.level + 1 }
  let out := if rest.length ≠ 0 ∧ rest.length % 3 = 0 then ',' :: grouped rest else grouped rest
  have hgrouped : d :: out = grouped (d :: rest) := by
    simp only [out, grouped, ne_eq, List.length_eq_zero_iff]
  have hseparation := @ends_separation call f inside n before.length (before ++ d :: rest) (grouped rest)
    rest.length (by omega)
  have hdigit := @ends_digit call f inside n out rest.length hpart before d rest
  rw [hgrouped] at hdigit
  have hlast : Arithmetic.fits (before.length - 1) = true := fits_iff.mpr ⟨by omega, by omega⟩
  have hbody : (evalBody call f roundTrees).Ends
      (during inside n (before ++ d :: rest) (grouped rest) rest.length before.length) (.ok .unit)
      (during inside n (before ++ d :: rest) (grouped (d :: rest)) (rest.length + 1) (before.length - 1)) := by
    refine ends_evalBody_cons hseparation (ends_evalBody_cons hdigit (ends_evalBody_cons
      (ends_count (by omega)) ?_ (by simp)) (by simp)) (by simp)
    rw [evalBody]
    exact ends_step hlast
  exact Run.Ends.enclosed (during s n _ _ _ _) hbody rfl

/-- The point of the loop after so many rounds: as many of the last digits are grouped. -/
def afterRounds (s : State) (n : Int) (ds : List Char) (k : Nat) : State :=
  during s n ds (grouped (ds.drop (ds.length - k))) k (ds.length - 1 - k)

theorem afterRounds_zero : afterRounds s n ds 0 = during s n ds [] 0 (ds.length - 1) := by
  simp [afterRounds, grouped]

theorem afterRounds_length : afterRounds s n ds ds.length = during s n ds (grouped ds) ds.length (-1) := by
  have hindex : (ds.length : Int) - 1 - ds.length = -1 := by omega
  rw [afterRounds, hindex, Nat.sub_self, List.drop_zero]

theorem afterRounds_of_add_eq {j k : Nat} (h : j + k = ds.length) :
    afterRounds s n ds k = during s n ds (grouped (ds.drop j)) k (j - 1) := by
  have hplace : ds.length - k = j := by omega
  have hindex : (ds.length : Int) - 1 - k = j - 1 := by omega
  rw [afterRounds, hplace, hindex]

theorem ends_nextRound (hpart : f.callee? "sub_string" 2 = none) (hds : ds.length < 2 ^ 63) {k : Nat}
    (hk : k < ds.length) :
    (Run.enclosed (evalBody call f roundTrees)).Ends (afterRounds s n ds k) (.ok .unit)
      (afterRounds s n ds (k + 1)) := by
  obtain ⟨j, hj⟩ : ∃ j, j + 1 + k = ds.length := ⟨ds.length - k - 1, by omega⟩
  have hsplit : ds.take j ++ ds[j] :: ds.drop (j + 1) = ds := by
    rw [← List.drop_eq_getElem_cons, List.take_append_drop]
  have hround := @ends_round call f s n hpart (ds.take j) ds[j] (ds.drop (j + 1)) (by rwa [hsplit])
  have hleft : (ds.take j).length = j := List.length_take_of_le (by omega)
  have htaken : (ds.drop (j + 1)).length = k := by
    rw [List.length_drop]
    omega
  rw [hsplit, hleft, htaken, ← List.drop_eq_getElem_cons] at hround
  have hindex : ((j + 1 : Nat) : Int) - 1 = j := by omega
  rw [afterRounds_of_add_eq hj, hindex, afterRounds_of_add_eq (by omega : j + (k + 1) = ds.length)]
  exact hround

/-- The loop has grouped what it has taken, and ends when that are all digits. -/
theorem ends_loop (hpart : f.callee? "sub_string" 2 = none) (hrounds : ds.length < f.rounds)
    (hds : ds.length < 2 ^ 63) :
    (eval call f (.whileLoop false false goesOnTree roundTrees ⟨18, 5⟩)).Ends
      (during s n ds [] 0 (ds.length - 1)) (.ok .unit) (during s n ds (grouped ds) ds.length (-1)) := by
  rw [← afterRounds_zero, ← afterRounds_length]
  refine ends_whileLoop hrounds ?_ fun k hk => ⟨.unit, ends_nextRound hpart hds hk⟩
  intro k hk
  have hgoes : decide (k < ds.length) = decide ((0 : Int) ≤ ds.length - 1 - k) := by
    rw [decide_eq_decide]
    omega
  rw [hgoes]
  exact ends_goesOn

def entered (s : State) (n : Int) : State := { s with scope := [{ name := "n", value := .int n }] }

theorem ends_isNegative {line column : Nat} {s : State} {x : Variable}
    (h : s.scope.find? (fun x => x.name = "n") = some x) (hn : Run.contents s.cells x.value = .int n) :
    (eval call f (isNegative line column)).Ends s (.ok (.bool (decide (n < 0)))) s :=
  ends_binary (.int n) (.int 0) rfl (ends_variable h hn) (ends_literal _) rfl

theorem toString_of_nonneg {m : Int} (h : 0 ≤ m) : toString m = String.ofList (Nat.toDigits 10 m.natAbs) := by
  rw [← String.toList_inj, toList_toString, String.toList_ofList, sign, if_neg (by omega)]
  rfl

theorem callMethod_toText (htext : f.callee? "to_string" 0 = none) {m : Int} (h : 0 ≤ m) (p : Position) :
    callMethod call f (.int m) "to_string" [] p =
      pure { value := .text (String.ofList (Nat.toDigits 10 m.natAbs)) } := by
  have hshown : (Value.int m).shown = toString m := by
    simp only [Value.shown, Value.shownTo, Value.innerText, String.ofList_toList]
  rw [← toString_of_nonneg h, ← hshown]
  exact callMethod_builtin ⟨by decide, by decide⟩ rfl htext rfl rfl

theorem call_negate :
    Builtin.call "-" [.int n] =
      some ((Arithmetic.checked .negationOverflow (-n)).map fun v => { value := v }) := rfl

theorem ends_digits (htext : f.callee? "to_string" 0 = none) (hn : Arithmetic.fits n = true)
    (hleast : n ≠ -2 ^ 63) :
    (eval call f digitsTree).Ends (entered s n) (.ok (.text (String.ofList (Nat.toDigits 10 n.natAbs))))
      (entered s n) := by
  have hbounds := fits_iff.mp hn
  refine ends_ifElse (entered s n) (ends_isNegative rfl rfl) ?_ ?_ rfl rfl
  · intro hnegative
    have hnegated : Builtin.call "-" [.int n] = some (.ok { value := .int (-n) }) := by
      rw [call_negate, checked_eq_ok (fits_iff.mpr ⟨by omega, by omega⟩)]
      rfl
    have hmethod := @callMethod_toText call f htext (-n) (by omega) ⟨14, 34⟩
    rw [Int.natAbs_neg] at hmethod
    rw [evalBody]
    refine ends_method_call ends_evalAll_nil (ends_operator rfl ?_ hnegated) hmethod
    exact ends_evalAll_cons (ends_variable rfl rfl) ends_evalAll_nil
  · intro hpositive
    rw [evalBody]
    exact ends_method_variable ends_evalAll_nil rfl (callMethod_toText htext (by omega) ⟨14, 57⟩)

theorem length_digits (hn : Arithmetic.fits n = true) : (Nat.toDigits 10 n.natAbs).length ≤ 19 := by
  have hbounds := fits_iff.mp hn
  exact Nat.toDigits_length 10 n.natAbs 19 (by decide) (by omega)

theorem ends_last (hlength : f.callee? "len" 0 = none) (hds : ds.length ≤ 19) {s : State} {x : Variable}
    (hread : s.scope.find? (fun x => x.name = "digits") = some x)
    (hx : Run.contents s.cells x.value = .text (String.ofList ds)) :
    (eval call f lastTree).Ends s (.ok (.int (ds.length - 1))) s := by
  have hcall : Builtin.call "len" [.text (String.ofList ds)] = some (.ok { value := .int ds.length }) := by
    have hchars := congrArg (fun cs : List Char => Builtin.give (.int cs.length)) (String.toList_ofList (l := ds))
    exact hchars
  have hminus : Builtin.call "-" [.int ds.length, .int 1] = some (.ok { value := .int (ds.length - 1) }) := by
    have hfits : Arithmetic.fits ((ds.length : Int) - 1) = true := fits_iff.mpr ⟨by omega, by omega⟩
    change some ((Arithmetic.checked _ _).map fun v => { value := v : Builtin.Outcome }) = _
    rw [checked_eq_ok hfits]
    rfl
  have hmethod : callMethod call f (Run.contents s.cells x.value) "len" [] ⟨17, 20⟩ =
      pure { value := .int ds.length } := by
    rw [hx]
    exact callMethod_builtin ⟨by decide, by decide⟩ rfl hlength rfl hcall
  exact ends_binary (.int ds.length) (.int 1) rfl (ends_method_variable ends_evalAll_nil hread hmethod)
    (ends_literal _) hminus

theorem ends_result :
    (eval call f resultTree).Ends (during s n ds out count i) (.ok (.text (String.ofList (sign n ++ out))))
      (during s n ds out count i) := by
  refine ends_ifElse (during s n ds out count i) (ends_isNegative rfl rfl) ?_ ?_ rfl rfl
  · intro hnegative
    rw [evalBody, sign, if_pos hnegative]
    exact ends_binary (.text "-") (.text (String.ofList out)) rfl (ends_literal _) (ends_variable rfl rfl)
      (call_join ['-'] out)
  · intro hpositive
    rw [evalBody, sign, if_neg hpositive]
    exact ends_variable rfl rfl

theorem ends_body (h : Unshadowed f formatter.builtins) (hrounds : 19 < f.rounds) (hn : Arithmetic.fits n = true)
    (hleast : n ≠ -2 ^ 63) :
    ∃ inner, (evalBody call f function.body).Ends (entered s n)
      (.ok (.text (String.ofList (sign n ++ grouped (Nat.toDigits 10 n.natAbs))))) inner ∧
        inner.cells = s.cells := by
  have hds := length_digits hn
  have hdigits := @ends_digits call f s n (h ("to_string", 0) (by simp [formatter])) hn hleast
  generalize Nat.toDigits 10 n.natAbs = ds at hds hdigits ⊢
  refine ⟨during s n ds (grouped ds) ds.length (-1), ?_, rfl⟩
  have hloop := @ends_loop call f s n ds (h ("sub_string", 2) (by simp [formatter])) (by omega) (by omega)
  refine ends_evalBody_cons (ends_declare hdigits) ?_ (by simp)
  refine ends_evalBody_cons (ends_declare (ends_literal _)) ?_ (by simp)
  refine ends_evalBody_cons (ends_declare (ends_literal _)) ?_ (by simp)
  refine ends_evalBody_cons (ends_declare (ends_last (h ("len", 0) (by simp [formatter])) hds rfl rfl)) ?_ (by simp)
  refine ends_evalBody_cons hloop ?_ (by simp)
  rw [evalBody]
  exact ends_result

end Evaluation

section Calls

variable {f : Frame} {n : Int}

/-- For every 64-bit integer but the least the call comes to the text of its groups, and changes nothing. -/
theorem format_thousands_groups (h : Reaches f [("to_string", 0), ("len", 0), ("sub_string", 2)])
    (hrounds : 19 < f.rounds) (hn : Arithmetic.fits n = true) (hleast : n ≠ -2 ^ 63) :
    ∃ text, IsGrouped n text ∧ Gives f formatter [.int n] (.text text) := by
  refine ⟨_, isGrouped n, gives_of_body h isEmbedded_formatter rfl (.inl rfl) ?_⟩
  intro call f' state hown hsame
  exact ends_body hown (hsame ▸ hrounds) hn hleast

example : String.ofList (sign (-1234567) ++ grouped (Nat.toDigits 10 1234567)) = "-1,234,567" := by decide

theorem format_thousands_groups_negative :
    ∃ f, Reaches f [("to_string", 0), ("len", 0), ("sub_string", 2)] ∧ 19 < f.rounds ∧
      Arithmetic.fits (-1234567) = true ∧ (-1234567 : Int) ≠ -2 ^ 63 ∧
      ∃ text, IsGrouped (-1234567) text ∧ Gives f formatter [.int (-1234567)] (.text text) := by
  obtain ⟨f, h, hall⟩ := exists_reaches [("to_string", 0), ("len", 0), ("sub_string", 2)]
  have hrounds : 19 < f.rounds := by
    rw [hall]
    decide
  exact ⟨f, h, hrounds, by decide, by decide, format_thousands_groups h hrounds (by decide) (by decide)⟩

set_option maxRecDepth 10000 in
/-- A function of the script comes before the built-in one that the digits are made with, and then the text has other
characters. For the least integer the call ends with an error, as there is no integer to negate it to. -/
theorem not_grouped_shadowed_or_least :
    ∃ modules, IsEmbedded modules ∧
      alone modules "fn to_string() \x7b \"x\" \x7d numbers::format_thousands(1)" = .ok (.text "x") ∧ ¬ IsGrouped 1 "x" ∧
      failsWith ("integer overflow @ 'numbers' (line 14, position 30)\n" ++
          "in call to function 'format_thousands' (from 'numbers') (line 1, position 10)")
        (alone modules "numbers::format_thousands(-9223372036854775807 - 1)") = true := by
  obtain ⟨modules, hmodules⟩ := exists_isEmbedded
  have hother := alone_eq_ok hmodules "fn to_string() \x7b \"x\" \x7d numbers::format_thousands(1)" (.text "x")
    rfl rfl rfl (by decide +kernel)
  have hleast := alone_of_check hmodules "numbers::format_thousands(-9223372036854775807 - 1)"
    (failsWith ("integer overflow @ 'numbers' (line 14, position 30)\n" ++
      "in call to function 'format_thousands' (from 'numbers') (line 1, position 10)")) rfl rfl rfl (by decide +kernel)
  refine ⟨modules, hmodules, hother, ?_, hleast⟩
  rintro ⟨first, others, hgroups⟩
  exact absurd hgroups.number (by decide)

end Calls

end PlaceholderScripts.Library.Thousands
