import Mathlib.Data.Nat.Find
import Mathlib.Order.Bounds.Defs
import PlaceholderScripts.Proofs.Library.Calls

/-!
# Padded texts

The functions `pad_left` and `pad_right` of the embedded library put a filling in front of a text or behind it until
the text is as long as it is to be. They put it there as often as needed and no oftener, so a filling of several
characters can leave the text longer than that. A text that is long enough stays as it is, and so does every text
if there is nothing to fill it with.
-/

namespace PlaceholderScripts.Library.Padding

inductive Side where
  | left
  | right

namespace Side

/-- A text with the filling once more. -/
def grow (fill out : String) : Side → String
  | left => fill ++ out
  | right => out ++ fill

/-- A text with so many copies of the filling. -/
def padded (s fill : String) (k : Nat) : Side → String
  | left => String.join (List.replicate k fill) ++ s
  | right => s ++ String.join (List.replicate k fill)

variable {s fill : String} {k : Nat}

@[simp] theorem padded_zero (side : Side) : side.padded s fill 0 = s := by
  cases side with
  | left => simp [padded]
  | right => simp [padded]

theorem grow_padded (side : Side) : side.grow fill (side.padded s fill k) = side.padded s fill (k + 1) := by
  cases side with
  | left => rw [grow, padded, padded, List.replicate_succ, String.join_cons, String.append_assoc]
  | right =>
    rw [grow, padded, padded, List.replicate_succ', String.join_append, String.append_assoc, String.join_cons,
      String.join_nil, String.append_empty]

@[simp] theorem length_padded (side : Side) : (side.padded s fill k).length = s.length + k * fill.length := by
  cases side with
  | left => simp [padded, Nat.add_comm]
  | right => simp [padded]

end Side

section Copies

variable {s fill : String} {width : Int}

def Suffices (s fill : String) (width : Int) (k : Nat) : Prop := width ≤ s.length + k * fill.length

theorem length_pos (h : fill ≠ "") : 0 < fill.length := by
  rw [← String.length_toList]
  exact List.length_pos_iff.mpr fun hnil => h (String.toList_eq_nil_iff.mp hnil)

theorem suffices_toNat (h : fill ≠ "") : Suffices s fill width width.toNat := by
  have hcopies : width.toNat ≤ width.toNat * fill.length := Nat.le_mul_of_pos_right _ (length_pos h)
  unfold Suffices
  omega

/-- As a copy makes a text longer, some number of copies suffices, and so there is a least one. -/
theorem exists_isLeast (h : fill ≠ "") : ∃ k, IsLeast {k | Suffices s fill width k} k := by
  classical
  have hexists : ∃ k, Suffices s fill width k := ⟨_, suffices_toNat h⟩
  exact ⟨Nat.find hexists, Nat.find_spec hexists, fun k hk => Nat.find_min' hexists hk⟩

end Copies

open Script Script.Evaluate

/-!
The syntax trees of the functions, which differ in the statement that makes the text longer, with the places in the
file of the library.
-/

namespace Side

def functionName : Side → String
  | left => "pad_left"
  | right => "pad_right"

/-- The line of the file on which the body of the function begins. -/
def line : Side → Nat
  | left => 11
  | right => 22

def growTree : Side → Expr
  | left => .assign (.variable "out" ⟨16, 9⟩) none
    (.call "+" [.variable "fill" ⟨16, 15⟩, .variable "out" ⟨16, 22⟩] ⟨16, 20⟩) ⟨16, 13⟩
  | right => .assign (.variable "out" ⟨27, 9⟩) (some "+") (.variable "fill" ⟨27, 16⟩) ⟨27, 13⟩

/-- Whether there is nothing to fill with, in which case the text is returned. -/
def emptyTree (side : Side) : Expr :=
  .ifElse (.chain (.variable "fill" ⟨side.line, 8⟩) [.method "is_empty" [] false ⟨side.line, 13⟩] ⟨side.line, 12⟩)
    [.returnValue (.variable "s" ⟨side.line + 1, 16⟩) ⟨side.line + 1, 9⟩] [] ⟨side.line, 5⟩

def shortTree (side : Side) : Expr :=
  .call "<" [
    .chain (.variable "out" ⟨side.line + 4, 11⟩) [.method "len" [] false ⟨side.line + 4, 15⟩] ⟨side.line + 4, 14⟩,
    .variable "width" ⟨side.line + 4, 23⟩] ⟨side.line + 4, 21⟩

def function (side : Side) : Function where
  name := side.functionName
  parameters := ["s", "width", "fill"]
  body := [
    side.emptyTree,
    .declare "out" false false (.variable "s" ⟨side.line + 3, 15⟩) ⟨side.line + 3, 5⟩,
    .whileLoop false false side.shortTree [side.growTree] ⟨side.line + 4, 5⟩,
    .variable "out" ⟨side.line + 7, 5⟩]

end Side

def Side.padder (side : Side) : LibraryFunction := ⟨.text, side.function, [("is_empty", 0), ("len", 0)]⟩

set_option maxRecDepth 10000 in
theorem isEmbedded_padder (side : Side) : side.padder.IsEmbedded := by
  cases side with
  | left => exact LibraryFunction.isEmbedded_of_isIn rfl (by decide +kernel)
  | right => exact LibraryFunction.isEmbedded_of_isIn rfl (by decide +kernel)

section Evaluation

/-- The function at its beginning. -/
def entered (state : State) (s : String) (width : Int) (fill : String) : State :=
  { state with
    scope := [
      { name := "fill", value := .text fill },
      { name := "width", value := .int width },
      { name := "s", value := .text s }] }

def during (state : State) (s : String) (width : Int) (fill out : String) : State :=
  { state with scope := { name := "out", value := .text out } :: (entered state s width fill).scope }

variable {call : Caller} {f : Frame} {state : State} {s fill out : String} {width : Int} {side : Side}

theorem ends_isEmpty (hown : f.callee? "is_empty" 0 = none) {line column : Nat} :
    (eval call f (.chain (.variable "fill" ⟨line, 8⟩) [.method "is_empty" [] false ⟨line, 13⟩] ⟨line, column⟩)).Ends
      (entered state s width fill) (.ok (.bool (decide (fill = "")))) (entered state s width fill) := by
  have hempty : fill.toList.isEmpty = decide (fill = "") := by
    rw [Bool.eq_iff_iff, List.isEmpty_iff, decide_eq_true_eq, String.toList_eq_nil_iff]
  have hmethod : callMethod call f (.text fill) "is_empty" [] ⟨line, 13⟩ =
      pure { value := .bool (decide (fill = "")) } := by
    rw [← hempty]
    exact callMethod_builtin ⟨by decide, by decide⟩ rfl hown rfl rfl
  exact ends_method_variable ends_evalAll_nil rfl hmethod

theorem ends_emptyTree_of_empty (hown : f.callee? "is_empty" 0 = none) (hfill : fill = "") :
    (eval call f side.emptyTree).Ends (entered state s width fill) (.error (.returned (.text s)))
      (entered state s width fill) := by
  refine ends_ifElse (entered state s width fill) (ends_isEmpty hown) ?_ (fun hne => absurd hfill hne) rfl rfl
  intro _
  rw [evalBody]
  exact ends_returnValue (ends_variable rfl rfl)

theorem ends_emptyTree (hown : f.callee? "is_empty" 0 = none) (hfill : fill ≠ "") :
    (eval call f side.emptyTree).Ends (entered state s width fill) (.ok .unit) (entered state s width fill) := by
  refine ends_ifElse (entered state s width fill) (ends_isEmpty hown) (fun heq => absurd heq hfill) ?_ rfl rfl
  intro _
  rw [evalBody]
  exact Run.ends_pure _ _

theorem ends_shortTree (hown : f.callee? "len" 0 = none) :
    (eval call f side.shortTree).Ends (during state s width fill out)
      (.ok (.bool (decide ((out.length : Int) < width)))) (during state s width fill out) := by
  have hmethod : callMethod call f (.text out) "len" [] ⟨side.line + 4, 15⟩ =
      pure { value := .int out.length } := by
    rw [← String.length_toList]
    exact callMethod_builtin ⟨by decide, by decide⟩ rfl hown rfl rfl
  exact ends_binary (.int out.length) (.int width) rfl (ends_method_variable ends_evalAll_nil rfl hmethod)
    (ends_variable rfl rfl) rfl

theorem ends_growTree :
    (eval call f side.growTree).Ends (during state s width fill out) (.ok .unit)
      (during state s width fill (side.grow fill out)) := by
  cases side with
  | left =>
    refine ends_assign (during state s width fill out) { name := "out", value := .text out }
      (.text (fill ++ out)) (.text (fill ++ out)) ?_ rfl rfl nofun rfl
    exact ends_binary (.text fill) (.text out) rfl (ends_variable rfl rfl) (ends_variable rfl rfl) rfl
  | right =>
    exact ends_assign (during state s width fill out) { name := "out", value := .text out }
      (.text fill) (.text (out ++ fill)) (ends_variable rfl rfl) rfl rfl nofun rfl

/-- A round puts the filling there once more. -/
theorem ends_round {k : Nat} :
    (Run.enclosed (evalBody call f [side.growTree])).Ends
      (during state s width fill (side.padded s fill k)) (.ok .unit)
      (during state s width fill (side.padded s fill (k + 1))) := by
  have hbody : (evalBody call f [side.growTree]).Ends
      (during { state with level := state.level + 1 } s width fill (side.padded s fill k)) (.ok .unit)
      (during { state with level := state.level + 1 } s width fill (side.padded s fill (k + 1))) := by
    rw [← Side.grow_padded, evalBody]
    exact ends_growTree
  exact Run.Ends.enclosed (during state s width fill _) hbody rfl

theorem ends_loop (hown : f.callee? "len" 0 = none) {k : Nat} (hk : IsLeast {k | Suffices s fill width k} k)
    (hrounds : k < f.rounds) :
    (eval call f (.whileLoop false false side.shortTree [side.growTree] ⟨side.line + 4, 5⟩)).Ends
      (during state s width fill s) (.ok .unit) (during state s width fill (side.padded s fill k)) := by
  have hloop := @ends_whileLoop call f ⟨side.line + 4, 5⟩ side.shortTree [side.growTree]
    (fun i => during state s width fill (side.padded s fill i)) k hrounds ?_ fun i _ => ⟨.unit, ends_round⟩
  · simpa using hloop
  · intro i hi
    have hgoes : decide (i < k) = decide (((side.padded s fill i).length : Int) < width) := by
      rw [decide_eq_decide, ← not_le, Side.length_padded, ← not_le (a := width)]
      refine not_congr ⟨?_, ?_⟩
      · intro hle
        obtain rfl : i = k := Nat.le_antisymm hi hle
        exact_mod_cast hk.1
      · intro hsuffices
        exact hk.2 (by exact_mod_cast hsuffices)
    rw [hgoes]
    exact ends_shortTree hown

theorem ends_body (h : Unshadowed f side.padder.builtins) (hfill : fill ≠ "") {k : Nat}
    (hk : IsLeast {k | Suffices s fill width k} k) (hrounds : k < f.rounds) :
    (evalBody call f side.function.body).Ends (entered state s width fill)
      (.ok (.text (side.padded s fill k))) (during state s width fill (side.padded s fill k)) := by
  refine ends_evalBody_cons (ends_emptyTree (h ("is_empty", 0) (by simp [Side.padder])) hfill) ?_ (by simp)
  refine ends_evalBody_cons (ends_declare (ends_variable rfl rfl)) ?_ (by simp)
  refine ends_evalBody_cons (ends_loop (h ("len", 0) (by simp [Side.padder])) hk hrounds) ?_ (by simp)
  rw [evalBody]
  exact ends_variable rfl rfl

theorem ends_body_of_empty (h : Unshadowed f side.padder.builtins) (hfill : fill = "") :
    (evalBody call f side.function.body).Ends (entered state s width fill) (.error (.returned (.text s)))
      (entered state s width fill) :=
  ends_evalBody_error (ends_emptyTree_of_empty (h ("is_empty", 0) (by simp [Side.padder])) hfill)

end Evaluation

section Calls

variable {f : Frame} {width : Int}

/-- For every width of 64 bits the call comes to the text with the least number of copies of the filling that suffices,
in front or behind. So the text is not changed where it is long enough, and both sides become equally long. If the
filling is empty, the call comes to the text itself. -/
theorem padding_is_minimal (h : Reaches f [("is_empty", 0), ("len", 0)]) (hrounds : f.rounds = allowedRounds)
    (s fill : String) (hwidth : Arithmetic.fits width = true) :
    (fill ≠ "" → ∃ k, IsLeast {k : ℕ | width ≤ s.length + k * fill.length} k ∧
      Gives f Side.left.padder [.text s, .int width, .text fill] (.text (String.join (List.replicate k fill) ++ s)) ∧
      Gives f Side.right.padder [.text s, .int width, .text fill] (.text (s ++ String.join (List.replicate k fill))) ∧
      (String.join (List.replicate k fill) ++ s).length = (s ++ String.join (List.replicate k fill)).length ∧
      (width ≤ s.length → k = 0)) ∧
    (fill = "" → Gives f Side.left.padder [.text s, .int width, .text fill] (.text s) ∧
      Gives f Side.right.padder [.text s, .int width, .text fill] (.text s)) := by
  constructor
  · intro hfill
    obtain ⟨k, hk⟩ := @exists_isLeast s fill width hfill
    -- the loop takes a round for each copy, and no more copies than characters are needed
    have hmost : k ≤ width.toNat := hk.2 (suffices_toNat hfill)
    have hfewer : k < f.rounds := by
      simp only [Arithmetic.fits, Bool.and_eq_true, decide_eq_true_eq] at hwidth
      rw [hrounds, allowedRounds]
      omega
    have hgives (side : Side) : Gives f side.padder [.text s, .int width, .text fill] (.text (side.padded s fill k)) :=
      gives_of_body h (isEmbedded_padder side) rfl (.inl rfl) fun call f' state hown hsame =>
        ⟨_, @ends_body call f' state s fill width side hown hfill k hk (hsame ▸ hfewer), rfl⟩
    refine ⟨k, hk, hgives .left, hgives .right, ?_, ?_⟩
    · rw [String.length_append, String.length_append, Nat.add_comm]
    · intro hlong
      have hnone : Suffices s fill width 0 := by simpa [Suffices] using hlong
      exact Nat.le_zero.mp (hk.2 hnone)
  · intro hfill
    have hgives (side : Side) : Gives f side.padder [.text s, .int width, .text fill] (.text s) :=
      gives_of_body h (isEmbedded_padder side) rfl (.inr rfl) fun call f' state hown _ =>
        ⟨_, @ends_body_of_empty call f' state s fill width side hown hfill, rfl⟩
    exact ⟨hgives .left, hgives .right⟩

/-- Two copies of a filling of two characters make a text of one character longer than it is to be. -/
theorem padding_is_minimal_overshooting :
    ∃ f, Reaches f [("is_empty", 0), ("len", 0)] ∧ f.rounds = allowedRounds ∧ Arithmetic.fits 4 = true ∧ "é→" ≠ "" ∧
      Gives f Side.left.padder [.text "7", .int 4, .text "é→"] (.text "é→é→7") ∧
      Gives f Side.right.padder [.text "7", .int 4, .text "é→"] (.text "7é→é→") ∧
      "" = "" ∧ Gives f Side.left.padder [.text "7", .int 4, .text ""] (.text "7") := by
  obtain ⟨f, h, hrounds⟩ := exists_reaches [("is_empty", 0), ("len", 0)]
  have hfits : Arithmetic.fits 4 = true := by decide
  obtain ⟨k, hk, hleft, hright, -⟩ := (padding_is_minimal h hrounds "7" "é→" hfits).1 (by decide)
  have hlengths : "7".length = 1 ∧ "é→".length = 2 := by decide
  have hleast : (4 : Int) ≤ "7".length + k * "é→".length := hk.1
  have hmost : k ≤ 2 := hk.2 (by decide)
  rw [hlengths.1, hlengths.2] at hleast
  obtain rfl : k = 2 := by omega
  exact ⟨f, h, hrounds, hfits, by decide, hleft, hright, rfl, ((padding_is_minimal h hrounds "7" "" hfits).2 rfl).1⟩

set_option maxRecDepth 10000 in
/-- A function of the script comes before the built-in one of the same name inside of the library as well, and then a
text that is too short is not padded. -/
theorem own_function_stops_padding :
    ∃ modules, IsEmbedded modules ∧
      alone modules "fn is_empty() \x7b true \x7d text::pad_left(\"a\", 3, \"x\")" = .ok (.text "a") ∧
      IsLeast {k : ℕ | (3 : Int) ≤ "a".length + k * "x".length} 2 ∧
      String.join (List.replicate 2 "x") ++ "a" = "xxa" := by
  obtain ⟨modules, hmodules⟩ := exists_isEmbedded
  have hstops := alone_eq_ok hmodules "fn is_empty() \x7b true \x7d text::pad_left(\"a\", 3, \"x\")" (.text "a")
    rfl rfl rfl (by decide +kernel)
  refine ⟨modules, hmodules, hstops, ⟨by decide, ?_⟩, by decide⟩
  intro k hk
  have hlengths : "a".length = 1 ∧ "x".length = 1 := by decide
  have hlong : (3 : Int) ≤ "a".length + k * "x".length := hk
  rw [hlengths.1, hlengths.2] at hlong
  omega

end Calls

end PlaceholderScripts.Library.Padding
