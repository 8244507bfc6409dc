import Mathlib.Tactic.SplitIfs
import PlaceholderScripts.Script.Evaluate

/-!
# Faults of indices

Many operations can fail, but only the reading and the writing of an item of a list fail for an index outside
of a list. They do so with the number of its items, and only if the index stands for none of them.
-/

namespace PlaceholderScripts.Script

/-- If the fault is an index outside of a list, then the index stands for no item of a list of this length. -/
def Fault.Sound : Fault → Prop
  | .listBounds length index => Builtin.place? length index = none
  | _ => True

def FailsSoundly {α : Type} (r : Except Fault α) : Prop := ∀ fault, r = .error fault → fault.Sound

namespace FailsSoundly

variable {α β : Type} {r : Except Fault α}

@[simp] theorem ok (a : α) : FailsSoundly (.ok a) := fun _ h => nomatch h

@[simp] theorem error_iff {fault : Fault} : FailsSoundly (.error fault : Except Fault α) ↔ fault.Sound := by
  refine ⟨fun h => h fault rfl, fun h other heq => ?_⟩
  obtain rfl := Except.error.inj heq
  exact h

theorem map (h : FailsSoundly r) (f : α → β) : FailsSoundly (r.map f) := by
  cases r with
  | ok a => exact .ok _
  | error fault => exact error_iff.mpr (error_iff.mp h)

end FailsSoundly

def IfAny {α : Type} (P : α → Prop) (o : Option α) : Prop := ∀ a, o = some a → P a

namespace IfAny

variable {α β : Type} {P : α → Prop} {Q : β → Prop}

@[simp] theorem none : IfAny P none := fun _ h => nomatch h

theorem some {a : α} (h : P a) : IfAny P (some a) := by
  intro other heq
  obtain rfl := Option.some.inj heq
  exact h

@[simp] theorem some_iff {a : α} : IfAny P (Option.some a) ↔ P a := ⟨fun h => h a rfl, .some⟩

theorem map {o : Option α} (h : IfAny P o) {f : α → β} (hf : ∀ a, P a → Q (f a)) :
    IfAny Q (o.map f) := by
  cases o with
  | none => exact .none
  | some a => exact .some (hf a (h a rfl))

theorem bind {o : Option α} {k : α → Option β} (h : ∀ a, IfAny Q (k a)) : IfAny Q (o.bind k) := by
  cases o with
  | none => exact .none
  | some a => exact h a

theorem orElse {o : Option α} {other : Unit → Option α} (h : IfAny P o) (hother : IfAny P (other ())) :
    IfAny P (o.orElse other) := by
  cases o with
  | none => exact hother
  | some a => exact h

end IfAny

namespace FailsSoundly

variable {α β : Type}

theorem map_ifAny {o : Option (Except Fault α)} (h : IfAny FailsSoundly o) (f : α → β) :
    IfAny FailsSoundly (o.map (·.map f)) := h.map fun _ hr => hr.map f

theorem ok_ifAny (o : Option α) (f : α → β) :
    IfAny FailsSoundly (o.map fun a => (.ok (f a) : Except Fault β)) := by
  cases o with
  | none => exact .none
  | some a => exact .some (.ok (f a))

end FailsSoundly

namespace Part

theorem failsSoundly_place {length : Nat} (bounds : Int → Fault)
    (h : ∀ i, Builtin.place? length i = none → (bounds i).Sound) (index : Value) :
    FailsSoundly (place length bounds index) := by
  cases index with
  | int i =>
    simp only [place]
    cases hplace : Builtin.place? length i with
    | some n => exact .ok n
    | none => exact FailsSoundly.error_iff.mpr (h i hplace)
  | _ => exact FailsSoundly.error_iff.mpr trivial

theorem failsSoundly_place_list (items : List Value) (index : Value) :
    FailsSoundly (place items.length (.listBounds items.length) index) :=
  failsSoundly_place (.listBounds items.length) (fun _ h => h) index

theorem failsSoundly_place_text (cs : List Char) (index : Value) :
    FailsSoundly (place cs.length (.textBounds cs.length) index) :=
  failsSoundly_place (.textBounds cs.length) (fun _ _ => trivial) index

theorem failsSoundly_place_bit (index : Value) :
    FailsSoundly (place integerBits .bitBounds index) :=
  failsSoundly_place .bitBounds (fun _ _ => trivial) index

theorem failsSoundly_textRange (cs : List Char) (first last : Int) (inclusive : Bool) :
    FailsSoundly (textRange cs first last inclusive) := by
  simp only [textRange]
  split_ifs <;> simp [Fault.Sound]

theorem failsSoundly_get (v index : Value) : FailsSoundly (get v index) := by
  unfold get
  split
  · exact (failsSoundly_place_list _ index).map _
  · split <;> simp [Fault.Sound]
  · exact (failsSoundly_place_bit index).map _
  · split
    · exact failsSoundly_textRange _ _ _ _
    · exact (failsSoundly_place_text _ index).map _
  · exact FailsSoundly.error_iff.mpr trivial

theorem failsSoundly_set (v index new : Value) : FailsSoundly (set v index new) := by
  unfold set
  split
  · exact (failsSoundly_place_list _ index).map _
  · split <;> simp [Fault.Sound]
  · split
    · exact (failsSoundly_place_bit index).map _
    · exact FailsSoundly.error_iff.mpr trivial
  · split
    · exact (failsSoundly_place_text _ index).map _
    · exact FailsSoundly.error_iff.mpr trivial
  · exact FailsSoundly.error_iff.mpr trivial

/-- A sound fault of an index outside of a list is the one that indexing any list of this length fails with. -/
theorem get_list_eq_error {items : List Value} {index : Int} {fault : Fault} :
    get (.list items) (.int index) = .error fault ↔
      fault = .listBounds items.length index ∧ fault.Sound := by
  simp only [get, place]
  cases hplace : Builtin.place? items.length index with
  | some n =>
    refine iff_of_false (fun h => nomatch h) ?_
    rintro ⟨rfl, hsound⟩
    rw [Fault.Sound, hplace] at hsound
    exact nomatch hsound
  | none =>
    constructor
    · intro h
      obtain rfl := Except.error.inj h
      exact ⟨rfl, hplace⟩
    · rintro ⟨rfl, -⟩
      rfl

end Part

section Operators

namespace Arithmetic

theorem failsSoundly_checked (fault : ArithmeticFault) (i : Int) : FailsSoundly (checked fault i) := by
  unfold checked
  split <;> simp [Fault.Sound]

theorem failsSoundly_power (x y : Int) : FailsSoundly (power x y) := by
  unfold power
  repeat' split
  all_goals first | exact failsSoundly_checked _ _ | simp [Fault.Sound]

theorem failsSoundly_divide (x y : Int) : FailsSoundly (divide x y) := by
  unfold divide
  split
  · exact FailsSoundly.error_iff.mpr trivial
  · exact failsSoundly_checked _ _

theorem failsSoundly_remainder (x y : Int) : FailsSoundly (remainder x y) := by
  unfold remainder
  split <;> simp [Fault.Sound]

theorem failsSoundly_ofIntegers (name : String) (x y : Int) :
    IfAny FailsSoundly (ofIntegers name x y) := by
  unfold ofIntegers
  split <;> simp [failsSoundly_checked, failsSoundly_divide, failsSoundly_remainder, failsSoundly_power]

end Arithmetic

mutual

theorem failsSoundly_equals (x y : Value) : FailsSoundly (equals x y) := by
  unfold equals
  split
  all_goals first | exact .ok _ | skip
  · split
    · exact failsSoundly_allEqual _ _
    · exact .ok _
  · split
    · exact failsSoundly_sameEntries _ _
    · exact .ok _
  · split <;> simp [Fault.Sound]

theorem failsSoundly_allEqual (xs ys : List Value) : FailsSoundly (allEqual xs ys) := by
  unfold allEqual
  split
  · next x xs y ys =>
    split
    · exact failsSoundly_allEqual xs ys
    · exact failsSoundly_equals x y
  · exact .ok _

theorem failsSoundly_sameEntries (xs ys : List (String × Value)) :
    FailsSoundly (sameEntries xs ys) := by
  unfold sameEntries
  split
  · exact .ok _
  · split
    · exact .ok _
    · next y _ =>
      split
      · exact failsSoundly_sameEntries _ _
      · exact failsSoundly_equals _ y

end

theorem failsSoundly_listContains (v : Value) (items : List Value) :
    FailsSoundly (listContains v items) := by
  induction items with
  | nil => exact .ok _
  | cons item items ih =>
    unfold listContains
    split
    · exact ih
    · exact failsSoundly_equals item v

theorem failsSoundly_comparison (name : String) (x y : Value) :
    IfAny FailsSoundly (comparison name x y) := by
  unfold comparison
  dsimp only
  split
  all_goals first | exact FailsSoundly.ok_ifAny _ _ | skip
  · split_ifs
    · exact FailsSoundly.ok_ifAny _ _
    · exact .some (failsSoundly_equals _ _)
    · exact .some ((failsSoundly_equals _ _).map _)
    · exact .none

theorem failsSoundly_binaryOperator (name : String) (x y : Value) :
    IfAny FailsSoundly (binaryOperator name x y) := by
  have hcompared := failsSoundly_comparison name x y
  unfold binaryOperator
  split
  · next r hr =>
    rw [hr, IfAny.some_iff] at hcompared
    exact .some (hcompared.map _)
  · split
    · exact Arithmetic.failsSoundly_ofIntegers _ _ _
    all_goals exact FailsSoundly.ok_ifAny _ _

theorem failsSoundly_unaryOperator (name : String) (x : Value) :
    IfAny FailsSoundly (unaryOperator name x) := by
  unfold unaryOperator
  split <;> simp [Arithmetic.failsSoundly_checked]

theorem failsSoundly_assigned (name : String) (x y : Value) :
    IfAny FailsSoundly (assigned name x y) := by
  unfold assigned
  split
  · simp
  · simp
  · exact failsSoundly_binaryOperator _ _ _

end Operators

namespace Builtin

@[simp] theorem failsSoundly_give (v : Value) : IfAny FailsSoundly (give v) := by simp [give]

@[simp] theorem failsSoundly_giveText (cs : List Char) : IfAny FailsSoundly (giveText cs) := by
  simp [giveText]

@[simp] theorem failsSoundly_change (first v : Value) : IfAny FailsSoundly (change first v) := by
  simp [change]

@[simp] theorem failsSoundly_changeText (cs : List Char) (v : Value) :
    IfAny FailsSoundly (changeText cs v) := by
  simp [changeText]

@[simp] theorem failsSoundly_changeList (items : List Value) (v : Value) :
    IfAny FailsSoundly (changeList items v) := by
  simp [changeList]

@[simp] theorem failsSoundly_changeMap (entries : List (String × Value)) (v : Value) :
    IfAny FailsSoundly (changeMap entries v) := by
  simp [changeMap]

@[simp] theorem failsSoundly_refuse {fault : Fault} :
    IfAny FailsSoundly (refuse fault) ↔ fault.Sound := by
  simp [refuse]

theorem failsSoundly_ofNothing (name : String) : IfAny FailsSoundly (ofNothing name) := by
  unfold ofNothing
  split <;> simp

theorem failsSoundly_ofAny (name : String) (v : Value) (arguments : List Value) :
    IfAny FailsSoundly (ofAny name v arguments) := by
  unfold ofAny
  split <;> simp

theorem failsSoundly_ofChar (name : String) (c : Char) (arguments : List Value) :
    IfAny FailsSoundly (ofChar name c arguments) := by
  unfold ofChar
  split <;> simp

theorem failsSoundly_ofMap (name : String) (entries : List (String × Value)) (arguments : List Value) :
    IfAny FailsSoundly (ofMap name entries arguments) := by
  unfold ofMap
  split
  all_goals try simp
  split <;> simp

theorem failsSoundly_ofRange (name : String) (first last : Int) (inclusive : Bool)
    (arguments : List Value) : IfAny FailsSoundly (ofRange name first last inclusive arguments) := by
  unfold ofRange
  dsimp only
  split <;> simp

theorem failsSoundly_askText (name : String) (s : String) (arguments : List Value) :
    IfAny FailsSoundly (askText name s arguments) := by
  unfold askText
  dsimp only
  split
  all_goals first | exact .bind fun _ => failsSoundly_give _ | simp [rangeBounds]

theorem failsSoundly_editText (name : String) (s : String) (arguments : List Value) :
    IfAny FailsSoundly (editText name s arguments) := by
  unfold editText
  dsimp only
  split
  all_goals first | exact .bind fun _ => failsSoundly_changeText _ _ | simp [rangeBounds] | skip
  all_goals split <;> simp

theorem failsSoundly_parseInt (text : String) (base : Nat) : FailsSoundly (parseInt text base) := by
  unfold parseInt
  dsimp only
  split
  · simp [Fault.Sound]
  · split_ifs <;> simp [Fault.Sound]

theorem failsSoundly_parseFloat (text : String) : FailsSoundly (parseFloat text) := by
  unfold parseFloat
  dsimp only
  split <;> simp [Fault.Sound]

theorem failsSoundly_toInt (x : Double) : FailsSoundly (toInt x) := by
  unfold toInt
  dsimp only
  split_ifs <;> simp [Fault.Sound]

theorem failsSoundly_parsed (name s : String) (arguments : List Value) :
    IfAny FailsSoundly (parsed name s arguments) := by
  unfold parsed
  split
  · simp [failsSoundly_parseInt]
  · split_ifs <;> simp [failsSoundly_parseInt, Fault.Sound]
  · simp [failsSoundly_parseFloat]
  · exact .none

theorem failsSoundly_stepped (first last step : Int) : IfAny FailsSoundly (stepped first last step) := by
  unfold stepped
  split_ifs <;> simp [Fault.Sound]

theorem failsSoundly_bit (i index : Int) : IfAny FailsSoundly (bit i index) := by
  unfold bit
  split <;> simp [Fault.Sound]

theorem failsSoundly_withBit (i index : Int) (on : Bool) : IfAny FailsSoundly (withBit i index on) := by
  unfold withBit
  split <;> simp [Fault.Sound]

theorem failsSoundly_ofInteger (name : String) (i : Int) (arguments : List Value) :
    IfAny FailsSoundly (ofInteger name i arguments) := by
  unfold ofInteger
  split
  all_goals try simp [failsSoundly_bit, failsSoundly_withBit, failsSoundly_stepped]
  all_goals split_ifs <;> simp [Fault.Sound]

theorem failsSoundly_ofDouble (name : String) (x : Double) (arguments : List Value) :
    IfAny FailsSoundly (ofDouble name x arguments) := by
  unfold ofDouble
  split
  all_goals first | exact .bind fun _ => failsSoundly_give _ | simp [failsSoundly_toInt] | skip
  split_ifs <;> simp [Fault.Sound]

theorem failsSoundly_sorted (items : List Value) : FailsSoundly (sorted items) := by
  unfold sorted
  split
  · exact .ok _
  · exact .ok _
  · split_ifs <;> simp [mixedItems, Fault.Sound]

theorem failsSoundly_itemIndex (v : Value) (items : List Value) (n : Nat) :
    FailsSoundly (itemIndex v items n) := by
  induction items generalizing n with
  | nil => exact .ok _
  | cons item items ih =>
    unfold itemIndex
    split
    · exact .ok _
    · exact ih _
    · next fault h => exact FailsSoundly.error_iff.mpr (failsSoundly_equals item v fault h)

theorem failsSoundly_dedup (items : List Value) : FailsSoundly (dedup items) := by
  induction items with
  | nil => exact .ok _
  | cons a rest ih =>
    cases rest with
    | nil => exact .ok _
    | cons b rest =>
      unfold dedup
      split
      · exact .ok _
      · exact .ok _
      · next fault h => exact FailsSoundly.error_iff.mpr (failsSoundly_equals a b fault h)
      · next h _ => exact FailsSoundly.error_iff.mpr (ih _ h)

theorem failsSoundly_retainPart (items : List Value) (start count : Int) :
    IfAny FailsSoundly (retainPart items start count) := by
  unfold retainPart
  split_ifs <;> simp

theorem failsSoundly_changeOrRefuse {r : Except Fault (List Value)} (h : FailsSoundly r)
    (f : List Value → List Value) :
    IfAny FailsSoundly (match r with
      | .ok items => changeList (f items)
      | .error fault => refuse fault) := by
  cases r with
  | ok items => exact failsSoundly_changeList _ _
  | error fault => exact failsSoundly_refuse.mpr (FailsSoundly.error_iff.mp h)

theorem failsSoundly_ofList (name : String) (items arguments : List Value) :
    IfAny FailsSoundly (ofList name items arguments) := by
  have hsorted := failsSoundly_sorted items
  have hdedup := failsSoundly_dedup items
  unfold ofList
  split
  all_goals try simp [rangeBounds, drainPart, splicePart, failsSoundly_retainPart]
  -- Left are the functions that ask more than which arguments they have.
  · split <;> simp
  · split <;> simp
  · split <;> simp
  · exact failsSoundly_changeOrRefuse hsorted id
  · exact failsSoundly_changeOrRefuse hsorted List.reverse
  · exact failsSoundly_changeOrRefuse hdedup id
  · exact (failsSoundly_listContains _ items).map _
  · exact (failsSoundly_itemIndex _ items 0).map _
  · exact (failsSoundly_itemIndex _ _ _).map _
  · split <;> simp

theorem failsSoundly_ofType (name : String) (v : Value) (arguments : List Value) :
    IfAny FailsSoundly (ofType name v arguments) := by
  cases v with
  | int i => exact failsSoundly_ofInteger name i arguments
  | float x => exact failsSoundly_ofDouble name x arguments
  | char c => exact failsSoundly_ofChar name c arguments
  | text s =>
    exact .orElse (.orElse (failsSoundly_askText name s arguments) (failsSoundly_editText name s arguments))
      (failsSoundly_parsed name s arguments)
  | list items => exact failsSoundly_ofList name items arguments
  | map entries => exact failsSoundly_ofMap name entries arguments
  | range first last inclusive => exact failsSoundly_ofRange name first last inclusive arguments
  | _ => exact .none

theorem failsSoundly_ofOperator (name : String) (v : Value) (arguments : List Value) :
    IfAny FailsSoundly (ofOperator name v arguments) := by
  unfold ofOperator
  split
  · exact FailsSoundly.map_ifAny (failsSoundly_unaryOperator name v) _
  · exact FailsSoundly.map_ifAny (failsSoundly_binaryOperator name v _) _
  · exact .none

theorem failsSoundly_call (name : String) (arguments : List Value) :
    IfAny FailsSoundly (call name arguments) := by
  cases arguments with
  | nil => exact failsSoundly_ofNothing name
  | cons v arguments =>
    exact .orElse (.orElse (failsSoundly_ofType name v arguments) (failsSoundly_ofAny name v arguments))
      (failsSoundly_ofOperator name v arguments)

end Builtin

namespace HostObject

/-- The function fails soundly, whatever the host replies. -/
def AnswersSoundly (a : Answer) : Prop := a.Ensures FailsSoundly

theorem answersSoundly_answer (v : Value) : AnswersSoundly (answer v) := FailsSoundly.ok v

theorem answersSoundly_fail (message : String) : AnswersSoundly (fail message) :=
  FailsSoundly.error_iff.mpr trivial

theorem answersSoundly_save : AnswersSoundly save := by
  intro saved
  cases saved with
  | ok _ => exact answersSoundly_answer _
  | error e => exact answersSoundly_fail e.message

theorem answersSoundly_substitute (form : TokenForm) (identity : Identity) (text : String) :
    AnswersSoundly (substitute form identity text) := by
  intro reply
  cases reply with
  | ok s => exact answersSoundly_answer _
  | error e => exact answersSoundly_fail e.message

theorem answersSoundly_dataFunction (name : String) (arguments : List Value) :
    IfAny AnswersSoundly (dataFunction name arguments) := by
  unfold dataFunction
  split
  · exact .some fun _ => answersSoundly_answer _
  · refine .some fun found => ?_
    cases found <;> exact answersSoundly_answer _
  · split
    · exact .some fun _ => answersSoundly_answer _
    · exact .some (answersSoundly_fail _)
  · exact .some fun _ => answersSoundly_answer _
  · exact .some fun _ => answersSoundly_answer _
  · exact .some fun _ => answersSoundly_answer _
  · exact .some fun _ => answersSoundly_answer _
  · exact .some answersSoundly_save
  · exact .none

theorem answersSoundly_substituteFor (form : TokenForm) (arguments : List Value) :
    IfAny AnswersSoundly (substituteFor form arguments) := by
  unfold substituteFor
  split
  · exact .some (answersSoundly_substitute _ _ _)
  · exact .some (answersSoundly_substitute _ _ _)
  · exact .some (answersSoundly_substitute _ _ _)
  · exact .none

theorem answersSoundly_function? (name : String) (object : HostObject) (arguments : List Value) :
    IfAny AnswersSoundly (function? name object arguments) := by
  unfold function?
  split
  · exact answersSoundly_dataFunction name arguments
  · split
    · exact .some (answersSoundly_answer _)
    · exact .some (answersSoundly_answer _)
    · exact .none
  · split
    · exact .some answersSoundly_save
    · exact .none
  · split
    · exact answersSoundly_substituteFor _ _
    · exact answersSoundly_substituteFor _ _
    · exact .none
  all_goals exact .none

end HostObject

end PlaceholderScripts.Script
