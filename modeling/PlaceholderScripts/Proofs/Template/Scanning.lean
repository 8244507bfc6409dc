import PlaceholderScripts.Proofs.Surroundings.Turns
import PlaceholderScripts.Proofs.Template.Tokenisation

/-!
# Scanning with callbacks

What a scan does with the callback that substitutes for it. In any kind of computation a scan is a pass over
the placeholders, whose values are then filled in. So a callback that keeps a state and may fail is called on
the placeholders in their order, each time in the state that it has left, up to its first failure, and on
nothing else.
-/

namespace PlaceholderScripts.Template

/-- The pieces with the placeholders replaced by values, one after the other. The values are inserted as they
are. -/
def fillIn : List Segment → List String → List Char
  | [], _ => []
  | .placeholder _ :: rest, value :: values => value.toList ++ fillIn rest values
  | .placeholder cs :: rest, [] => cs ++ fillIn rest []
  | .text cs :: rest, values => cs ++ fillIn rest values
  | .comment cs :: rest, values => cs ++ fillIn rest values

def tokensOf (segments : List Segment) : List String :=
  segments.filterMap fun s => s.placeholder?.map String.ofList

theorem fillIn_tokensOf (segments : List Segment) :
    fillIn segments (tokensOf segments) = segments.flatMap Segment.chars := by
  induction segments with
  | nil => rfl
  | cons s rest ih =>
    cases s with
    | text cs => exact congrArg (cs ++ ·) ih
    | comment cs => exact congrArg (cs ++ ·) ih
    | placeholder cs =>
      change (String.ofList cs).toList ++ fillIn rest (tokensOf rest) = cs ++ rest.flatMap Segment.chars
      rw [String.toList_ofList, ih]

section Scan

variable {m : Type → Type} [Monad m] [LawfulMonad m] (substitute : String → m String)

theorem mapM_substituteSegment (segments : List Segment) :
    List.flatten <$> segments.mapM (substituteSegment substitute) =
      fillIn segments <$> (tokensOf segments).mapM substitute := by
  induction segments with
  | nil => simp [tokensOf, fillIn]
  | cons s rest ih =>
    -- whatever stands for the first piece, the others are filled in behind it
    have hrest (cs : List Char) :
        (fun pieces => cs ++ pieces.flatten) <$> rest.mapM (substituteSegment substitute) =
          (fun values => cs ++ fillIn rest values) <$> (tokensOf rest).mapM substitute := by
      simpa using congrArg (fun pass => (cs ++ ·) <$> pass) ih
    rw [List.mapM_cons]
    cases s with
    | text cs =>
      refine Eq.trans ?_ (hrest cs)
      simp [substituteSegment]
    | comment cs =>
      refine Eq.trans ?_ (hrest cs)
      simp [substituteSegment]
    | placeholder cs =>
      change _ = fillIn (.placeholder cs :: rest) <$> (String.ofList cs :: tokensOf rest).mapM substitute
      rw [List.mapM_cons]
      simp [substituteSegment, hrest, fillIn]

/-- A scan is a pass over the placeholders, whose values are filled in. -/
theorem scan_eq_mapM (template : String) :
    scan substitute template =
      (fun values => String.ofList (fillIn (segments template) values)) <$>
        (placeholders template).mapM substitute := by
  have hpass := congrArg (fun pass => String.ofList <$> pass)
    (mapM_substituteSegment substitute (segments template))
  simp only [Functor.map_map] at hpass
  exact (by simp [scan] : scan substitute template = _).trans hpass

end Scan

section Callback

variable {ε σ : Type}

/-- A scan with a callback that keeps a state and may fail: the result and the state in the end. -/
def scanWith (callback : String → σ → Except ε String × σ) (template : String) (s : σ) :
    Except ε String × σ :=
  (scan (m := ExceptT ε (StateM σ)) (fun token => ExceptT.mk fun s => callback token s) template).run.run s

variable {callback : String → σ → Except ε String × σ} {template : String} {s s' : σ}

theorem scanWith_of_allSucceed {values : List String}
    (h : AllSucceed callback s (placeholders template) values s') :
    scanWith callback template s = (.ok (String.ofList (fillIn (segments template) values)), s') := by
  have hscan := scan_eq_mapM (m := ExceptT ε (StateM σ)) (fun token => .mk fun s => callback token s) template
  have hrun := (Threading.ofState σ).run_of_eq_mapM_of_allSucceed hscan h
  exact hrun

theorem scanWith_of_failsFirst {called : List String} {e : ε}
    (h : FailsFirst callback s (placeholders template) called e s') :
    scanWith callback template s = (.error e, s') := by
  have hscan := scan_eq_mapM (m := ExceptT ε (StateM σ)) (fun token => .mk fun s => callback token s) template
  have hrun := (Threading.ofState σ).run_of_eq_mapM_of_failsFirst hscan h
  exact hrun

theorem eq_of_allSucceed_self (hself : ∀ token s, (callback token s).1 = .ok token) {tokens values : List String}
    (h : AllSucceed callback s tokens values s') : values = tokens := by
  induction h with
  | nil s => rfl
  | @cons s t s' token value tokens values hcall _ ih =>
    have hvalue := hself token s
    rw [hcall] at hvalue
    rw [ih, Except.ok.inj hvalue]

variable (callback) (template) (s)

/-- A scan calls the callback on the placeholders of the template in their order and on nothing else. Where all
calls succeed, the result is the template with each placeholder replaced by the value of its call, as it is.
Otherwise the result is the error of the first call that fails, and no call is made behind it. A callback
that gives back what it is called on leaves every template as it is. -/
theorem scan_calls_in_order :
    let tokens := placeholders template
    let outcome := scanWith (logged id callback) template (s, [])
    scanWith callback template s = (outcome.1, outcome.2.1) ∧
    ((∃ values s', AllSucceed callback s tokens values s' ∧
        outcome = (.ok (String.ofList (fillIn (segments template) values)), s', tokens)) ∨
      (∃ called e s', FailsFirst callback s tokens called e s' ∧
        outcome = (.error e, s', called))) ∧
    ((∀ token s, (callback token s).1 = .ok token) →
      (scanWith callback template s).1 = .ok template) := by
  intro tokens outcome
  rcases allSucceed_or_failsFirst callback s tokens with ⟨values, s', h⟩ | ⟨called, e, s', h⟩
  · have hscan := scanWith_of_allSucceed h
    have hlogged : outcome = _ := scanWith_of_allSucceed (h.logged id [])
    rw [List.nil_append, List.map_id] at hlogged
    refine ⟨by rw [hscan, hlogged], .inl ⟨values, s', h, hlogged⟩, fun hself => ?_⟩
    obtain rfl : values = tokens := eq_of_allSucceed_self hself h
    have hfilled : fillIn (segments template) (placeholders template) = template.toList :=
      (fillIn_tokensOf _).trans (tokenises_segmentsFrom template.toList).reassembles
    rw [hscan, hfilled, String.ofList_toList]
  · have hscan := scanWith_of_failsFirst h
    have hlogged : outcome = _ := scanWith_of_failsFirst (h.logged id [])
    rw [List.nil_append, List.map_id] at hlogged
    refine ⟨by rw [hscan, hlogged], .inr ⟨called, e, s', h, hlogged⟩, fun hself => ?_⟩
    -- a callback that gives back what it is called on never fails
    obtain ⟨_, token, _, _, t, -, -, -, hfails⟩ := h
    have hok := hself token t
    rw [hfails] at hok
    exact nomatch hok

end Callback

/-- The third call fails, and the fourth placeholder is not called on. A callback that counts its calls and
changes nothing leaves the template as it is. -/
theorem scan_calls_in_order_stopped :
    let third (token : String) (n : Nat) : Except String String × Nat :=
      if n = 2 then (.error token, n) else (.ok ("/* " ++ token), n + 1)
    let counting (token : String) (n : Nat) : Except String String × Nat := (.ok token, n + 1)
    let template := "%a% /* %b% */ %c%%d% %e%"
    scanWith (logged id third) template (0, []) = (.error "%d%", 2, ["%a%", "%c%", "%d%"]) ∧
      (∀ token n, (counting token n).1 = .ok token) ∧
      (scanWith counting template 0).1 = .ok template := by
  intro third counting template
  have hself : ∀ token n, (counting token n).1 = .ok token := fun _ _ => rfl
  have htokens : placeholders template = ["%a%", "%c%", "%d%", "%e%"] := by decide +kernel
  have hthird : third "%d%" 2 = (.error "%d%", 2) := rfl
  have hfails : FailsFirst third 0 (placeholders template) ["%a%", "%c%", "%d%"] "%d%" 2 := by
    rw [htokens]
    exact .of_tail rfl (.of_tail rfl (.of_head hthird _))
  exact ⟨scanWith_of_failsFirst (hfails.logged id []), hself,
    (scan_calls_in_order counting template 0).2.2 hself⟩

end PlaceholderScripts.Template
