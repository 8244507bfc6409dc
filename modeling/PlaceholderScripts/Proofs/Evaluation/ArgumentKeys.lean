import Mathlib.Data.List.Basic
import PlaceholderScripts.Proofs.Evaluation.Session

/-!
# What an argument key tells about a call

The key of a call joins its arguments by a separator that the arguments may hold themselves. So a key
tells the arguments only as far as they are cut at their own separators: two calls share a key exactly if
all their arguments, cut there, are the same pieces. As long as no argument holds the separator, the
only calls that share a key are the one without arguments and the one with a single empty argument. A
cached answer was computed for the pieces of the call that gets it.
-/

namespace PlaceholderScripts

/-- The arguments cut at every separator. No arguments stand for a single empty one. -/
def keyPieces : List String → List (List Char)
  | [] => [[]]
  | args => args.flatMap fun arg => arg.toList.splitOn '_'

def SeparatorFree (args : List String) : Prop := ∀ arg ∈ args, '_' ∉ arg.toList

/-- The same arguments, or none at all beside a single empty one. -/
def Alike (a b : List String) : Prop :=
  a = b ∨ (a = [] ∧ b = [""]) ∨ (a = [""] ∧ b = [])

theorem toList_argumentKey (args : List String) :
    (argumentKey args).toList = ['_'].intercalate (args.map String.toList) := by
  rw [argumentKey, String.toList_intercalate]
  rfl

theorem splitOn_argumentKey (args : List String) :
    (argumentKey args).toList.splitOn '_' = keyPieces args := by
  rw [toList_argumentKey]
  cases args with
  | nil => rfl
  | cons first rest =>
    change _ = (first :: rest).flatMap fun arg => arg.toList.splitOn '_'
    induction rest generalizing first with
    | nil => simp
    | cons second rest ih =>
      have hrest := ih second
      rw [List.map_cons] at hrest
      rw [List.map_cons, List.map_cons, List.intercalate_cons_cons, List.append_assoc,
        List.singleton_append, List.splitOn_append_cons_self, hrest]
      rfl

theorem argumentKey_eq_iff (a b : List String) :
    argumentKey a = argumentKey b ↔ keyPieces a = keyPieces b := by
  constructor
  · intro h
    rw [← splitOn_argumentKey, h, splitOn_argumentKey]
  · intro h
    rw [← splitOn_argumentKey, ← splitOn_argumentKey] at h
    have hjoined := congrArg (['_'].intercalate ·) h
    simp only [List.intercalate_splitOn] at hjoined
    exact String.toList_inj.mp hjoined

theorem SeparatorFree.keyPieces_eq {args : List String} (h : SeparatorFree args)
    (hne : args ≠ []) : keyPieces args = args.map String.toList := by
  have hsingle : ∀ arg ∈ args, arg.toList.splitOn '_' = [arg.toList] := by
    intro arg harg
    exact List.splitOn_eq_singleton (h arg harg)
  have hcut : keyPieces args = args.flatMap fun arg => arg.toList.splitOn '_' := by
    cases args with
    | nil => exact absurd rfl hne
    | cons first rest => rfl
  rw [hcut, List.flatMap_congr hsingle, ← List.map_eq_flatMap]

theorem SeparatorFree.eq_of_keyPieces {a b : List String} (ha : SeparatorFree a)
    (hb : SeparatorFree b) (hane : a ≠ []) (hbne : b ≠ []) (h : keyPieces a = keyPieces b) :
    a = b := by
  rw [ha.keyPieces_eq hane, hb.keyPieces_eq hbne] at h
  exact List.map_injective_iff.mpr (fun _ _ => String.toList_inj.mp) h

/-- The call without arguments has the key of the call with a single empty one. -/
theorem keyPieces_nil : keyPieces [] = keyPieces [""] := rfl

theorem separatorFree_empty : SeparatorFree [""] := by
  intro arg harg
  obtain rfl := List.mem_singleton.mp harg
  exact List.not_mem_nil

theorem Alike.symm {a b : List String} (h : Alike a b) : Alike b a := by
  rcases h with rfl | ⟨rfl, rfl⟩ | ⟨rfl, rfl⟩
  · exact .inl rfl
  · exact .inr (.inr ⟨rfl, rfl⟩)
  · exact .inr (.inl ⟨rfl, rfl⟩)

theorem Alike.eq {a b : List String} (h : Alike a b) (hb : 2 ≤ b.length) : a = b := by
  rcases h with h | ⟨_, rfl⟩ | ⟨_, rfl⟩
  · exact h
  · exact absurd hb (by decide)
  · exact absurd hb (by decide)

theorem alike_nil_of_keyPieces {b : List String} (hb : SeparatorFree b)
    (h : keyPieces [] = keyPieces b) : Alike [] b := by
  by_cases hbne : b = []
  · exact .inl hbne.symm
  · rw [keyPieces_nil] at h
    have hempty : [""] = b :=
      separatorFree_empty.eq_of_keyPieces hb (List.cons_ne_nil _ _) hbne h
    exact .inr (.inl ⟨rfl, hempty.symm⟩)

theorem SeparatorFree.alike {a b : List String} (ha : SeparatorFree a) (hb : SeparatorFree b)
    (h : argumentKey a = argumentKey b) : Alike a b := by
  rw [argumentKey_eq_iff] at h
  by_cases hane : a = []
  · subst hane
    exact alike_nil_of_keyPieces hb h
  · by_cases hbne : b = []
    · subst hbne
      exact (alike_nil_of_keyPieces ha h.symm).symm
    · exact .inl (ha.eq_of_keyPieces hb hane hbne h)

theorem separatorFree_of_not_mem_argumentKey {args : List String}
    (h : '_' ∉ (argumentKey args).toList) : SeparatorFree args := by
  rw [toList_argumentKey] at h
  induction args with
  | nil => exact fun arg harg => nomatch harg
  | cons first rest ih =>
    cases rest with
    | nil =>
      intro arg harg
      obtain rfl := List.mem_singleton.mp harg
      simpa using h
    | cons second rest =>
      rw [List.map_cons, List.map_cons, List.intercalate_cons_cons] at h
      exact absurd (by simp) h

/-- A vector is told from all others by its key exactly if the key holds no separator. -/
theorem alike_of_argumentKey_iff (a : List String) :
    (∀ b, argumentKey b = argumentKey a → Alike a b) ↔ '_' ∉ (argumentKey a).toList := by
  constructor
  · intro halike hmem
    -- the key can be read as one argument, and as two where a separator stands in it
    obtain ⟨before, after, hkey⟩ := List.append_of_mem hmem
    have hwhole : Alike a [argumentKey a] := halike _ String.intercalate_singleton
    have hcut : Alike a [String.ofList before, String.ofList after] := by
      refine halike _ (String.toList_inj.mp ?_)
      rw [hkey, toList_argumentKey]
      simp
    have htwo : a = [String.ofList before, String.ofList after] := hcut.eq (Nat.le_refl 2)
    rcases hwhole with h | ⟨_, h⟩ | ⟨_, h⟩
    · have hlength : 2 = 1 := congrArg List.length (htwo.symm.trans h)
      omega
    · rw [List.singleton_inj.mp h] at hmem
      exact absurd hmem List.not_mem_nil
    · exact nomatch h
  · intro hmem b hkey
    have hb : '_' ∉ (argumentKey b).toList := by rwa [hkey]
    exact (separatorFree_of_not_mem_argumentKey hmem).alike
      (separatorFree_of_not_mem_argumentKey hb) hkey.symm

/-- What leaves a result is a successful execution with that result. -/
theorem CallRecord.of_deposit?_eq_some {policy : CachePolicy} {r : CallRecord} {dep : Deposit}
    (h : r.deposit? policy = some dep) : r.executed = true ∧ r.result = .ok dep.value := by
  unfold CallRecord.deposit? at h
  split at h
  · next hexecuted hresult =>
    obtain rfl := Option.some.inj h
    exact ⟨hexecuted, hresult⟩
  · exact nomatch h

namespace Session

variable {σ : Type} {reply : σ → (q : Request) → q.Reply × σ} {time : σ → Instant} {x : Session σ}
  {c : Call}

/-- A cached answer is the result of an earlier execution for the same requester under the same key. -/
theorem Sound.exists_executed (hclock : ForwardClock reply time) (h : Sound time x)
    (hcached : ¬ x.executes reply c = true) :
    ∃ r ∈ x.past, r.executed = true ∧ (x.outcome reply c).1.1 = r.result ∧
      r.call.requester x.definition.policy = c.requester x.definition.policy ∧
      argumentKey r.call.args = argumentKey c.args := by
  obtain ⟨dep, hfound, hrecalled⟩ := h.recalled_of_not_executes hclock hcached
  have hanswers := List.find?_some hfound
  rw [Call.isAnsweredBy, Bool.and_eq_true, Deposit.isUnder, decide_eq_true_eq] at hanswers
  obtain ⟨⟨hrequester, hkey⟩, _⟩ := hanswers
  obtain ⟨r, hr, hdep⟩ := List.mem_filterMap.mp (List.mem_of_find?_eq_some hfound)
  obtain ⟨hexecuted, hresult⟩ := CallRecord.of_deposit?_eq_some hdep
  obtain ⟨hdepRequester, hdepKey, _⟩ := CallRecord.deposit?_eq_some hdep
  have houtcome := outcome_of_recalled (congrArg (·.1.1) hrecalled)
  refine ⟨r, hr, hexecuted, ?_, hdepRequester.symm.trans hrequester, hdepKey.symm.trans hkey⟩
  rw [houtcome, hresult]

/-- How far a key tells the arguments of calls. Two vectors share a key exactly if they are cut to the same
pieces; such vectors without separators are alike, and a vector is told from all others exactly if its key
holds no separator. After any calls, an answer from the cache is the result of an earlier execution for
the same requester and the same pieces, and hence, without separators, for the same arguments. -/
theorem cached_answers_have_pieces (hclock : ForwardClock reply time) (evaluator : Evaluator)
    (d : Definition) (s : σ) (hempty : d.cache.size = 0) (cs : List Call) (c : Call) :
    let x := (start evaluator d s).calls reply time cs
    (∀ a b, argumentKey a = argumentKey b ↔ keyPieces a = keyPieces b) ∧
    (∀ a b, SeparatorFree a → SeparatorFree b → argumentKey a = argumentKey b → Alike a b) ∧
    (∀ a, (∀ b, argumentKey b = argumentKey a → Alike a b) ↔ '_' ∉ (argumentKey a).toList) ∧
    (¬ x.executes reply c = true →
      ∃ r ∈ x.past, r.executed = true ∧ (x.outcome reply c).1.1 = r.result ∧
        r.call.requester d.policy = c.requester d.policy ∧
        keyPieces r.call.args = keyPieces c.args ∧
        (SeparatorFree r.call.args → SeparatorFree c.args → Alike r.call.args c.args)) := by
  intro x
  have hsound : Sound time x := (Sound.start hempty s).calls hclock cs
  have hpolicy : x.definition.policy = d.policy := policy_calls _ cs
  refine ⟨argumentKey_eq_iff, fun a b ha hb => ha.alike hb, alike_of_argumentKey_iff, ?_⟩
  intro hcached
  obtain ⟨r, hr, hexecuted, hresult, hrequester, hkey⟩ := hsound.exists_executed hclock hcached
  rw [hpolicy] at hrequester
  refine ⟨r, hr, hexecuted, hresult, hrequester, (argumentKey_eq_iff _ _).mp hkey, ?_⟩
  intro hr hc
  exact hr.alike hc hkey

def counting : Definition :=
  { Definition.ephemeral "counting" "args.len()" with cache := .new .static }

/-- The session of calls of that script, on an empty disk. -/
def countingSession (cs : List Call) : Session World :=
  (start (.new { library := ⟨[]⟩, rounds := 10 } {}) counting
    ⟨⟨[], []⟩, .zero, fun _ _ text => .ok text⟩).calls World.tickingReply World.clock cs

/-- An argument that holds the separator answers for the two arguments that it is cut to. -/
theorem separator_inside_argument :
    let one : Call := ⟨0, .anonymous, ["a_b"]⟩
    let two : Call := ⟨0, .anonymous, ["a", "b"]⟩
    let answer (past : List Call) (c : Call) : String :=
      Evaluator.answer ((countingSession past).outcome World.tickingReply c).1.1
    argumentKey one.args = argumentKey two.args ∧ ¬ Alike one.args two.args ∧
      answer [] two = "2" ∧ answer [one] two = "1" := by
  refine ⟨by decide, fun h => ?_, by decide +kernel, by decide +kernel⟩
  exact absurd (h.eq (Nat.le_refl 2)) (by decide)

/-- The call of two arguments that is answered from the cache gets the result of the one execution before
it, whose single argument is cut to the same pieces. -/
theorem cached_answers_have_pieces_across_separator :
    let one : Call := ⟨0, .anonymous, ["a_b"]⟩
    let two : Call := ⟨0, .anonymous, ["a", "b"]⟩
    ForwardClock World.tickingReply World.clock ∧ counting.cache.size = 0 ∧
      ∃ r ∈ (countingSession [one]).past,
        ((countingSession [one]).outcome World.tickingReply two).1.1 = r.result ∧
          keyPieces r.call.args = keyPieces two.args := by
  intro one two
  have hempty : counting.cache.size = 0 := rfl
  unfold countingSession
  have hlaw := cached_answers_have_pieces World.forwardClock_ticking
    (.new { library := ⟨[]⟩, rounds := 10 } {}) counting
    ⟨⟨[], []⟩, .zero, fun _ _ text => .ok text⟩ hempty [one] two
  obtain ⟨r, hr, _, hresult, _, hpieces, _⟩ := hlaw.2.2.2 (by decide +kernel)
  exact ⟨World.forwardClock_ticking, hempty, r, hr, hresult, hpieces⟩

end Session

end PlaceholderScripts
