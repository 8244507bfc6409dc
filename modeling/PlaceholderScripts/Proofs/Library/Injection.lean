import Mathlib.Data.List.Forall2
import PlaceholderScripts.Pool

/-!
# A library is injected once

Calls for a factory follow each other in any surroundings, which may change between the calls and during them.
As long as no library is injected a call comes to what loading its own source comes to, and a source that is
refused leaves no trace. The first library that is accepted stays: all later calls come to a factory on it and ask
their surroundings for nothing, wherever they would read a library from.
-/

namespace PlaceholderScripts.Factory

structure Call (σ : Type) where
  source : LibrarySource
  surroundings : σ

structure Call.Outcome where
  answer : Except LibraryError Factory
  injected : Option Library
  asked : List Request

namespace Call

variable {σ : Type} (reply : σ → (q : Request) → q.Reply × σ) (rounds : Nat)

def loaded (c : Call σ) : Except LibraryError Library :=
  (Dialogue.run reply (Library.load c.source) c.surroundings).1

def outcome (injected : Option Library) (c : Call σ) : Outcome :=
  let program := acquire rounds injected c.source
  ⟨(program.run reply c.surroundings).1.1, (program.run reply c.surroundings).1.2,
    program.asked reply c.surroundings⟩

/-- The outcomes of calls that follow each other. -/
def outcomes : Option Library → List (Call σ) → List Outcome
  | _, [] => []
  | injected, c :: rest =>
    let first := c.outcome reply rounds injected
    first :: outcomes first.injected rest

def Refused (c : Call σ) (o : Outcome) : Prop :=
  ∃ e, c.loaded reply = .error e ∧ o.answer = .error e ∧ o.injected = none

def Accepted (library : Library) (c : Call σ) (o : Outcome) : Prop :=
  c.loaded reply = .ok library ∧ o.answer = .ok { library, rounds } ∧ o.injected = some library

/-- The library that was injected before is still injected, the answer is on it, and nothing was asked for. -/
def Reused (library : Library) (o : Outcome) : Prop :=
  o.answer = .ok { library, rounds } ∧ o.injected = some library ∧ o.asked = []

variable {reply rounds} {c : Call σ}

/-- A call that finds no library is refused or accepted as its source is. -/
theorem outcome_none :
    Refused reply c (c.outcome reply rounds none) ∨
      ∃ library, Accepted reply rounds library c (c.outcome reply rounds none) := by
  have hrun : Dialogue.run reply (acquire rounds none c.source) c.surroundings =
      (((c.loaded reply).map fun library => { library, rounds }, (c.loaded reply).toOption),
        (Dialogue.run reply (Library.load c.source) c.surroundings).2) := by
    rw [acquire, Library.inject, Dialogue.bind_eq, Dialogue.run_bind, Dialogue.bind_eq, Dialogue.run_bind, loaded]
    cases (Dialogue.run reply (Library.load c.source) c.surroundings).1 <;> rfl
  cases hloaded : c.loaded reply with
  | error e =>
    refine .inl ⟨e, hloaded, ?_, ?_⟩
    · rw [outcome, hrun, hloaded]
      rfl
    · rw [outcome, hrun, hloaded]
      rfl
  | ok library =>
    refine .inr ⟨library, hloaded, ?_, ?_⟩
    · rw [outcome, hrun, hloaded]
      rfl
    · rw [outcome, hrun, hloaded]
      rfl

theorem outcome_some (library : Library) : Reused rounds library (c.outcome reply rounds (some library)) :=
  ⟨rfl, rfl, rfl⟩

theorem outcomes_some (library : Library) (calls : List (Call σ)) :
    List.Forall₂ (fun _ => Reused rounds library) calls (outcomes reply rounds (some library) calls) := by
  induction calls with
  | nil => exact .nil
  | cons c rest ih => exact .cons (outcome_some library) ih

variable (reply rounds)

/-- A library is injected once. Either every source is refused, each call with the error of its own source; or
there is a call whose source is the first to be accepted: the calls before it are refused with the errors of their
own sources and leave nothing behind, and those after it use its library without reading any source again. -/
theorem library_is_injected_once (calls : List (Call σ)) :
    List.Forall₂ (Refused reply) calls (outcomes reply rounds none calls) ∨
    ∃ before first after refused accepted reused library,
      calls = before ++ first :: after ∧
      outcomes reply rounds none calls = refused ++ accepted :: reused ∧
      List.Forall₂ (Refused reply) before refused ∧
      Accepted reply rounds library first accepted ∧
      List.Forall₂ (fun _ => Reused rounds library) after reused := by
  induction calls with
  | nil => exact .inl .nil
  | cons c rest ih =>
    rcases @outcome_none σ reply rounds c with hrefused | ⟨library, haccepted⟩
    · have hnone : (c.outcome reply rounds none).injected = none := by
        obtain ⟨e, -, -, hnone⟩ := hrefused
        exact hnone
      rw [outcomes, hnone]
      -- the rest goes on as if the call had not been
      rcases ih with hall | ⟨before, first, after, refused, accepted, reused, library, rfl, houtcomes, hbefore, hrest⟩
      · exact .inl (.cons hrefused hall)
      · refine .inr ⟨c :: before, first, after, c.outcome reply rounds none :: refused, accepted, reused, library, rfl,
          ?_, ?_, hrest⟩
        · rw [houtcomes, List.cons_append]
        · exact .cons hrefused hbefore
    · have hsome := haccepted.2.2
      rw [outcomes, hsome]
      exact .inr ⟨[], c, rest, [], _, _, library, rfl, rfl, .nil, haccepted, outcomes_some library rest⟩

end Call

end PlaceholderScripts.Factory
