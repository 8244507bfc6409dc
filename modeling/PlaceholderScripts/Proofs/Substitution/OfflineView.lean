import Mathlib
import PlaceholderScripts.Proofs.Substitution.OnePass

/-!
# Substitution for an offline view

A connected player is also known by the view that players have who may not be connected. Whatever is
substituted for that view is what is substituted for the player, but for the token that asks whether the
requester is connected. The table answers it from the kind of the requester and not from what the view
says, and so it answers "no".
-/

namespace PlaceholderScripts

namespace TokenForm

variable {form : TokenForm}

def Mentions (form : TokenForm) (key text : String) : Prop :=
  ∃ pieces, form.Reads text.toList pieces ∧ Piece.token key.toList ∈ pieces

/-- Where no part becomes shorter, the whole is the same only if every part is. -/
theorem flatMap_eq_iff_of_length_le {α β : Type} {f g : α → List β} {parts : List α}
    (h : ∀ part ∈ parts, (f part).length ≤ (g part).length) :
    parts.flatMap f = parts.flatMap g ↔ ∀ part ∈ parts, f part = g part := by
  induction parts with
  | nil => simp
  | cons part rest ih =>
    obtain ⟨hpart, hrest⟩ := List.forall_mem_cons.mp h
    rw [List.flatMap_cons, List.flatMap_cons, List.forall_mem_cons, ← ih hrest]
    constructor
    · intro heq
      have hlength := congrArg List.length heq
      have hbehind : (rest.flatMap f).length ≤ (rest.flatMap g).length := by
        rw [List.length_flatMap, List.length_flatMap]
        exact List.sum_le_sum hrest
      rw [List.length_append, List.length_append] at hlength
      apply List.append_inj heq
      omega
    · intro heq
      rw [heq.1, heq.2]

/-- Of a text with a token of the key, the values of the key can be told apart, if none is longer than the
one that it is compared with. -/
theorem fill_eq_iff {resolve resolve' : String → Option String} {key value value' : String}
    (hothers : ∀ other, other ≠ key → resolve' other = resolve other) (hvalue : resolve key = some value)
    (hvalue' : resolve' key = some value') (hlength : value'.toList.length < value.toList.length) (text : String) :
    form.fill resolve' text = form.fill resolve text ↔ ¬ form.Mentions key text := by
  obtain ⟨pieces, hpieces⟩ := form.exists_reads text.toList
  have hmentions : form.Mentions key text ↔ Piece.token key.toList ∈ pieces := by
    constructor
    · intro hmentioned
      obtain ⟨found, hfound, hmem⟩ := hmentioned
      rwa [hpieces.unique hfound] at hmem
    · intro hmem
      exact ⟨pieces, hpieces, hmem⟩
  have hsame : ∀ piece : Piece, piece ≠ .token key.toList →
      Piece.filled form resolve' piece = Piece.filled form resolve piece := by
    intro piece hpiece
    cases piece with
    | plain c => rfl
    | token other =>
      have hother : String.ofList other ≠ key := by
        rintro rfl
        simp at hpiece
      rw [Piece.filled, Piece.filled, hothers _ hother]
  have hlost : (Piece.filled form resolve' (.token key.toList)).length <
      (Piece.filled form resolve (.token key.toList)).length := by
    simpa [Piece.filled, hvalue, hvalue'] using hlength
  have hle : ∀ piece ∈ pieces,
      (Piece.filled form resolve' piece).length ≤ (Piece.filled form resolve piece).length := by
    intro piece _
    by_cases hpiece : piece = .token key.toList
    · rw [hpiece]
      exact hlost.le
    · rw [hsame piece hpiece]
  rw [fill, fill, hpieces.fillFrom_eq, hpieces.fillFrom_eq, hmentions, String.ofList_inj,
    flatMap_eq_iff_of_length_le hle]
  constructor
  · intro hfilled hmem
    rw [hfilled _ hmem] at hlost
    exact lt_irrefl _ hlost
  · intro hmem piece hpiece
    apply hsame
    rintro rfl
    exact hmem hpiece

end TokenForm

namespace Identity

variable {identity : Identity} {view : OfflinePlayer}

theorem name?_offline (hview : identity.offlineView? = some view) :
    (offline view).name? = identity.name? := by
  cases identity with
  | online player => cases hview; rfl
  | offline player => cases hview; rfl
  | anonymous => cases hview

theorem uniqueId?_offline (hview : identity.offlineView? = some view) :
    (offline view).uniqueId? = identity.uniqueId? := by
  cases identity with
  | online player => cases hview; rfl
  | offline player => cases hview; rfl
  | anonymous => cases hview

end Identity

namespace SubstitutionTable

variable {identity : Identity} {view : OfflinePlayer}

theorem resolve_offline (hview : identity.offlineView? = some view) (table : SubstitutionTable)
    (key : String) :
    table.resolve (.offline view) key =
      if key = "player_online" then some "no" else table.resolve identity key := by
  unfold resolve
  rw [Identity.name?_offline hview, Identity.uniqueId?_offline hview]
  by_cases honline : key = "player_online"
  · subst honline
    rfl
  · simp only [if_neg honline]

/-- The offline view stands for the requester, unless that is connected and asked whether it is. -/
theorem substitute_offline_eq_iff (hview : identity.offlineView? = some view) (table : SubstitutionTable)
    (form : TokenForm) (text : String) :
    table.substitute form (.offline view) text = table.substitute form identity text ↔
      identity.onlinePlayer? = none ∨ ¬ form.Mentions "player_online" text := by
  cases identity with
  | anonymous => cases hview
  | offline player =>
    cases hview
    simp [Identity.onlinePlayer?]
  | online player =>
    have hothers : ∀ key, key ≠ "player_online" →
        table.resolve (.offline view) key = table.resolve (.online player) key := by
      intro key hkey
      rw [resolve_offline hview, if_neg hkey]
    have hyes : table.resolve (.online player) "player_online" = some "yes" := rfl
    have hno : table.resolve (.offline view) "player_online" = some "no" := rfl
    have hfill : form.fill (table.resolve (.offline view)) text = form.fill (table.resolve (.online player)) text ↔
        ¬ form.Mentions "player_online" text :=
      TokenForm.fill_eq_iff hothers hyes hno (by decide) text
    simpa [substitute, Identity.onlinePlayer?] using hfill

end SubstitutionTable

end PlaceholderScripts
