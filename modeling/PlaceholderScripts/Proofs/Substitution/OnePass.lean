import PlaceholderScripts.Substitution

/-!
# Substitution in one pass

The grammar of texts with tokens, without the reader: which keys there are, and how a text is read from
left to right as tokens and characters with which no token begins. A text has exactly one such reading, and
substituting replaces the tokens in it and nothing else. Braces open and close differently, so no two tokens
in braces overlap, and the reading takes every one of them; of nested braces only the innermost pair is a
token. The keys that stand for the requester have the same value in all tables.
-/

namespace PlaceholderScripts

namespace TokenForm

def IsKey (form : TokenForm) (key : List Char) : Prop :=
  key ≠ [] ∧ ∀ c ∈ key, c ≠ form.opening ∧ c ≠ form.closing

inductive Piece where
  | token (key : List Char)
  | plain (c : Char)
  deriving DecidableEq

namespace Piece

/-- The characters of the piece. -/
def chars (form : TokenForm) : Piece → List Char
  | .token key => form.opening :: key ++ [form.closing]
  | .plain c => [c]

/-- What stands in the place of the piece after the substitution: the value of a token's key, as it is, or the
token itself where there is none. -/
def filled (form : TokenForm) (resolve : String → Option String) : Piece → List Char
  | .token key => (resolve (String.ofList key)).elim (chars form (.token key)) String.toList
  | .plain c => [c]

end Piece

/-- The reading of a text from left to right. Where a token begins, it is read and the reading goes on
behind it; any other character is read alone. -/
inductive Reads (form : TokenForm) : List Char → List Piece → Prop
  | nil : Reads form [] []
  | token {key after : List Char} {pieces : List Piece} :
      form.IsKey key → Reads form after pieces →
      Reads form (form.opening :: key ++ form.closing :: after) (.token key :: pieces)
  | plain {c : Char} {rest : List Char} {pieces : List Piece} :
      (∀ key after, form.IsKey key → c :: rest ≠ form.opening :: key ++ form.closing :: after) →
      Reads form rest pieces → Reads form (c :: rest) (.plain c :: pieces)

variable {form : TokenForm}

theorem isKey_iff {key : List Char} :
    form.IsKey key ↔ key ≠ [] ∧ ∀ c ∈ key, form.isKeyChar c = true := by
  simp [IsKey, isKeyChar]

theorem keyAt?_eq_some_iff_isKey {cs key : List Char} :
    form.keyAt? cs = some key ↔
      form.IsKey key ∧ ∃ after, cs = form.opening :: key ++ form.closing :: after := by
  rw [keyAt?_eq_some_iff, isKey_iff]
  constructor
  · rintro ⟨after, rfl, hne, hkey⟩
    exact ⟨⟨hne, hkey⟩, after, by simp [token]⟩
  · rintro ⟨⟨hne, hkey⟩, after, rfl⟩
    exact ⟨after, by simp [token], hne, hkey⟩

theorem IsKey.unique {key key' after after' : List Char} (hkey : form.IsKey key)
    (hkey' : form.IsKey key')
    (h : form.opening :: key ++ form.closing :: after =
      form.opening :: key' ++ form.closing :: after') : key = key' ∧ after = after' := by
  have hread := keyAt?_eq_some_iff_isKey.mpr ⟨hkey, after, rfl⟩
  have hread' := keyAt?_eq_some_iff_isKey.mpr ⟨hkey', after', rfl⟩
  rw [h, hread'] at hread
  obtain rfl := Option.some.inj hread
  exact ⟨rfl, (List.cons.inj (List.append_cancel_left h)).2⟩

theorem fillFrom_piece_token (resolve : String → Option String) {key : List Char} (hkey : form.IsKey key)
    (after : List Char) :
    form.fillFrom resolve 0 (form.opening :: key ++ form.closing :: after) =
      Piece.filled form resolve (.token key) ++ form.fillFrom resolve 0 after := by
  obtain ⟨hne, hchars⟩ := isKey_iff.mp hkey
  have htoken : form.opening :: key ++ form.closing :: after = form.token key ++ after := by
    simp [token]
  have hfilled : form.replacement resolve key = Piece.filled form resolve (.token key) := by
    rw [replacement, Piece.filled]
    cases resolve (String.ofList key) <;> rfl
  rw [htoken, fillFrom_token resolve hne hchars, hfilled]

namespace Reads

variable {text : List Char} {pieces : List Piece}

theorem flatMap_chars (h : form.Reads text pieces) : pieces.flatMap (Piece.chars form) = text := by
  induction h with
  | nil => rfl
  | token hkey _ ih => simp [Piece.chars, ih]
  | plain hnone _ ih => simp [Piece.chars, ih]

theorem unique {pieces' : List Piece} (h : form.Reads text pieces) (h' : form.Reads text pieces') :
    pieces' = pieces := by
  induction h generalizing pieces' with
  | nil => cases h'; rfl
  | @token key after pieces hkey _ ih =>
    generalize htext : form.opening :: key ++ form.closing :: after = text at h'
    cases h' with
    | nil => exact nomatch htext
    | token hkey' hafter =>
      obtain ⟨rfl, rfl⟩ := hkey.unique hkey' htext
      rw [ih hafter]
    | plain hnone _ => exact absurd htext.symm (hnone key after hkey)
  | @plain c rest pieces hnone _ ih =>
    generalize htext : c :: rest = text at h'
    cases h' with
    | nil => exact nomatch htext
    | token hkey' _ => exact absurd htext (hnone _ _ hkey')
    | plain _ hrest =>
      obtain ⟨rfl, rfl⟩ := List.cons.inj htext
      rw [ih hrest]

theorem fillFrom_eq (h : form.Reads text pieces) (resolve : String → Option String) :
    form.fillFrom resolve 0 text = pieces.flatMap (Piece.filled form resolve) := by
  induction h with
  | nil => rfl
  | token hkey _ ih => rw [fillFrom_piece_token resolve hkey, ih, List.flatMap_cons]
  | @plain c rest pieces hnone _ ih =>
    have hread : form.keyAt? (c :: rest) = none := by
      rw [Option.eq_none_iff_forall_ne_some]
      intro key hread
      obtain ⟨hkey, after, htext⟩ := keyAt?_eq_some_iff_isKey.mp hread
      exact hnone key after hkey htext
    rw [fillFrom_cons resolve hread, ih]
    rfl

end Reads

theorem exists_reads (form : TokenForm) (text : List Char) : ∃ pieces, form.Reads text pieces := by
  -- on the length of the text, because a token takes many characters away at once
  induction hlength : text.length using Nat.strongRecOn generalizing text with
  | ind n ih =>
    cases text with
    | nil => exact ⟨[], .nil⟩
    | cons c rest =>
      cases hread : form.keyAt? (c :: rest) with
      | some key =>
        obtain ⟨hkey, after, htext⟩ := keyAt?_eq_some_iff_isKey.mp hread
        have hshorter : after.length < n := by
          rw [← hlength, htext, List.length_append, List.length_cons, List.length_cons]
          omega
        obtain ⟨pieces, hpieces⟩ := ih _ hshorter after rfl
        exact ⟨.token key :: pieces, htext ▸ .token hkey hpieces⟩
      | none =>
        obtain ⟨pieces, hpieces⟩ := ih rest.length (by simp [← hlength]) rest rfl
        refine ⟨.plain c :: pieces, .plain (fun key after hkey htext => ?_) hpieces⟩
        rw [keyAt?_eq_some_iff_isKey.mpr ⟨hkey, after, htext⟩] at hread
        exact nomatch hread

/-- Where a token in braces begins, a token that began before it has ended. -/
theorem bracket_disjoint {key key' after after' before : List Char} (hkey : bracket.IsKey key)
    (h : bracket.opening :: key ++ bracket.closing :: after =
      before ++ (bracket.opening :: key' ++ bracket.closing :: after')) :
    before = [] ∨ ∃ between, before = bracket.opening :: key ++ bracket.closing :: between := by
  rcases before with _ | ⟨c, before⟩
  · exact .inl rfl
  · right
    obtain ⟨rfl, hrest⟩ := List.cons.inj h
    rcases List.append_eq_append_iff.mp hrest with ⟨between, hbefore, hclosing⟩ | ⟨inside, hinside, htoken⟩
    · cases between with
      | nil => exact absurd (List.cons.inj hclosing).1 (by decide)
      | cons d between =>
        obtain ⟨rfl, -⟩ := List.cons.inj hclosing
        exact ⟨between, congrArg (bracket.opening :: ·) hbefore⟩
    · -- otherwise the second token would begin with a character of the first key
      cases inside with
      | nil => exact absurd (List.cons.inj htoken).1 (by decide)
      | cons d inside =>
        obtain ⟨hd, -⟩ := List.cons.inj htoken
        have hmem : d ∈ key := by rw [hinside]; simp
        exact absurd hd.symm (hkey.2 d hmem).1

/-- Every token in braces is read, whatever stands before it and behind it. -/
theorem Reads.takes_bracket {text : List Char} {pieces : List Piece} (h : bracket.Reads text pieces)
    {before key after : List Char} (hkey : bracket.IsKey key)
    (htext : text = before ++ (bracket.opening :: key ++ bracket.closing :: after)) :
    ∃ left right, pieces = left ++ .token key :: right ∧ bracket.Reads before left ∧
      bracket.Reads after right := by
  induction h generalizing before with
  | nil => simp at htext
  | @token key' rest pieces hkey' hrest ih =>
    rcases bracket_disjoint hkey' htext with rfl | ⟨between, rfl⟩
    · obtain ⟨rfl, rfl⟩ := hkey'.unique hkey htext
      exact ⟨[], pieces, rfl, .nil, hrest⟩
    · have hbetween : rest = between ++ (bracket.opening :: key ++ bracket.closing :: after) := by
        simpa using htext
      obtain ⟨left, right, rfl, hleft, hright⟩ := ih hbetween
      exact ⟨.token key' :: left, right, rfl, .token hkey' hleft, hright⟩
  | @plain c rest pieces hnone _ ih =>
    rcases before with _ | ⟨d, before⟩
    · exact absurd htext (hnone key after hkey)
    · obtain ⟨rfl, hbefore⟩ := List.cons.inj htext
      obtain ⟨left, right, rfl, hleft, hright⟩ := ih hbefore
      refine ⟨.plain c :: left, right, rfl, .plain (fun key' between hkey' hbegins => ?_) hleft, hright⟩
      refine hnone key' (between ++ (bracket.opening :: key ++ bracket.closing :: after)) hkey' ?_
      rw [htext, hbegins]
      simp

end TokenForm

namespace SubstitutionTable

def reservedKeys : List String := ["player_name", "player_uuid", "player_online"]

theorem resolve_of_reserved {key : String} (h : key ∈ reservedKeys) (table other : SubstitutionTable)
    (identity : Identity) : other.resolve identity key = table.resolve identity key := by
  simp only [reservedKeys, List.mem_cons, List.not_mem_nil, or_false] at h
  rcases h with rfl | rfl | rfl <;> rfl

/-- A table counts only for the keys that do not stand for the requester. -/
theorem resolve_congr {table other : SubstitutionTable}
    (h : ∀ key, key ∉ reservedKeys → Dict.get? other key = Dict.get? table key) (identity : Identity) :
    other.resolve identity = table.resolve identity := by
  funext key
  by_cases hkey : key ∈ reservedKeys
  · exact resolve_of_reserved hkey table other identity
  · simp only [resolve, h key hkey]

/-- The table substitutes in one pass and never fails. A text has exactly one reading as tokens and single
characters; each token becomes the value of its key for the requester, as it is, or stays, and every other
character is kept. In braces every token is read, wherever it stands, and what is before it and behind it is
read as if it stood alone. Tables that differ only in the keys for the requester substitute alike. -/
theorem substitute_in_one_pass (table : SubstitutionTable) (identity : Identity) (text : String) :
    (∀ form, table.service form identity text = .ok (table.substitute form identity text)) ∧
    (∀ form, ∃ pieces, (∀ found, form.Reads text.toList found ↔ found = pieces) ∧
      pieces.flatMap (TokenForm.Piece.chars form) = text.toList ∧
      table.substitute form identity text =
        String.ofList (pieces.flatMap (TokenForm.Piece.filled form (table.resolve identity)))) ∧
    (∀ before key after, TokenForm.bracket.IsKey key →
      text.toList = before ++ ('\x7b' :: key ++ '\x7d' :: after) →
      ∃ left right, TokenForm.bracket.Reads before left ∧ TokenForm.bracket.Reads after right ∧
        TokenForm.bracket.Reads text.toList (left ++ .token key :: right)) ∧
    (∀ other : SubstitutionTable,
      (∀ key ∈ reservedKeys, other.resolve identity key = table.resolve identity key) ∧
      ((∀ key, key ∉ reservedKeys → Dict.get? other key = Dict.get? table key) →
        ∀ form, other.substitute form identity text = table.substitute form identity text)) := by
  refine ⟨fun _ => rfl, ?reading, ?braces, ?reserved⟩
  case reading =>
    intro form
    obtain ⟨pieces, hpieces⟩ := form.exists_reads text.toList
    refine ⟨pieces, fun found => ⟨fun h => hpieces.unique h, ?_⟩, hpieces.flatMap_chars, ?_⟩
    · rintro rfl
      exact hpieces
    · exact congrArg String.ofList (hpieces.fillFrom_eq _)
  case braces =>
    intro before key after hkey htext
    obtain ⟨pieces, hpieces⟩ := TokenForm.bracket.exists_reads text.toList
    obtain ⟨left, right, rfl, hleft, hright⟩ := hpieces.takes_bracket hkey htext
    exact ⟨left, right, hleft, hright, hpieces⟩
  case reserved =>
    intro other
    refine ⟨fun key hkey => resolve_of_reserved hkey table other identity, fun h form => ?_⟩
    rw [substitute, substitute, resolve_congr h]

/-- Of nested braces the innermost pair is a token, and nobody in particular has no name, whatever the table
has under that key. -/
theorem substitute_in_one_pass_nested :
    let table : SubstitutionTable := .ofList [("b", "{a} $1 %a%")]
    let other : SubstitutionTable := .ofList [("b", "{a} $1 %a%"), ("player_name", "Eve")]
    TokenForm.bracket.IsKey "b".toList ∧
      (∀ key, key ∉ reservedKeys → Dict.get? other key = Dict.get? table key) ∧
      (∃ left right, TokenForm.bracket.Reads "\x7bplayer_name\x7d\x7ba".toList left ∧
        TokenForm.bracket.Reads "c\x7d".toList right ∧
        TokenForm.bracket.Reads "{player_name}{a{b}c}".toList (left ++ .token "b".toList :: right)) ∧
      other.substitute .bracket .anonymous "{player_name}{a{b}c}" =
        "{player_name}{a{a} $1 %a%c}" := by
  intro table other
  have hkey : TokenForm.bracket.IsKey "b".toList := by
    have hletter : 'b' ≠ TokenForm.bracket.opening ∧ 'b' ≠ TokenForm.bracket.closing := by decide
    simpa [TokenForm.IsKey] using hletter
  have hother : ∀ key, key ∉ reservedKeys → Dict.get? other key = Dict.get? table key := by
    intro key hfree
    have hname : "player_name" ≠ key := by
      rintro rfl
      exact hfree (by decide)
    have hinsert : other = Dict.insert table "player_name" "Eve" := rfl
    rw [hinsert, Dict.get?_insert, if_neg hname.symm]
  obtain ⟨-, -, hbraces, hreserved⟩ :=
    substitute_in_one_pass table .anonymous "{player_name}{a{b}c}"
  refine ⟨hkey, hother, hbraces _ _ _ hkey (by decide), ?_⟩
  rw [(hreserved other).2 hother]
  decide +kernel

end SubstitutionTable

end PlaceholderScripts
