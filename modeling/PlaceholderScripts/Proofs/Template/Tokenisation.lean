import PlaceholderScripts.Template

/-!
# The tokenisation of a template

The grammar of templates without the reader: which comments and placeholders a text begins with, and
what it means that segments split a template at the leftmost of them. Every template has exactly one
such splitting, and the segments that are read are that one.
-/

namespace PlaceholderScripts.Template

/-- The forms of a token at the beginning of a text. What follows the token is part of the form, since
it tells where a comment ends. -/
inductive TokenAt : List Char → Segment → Prop where
  /-- A line comment goes up to the next newline or to the end of the text. -/
  | lineComment (body after : List Char) :
      '\n' ∉ body → (after = [] ∨ after.head? = some '\n') →
      TokenAt ('/' :: '/' :: body ++ after) (.comment ('/' :: '/' :: body))
  /-- A block comment ends with the first end mark of which no character belongs to the opening. -/
  | blockComment (body after : List Char) :
      ¬ ['*', '/'] <:+: body ++ ['*'] →
      TokenAt ('/' :: '*' :: body ++ '*' :: '/' :: after) (.comment ('/' :: '*' :: body ++ ['*', '/']))
  /-- A placeholder holds at least one character between its delimiters. -/
  | placeholder (key after : List Char) :
      key ≠ [] → '%' ∉ key →
      TokenAt ('%' :: key ++ '%' :: after) (.placeholder ('%' :: key ++ ['%']))

/-- A splitting of a template at the leftmost tokens. -/
structure Tokenises (template : List Char) (segments : List Segment) : Prop where
  reassembles : segments.flatMap Segment.chars = template
  nonempty : ∀ s ∈ segments, s.chars ≠ []
  /-- A comment or placeholder is the token at its place. -/
  tokens : ∀ before s after, segments = before ++ s :: after → (∀ cs, s ≠ .text cs) →
    TokenAt (s.chars ++ after.flatMap Segment.chars) s
  /-- No two pieces of plain text are next to each other. -/
  separated : ∀ before cs ds after, segments ≠ before ++ .text cs :: .text ds :: after
  /-- No token begins inside of plain text. -/
  plain : ∀ before cs after, segments = before ++ .text cs :: after →
    ∀ read rest, cs = read ++ rest → rest ≠ [] →
      ∀ token, ¬ TokenAt (rest ++ after.flatMap Segment.chars) token

theorem blockBody?_cons_cons {c d : Char} (rest : List Char) (h : ¬ (c = '*' ∧ d = '/')) :
    blockBody? (c :: d :: rest) = (blockBody? (d :: rest)).map (c :: ·) := by
  rw [blockBody?]
  exact fun hc hd => h ⟨hc, hd⟩

/-- An end mark that begins with the first of two characters or else one behind it. -/
theorem endMark_infix_cons {c : Char} {cs : List Char} :
    ['*', '/'] <:+: c :: cs ↔ (c = '*' ∧ cs.head? = some '/') ∨ ['*', '/'] <:+: cs := by
  rw [List.infix_cons_iff, List.cons_prefix_cons]
  have hhead : ['/'] <+: cs ↔ cs.head? = some '/' := by
    cases cs with
    | nil => simp
    | cons d cs => simp only [List.cons_prefix_cons, List.nil_prefix, and_true, List.head?_cons,
        Option.some.injEq, eq_comm]
  rw [hhead, eq_comm]

theorem head?_append_star (body after : List Char) :
    (body ++ '*' :: after).head? = (body ++ ['*']).head? := by
  cases body <;> rfl

theorem blockBody?_eq_some_iff {cs found : List Char} :
    blockBody? cs = some found ↔
      ∃ body after, cs = body ++ '*' :: '/' :: after ∧ found = body ++ ['*', '/'] ∧
        ¬ ['*', '/'] <:+: body ++ ['*'] := by
  constructor
  · intro h
    fun_induction blockBody? cs generalizing found with
    | case1 => cases h
    | case2 => cases h
    | case3 after => exact ⟨[], after, rfl, (Option.some.inj h).symm, by decide⟩
    | case4 c d rest hmark ih =>
      obtain ⟨found, hread, rfl⟩ := Option.map_eq_some_iff.mp h
      obtain ⟨body, after, hcs, rfl, hfirst⟩ := ih hread
      refine ⟨c :: body, after, by rw [hcs]; rfl, rfl, ?_⟩
      rw [List.cons_append, endMark_infix_cons]
      rintro (⟨hc, hd⟩ | hinfix)
      · have hhead : (d :: rest).head? = some '/' := by
          rw [hcs, head?_append_star, hd]
        exact hmark hc (Option.some.inj hhead)
      · exact hfirst hinfix
  · rintro ⟨body, after, rfl, rfl, hfirst⟩
    induction body with
    | nil => rfl
    | cons c body ih =>
      rw [List.cons_append, endMark_infix_cons, not_or] at hfirst
      obtain ⟨hmark, hfirst⟩ := hfirst
      cases hrest : body ++ '*' :: '/' :: after with
      | nil => simp at hrest
      | cons d rest =>
        have hd : ¬ (c = '*' ∧ d = '/') := by
          rintro ⟨hc, hd⟩
          refine hmark ⟨hc, ?_⟩
          rw [← head?_append_star body ('/' :: after), hrest, hd]
          rfl
        rw [List.cons_append, hrest, blockBody?_cons_cons rest hd, ← hrest, ih hfirst]
        rfl

theorem takeWhile_line_eq_iff {rest body : List Char} :
    rest.takeWhile (· ≠ '\n') = body ↔
      ∃ after, rest = body ++ after ∧ '\n' ∉ body ∧ (after = [] ∨ after.head? = some '\n') := by
  constructor
  · rintro rfl
    refine ⟨rest.dropWhile (· ≠ '\n'), List.takeWhile_append_dropWhile.symm, fun h => ?_, ?_⟩
    · simpa using List.all_eq_true.mp List.all_takeWhile _ h
    · cases h : rest.dropWhile (· ≠ '\n') with
      | nil => exact .inl rfl
      | cons c after =>
        have hc := List.head?_dropWhile_not (fun c => decide (c ≠ '\n')) rest
        rw [h] at hc
        exact .inr (by simpa using hc)
  · rintro ⟨after, rfl, hbody, hafter⟩
    have hline : ∀ c ∈ body, decide (c ≠ '\n') = true := by
      intro c hc
      exact decide_eq_true fun e => hbody (e ▸ hc)
    rw [List.takeWhile_append_of_pos hline]
    rcases hafter with rfl | hafter
    · simp
    · cases after with
      | nil => simp at hafter
      | cons c after => simp [Option.some.inj hafter]

theorem percent_key_iff {key : List Char} :
    (∀ c ∈ key, TokenForm.percent.isKeyChar c = true) ↔ '%' ∉ key := by
  have hchar : ∀ c, TokenForm.percent.isKeyChar c = true ↔ c ≠ '%' := by
    intro c
    rw [TokenForm.isKeyChar, Bool.and_eq_true, decide_eq_true_eq, decide_eq_true_eq]
    exact and_self_iff
  simp only [hchar]
  exact ⟨fun h hmem => h '%' hmem rfl, fun h c hc e => h (e ▸ hc)⟩

theorem tokenAt?_percent (cs : List Char) :
    tokenAt? ('%' :: cs) = (TokenForm.percent.keyAt? ('%' :: cs)).map fun key =>
      .placeholder (TokenForm.percent.token key) := by
  rw [tokenAt?]
  · exact fun rest h => absurd (List.cons.inj h).1 (by decide)
  · exact fun rest h => absurd (List.cons.inj h).1 (by decide)

/-- The token that is read at the beginning of a text is the one that stands there. -/
theorem tokenAt?_eq_some_iff {cs : List Char} {token : Segment} :
    tokenAt? cs = some token ↔ TokenAt cs token := by
  constructor
  · intro h
    unfold tokenAt? at h
    split at h
    · next rest =>
      obtain rfl := Option.some.inj h
      obtain ⟨after, hrest, hbody, hafter⟩ := takeWhile_line_eq_iff.mp (rfl : rest.takeWhile _ = _)
      have htoken := TokenAt.lineComment _ after hbody hafter
      simp only [List.cons_append] at htoken
      rwa [← hrest] at htoken
    · next rest =>
      obtain ⟨found, hread, rfl⟩ := Option.map_eq_some_iff.mp h
      obtain ⟨body, after, rfl, rfl, hfirst⟩ := blockBody?_eq_some_iff.mp hread
      exact .blockComment body after hfirst
    · obtain ⟨key, hread, rfl⟩ := Option.map_eq_some_iff.mp h
      obtain ⟨after, rfl, hne, hkey⟩ := TokenForm.keyAt?_eq_some_iff.mp hread
      have htoken := TokenAt.placeholder key after hne (percent_key_iff.mp hkey)
      simpa [TokenForm.token, TokenForm.opening, TokenForm.closing] using htoken
  · rintro (⟨body, after, hbody, hafter⟩ | ⟨body, after, hfirst⟩ | ⟨key, after, hne, hkey⟩)
    · have hline := takeWhile_line_eq_iff.mpr ⟨after, rfl, hbody, hafter⟩
      simp only [List.cons_append, tokenAt?, hline]
    · have hread := blockBody?_eq_some_iff.mpr ⟨body, after, rfl, rfl, hfirst⟩
      simp only [List.cons_append, tokenAt?, hread, Option.map_some]
    · have hread : TokenForm.percent.keyAt? ('%' :: key ++ '%' :: after) = some key :=
        TokenForm.keyAt?_eq_some_iff.mpr
          ⟨after, by simp [TokenForm.token, TokenForm.opening, TokenForm.closing], hne,
            percent_key_iff.mpr hkey⟩
      rw [List.cons_append, tokenAt?_percent, ← List.cons_append, hread]
      rfl

theorem tokenAt?_eq_none_iff {cs : List Char} : tokenAt? cs = none ↔ ∀ token, ¬ TokenAt cs token := by
  simp only [← tokenAt?_eq_some_iff, Option.eq_none_iff_forall_ne_some, ne_eq]

theorem TokenAt.not_text {cs ds : List Char} : ¬ TokenAt cs (.text ds) := nofun

theorem TokenAt.chars_ne_nil {cs : List Char} {token : Segment} (h : TokenAt cs token) :
    token.chars ≠ [] := by
  cases h <;> exact List.cons_ne_nil _ _

theorem TokenAt.exists_eq_append {cs : List Char} {token : Segment} (h : TokenAt cs token) :
    ∃ after, cs = token.chars ++ after := by
  cases h with
  | lineComment body after => exact ⟨after, rfl⟩
  | blockComment body after => exact ⟨after, by simp [Segment.chars]⟩
  | placeholder key after => exact ⟨after, by simp [Segment.chars]⟩

theorem segmentsFrom_drop (skip : Nat) (cs : List Char) :
    segmentsFrom skip cs = segmentsFrom 0 (cs.drop skip) := by
  induction skip generalizing cs with
  | zero => rfl
  | succ skip ih =>
    cases cs with
    | nil => rfl
    | cons c rest =>
      rw [segmentsFrom, List.drop_succ_cons]
      exact ih rest

theorem segmentsFrom_token {token : Segment} {after : List Char}
    (h : TokenAt (token.chars ++ after) token) :
    segmentsFrom 0 (token.chars ++ after) = token :: segmentsFrom 0 after := by
  obtain ⟨c, cs, hchars⟩ := List.exists_cons_of_ne_nil h.chars_ne_nil
  have hread := tokenAt?_eq_some_iff.mpr h
  rw [hchars, List.cons_append] at hread ⊢
  simp only [segmentsFrom, hread]
  rw [segmentsFrom_drop, hchars, List.length_cons, Nat.add_sub_cancel, List.drop_left]

theorem segmentsFrom_text {c : Char} {rest : List Char} (h : ∀ token, ¬ TokenAt (c :: rest) token) :
    segmentsFrom 0 (c :: rest) = consText c (segmentsFrom 0 rest) := by
  simp only [segmentsFrom, tokenAt?_eq_none_iff.mpr h]

/-- A text is read token by token and, where no token begins, character by character. -/
theorem reading_induction {motive : List Char → List Segment → Prop} (nil : motive [] [])
    (token : ∀ token after, TokenAt (token.chars ++ after) token →
      motive after (segmentsFrom 0 after) → motive (token.chars ++ after) (token :: segmentsFrom 0 after))
    (text : ∀ c rest, (∀ token, ¬ TokenAt (c :: rest) token) →
      motive rest (segmentsFrom 0 rest) → motive (c :: rest) (consText c (segmentsFrom 0 rest)))
    (cs : List Char) : motive cs (segmentsFrom 0 cs) := by
  -- on the length of the text, because a token takes many characters away at once
  induction h : cs.length using Nat.strongRecOn generalizing cs with
  | ind n ih =>
    cases cs with
    | nil => exact nil
    | cons c rest =>
      by_cases hnone : ∀ token, ¬ TokenAt (c :: rest) token
      · rw [segmentsFrom_text hnone]
        exact text c rest hnone (ih rest.length (by simp [← h]) rest rfl)
      · obtain ⟨found, hfound⟩ := Classical.not_forall_not.mp hnone
        obtain ⟨after, hsplit⟩ := hfound.exists_eq_append
        have hlt : after.length < n := by
          have hlen := congrArg List.length hsplit
          have hpos := List.length_pos_iff.mpr hfound.chars_ne_nil
          rw [List.length_append] at hlen
          omega
        rw [hsplit] at hfound ⊢
        rw [segmentsFrom_token hfound]
        exact token found after hfound (ih after.length hlt after rfl)

namespace Tokenises

variable {template : List Char} {segments : List Segment}

theorem nil : Tokenises [] [] where
  reassembles := rfl
  nonempty := by simp
  tokens := by simp
  separated := by simp
  plain := by simp

theorem consToken {token : Segment} (htoken : TokenAt (token.chars ++ template) token)
    (h : Tokenises template segments) : Tokenises (token.chars ++ template) (token :: segments) where
  reassembles := by rw [List.flatMap_cons, h.reassembles]
  nonempty := List.forall_mem_cons.mpr ⟨htoken.chars_ne_nil, h.nonempty⟩
  tokens := by
    intro before s after hsplit hs
    cases before with
    | nil =>
      obtain ⟨rfl, rfl⟩ := List.cons.inj hsplit
      rwa [h.reassembles]
    | cons b before => exact h.tokens before s after (List.cons.inj hsplit).2 hs
  separated := by
    intro before cs ds after hsplit
    cases before with
    | nil => exact TokenAt.not_text ((List.cons.inj hsplit).1 ▸ htoken)
    | cons b before => exact h.separated before cs ds after (List.cons.inj hsplit).2
  plain := by
    intro before cs after hsplit
    cases before with
    | nil => exact (TokenAt.not_text ((List.cons.inj hsplit).1 ▸ htoken)).elim
    | cons b before => exact h.plain before cs after (List.cons.inj hsplit).2

theorem growText {c : Char} {cs : List Char} {after : List Segment}
    (hnone : ∀ token, ¬ TokenAt (c :: template) token)
    (h : Tokenises template (.text cs :: after)) :
    Tokenises (c :: template) (.text (c :: cs) :: after) where
  reassembles := by rw [← h.reassembles]; rfl
  nonempty := List.forall_mem_cons.mpr
    ⟨List.cons_ne_nil _ _, fun s hs => h.nonempty s (List.mem_cons_of_mem _ hs)⟩
  tokens := by
    intro before s rest hsplit hs
    cases before with
    | nil => exact (hs _ (List.cons.inj hsplit).1.symm).elim
    | cons b before =>
      exact h.tokens (.text cs :: before) s rest (by rw [(List.cons.inj hsplit).2]; rfl) hs
  separated := by
    intro before ds es rest hsplit
    cases before with
    | nil => exact h.separated [] cs es rest (by rw [(List.cons.inj hsplit).2]; rfl)
    | cons b before =>
      exact h.separated (.text cs :: before) ds es rest (by rw [(List.cons.inj hsplit).2]; rfl)
  plain := by
    intro before ds rest hsplit read left hread hleft
    cases before with
    | nil =>
      obtain ⟨htext, rfl⟩ := List.cons.inj hsplit
      obtain rfl := Segment.text.inj htext
      cases read with
      | nil =>
        have hall : left ++ after.flatMap Segment.chars = c :: template := by
          rw [← h.reassembles, show left = c :: cs from hread.symm]
          rfl
        rwa [hall]
      | cons r read => exact h.plain [] cs after rfl read left (List.cons.inj hread).2 hleft
    | cons b before =>
      exact h.plain (.text cs :: before) ds rest (by rw [(List.cons.inj hsplit).2]; rfl) read left
        hread hleft

theorem startText {c : Char} (hnone : ∀ token, ¬ TokenAt (c :: template) token)
    (hstart : ∀ cs after, segments ≠ .text cs :: after) (h : Tokenises template segments) :
    Tokenises (c :: template) (.text [c] :: segments) where
  reassembles := by rw [← h.reassembles]; rfl
  nonempty := List.forall_mem_cons.mpr ⟨List.cons_ne_nil _ _, h.nonempty⟩
  tokens := by
    intro before s after hsplit hs
    cases before with
    | nil => exact (hs _ (List.cons.inj hsplit).1.symm).elim
    | cons b before => exact h.tokens before s after (List.cons.inj hsplit).2 hs
  separated := by
    intro before cs ds after hsplit
    cases before with
    | nil => exact hstart ds after (List.cons.inj hsplit).2
    | cons b before => exact h.separated before cs ds after (List.cons.inj hsplit).2
  plain := by
    intro before cs after hsplit read left hread hleft
    cases before with
    | nil =>
      obtain ⟨htext, rfl⟩ := List.cons.inj hsplit
      obtain rfl := Segment.text.inj htext
      have hall : left = [c] := by
        rcases List.append_eq_singleton_iff.mp hread.symm with ⟨-, hleft'⟩ | ⟨-, hleft'⟩
        · exact hleft'
        · exact (hleft hleft').elim
      rwa [hall, h.reassembles]
    | cons b before => exact h.plain before cs after (List.cons.inj hsplit).2 read left hread hleft

theorem consText {c : Char} (hnone : ∀ token, ¬ TokenAt (c :: template) token)
    (h : Tokenises template segments) : Tokenises (c :: template) (consText c segments) := by
  unfold Template.consText
  split
  · exact growText hnone h
  · next hstart => exact startText hnone hstart h

theorem tail {s : Segment} (h : Tokenises template (s :: segments)) :
    Tokenises (segments.flatMap Segment.chars) segments where
  reassembles := rfl
  nonempty := fun t ht => h.nonempty t (List.mem_cons_of_mem _ ht)
  tokens := fun before t after hsplit => h.tokens (s :: before) t after (by rw [hsplit]; rfl)
  separated := fun before cs ds after hsplit =>
    h.separated (s :: before) cs ds after (by rw [hsplit]; rfl)
  plain := fun before cs after hsplit => h.plain (s :: before) cs after (by rw [hsplit]; rfl)

end Tokenises

theorem tokenises_segmentsFrom (cs : List Char) : Tokenises cs (segmentsFrom 0 cs) :=
  reading_induction Tokenises.nil
    (fun _ _ htoken h => h.consToken htoken)
    (fun _ _ hnone h => h.consText hnone) cs

/-- A run of characters where no token begins is read as a single piece of plain text. -/
theorem segmentsFrom_textRun {cs after : List Char} (hne : cs ≠ [])
    (hplain : ∀ read left, cs = read ++ left → left ≠ [] → ∀ token, ¬ TokenAt (left ++ after) token)
    (hstart : ∀ ds rest, segmentsFrom 0 after ≠ .text ds :: rest) :
    segmentsFrom 0 (cs ++ after) = .text cs :: segmentsFrom 0 after := by
  induction cs with
  | nil => exact (hne rfl).elim
  | cons c cs ih =>
    have hnone : ∀ token, ¬ TokenAt (c :: (cs ++ after)) token := hplain [] (c :: cs) rfl hne
    rw [List.cons_append, segmentsFrom_text hnone]
    cases cs with
    | nil =>
      rw [List.nil_append, consText]
      exact hstart
    | cons d cs =>
      rw [ih (List.cons_ne_nil _ _) fun read left hread => hplain (c :: read) left (by rw [hread]; rfl)]
      rfl

/-- There is no other splitting at the leftmost tokens than the one that is read. -/
theorem Tokenises.eq_segmentsFrom {template : List Char} {segments : List Segment}
    (h : Tokenises template segments) : segments = segmentsFrom 0 template := by
  -- on the given segments: the first one is what is read in front, and the rest is split as well
  induction segments generalizing template with
  | nil => rw [← h.reassembles]; rfl
  | cons s rest ih =>
    have hrest := ih h.tail
    rw [← h.reassembles, List.flatMap_cons]
    by_cases hs : ∃ cs, s = .text cs
    · obtain ⟨cs, rfl⟩ := hs
      have hne : cs ≠ [] := h.nonempty _ List.mem_cons_self
      have hstart : ∀ ds after, segmentsFrom 0 (rest.flatMap Segment.chars) ≠ .text ds :: after := by
        intro ds after hnext
        exact h.separated [] cs ds after (by rw [hrest, hnext]; rfl)
      rw [Segment.chars, segmentsFrom_textRun hne (h.plain [] cs rest rfl) hstart, ← hrest]
    · have htoken := h.tokens [] s rest rfl (not_exists.mp hs)
      rw [segmentsFrom_token htoken, ← hrest]

theorem map_filterMap_placeholder? (segments : List Segment) :
    (segments.filterMap fun s => s.placeholder?.map String.ofList).map
        (fun token => Segment.placeholder token.toList) =
      segments.filter fun s => s.placeholder?.isSome := by
  induction segments with
  | nil => rfl
  | cons s rest ih =>
    cases s with
    | text cs => exact ih
    | comment cs => exact ih
    | placeholder cs =>
      have hhead : (Segment.placeholder cs).placeholder? = some cs := rfl
      simp only [List.filterMap_cons, List.filter_cons, hhead, Option.map_some, Option.isSome_some,
        if_true, List.map_cons, String.toList_ofList, ih]

/-- A list of segments splits a template at the leftmost tokens exactly if it is the one that is read,
and the placeholders are the placeholder segments of this splitting in their order. -/
theorem tokenises_iff_eq_segments (template : String) :
    (∀ found, Tokenises template.toList found ↔ found = segments template) ∧
      (placeholders template).map (fun token => Segment.placeholder token.toList) =
        (segments template).filter fun s => s.placeholder?.isSome := by
  refine ⟨fun found => ⟨fun h => h.eq_segmentsFrom, ?_⟩, map_filterMap_placeholder? _⟩
  rintro rfl
  exact tokenises_segmentsFrom template.toList

end PlaceholderScripts.Template
