import PlaceholderScripts.Proofs.Template.Tokenisation

/-!
# Comments behind other text

When a comment is kept that stands behind text without comments. A `%` of that text which is part of no
placeholder and has no other `%` behind it is open: it finds its partner inside of the comment, and the
opening of the comment becomes part of a placeholder. This is the only way in which a comment is lost.
-/

namespace PlaceholderScripts.Template

/-- No comment begins in the text, nor with its last character. -/
structure CommentFree (cs : List Char) : Prop where
  line : ¬ ['/', '/'] <:+: cs
  block : ¬ ['/', '*'] <:+: cs
  slash : cs.getLast? ≠ some '/'

def EndsOpen (segments : List Segment) : Prop :=
  ∃ cs, segments.getLast? = some (.text cs) ∧ '%' ∈ cs

/-- A `%` of the template that is part of no placeholder has no `%` behind it. -/
def OpenSentinel (template : String) : Prop := EndsOpen (segments template)

/-- A comment with one `%` behind its opening and another one in its body. -/
structure Note (note opening body : List Char) : Prop where
  split : note = '/' :: opening ++ '%' :: body
  comment : TokenAt note (.comment note)
  opening_clean : '%' ∉ opening
  once : body.count '%' = 1

theorem takeWhile_before {x : Char} {as : List Char} (h : x ∉ as) (bs : List Char) :
    (as ++ x :: bs).takeWhile (· ≠ x) = as := by
  have hall : ∀ c ∈ as, decide (c ≠ x) = true := fun c hc => decide_eq_true fun e => h (e ▸ hc)
  rw [List.takeWhile_append_of_pos hall, List.takeWhile_cons_of_neg (by simp), List.append_nil]

namespace CommentFree

variable {c : Char} {cs ds : List Char}

theorem of_append (h : CommentFree (cs ++ ds)) : CommentFree ds where
  line := fun hd => h.line (hd.trans (List.suffix_append cs ds).isInfix)
  block := fun hd => h.block (hd.trans (List.suffix_append cs ds).isInfix)
  slash := by
    intro hd
    refine h.slash ?_
    rw [List.getLast?_append, hd]
    rfl

theorem tail (h : CommentFree (c :: cs)) : CommentFree cs := @of_append [c] cs h

theorem placeholder_of_tokenAt {token : Segment} (h : CommentFree cs) (htoken : TokenAt cs token) :
    ∃ key after, cs = '%' :: key ++ '%' :: after ∧ token = .placeholder ('%' :: key ++ ['%']) ∧
      key ≠ [] ∧ '%' ∉ key := by
  cases htoken with
  | lineComment body after => exact (h.line ⟨[], body ++ after, rfl⟩).elim
  | blockComment body after => exact (h.block ⟨[], body ++ '*' :: '/' :: after, rfl⟩).elim
  | placeholder key after hne hkey => exact ⟨key, after, rfl, rfl, hne, hkey⟩

theorem tokenAt_append {token : Segment} (h : CommentFree cs) (htoken : TokenAt cs token)
    (more : List Char) : TokenAt (cs ++ more) token := by
  obtain ⟨key, after, rfl, rfl, hne, hkey⟩ := h.placeholder_of_tokenAt htoken
  rw [List.append_assoc, List.cons_append]
  exact .placeholder key (after ++ more) hne hkey

theorem infix_opening {x : Char} {more rest : List Char} (hne : cs ≠ [])
    (hlast : cs.getLast? ≠ some '/') (h : cs ++ more = '/' :: x :: rest) : ['/', x] <:+: cs := by
  match cs with
  | [] => exact (hne rfl).elim
  | [c] => exact (hlast (by rw [(List.cons.inj h).1]; rfl)).elim
  | c :: d :: cs =>
    obtain ⟨hc, h⟩ := List.cons.inj h
    obtain ⟨hd, -⟩ := List.cons.inj h
    exact ⟨[], cs, by rw [hc, hd]; rfl⟩

/-- Further text begins a token in a text without comments only together with an open `%`. -/
theorem not_tokenAt_append {more : List Char} (h : CommentFree (c :: cs))
    (hnone : ∀ token, ¬ TokenAt (c :: cs) token) (hclosed : ¬ (c = '%' ∧ '%' ∉ cs)) :
    ∀ token, ¬ TokenAt (c :: (cs ++ more)) token := by
  intro token htoken
  generalize htext : c :: (cs ++ more) = text at htoken
  cases htoken with
  | lineComment body after => exact h.line (infix_opening (List.cons_ne_nil _ _) h.slash htext)
  | blockComment body after => exact h.block (infix_opening (List.cons_ne_nil _ _) h.slash htext)
  | placeholder key after hne hkey =>
    obtain ⟨rfl, hrest⟩ := List.cons.inj htext
    have hmem : '%' ∈ cs := Classical.not_not.mp fun hmem => hclosed ⟨rfl, hmem⟩
    obtain ⟨as, bs, rfl, has⟩ := List.eq_append_cons_of_mem hmem
    have hkeys : as ++ '%' :: (bs ++ more) = key ++ '%' :: after := by
      rw [← List.cons_append, ← List.append_assoc]
      exact hrest
    obtain rfl : as = key := by
      rw [← takeWhile_before has (bs ++ more), hkeys, takeWhile_before hkey]
    exact hnone _ (.placeholder as bs hne hkey)

/-- A text without comments and without `%` is a single piece of plain text. -/
theorem segmentsFrom_eq_text (h : CommentFree cs) (hclean : '%' ∉ cs) (hne : cs ≠ []) :
    segmentsFrom 0 cs = [.text cs] := by
  have hplain : ∀ read left, cs = read ++ left → left ≠ [] → ∀ token, ¬ TokenAt (left ++ []) token := by
    intro read left hsplit _ token htoken
    rw [List.append_nil] at htoken
    subst hsplit
    obtain ⟨key, after, rfl, -⟩ := h.of_append.placeholder_of_tokenAt htoken
    exact hclean (List.mem_append_right _ List.mem_cons_self)
  have hrun := segmentsFrom_textRun hne hplain (by simp [segmentsFrom])
  rwa [List.append_nil] at hrun

end CommentFree

theorem flatMap_consText (c : Char) (segments : List Segment) :
    (consText c segments).flatMap Segment.chars = c :: segments.flatMap Segment.chars := by
  unfold consText
  split <;> rfl

theorem consText_append (c : Char) (segments : List Segment) {s : Segment} (more : List Segment)
    (hs : ∀ cs, s ≠ .text cs) :
    consText c (segments ++ s :: more) = consText c segments ++ s :: more := by
  cases segments with
  | cons t segments => cases t <;> rfl
  | nil =>
    rw [List.nil_append, consText]
    · rfl
    · intro cs rest h
      exact hs cs (List.cons.inj h).1

theorem not_endsOpen_nil : ¬ EndsOpen [] := by
  rintro ⟨cs, h, -⟩
  cases h

theorem endsOpen_cons_cons (s t : Segment) (segments : List Segment) :
    EndsOpen (s :: t :: segments) ↔ EndsOpen (t :: segments) := by
  unfold EndsOpen
  rw [List.getLast?_cons_cons]

theorem endsOpen_singleton_text (cs : List Char) : EndsOpen [.text cs] ↔ '%' ∈ cs := by
  constructor
  · rintro ⟨ds, h, hmem⟩
    obtain rfl : cs = ds := by simpa using h
    exact hmem
  · exact fun hmem => ⟨cs, rfl, hmem⟩

theorem endsOpen_cons_iff {s : Segment} (segments : List Segment) (hs : ∀ cs, s ≠ .text cs) :
    EndsOpen (s :: segments) ↔ EndsOpen segments := by
  cases segments with
  | nil =>
    refine iff_of_false ?_ not_endsOpen_nil
    rintro ⟨cs, h, -⟩
    exact hs cs (by simpa using h)
  | cons t segments => exact endsOpen_cons_cons s t segments

theorem endsOpen_consText_of_mem (c : Char) {segments : List Segment}
    (hmem : '%' ∈ segments.flatMap Segment.chars) :
    EndsOpen (consText c segments) ↔ EndsOpen segments := by
  cases segments with
  | nil => cases hmem
  | cons s rest =>
    cases s with
    | comment cs => exact endsOpen_cons_cons _ _ _
    | placeholder cs => exact endsOpen_cons_cons _ _ _
    | text cs =>
      cases rest with
      | cons t rest => rw [consText, endsOpen_cons_cons, endsOpen_cons_cons]
      | nil =>
        have hcs : '%' ∈ cs := by simpa [Segment.chars] using hmem
        rw [consText, endsOpen_singleton_text, endsOpen_singleton_text]
        exact iff_of_true (List.mem_cons_of_mem c hcs) hcs

/-- A character of plain text in front opens nothing, unless it is a `%` that no other one follows. -/
theorem endsOpen_consText_iff {c : Char} {rest : List Char} (h : CommentFree (c :: rest)) :
    EndsOpen (consText c (segmentsFrom 0 rest)) ↔
      EndsOpen (segmentsFrom 0 rest) ∨ (c = '%' ∧ '%' ∉ rest) := by
  by_cases hmem : '%' ∈ rest
  · have hsame := hmem
    rw [← (tokenises_segmentsFrom rest).reassembles] at hsame
    rw [endsOpen_consText_of_mem c hsame, or_iff_left]
    exact fun hclean => hclean.2 hmem
  · by_cases hne : rest = []
    · subst hne
      rw [segmentsFrom, consText, endsOpen_singleton_text]
      · simp [not_endsOpen_nil, eq_comm]
      · intro cs rest h
        cases h
    · rw [h.tail.segmentsFrom_eq_text hmem hne, consText, endsOpen_singleton_text,
        endsOpen_singleton_text]
      simp [hmem, eq_comm]

/-- Behind a text that leaves nothing open a comment is a segment of its own. -/
theorem segmentsFrom_append_note {note opening body : List Char} (hnote : Note note opening body)
    (cs : List Char) (h : CommentFree cs) (hclosed : ¬ EndsOpen (segmentsFrom 0 cs)) :
    segmentsFrom 0 (cs ++ note) = segmentsFrom 0 cs ++ [.comment note] := by
  revert h hclosed
  refine reading_induction
    (motive := fun cs segments => CommentFree cs → ¬ EndsOpen segments →
      segmentsFrom 0 (cs ++ note) = segments ++ [.comment note]) ?_ ?_ ?_ cs
  · intro _ _
    have htoken : TokenAt ((Segment.comment note).chars ++ []) (.comment note) := by
      rw [List.append_nil]
      exact hnote.comment
    have hread := segmentsFrom_token htoken
    rwa [List.append_nil] at hread
  · intro token after htoken ih h hclosed
    have hs : ∀ cs, token ≠ .text cs := fun cs hs => TokenAt.not_text (hs ▸ htoken)
    rw [endsOpen_cons_iff _ hs] at hclosed
    have hmore := h.tokenAt_append htoken note
    rw [List.append_assoc] at hmore ⊢
    rw [segmentsFrom_token hmore, ih h.of_append hclosed]
    rfl
  · intro c rest hnone ih h hclosed
    rw [endsOpen_consText_iff h, not_or] at hclosed
    rw [List.cons_append, segmentsFrom_text (h.not_tokenAt_append hnone hclosed.2),
      ih h.tail hclosed.1]
    exact consText_append c _ [] (by simp)

/-- Behind a text that leaves a `%` open the opening of a comment is part of a placeholder. -/
theorem segmentsFrom_append_note_of_endsOpen {note opening body : List Char}
    (hnote : Note note opening body) (cs : List Char) (h : CommentFree cs)
    (hopen : EndsOpen (segmentsFrom 0 cs)) :
    ∃ before left, cs = before.flatMap Segment.chars ++ '%' :: left ∧
      segmentsFrom 0 (cs ++ note) =
        before ++ .placeholder ('%' :: (left ++ '/' :: opening) ++ ['%']) :: segmentsFrom 0 body := by
  revert h hopen
  refine reading_induction
    (motive := fun cs segments => CommentFree cs → EndsOpen segments →
      ∃ before left, cs = before.flatMap Segment.chars ++ '%' :: left ∧
        segmentsFrom 0 (cs ++ note) =
          before ++ .placeholder ('%' :: (left ++ '/' :: opening) ++ ['%']) ::
            segmentsFrom 0 body) ?_ ?_ ?_ cs
  · exact fun _ hopen => (not_endsOpen_nil hopen).elim
  · intro token after htoken ih h hopen
    have hs : ∀ cs, token ≠ .text cs := fun cs hs => TokenAt.not_text (hs ▸ htoken)
    rw [endsOpen_cons_iff _ hs] at hopen
    obtain ⟨before, left, hafter, hsegments⟩ := ih h.of_append hopen
    refine ⟨token :: before, left, ?_, ?_⟩
    · rw [List.flatMap_cons, List.append_assoc, ← hafter]
    · have hmore := h.tokenAt_append htoken note
      rw [List.append_assoc] at hmore ⊢
      rw [segmentsFrom_token hmore, hsegments]
      rfl
  · intro c rest hnone ih h hopen
    rw [endsOpen_consText_iff h] at hopen
    by_cases hfirst : c = '%' ∧ '%' ∉ rest
    · obtain ⟨rfl, hclean⟩ := hfirst
      have hkey : '%' ∉ rest ++ '/' :: opening := by
        simp [hclean, hnote.opening_clean]
      have htoken := TokenAt.placeholder (rest ++ '/' :: opening) body (by simp) hkey
      have hsplit : '%' :: (rest ++ '/' :: opening) ++ '%' :: body =
          (Segment.placeholder ('%' :: (rest ++ '/' :: opening) ++ ['%'])).chars ++ body := by
        simp [Segment.chars]
      refine ⟨[], rest, rfl, ?_⟩
      rw [hsplit] at htoken
      have hread := segmentsFrom_token htoken
      rw [← hsplit] at hread
      rw [hnote.split]
      simpa using hread
    · obtain ⟨before, left, hrest, hsegments⟩ := ih h.tail (hopen.resolve_right hfirst)
      refine ⟨consText c before, left, ?_, ?_⟩
      · rw [flatMap_consText, List.cons_append, ← hrest]
      · rw [List.cons_append, segmentsFrom_text (h.not_tokenAt_append hnone hfirst), hsegments]
        exact consText_append c before _ (by simp)

/-- What a segment becomes under a substitution that has no effect. -/
def fillSegment (value : String → String) : Segment → List Char
  | .placeholder cs => (value (String.ofList cs)).toList
  | .text cs | .comment cs => cs

theorem scan_pure {m : Type → Type} [Monad m] [LawfulMonad m] (value : String → String)
    (template : String) :
    scan (m := m) (fun token => pure (value token)) template =
      pure (String.ofList ((segments template).flatMap (fillSegment value))) := by
  have hsegment : substituteSegment (m := m) (fun token => pure (value token)) =
      fun s => pure (fillSegment value s) := by
    funext s
    cases s <;> simp [substituteSegment, fillSegment]
  simp [scan, hsegment, List.flatMap]

theorem TokenAt.two_le_count {cs token : List Char} (h : TokenAt cs (.placeholder token)) :
    2 ≤ token.count '%' := by
  cases h with
  | placeholder key after hne hkey => simp [List.count_append]

theorem flatMap_fillSegment_of_count {cs : List Char} (value : String → String)
    (h : cs.count '%' = 1) : (segmentsFrom 0 cs).flatMap (fillSegment value) = cs := by
  have hread := tokenises_segmentsFrom cs
  have hkept : ∀ s ∈ segmentsFrom 0 cs, fillSegment value s = s.chars := by
    intro s hs
    cases s with
    | text cs => rfl
    | comment cs => rfl
    | placeholder token =>
      obtain ⟨before, after, hsplit⟩ := List.append_of_mem hs
      have htwo := (hread.tokens before _ after hsplit nofun).two_le_count
      have hcount := congrArg (List.count '%') hread.reassembles
      rw [hsplit, List.flatMap_append, List.flatMap_cons, List.count_append, List.count_append,
        Segment.chars, h] at hcount
      omega
  rw [List.flatMap, List.map_congr_left hkept]
  exact hread.reassembles

/-- A comment that is a segment of its own leaves the substitutions before it as they are. -/
theorem scan_append_comment {m : Type → Type} [Monad m] [LawfulMonad m]
    (substitute : String → m String) {p note : String}
    (h : segments (p ++ note) = segments p ++ [.comment note.toList]) :
    scan substitute (p ++ note) = (fun out => out ++ note) <$> scan substitute p := by
  simp [scan, h, substituteSegment, String.ofList_append]

structure NoteName (name : List Char) : Prop where
  nonempty : name ≠ []
  sentinel : '%' ∉ name
  newline : '\n' ∉ name
  star : '*' ∉ name

def blockNote (name : String) : String := "/* %" ++ name ++ "% */"

def lineNote (name : String) : String := "// %" ++ name ++ "%"

theorem not_infix_endMark {cs : List Char} (h : '*' ∉ cs) : ¬ ['*', '/'] <:+: cs ++ ['*'] := by
  induction cs with
  | nil => decide
  | cons c cs ih =>
    rw [List.mem_cons, not_or] at h
    rw [List.cons_append, endMark_infix_cons, not_or]
    exact ⟨fun hc => h.1 hc.1.symm, ih h.2⟩

theorem NoteName.block {name : String} (h : NoteName name.toList) :
    Note (blockNote name).toList ['*', ' '] (name.toList ++ ['%', ' ', '*', '/']) where
  split := by simp [blockNote]
  comment := by
    have hstar : '*' ∉ ' ' :: '%' :: (name.toList ++ ['%', ' ']) := by
      simp [h.star]
    have htoken := TokenAt.blockComment _ [] (not_infix_endMark hstar)
    simpa [blockNote] using htoken
  opening_clean := by decide
  once := by simp [List.count_append, List.count_eq_zero.mpr h.sentinel]

theorem NoteName.line {name : String} (h : NoteName name.toList) :
    Note (lineNote name).toList ['/', ' '] (name.toList ++ ['%']) where
  split := by simp [lineNote]
  comment := by
    have hline : '\n' ∉ ' ' :: '%' :: (name.toList ++ ['%']) := by
      simp [h.newline]
    have htoken := TokenAt.lineComment _ [] hline (.inl rfl)
    simpa [lineNote] using htoken
  opening_clean := by decide
  once := by simp [List.count_append, List.count_eq_zero.mpr h.sentinel]

theorem exists_note {name note : String} (h : NoteName name.toList)
    (hnote : note = blockNote name ∨ note = lineNote name) :
    ∃ opening body, Note note.toList opening body := by
  rcases hnote with rfl | rfl
  · exact ⟨_, _, h.block⟩
  · exact ⟨_, _, h.line⟩

/-- No placeholder reaches behind the first `length` characters. -/
def PlaceholdersWithin (length : Nat) (template : String) : Prop :=
  ∀ before token after, segments template = before ++ .placeholder token :: after →
    (before.flatMap Segment.chars ++ token).length ≤ length

section Note

variable {p note : String} {opening body : List Char}

theorem Note.segments_append (hnote : Note note.toList opening body) (hp : CommentFree p.toList)
    (hclosed : ¬ OpenSentinel p) :
    segments (p ++ note) = segments p ++ [.comment note.toList] := by
  rw [segments, String.toList_append]
  exact segmentsFrom_append_note hnote p.toList hp hclosed

theorem Note.placeholdersWithin (hnote : Note note.toList opening body)
    (hp : CommentFree p.toList) (hclosed : ¬ OpenSentinel p) :
    PlaceholdersWithin p.length (p ++ note) := by
  intro before token after hsplit
  rw [hnote.segments_append hp hclosed] at hsplit
  have hfront := congrArg List.dropLast hsplit
  have hlast := congrArg List.getLast? hsplit
  rw [List.dropLast_concat, List.dropLast_append_cons] at hfront
  cases after with
  | nil => simp at hlast
  | cons s after =>
    have hchars : p.toList = (segments p).flatMap Segment.chars :=
      (tokenises_segmentsFrom p.toList).reassembles.symm
    rw [hfront, List.dropLast_cons_cons, List.flatMap_append, List.flatMap_cons] at hchars
    rw [← String.length_toList, hchars]
    simp only [List.length_append, Segment.chars]
    omega

theorem Note.not_placeholdersWithin (hnote : Note note.toList opening body)
    (hp : CommentFree p.toList) (hopen : OpenSentinel p) :
    ¬ PlaceholdersWithin p.length (p ++ note) := by
  intro hwithin
  obtain ⟨before, left, hsplit, hsegments⟩ :=
    segmentsFrom_append_note_of_endsOpen hnote p.toList hp hopen
  rw [← String.toList_append] at hsegments
  have hle := hwithin before _ _ hsegments
  rw [← String.length_toList, hsplit] at hle
  simp only [List.length_append, List.length_cons] at hle
  omega

/-- With a `%` open a substitution by a space takes the opening of the comment away. -/
theorem Note.scan_ne_append (hnote : Note note.toList opening body) (hp : CommentFree p.toList)
    (hopen : OpenSentinel p) (out : String) :
    ((scan (m := StateM Unit) (fun _ => pure " ") (p ++ note)).run ()).1 ≠ out ++ note := by
  obtain ⟨before, left, -, hsegments⟩ :=
    segmentsFrom_append_note_of_endsOpen hnote p.toList hp hopen
  have hscan := scan_pure (m := StateM Unit) (fun _ => " ") (p ++ note)
  rw [segments, String.toList_append, hsegments, List.flatMap_append, List.flatMap_cons,
    flatMap_fillSegment_of_count _ hnote.once] at hscan
  rw [hscan]
  intro hout
  change String.ofList _ = out ++ note at hout
  have hchars : (before.flatMap (fillSegment fun _ => " ") ++ [' ']) ++ body =
      (out.toList ++ '/' :: opening ++ ['%']) ++ body := by
    have hlist := congrArg String.toList hout
    rw [String.toList_append, hnote.split] at hlist
    simpa [fillSegment] using hlist
  have hend := congrArg List.getLast? (List.append_cancel_right hchars)
  rw [List.getLast?_concat, List.getLast?_concat] at hend
  exact absurd (Option.some.inj hend) (by decide)

end Note

/-- A comment with a placeholder survives behind text without comments, and nothing of it is handed to
the substitution, exactly if the text leaves no `%` open. The substitutions are then those of the text. -/
theorem comment_kept_iff {p name note : String} (hp : CommentFree p.toList)
    (hname : NoteName name.toList) (hnote : note = blockNote name ∨ note = lineNote name) :
    ((∀ (σ : Type) (substitute : String → StateM σ String) (s : σ),
        ∃ out, ((scan substitute (p ++ note)).run s).1 = out ++ note) ↔ ¬ OpenSentinel p) ∧
      (PlaceholdersWithin p.length (p ++ note) ↔ ¬ OpenSentinel p) ∧
      (¬ OpenSentinel p → ∀ (m : Type → Type) [Monad m] [LawfulMonad m]
        (substitute : String → m String),
        scan substitute (p ++ note) = (fun out => out ++ note) <$> scan substitute p) := by
  obtain ⟨opening, body, hnote⟩ := exists_note hname hnote
  refine ⟨⟨fun hkept hopen => ?_, fun hclosed σ substitute s => ?_⟩,
    ⟨fun hwithin hopen => hnote.not_placeholdersWithin hp hopen hwithin,
      fun hclosed => hnote.placeholdersWithin hp hclosed⟩,
    fun hclosed m _ _ substitute => ?_⟩
  · obtain ⟨out, hout⟩ := hkept Unit (fun _ => pure " ") ()
    exact hnote.scan_ne_append hp hopen out hout
  · rw [scan_append_comment substitute (hnote.segments_append hp hclosed)]
    exact ⟨_, rfl⟩
  · exact scan_append_comment substitute (hnote.segments_append hp hclosed)

/-- A modulo operator in front of the comment leaves its `%` open: the comment loses its opening to a
placeholder. -/
theorem modulo_takes_comment_opening :
    CommentFree "7 % 2 ".toList ∧ NoteName "name".toList ∧
      segments ("7 % 2 " ++ blockNote "name") =
        [.text ['7', ' '], .placeholder "% 2 /* %".toList, .text "name% */".toList] ∧
      ¬ PlaceholdersWithin "7 % 2 ".length ("7 % 2 " ++ blockNote "name") ∧
      ∀ out, ((scan (m := StateM Unit) (fun _ => pure "X") ("7 % 2 " ++ blockNote "name")).run ()).1 ≠
        out ++ blockNote "name" := by
  have hsegments : segments ("7 % 2 " ++ blockNote "name") =
      [.text ['7', ' '], .placeholder "% 2 /* %".toList, .text "name% */".toList] := by
    decide +kernel
  refine ⟨⟨by decide +kernel, by decide +kernel, by decide⟩,
    ⟨by decide, by decide, by decide, by decide⟩, hsegments, ?_, ?_⟩
  · intro hwithin
    exact absurd (hwithin [.text ['7', ' ']] _ _ hsegments) (by decide)
  · intro out hout
    rw [scan_pure, hsegments] at hout
    have htext : "7 Xname% */" = out ++ blockNote "name" := hout
    have hlength := congrArg String.length htext
    rw [String.length_append] at hlength
    have hshort : "7 Xname% */".length < (blockNote "name").length := by decide
    omega

/-- Where every `%` of the text belongs to a placeholder, the comment is kept. -/
theorem comment_kept_behind_placeholder :
    CommentFree "%a% = ".toList ∧ NoteName "name".toList ∧ ¬ OpenSentinel "%a% = " ∧
      (∀ (σ : Type) (substitute : String → StateM σ String) (s : σ),
        ∃ out, ((scan substitute ("%a% = " ++ lineNote "name")).run s).1 = out ++ lineNote "name") ∧
      PlaceholdersWithin "%a% = ".length ("%a% = " ++ lineNote "name") := by
  have hp : CommentFree "%a% = ".toList := ⟨by decide +kernel, by decide +kernel, by decide⟩
  have hname : NoteName "name".toList := ⟨by decide, by decide, by decide, by decide⟩
  have hsegments : segments "%a% = " = [.placeholder "%a%".toList, .text " = ".toList] := by
    decide +kernel
  have hclosed : ¬ OpenSentinel "%a% = " := by
    rw [OpenSentinel, hsegments, endsOpen_cons_cons, endsOpen_singleton_text]
    decide
  obtain ⟨hkept, hwithin, -⟩ := comment_kept_iff hp hname (.inr rfl)
  exact ⟨hp, hname, hclosed, hkept.mpr hclosed, hwithin.mpr hclosed⟩

end PlaceholderScripts.Template
