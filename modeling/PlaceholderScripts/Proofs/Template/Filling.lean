import PlaceholderScripts.Evaluation
import PlaceholderScripts.Proofs.Template.Comments

/-!
# Templates filled from a table

The service that answers from a table reads the tokens that it is handed anew. A placeholder of a template is
read there as a single token, so each placeholder becomes the value of its key. In a template without
comments the placeholders are also the tokens of the whole text, and it makes no difference whether the
template is scanned or handed to the service at once.
-/

namespace PlaceholderScripts

namespace Template

/-- What stands between the delimiters of a token. -/
def keyOf (token : String) : String := String.ofList token.toList.tail.dropLast

def valueOf (resolve : String → Option String) (token : String) : String :=
  (resolve (keyOf token)).getD token

theorem exists_key_of_mem {cs token : List Char} (h : .placeholder token ∈ segmentsFrom 0 cs) :
    ∃ key, token = TokenForm.percent.token key ∧ key ≠ [] ∧
      ∀ c ∈ key, TokenForm.percent.isKeyChar c = true := by
  obtain ⟨before, after, hsplit⟩ := List.append_of_mem h
  have htoken := (tokenises_segmentsFrom cs).tokens before _ after hsplit nofun
  generalize Segment.chars (.placeholder token) ++ after.flatMap Segment.chars = text at htoken
  cases htoken with
  | placeholder key after hne hkey => exact ⟨key, rfl, hne, percent_key_iff.mpr hkey⟩

theorem keyOf_token (key : List Char) :
    keyOf (String.ofList (TokenForm.percent.token key)) = String.ofList key := by
  simp [keyOf, TokenForm.token]

theorem toList_valueOf_token (resolve : String → Option String) (key : List Char) :
    (valueOf resolve (String.ofList (TokenForm.percent.token key))).toList =
      TokenForm.percent.replacement resolve key := by
  rw [valueOf, keyOf_token, TokenForm.replacement]
  cases resolve (String.ofList key) with
  | none => exact String.toList_ofList
  | some value => rfl

/-- A placeholder that is handed to the table becomes the value of its key. -/
theorem fill_of_mem {cs token : List Char} (h : .placeholder token ∈ segmentsFrom 0 cs)
    (resolve : String → Option String) :
    TokenForm.percent.fill resolve (String.ofList token) = valueOf resolve (String.ofList token) := by
  obtain ⟨key, rfl, hne, hkey⟩ := exists_key_of_mem h
  have hfilled := TokenForm.fillFrom_token resolve hne hkey []
  rw [List.append_nil] at hfilled
  apply String.toList_inj.mp
  rw [TokenForm.fill, String.toList_ofList, String.toList_ofList, hfilled, toList_valueOf_token]
  exact List.append_nil _

/-- The pieces of a template with every placeholder replaced by the value of its key. -/
def filled (resolve : String → Option String) (template : String) : String :=
  String.ofList ((segments template).flatMap (fillSegment (valueOf resolve)))

theorem flatMap_fillSegment_fill (resolve : String → Option String) (cs : List Char) :
    (segmentsFrom 0 cs).flatMap (fillSegment (TokenForm.percent.fill resolve)) =
      (segmentsFrom 0 cs).flatMap (fillSegment (valueOf resolve)) := by
  have hsame : ∀ s ∈ segmentsFrom 0 cs,
      fillSegment (TokenForm.percent.fill resolve) s = fillSegment (valueOf resolve) s := by
    intro s hs
    cases s with
    | text cs => rfl
    | comment cs => rfl
    | placeholder token => exact congrArg String.toList (fill_of_mem hs resolve)
  rw [List.flatMap, List.flatMap, List.map_congr_left hsame]

theorem flatMap_consText_fillSegment (value : String → String) (c : Char) (segments : List Segment) :
    (consText c segments).flatMap (fillSegment value) = c :: segments.flatMap (fillSegment value) := by
  unfold consText
  split <;> rfl

theorem comment_mem_consText (c : Char) (segments : List Segment) (cs : List Char) :
    .comment cs ∈ consText c segments ↔ .comment cs ∈ segments := by
  unfold consText
  split <;> simp

/-- One pass over the whole text finds the placeholders of a template without comments. -/
theorem fillFrom_eq_flatMap (resolve : String → Option String) (cs : List Char)
    (h : ∀ note, .comment note ∉ segmentsFrom 0 cs) :
    TokenForm.percent.fillFrom resolve 0 cs =
      (segmentsFrom 0 cs).flatMap (fillSegment (valueOf resolve)) := by
  revert h
  refine reading_induction
    (motive := fun cs segments => (∀ note, .comment note ∉ segments) →
      TokenForm.percent.fillFrom resolve 0 cs = segments.flatMap (fillSegment (valueOf resolve)))
    ?_ ?_ ?_ cs
  · exact fun _ => rfl
  · intro token after htoken ih h
    have hrest := ih fun note hnote => h note (List.mem_cons_of_mem _ hnote)
    generalize htext : token.chars ++ after = text at htoken
    cases htoken with
    | lineComment body => exact absurd List.mem_cons_self (h _)
    | blockComment body => exact absurd List.mem_cons_self (h _)
    | placeholder key _ hne hkey =>
      have hfilled := TokenForm.fillFrom_token resolve hne (percent_key_iff.mpr hkey) after
      rw [hrest] at hfilled
      rw [← htext, List.flatMap_cons, fillSegment]
      exact hfilled.trans (congrArg (· ++ _) (toList_valueOf_token resolve key).symm)
  · intro c rest hnone ih h
    have hrest := ih fun note hnote => h note ((comment_mem_consText c _ note).mpr hnote)
    -- where no token of the template begins, the table finds none either
    have hkey : TokenForm.percent.keyAt? (c :: rest) = none := by
      rw [Option.eq_none_iff_forall_ne_some]
      intro key hread
      obtain ⟨after, htext, hne, hkey⟩ := TokenForm.keyAt?_eq_some_iff.mp hread
      refine hnone (.placeholder (TokenForm.percent.token key)) (tokenAt?_eq_some_iff.mp ?_)
      obtain rfl : c = '%' := (List.cons.inj htext).1
      rw [tokenAt?_percent, hread]
      rfl
    rw [TokenForm.fillFrom_cons resolve hkey, hrest, flatMap_consText_fillSegment]

theorem filled_eq_fill {template : String} (h : ∀ note, .comment note ∉ segments template)
    (resolve : String → Option String) :
    filled resolve template = TokenForm.percent.fill resolve template :=
  congrArg String.ofList (fillFrom_eq_flatMap resolve template.toList h).symm

theorem scan_fill {m : Type → Type} [Monad m] [LawfulMonad m] (resolve : String → Option String)
    (template : String) :
    scan (m := m) (fun token => pure (TokenForm.percent.fill resolve token)) template =
      pure (filled resolve template) := by
  rw [scan_pure]
  exact congrArg (pure ∘ String.ofList) (flatMap_fillSegment_fill resolve template.toList)

end Template

theorem Dialogue.run_mapM {Ask ε α β σ : Type} {Reply : Ask → Type}
    {reply : σ → (q : Ask) → Reply q × σ} {f : α → ExceptT ε (Dialogue Ask Reply) β} {g : α → β}
    {s : σ} (hf : ∀ a, Dialogue.run reply (f a).run s = (.ok (g a), s)) (l : List α) :
    Dialogue.run reply (l.mapM f).run s = (.ok (l.map g), s) := by
  induction l with
  | nil => rfl
  | cons a rest ih =>
    rw [List.mapM_cons, ExceptT.run_bind, Dialogue.bind_eq, Dialogue.run_bind, hf]
    change Dialogue.run reply (rest.mapM f >>= fun bs => pure (g a :: bs)).run s = _
    rw [ExceptT.run_bind, Dialogue.bind_eq, Dialogue.run_bind, ih]
    rfl

theorem Evaluator.run_scan (table : SubstitutionTable) (identity : Identity) (template : String)
    (world : World) :
    World.run { world with service := table.service } (Evaluator.scan identity template) =
      (.ok (Template.filled (table.resolve identity) template),
        { world with service := table.service }) := by
  have hsegment : ∀ segment, Dialogue.run World.reply
      (Template.substituteSegment
        (fun token => ExceptT.mk (Program.substitute .percent identity token)) segment).run
        { world with service := table.service } =
      (.ok (Template.fillSegment (TokenForm.percent.fill (table.resolve identity)) segment),
        { world with service := table.service }) := by
    intro segment
    cases segment <;> rfl
  unfold Evaluator.scan Template.scan World.run
  rw [ExceptT.run_bind, Dialogue.bind_eq, Dialogue.run_bind, Dialogue.run_mapM hsegment]
  exact congrArg (fun cs => (Except.ok (String.ofList cs), { world with service := table.service }))
    (Template.flatMap_fillSegment_fill (table.resolve identity) template.toList)

namespace Template

/-- Scanning a template on behalf of a requester, with the table as the substitution, replaces each
placeholder by the value of its key, where it has one, and keeps all else. Without comments this is what
the table makes of the whole template at once. -/
theorem scan_table_eq_filled (table : SubstitutionTable) (identity : Identity) (template : String) :
    (∀ token, .placeholder token ∈ segments template →
      ∃ key, token = TokenForm.percent.token key ∧ key ≠ [] ∧
        keyOf (String.ofList token) = String.ofList key) ∧
    (∀ (m : Type → Type) [Monad m] [LawfulMonad m],
      scan (m := m) (fun token => pure (table.substitute .percent identity token)) template =
        pure (filled (table.resolve identity) template)) ∧
    (∀ world : World,
      World.run { world with service := table.service } (Evaluator.scan identity template) =
        (.ok (filled (table.resolve identity) template), { world with service := table.service })) ∧
    ((∀ note, .comment note ∉ segments template) →
      filled (table.resolve identity) template = table.substitute .percent identity template) := by
  refine ⟨fun token htoken => ?_, fun m _ _ => scan_fill _ template,
    Evaluator.run_scan table identity template, fun h => filled_eq_fill h _⟩
  obtain ⟨key, rfl, hne, -⟩ := exists_key_of_mem htoken
  exact ⟨key, rfl, hne, keyOf_token key⟩

/-- A block comment that does not end is plain text, in which the placeholder is found both ways. -/
theorem filled_open_comment :
    (∀ note, .comment note ∉ segments "/* %a% 5%") ∧
      (∃ key, "%a%".toList = TokenForm.percent.token key ∧ key ≠ [] ∧
        keyOf "%a%" = String.ofList key) ∧
      filled (SubstitutionTable.resolve (.ofList [("a", "%b%")]) .anonymous) "/* %a% 5%" =
        "/* %b% 5%" ∧
      SubstitutionTable.substitute (.ofList [("a", "%b%")]) .percent .anonymous "/* %a% 5%" =
        "/* %b% 5%" := by
  have hsegments : segments "/* %a% 5%" =
      [.text "/* ".toList, .placeholder "%a%".toList, .text " 5%".toList] := by
    decide +kernel
  have hclean : ∀ note, .comment note ∉ segments "/* %a% 5%" := by
    rw [hsegments]
    intro note
    simp
  have hmem : .placeholder "%a%".toList ∈ segments "/* %a% 5%" := by
    rw [hsegments]
    simp
  have hfilled : filled (SubstitutionTable.resolve (.ofList [("a", "%b%")]) .anonymous)
      "/* %a% 5%" = "/* %b% 5%" := by
    rw [filled, hsegments]
    decide +kernel
  obtain ⟨htokens, -, -, hwhole⟩ :=
    scan_table_eq_filled (.ofList [("a", "%b%")]) .anonymous "/* %a% 5%"
  exact ⟨hclean, htokens _ hmem, hfilled, (hwhole hclean).symm.trans hfilled⟩

end Template

end PlaceholderScripts
