import PlaceholderScripts.CommandLine.Run
import PlaceholderScripts.Proofs.Loading.Reload
import PlaceholderScripts.Proofs.Text.Lines
import PlaceholderScripts.Proofs.Text.Words

/-!
# What the console answers

The console heeds the lines of its input up to the first that asks for the end or is no text. It answers
each of them as its words say, from the scripts as the lines before left them. Whatever the end, the data of
all scripts is saved behind it.
-/

namespace PlaceholderScripts.Console

open Text (CutsInto HasWords IsWord)

section Input

variable {input bytes : List UInt8} {pieces : List (List UInt8)}

theorem cutLines_of_not_mem (hne : bytes ≠ []) (h : 10 ∉ bytes) : cutLines bytes = [bytes] := by
  induction bytes with
  | nil => exact absurd rfl hne
  | cons b bytes ih =>
    obtain ⟨hb, hbytes⟩ := not_or.mp (h ∘ List.mem_cons.mpr)
    rw [cutLines, if_neg (Ne.symm hb)]
    cases bytes with
    | nil => rfl
    | cons c bytes => rw [ih (by simp) hbytes]

theorem cutLines_append (h : 10 ∉ bytes) (rest : List UInt8) :
    cutLines (bytes ++ 10 :: rest) = bytes :: cutLines rest := by
  induction bytes with
  | nil => simp [cutLines]
  | cons b bytes ih =>
    obtain ⟨hb, hbytes⟩ := not_or.mp (h ∘ List.mem_cons.mpr)
    rw [List.cons_append, cutLines, if_neg (Ne.symm hb), ih hbytes]

theorem cutLines_eq_iff : cutLines input = pieces ↔ CutsInto 10 id input pieces :=
  Text.cut_eq_iff rfl (fun _ => cutLines_of_not_mem) (fun _ rest hline => cutLines_append hline rest)

def IsLine (bytes : List UInt8) (line : String) : Prop := line.toUTF8.data.toList = bytes

theorem lineOf_eq_some_iff {line : String} : lineOf bytes = some line ↔ IsLine bytes line := by
  rw [lineOf, String.fromUTF8?, IsLine]
  constructor
  · intro h
    split at h
    · cases h
      rfl
    · cases h
  · rintro rfl
    exact dif_pos line.isValidUTF8

theorem lineOf_eq_none_iff : lineOf bytes = none ↔ ∀ line, ¬ IsLine bytes line := by
  rw [Option.eq_none_iff_forall_ne_some]
  exact forall_congr' fun line => lineOf_eq_some_iff.not

end Input

inductive Ending where
  | asked
  | notText
  | endOfInput
  deriving DecidableEq

def Spells (line : String) (words : List String) : Prop := HasWords line.toList (words.map String.toList)

def AsksToEnd (line : String) : Prop :=
  ∃ name args, Spells line (name :: args) ∧ (name = "quit" ∨ name = "exit")

/-- The lines that are heeded, and why there are no more of them. -/
inductive Heeds : List (List UInt8) → List String → Ending → Prop
  | endOfInput : Heeds [] [] .endOfInput
  | notText {bytes : List UInt8} {rest : List (List UInt8)} :
      (∀ line, ¬ IsLine bytes line) → Heeds (bytes :: rest) [] .notText
  | asked {bytes : List UInt8} {rest : List (List UInt8)} {line : String} :
      IsLine bytes line → AsksToEnd line → Heeds (bytes :: rest) [] .asked
  | line {bytes : List UInt8} {rest : List (List UInt8)} {line : String} {lines : List String}
      {ending : Ending} :
      IsLine bytes line → ¬ AsksToEnd line → Heeds rest lines ending →
      Heeds (bytes :: rest) (line :: lines) ending

section Answers

variable {σ : Type} (reply : σ → (q : Request) → q.Reply × σ) (identity : Identity)

/-- What the lines are answered by the scripts as they are then, and what becomes of these and of the
surroundings. -/
inductive Answers : List String → Expansion → σ → List String → Expansion → σ → Prop
  | nil {x : Expansion} {s : σ} : Answers [] x s [] x s
  | blank {line : String} {lines out : List String} {x x' : Expansion} {s s' : σ} :
      Spells line [] → Answers lines x s out x' s' → Answers (line :: lines) x s out x' s'
  | command {line name : String} {args lines out : List String} {output : CommandOutput}
      {x x₁ x' : Expansion} {s s₁ s' : σ} :
      Spells line (name :: args) → name = "scriptex" ∨ name = "sx" →
      (x.execute 0 identity args).run reply s = ((output, x₁), s₁) → Answers lines x₁ s₁ out x' s' →
      Answers (line :: lines) x s (output.toLines ++ out) x' s'
  | unknown {line name : String} {args lines out : List String} {x x' : Expansion} {s s' : σ} :
      Spells line (name :: args) → name ≠ "scriptex" ∧ name ≠ "sx" → Answers lines x s out x' s' →
      Answers (line :: lines) x s
        (("Unknown command " ++ name ++ ". Known commands: scriptex, sx") :: out) x' s'

end Answers

section Step

variable {x : Expansion} {identity : Identity} {line name : String} {words args : List String}

theorem Spells.map_words (h : Spells line words) : (Text.words line.toList).map String.ofList = words := by
  simp [h.words_eq]

theorem spells_words (line : String) : Spells line ((Text.words line.toList).map String.ofList) := by
  have hwords := Text.words_eq_iff.mp (rfl : Text.words line.toList = _)
  simpa [Spells] using hwords

theorem Spells.unique {words' : List String} (h : Spells line words) (h' : Spells line words') :
    words' = words := by
  rw [← h.map_words, ← h'.map_words]

theorem asksToEnd_iff (h : Spells line (name :: args)) : AsksToEnd line ↔ name = "quit" ∨ name = "exit" := by
  constructor
  · rintro ⟨name', args', h', hname⟩
    cases h.unique h'
    exact hname
  · exact fun hname => ⟨name, args, h, hname⟩

theorem handler?_start (x : Expansion) (identity : Identity) (name : String) :
    (start x identity).table.handler? name =
      if name = "scriptex" ∨ name = "sx" then some () else none := by
  have htable : (start x identity).table = ⟨(Dict.empty.insert "scriptex" ()).insert "sx" ()⟩ := rfl
  rw [htable, CommandTable.handler?_insert]
  split
  · simp_all
  · next hsx =>
    have hfirst := CommandTable.handler?_insert (⟨Dict.empty⟩ : CommandTable Unit) "scriptex" name ()
    rw [hfirst]
    simp [hsx]
    rfl

theorem step_of_blank (h : Spells line []) :
    (start x identity).step (some line) = .done (.output [], start x identity) := by
  rw [step, h.map_words]
  rfl

theorem step_of_asksToEnd (h : AsksToEnd line) :
    (start x identity).step (some line) = .done (.ended true, start x identity) := by
  obtain ⟨name, args, hline, hname⟩ := h
  simp only [step, hline.map_words]
  rw [if_pos (by simpa using hname)]
  rfl

theorem step_of_command (h : Spells line (name :: args)) (hname : name = "scriptex" ∨ name = "sx") :
    (start x identity).step (some line) =
      (x.execute 0 identity args).bind fun r => .done (.output r.1.toLines, start r.2 identity) := by
  have hgoes : ¬ (decide (name = "quit") || decide (name = "exit")) = true := by
    rcases hname with rfl | rfl <;> decide
  simp only [step, h.map_words]
  rw [if_neg hgoes, handler?_start, if_pos hname]
  rfl

theorem names_start (x : Expansion) (identity : Identity) :
    (start x identity).table.names = ["scriptex", "sx"] := rfl

theorem unknownLine_names (name : String) (x : Expansion) (identity : Identity) :
    unknownLine name (start x identity).table.names =
      "Unknown command " ++ name ++ ". Known commands: scriptex, sx" := by
  have hnames : ". Known commands: " ++ ", ".intercalate ["scriptex", "sx"] =
      ". Known commands: scriptex, sx" := by decide +kernel
  unfold unknownLine
  simp only [names_start, String.append_assoc, hnames]

theorem step_of_unknown (h : Spells line (name :: args)) (hgoes : ¬ AsksToEnd line)
    (hname : name ≠ "scriptex" ∧ name ≠ "sx") :
    (start x identity).step (some line) = .done
      (.output ["Unknown command " ++ name ++ ". Known commands: scriptex, sx"], start x identity) := by
  rw [asksToEnd_iff h] at hgoes
  simp only [step, h.map_words]
  rw [if_neg (by simpa using hgoes), handler?_start, if_neg (not_or.mpr hname)]
  dsimp only
  rw [unknownLine_names]
  rfl

end Step

section Run

variable {σ : Type} {reply : σ → (q : Request) → q.Reply × σ} {identity : Identity}
  {pieces : List (List UInt8)} {lines out : List String} {ending : Ending} {x x' : Expansion} {s s' : σ}

theorem run_cons_of_output {line : Option String} {printed : List String} {x₁ : Expansion} {s₁ : σ}
    (h : ((start x identity).step line).run reply s = ((.output printed, start x₁ identity), s₁))
    (rest : List (Option String)) :
    (run (line :: rest) (start x identity)).run reply s =
      let ((others, ok, console), s₂) := (run rest (start x₁ identity)).run reply s₁
      ((printed ++ others, ok, console), s₂) := by
  rw [run, Dialogue.bind_eq, Dialogue.run_bind, h]
  dsimp only
  rw [Dialogue.bind_eq, Dialogue.run_bind]
  rfl

theorem run_cons_of_ended {line : Option String} {ok : Bool}
    (h : (start x identity).step line = .done (.ended ok, start x identity)) (rest : List (Option String)) :
    run (line :: rest) (start x identity) = .done ([], ok, start x identity) := by
  rw [run, h]
  rfl

theorem Heeds.run_eq (h : Heeds pieces lines ending) (hanswers : Answers reply identity lines x s out x' s') :
    (run (pieces.map lineOf) (start x identity)).run reply s =
      ((out, decide (ending ≠ .notText), start x' identity), s') := by
  induction h generalizing x s out with
  | endOfInput =>
    cases hanswers
    rfl
  | notText hbytes =>
    cases hanswers
    rw [List.map_cons, lineOf_eq_none_iff.mpr hbytes, run_cons_of_ended rfl]
    rfl
  | asked hline hasks =>
    cases hanswers
    rw [List.map_cons, lineOf_eq_some_iff.mpr hline, run_cons_of_ended (step_of_asksToEnd hasks)]
    rfl
  | @line bytes rest line lines ending hline hgoes _ ih =>
    rw [List.map_cons, lineOf_eq_some_iff.mpr hline]
    cases hanswers with
    | blank hwords hrest =>
      have hstep : ((start x identity).step (some line)).run reply s =
          ((.output [], start x identity), s) := by rw [step_of_blank hwords]; rfl
      rw [run_cons_of_output hstep, ih hrest]
      rfl
    | @command _ name args _ out output _ x₁ _ _ s₁ _ hwords hname hexecute hrest =>
      have hstep : ((start x identity).step (some line)).run reply s =
          ((.output output.toLines, start x₁ identity), s₁) := by
        rw [step_of_command hwords hname, Dialogue.run_bind, hexecute]
        rfl
      rw [run_cons_of_output hstep, ih hrest]
    | @unknown _ name args _ out _ _ _ _ hwords hname hrest =>
      have hstep : ((start x identity).step (some line)).run reply s =
          ((.output ["Unknown command " ++ name ++ ". Known commands: scriptex, sx"],
            start x identity), s) := by rw [step_of_unknown hwords hgoes hname]; rfl
      rw [run_cons_of_output hstep, ih hrest]
      rfl

theorem exists_heeds (pieces : List (List UInt8)) : ∃ lines ending, Heeds pieces lines ending := by
  induction pieces with
  | nil => exact ⟨[], .endOfInput, .endOfInput⟩
  | cons bytes rest ih =>
    obtain ⟨lines, ending, hrest⟩ := ih
    cases hline : lineOf bytes with
    | none => exact ⟨[], .notText, .notText (lineOf_eq_none_iff.mp hline)⟩
    | some line =>
      rw [lineOf_eq_some_iff] at hline
      by_cases hasks : AsksToEnd line
      · exact ⟨[], .asked, .asked hline hasks⟩
      · exact ⟨line :: lines, ending, .line hline hasks hrest⟩

theorem exists_answers (reply : σ → (q : Request) → q.Reply × σ) (identity : Identity) (lines : List String)
    (x : Expansion) (s : σ) : ∃ out x' s', Answers reply identity lines x s out x' s' := by
  induction lines generalizing x s with
  | nil => exact ⟨[], x, s, .nil⟩
  | cons line lines ih =>
    have hline := spells_words line
    generalize (Text.words line.toList).map String.ofList = words at hline
    cases words with
    | nil =>
      obtain ⟨out, x', s', hrest⟩ := ih x s
      exact ⟨out, x', s', .blank hline hrest⟩
    | cons name args =>
      by_cases hname : name = "scriptex" ∨ name = "sx"
      · obtain ⟨out, x', s', hrest⟩ := ih ((x.execute 0 identity args).run reply s).1.2
          ((x.execute 0 identity args).run reply s).2
        exact ⟨_, x', s', .command hline hname rfl hrest⟩
      · obtain ⟨out, x', s', hrest⟩ := ih x s
        exact ⟨_, x', s', .unknown hline (not_or.mp hname) hrest⟩

end Run

end PlaceholderScripts.Console

namespace PlaceholderScripts

section Saving

variable {σ : Type} (reply : σ → (q : Request) → q.Reply × σ)

/-- The surroundings when the data of each script has been saved, in their order. -/
def Registry.flushed (r : Registry) (s : σ) : σ :=
  r.registered.foldl (fun s d => (d.data.save.run reply s).2) s

theorem Registry.afterFlush_eq_flushed (r : Registry) (s : σ) : r.afterFlush reply s = r.flushed reply s := by
  have hstores (stores : List Store) (s : σ) : ((saveStores stores).run reply s).2 =
      stores.foldl (fun s store => (store.save.run reply s).2) s := by
    induction stores generalizing s with
    | nil => rfl
    | cons store rest ih =>
      rw [run_saveStores_cons, List.foldl_cons, ← ih]
  rw [afterFlush, saveAll, hstores, List.foldl_map, flushed]

namespace CommandLine

theorem run_saving (outcome : Outcome) (x : Expansion) (s : σ) :
    (saving outcome x).run reply s = (outcome, x.registry.flushed reply s) := by
  rw [saving, Dialogue.bind_eq, Dialogue.run_bind, ← Registry.afterFlush_eq_flushed]
  rfl

theorem run_act_console {pieces : List (List UInt8)} {lines out : List String} {ending : Console.Ending}
    {x x' : Expansion} {identity : Identity} {s s' : σ} (hheeds : Console.Heeds pieces lines ending)
    (hanswers : Console.Answers reply identity lines x s out x' s') :
    (act x identity (pieces.map Console.lineOf) .console).run reply s =
      (⟨if ending = .notText then 1 else 0, out⟩, x'.registry.flushed reply s') := by
  rw [act, Dialogue.bind_eq, Dialogue.run_bind, hheeds.run_eq hanswers]
  dsimp only
  rw [run_saving]
  cases ending <;> rfl

/-- With the scripts loaded, the console answers the lines of its input up to the end and then saves the data
of all scripts; it fails only at a line that is no text. -/
theorem Invocation.run_console_iff {invocation : Invocation} {environment : Settings} {factory : Factory}
    {fresh : PlayerId} {s loaded : σ} {count : Nat} {x : Expansion}
    (haction : invocation.action = .console)
    (hload : (expansionOf (invocation.settings environment) (invocation.requester.identity fresh)
      factory).load.run reply s = ((.ok count, x), loaded))
    (input : List UInt8) (outcome : Outcome) (after : σ) :
    (invocation.run environment factory fresh (Console.inputLines input)).run reply s = (outcome, after) ↔
      ∃ pieces lines ending out x' s',
        Text.CutsInto 10 id input pieces ∧ Console.Heeds pieces lines ending ∧
        Console.Answers reply (invocation.requester.identity fresh) lines x loaded out x' s' ∧
        outcome = ⟨if ending = .notText then 1 else 0, out⟩ ∧ after = x'.registry.flushed reply s' := by
  have hrun (pieces : List (List UInt8)) (lines : List String) (ending : Console.Ending)
      (out : List String) (x' : Expansion) (s' : σ) (hpieces : Text.CutsInto 10 id input pieces)
      (hheeds : Console.Heeds pieces lines ending)
      (hanswers : Console.Answers reply (invocation.requester.identity fresh) lines x loaded out x' s') :
      (invocation.run environment factory fresh (Console.inputLines input)).run reply s =
        (⟨if ending = .notText then 1 else 0, out⟩, x'.registry.flushed reply s') := by
    rw [run, Dialogue.bind_eq, Dialogue.run_bind, hload, Console.inputLines,
      Console.cutLines_eq_iff.mpr hpieces]
    dsimp only
    rw [haction, run_act_console reply hheeds hanswers]
  constructor
  · intro houtcome
    obtain ⟨pieces, hpieces⟩ := Text.exists_cutsInto 10 id input
    obtain ⟨lines, ending, hheeds⟩ := Console.exists_heeds pieces
    obtain ⟨out, x', s', hanswers⟩ :=
      Console.exists_answers reply (invocation.requester.identity fresh) lines x loaded
    have hended := hrun pieces lines ending out x' s' hpieces hheeds hanswers
    obtain ⟨rfl, rfl⟩ := Prod.mk.inj (houtcome.symm.trans hended)
    exact ⟨pieces, lines, ending, out, x', s', hpieces, hheeds, hanswers, rfl, rfl⟩
  · rintro ⟨pieces, lines, ending, out, x', s', hpieces, hheeds, hanswers, rfl, rfl⟩
    exact hrun pieces lines ending out x' s' hpieces hheeds hanswers

end CommandLine

end Saving

namespace CommandLine

/-- A world with a single script. -/
def singleScript : World where
  files :=
    { nodes :=
        [(["scripts"], .directory), (["scripts", "scripts.yml"], .file (.text "a:\n  file: a.js\n")),
          (["scripts", "a.js"], .file (.text "1"))]
      working := [] }
  clock := .zero
  service := SubstitutionTable.service .empty

/-- Code, a blank line, a name that is no command, and a line that is no text, with more behind it. -/
def unreadableInput : List UInt8 :=
  " sx parse anon 1 + 1\n \r\nnope a\n".toUTF8.data.toList ++ 255 :: 10 :: "sx".toUTF8.data.toList

/-- The data is saved also where the console fails. -/
theorem Invocation.run_console_iff_unreadable :
    let console : Invocation := { action := .console }
    let factory : Factory := { library := ⟨[]⟩, rounds := 10 }
    let loading := (expansionOf (console.settings {}) .anonymous factory).load.run World.reply singleScript
    console.action = .console ∧ loading.1.1 = .ok 1 ∧
      ∃ pieces lines ending x' s',
        Text.CutsInto 10 id unreadableInput pieces ∧ Console.Heeds pieces lines ending ∧
        Console.Answers World.reply .anonymous lines loading.1.2 loading.2
          ["2", "Unknown command nope. Known commands: scriptex, sx"] x' s' ∧ ending = .notText ∧
        (x'.registry.flushed World.reply s').files.node? ["scripts", "data", "a_data.yml"] =
          some (.file (.text "\x7b\x7d\n")) := by
  intro console factory loading
  have hcount : loading.1.1 = .ok 1 := by decide +kernel
  have hload : loading = ((.ok 1, loading.1.2), loading.2) := by rw [← hcount]
  let running := (console.run {} factory ⟨0⟩ (Console.inputLines unreadableInput)).run World.reply singleScript
  have houtcome : running.1 = ⟨1, ["2", "Unknown command nope. Known commands: scriptex, sx"]⟩ := by
    decide +kernel
  obtain ⟨pieces, lines, ending, out, x', s', hpieces, hheeds, hanswers, hended, hafter⟩ :=
    (run_console_iff World.reply rfl hload unreadableInput running.1 running.2).mp rfl
  rw [houtcome] at hended
  obtain ⟨hexit, rfl⟩ := Outcome.mk.inj hended
  refine ⟨rfl, hcount, pieces, lines, ending, x', s', hpieces, hheeds, hanswers, ?_, ?_⟩
  · by_contra hending
    rw [if_neg hending] at hexit
    cases hexit
  · rw [← hafter]
    decide +kernel

end CommandLine

end PlaceholderScripts
