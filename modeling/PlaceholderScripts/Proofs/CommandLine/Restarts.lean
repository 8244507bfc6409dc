import PlaceholderScripts.Proofs.CommandLine.Processes
import PlaceholderScripts.Proofs.Store.RoundTrip

/-!
# Restarts

Processes of their own, one for each call, and a single process for all of them cannot be told apart by
what is printed, nor by the files that are left. A process finds in the files the values that the single
one has in its registry; the evaluation goes the same way on both; and the save at the end puts the values
that came of it where the next process looks.
-/

namespace PlaceholderScripts

namespace CommandLine

/-- What all processes have in common: their options and their surroundings, and the files that are there
at first, in which scripts can be loaded and saved. -/
structure Setup where
  invocation : Invocation
  environment : Settings
  factory : Factory
  fresh : PlayerId
  /-- When the single process loads the scripts. -/
  now : Instant
  configuration : Configuration
  files : FileSystem
  made : FileSystem
  dir : Place
  grounds : (invocation.loader environment).Grounds configuration files made dir
  requester : invocation.requester.player = none ∨ invocation.requester.id.isSome

namespace Setup

variable (setup : Setup)

def loader : Loader := setup.invocation.loader setup.environment

def identity : Identity := setup.invocation.requester.identity setup.fresh

def IsLoadable (identifier : String) : Prop :=
  setup.loader.IsLoadable setup.files.readText setup.configuration identifier

def Holds (vals : String → Dict Datum) (files : FileSystem) : Prop :=
  Loader.Settled setup.IsLoadable setup.made setup.dir vals files

def process (start : Start) : Program Outcome :=
  setup.invocation.process setup.environment setup.factory start

def restarts (starts : List Start) (world : World) : List Outcome × World :=
  setup.invocation.restarts setup.environment setup.factory starts world

theorem restarts_cons (start : Start) (rest : List Start) (world : World) :
    setup.restarts (start :: rest) world =
      let (outcome, world) := World.run { world with clock := start.reading } (setup.process start)
      let (outcomes, world) := setup.restarts rest world
      (outcome :: outcomes, world) := rfl

/-- Between two processes the files offer the values that the single process has in its registry. -/
structure InStep (vals : String → Dict Datum) (world : World) (x : Expansion) (single : World) :
    Prop where
  offers : setup.loader.Offers setup.configuration setup.files.readText vals world.texts
  serves : setup.loader.Serves setup.configuration setup.files.readText vals setup.now x.registry
  evaluator : (setup.invocation.expansion setup.environment setup.factory
    setup.fresh).evaluator.Alike x.evaluator
  sides : Loader.DataDir.Sides setup.loader setup.IsLoadable setup.made setup.dir world single

variable {setup} {vals : String → Dict Datum} {world single : World} {x : Expansion}

/-- A process does what the single one does meanwhile, and saves the values that come of it. -/
theorem InStep.step (h : setup.InStep vals world x single) {start : Start}
    (hstart : start.IsUncached setup.loader setup.configuration setup.files.readText setup.now)
    (hreads : (single.run
      (evalScript x setup.identity start.identifier start.args)).1.2.registry.ReadsBack) :
    let ((outcome, x'), single') := single.run (evalScript x setup.identity start.identifier start.args)
    let (outcome', world') := World.run { world with clock := start.reading } (setup.process start)
    outcome' = outcome ∧
      ∃ vals', setup.Holds vals' world'.files ∧ setup.InStep vals' world' x' single' := by
  obtain ⟨entry, template, old, hentry, hold, hpolicy, hpolicy'⟩ := hstart
  have hany : ∃ identifier, setup.IsLoadable identifier :=
    ⟨start.identifier, entry, template, old, hentry, hold⟩
  have hgrounds := setup.grounds
  let before : World := { world with clock := start.reading }
  have hoffers : setup.loader.Offers setup.configuration setup.files.readText vals before.texts :=
    h.offers
  obtain ⟨n, r, hload, hserves⟩ := hoffers.run_load
  have hsides : Loader.DataDir.Sides setup.loader setup.IsLoadable setup.made setup.dir before single :=
    ⟨h.sides.service, h.sides.ready, h.sides.ready'⟩
  let loaded : Expansion :=
    { setup.invocation.expansion setup.environment setup.factory setup.fresh with registry := r }
  have halike : loaded.evaluator.Alike x.evaluator := h.evaluator
  obtain ⟨values, hsame⟩ := evalScript_same (x := loaded) hgrounds.toDataDir hserves h.serves halike
    hsides hentry hold hpolicy hpolicy' setup.identity start.args
  -- the process ends with a save of what the evaluation left
  have hprocess : before.run (setup.process start) =
      let after := before.run (evalScript loaded setup.identity start.identifier start.args)
      (after.1.1, (after.2.run after.1.2.registry.saveAll).2) :=
    setup.invocation.run_process setup.environment setup.factory setup.requester start setup.fresh hload
      hsame.succeeded
  generalize before.run (evalScript loaded setup.identity start.identifier start.args) = after
    at hsame hprocess
  generalize single.run (evalScript x setup.identity start.identifier start.args) = after'
    at hsame hreads ⊢
  obtain ⟨⟨outcome, x'⟩, world'⟩ := after
  obtain ⟨⟨outcome', x''⟩, single'⟩ := after'
  obtain ⟨files, hholds, hsaved⟩ := hsame.serves.run_saveAll hgrounds.toDataDir hsame.sides.ready hany
  have hrun : before.run (setup.process start) = (outcome, { world' with files }) := by
    rw [← hsaved]
    exact hprocess
  rw [hrun]
  refine ⟨hsame.outcome.symm, _, hholds, ?_⟩
  exact
    { offers := hgrounds.offers_of_settled hholds (fun _ hid => hsame.serves'.reads hreads hid) hany
      serves := hsame.serves'
      evaluator := hsame.evaluator
      sides := ⟨hsame.sides.service, hgrounds.ready hholds.grown, hsame.sides.ready'⟩ }

theorem InStep.run {starts : List Start} (h : setup.InStep vals world x single)
    (hstarts : ∀ start ∈ starts,
      start.IsUncached setup.loader setup.configuration setup.files.readText setup.now)
    (hreads : ∀ n, (single.run (evalAll setup.identity ((starts.take (n + 1)).map Start.call)
      x)).1.2.registry.ReadsBack)
    (hholds : starts ≠ [] ∨ setup.Holds vals world.files) :
    let ((outcomes, x'), single') := single.run (evalAll setup.identity (starts.map Start.call) x)
    let (outcomes', world') := setup.restarts starts world
    outcomes' = outcomes ∧
      ∃ vals', setup.Holds vals' world'.files ∧ setup.InStep vals' world' x' single' := by
  -- before a call the files offer the values of the registry, and after it they hold them
  induction starts generalizing vals world x single with
  | nil => exact ⟨rfl, vals, hholds.resolve_left (fun hne => hne rfl), h⟩
  | cons start rest ih =>
    have hfirst := hreads 0
    have hothers := fun n => hreads (n + 1)
    simp only [List.take_succ_cons, List.take_zero, List.map_cons, List.map_nil, Start.call,
      run_evalAll_cons] at hfirst hothers ⊢
    have hstep := h.step (hstarts start List.mem_cons_self) hfirst
    rw [restarts_cons]
    generalize single.run (evalScript x setup.identity start.identifier start.args) = after
      at hstep hothers ⊢
    generalize World.run { world with clock := start.reading } (setup.process start) = restarted
      at hstep ⊢
    obtain ⟨⟨outcome, x'⟩, single'⟩ := after
    obtain ⟨outcome', world'⟩ := restarted
    obtain ⟨rfl, vals', hholds', h'⟩ := hstep
    obtain ⟨hrest, hend⟩ := ih h' (fun later hlater => hstarts later (List.mem_cons_of_mem _ hlater))
      hothers (.inr hholds')
    exact ⟨congrArg (outcome' :: ·) hrest, hend⟩

/-- In the end the files are as the single process leaves them, too. -/
theorem InStep.run_saveAll {starts : List Start} (h : setup.InStep vals world x single)
    (hstarts : ∀ start ∈ starts,
      start.IsUncached setup.loader setup.configuration setup.files.readText setup.now)
    (hreads : ∀ n, (single.run (evalAll setup.identity ((starts.take (n + 1)).map Start.call)
      x)).1.2.registry.ReadsBack)
    (hne : starts ≠ []) (hany : ∃ identifier, setup.IsLoadable identifier) :
    let ((outcomes, x'), single') := single.run (evalAll setup.identity (starts.map Start.call) x)
    let (outcomes', world') := setup.restarts starts world
    outcomes' = outcomes ∧
      ∀ place, world'.files.node? place = (single'.run x'.registry.saveAll).2.files.node? place := by
  have hrun := h.run hstarts hreads (.inl hne)
  generalize single.run (evalAll setup.identity (starts.map Start.call) x) = after at hrun ⊢
  generalize setup.restarts starts world = restarted at hrun ⊢
  obtain ⟨⟨outcomes, x'⟩, single'⟩ := after
  obtain ⟨outcomes', world'⟩ := restarted
  obtain ⟨rfl, vals', hholds, h'⟩ := hrun
  obtain ⟨files, hsettled, hsaved⟩ :=
    h'.serves.run_saveAll setup.grounds.toDataDir h'.sides.ready' hany
  refine ⟨rfl, fun place => ?_⟩
  rw [hsaved]
  exact hsettled.node?_eq hholds place

end Setup

namespace Invocation

/-- The world and the calls for which restarts are expected not to show. -/
structure IsRestartable (invocation : Invocation) (environment : Settings) (factory : Factory)
    (fresh : PlayerId) (configuration : Configuration) (starts : List Start) (world : World) : Prop where
  /-- All processes have the same requester. -/
  requester : invocation.requester.player = none ∨ invocation.requester.id.isSome
  configured : starts ≠ [] → Configuration.ofReply (invocation.loader environment).configPath
    (world.texts (invocation.loader environment).configPath) = .ok configuration
  names : ∀ identifier entry, configuration.get? identifier = some entry → '/' ∉ identifier.toList
  uncached : ∀ start ∈ starts,
    start.IsUncached (invocation.loader environment) configuration world.texts world.clock
  /-- The scripts can be saved. -/
  saves : ∀ identifier entry template values, configuration.get? identifier = some entry →
    (invocation.loader environment).Loadable world.texts identifier entry template values →
    (world.run (Store.save
      ⟨identifier, some ((invocation.loader environment).dataFile identifier), values⟩)).1 = .ok ()
  /-- What is written after each call reads back. -/
  reads : ∀ n, (world.run (invocation.serve environment factory fresh
    ((starts.take (n + 1)).map Start.call))).1.2.registry.ReadsBack
  /-- Neither the configuration nor a template is a data file, also not once their directory is made. -/
  apart : ∀ path identifier, (invocation.loader environment).Reads configuration path →
    (invocation.loader environment).IsLoadable world.texts configuration identifier →
    ((invocation.loader environment).makeDataDir world.files).2.resolve path ≠
      ((invocation.loader environment).makeDataDir world.files).2.resolve
        ((invocation.loader environment).dataFile identifier)

/-- Restarts do not show. Processes of their own, one for each call, print what a single process for all
calls prints, and if there is any call, they leave the same files. The only thing to take care of is that
the first save may make the directory of the data files, through which a template could come into reach. -/
theorem restarts_are_invisible {invocation : Invocation} {environment : Settings} {factory : Factory}
    {fresh : PlayerId} {configuration : Configuration} {starts : List Start} {world : World}
    (h : invocation.IsRestartable environment factory fresh configuration starts world)
    (htemplates : ∀ identifier entry text, configuration.get? identifier = some entry →
      ((invocation.loader environment).makeDataDir world.files).2.readText
        (Path.join (invocation.loader environment).scriptsDir entry.file) = .ok text →
      world.texts (Path.join (invocation.loader environment).scriptsDir entry.file) = .ok text) :
    let restarted := invocation.restarts environment factory starts world
    let single := world.run (invocation.serveAndSave environment factory fresh (starts.map Start.call))
    restarted.1 = single.1 ∧
      (starts ≠ [] → ∀ place, restarted.2.files.node? place = single.2.files.node? place) := by
  by_cases hempty : starts = []
  · subst hempty
    exact ⟨(invocation.run_serveAndSave_nil environment factory fresh world).symm,
      fun hne => absurd rfl hne⟩
  · have hconfigured := h.configured hempty
    obtain ⟨n, r, hload, hserves⟩ := (Loader.offers_loadableValues hconfigured).run_load
    have hsingle := invocation.run_serveAndSave environment factory fresh (starts.map Start.call) hload
    have hreads := h.reads
    simp only [invocation.run_serve environment factory fresh _ hload] at hreads
    rw [hsingle]
    have hany : ∃ identifier,
        (invocation.loader environment).IsLoadable world.texts configuration identifier := by
      obtain ⟨start, hstart⟩ := List.exists_mem_of_ne_nil starts hempty
      obtain ⟨entry, template, values, hentry, hloadable, _⟩ := h.uncached start hstart
      exact ⟨start.identifier, entry, template, values, hentry, hloadable⟩
    obtain ⟨dir, hgrounds⟩ :=
      Loader.Grounds.of_saves rfl hconfigured h.names h.saves h.apart htemplates hany
    let setup : Setup :=
      { invocation, environment, factory, fresh, now := world.clock, configuration, files := world.files
        made := _, dir, grounds := hgrounds, requester := h.requester }
    have hready : Loader.DataDir.Ready setup.loader setup.IsLoadable setup.made dir world.files :=
      ⟨_, hgrounds.origin, .refl _ _⟩
    have hstep : setup.InStep _ world
        { invocation.expansion environment factory fresh with registry := r } world :=
      { offers := Loader.offers_loadableValues hconfigured
        serves := hserves
        evaluator := Evaluator.alike_new _ _
        sides := ⟨rfl, hready, hready⟩ }
    obtain ⟨houtcomes, hfiles⟩ := hstep.run_saveAll h.uncached hreads hempty hany
    exact ⟨houtcomes, fun _ => hfiles⟩

end Invocation

section Fixed

open Invocation

def plainInvocation : Invocation := { action := .list }

def bareFactory : Factory := { library := ⟨[]⟩, rounds := 10 }

def firstStart : Start := ⟨"a", [], .zero, ⟨0⟩⟩

/-- Where no script has a value there is nothing that could not be read back. -/
theorem readsBack_of_isEmpty {r : Registry}
    (h : r.registered.all (fun d => d.data.values.isEmpty) = true) : r.ReadsBack := by
  intro d hd
  exact Store.readsBack_of_empty
    (Dict.ext_entries (List.isEmpty_iff.mp (List.all_eq_true.mp h d hd)))

/-- A script that takes its values away, and fails if there were any. -/
def spending : World where
  files :=
    { nodes :=
        [(["scripts"], .directory), (["scripts", "scripts.yml"], .file (.text "a:\n  file: a.js\n")),
          (["scripts", "a.js"], .file (.text "let n = Data.keys().len(); Data.clear(); [0][n]")),
          (["scripts", "data"], .directory),
          (["scripts", "data", "a_data.yml"], .file (.text Loader.countText))]
      working := [] }
  clock := .zero
  service := fun _ _ text => .ok text

def spendingScripts : Configuration := .ofList [("a", ⟨"a.js", none⟩)]

theorem spendingScripts_get? {identifier : String} {entry : ScriptEntry}
    (h : spendingScripts.get? identifier = some entry) : identifier = "a" ∧ entry = ⟨"a.js", none⟩ := by
  have hmem := Dict.get?_eq_some_iff.mp h
  have hentries : spendingScripts.entries = [("a", ⟨"a.js", none⟩)] := rfl
  rw [hentries, List.mem_singleton] at hmem
  exact Prod.mk.inj hmem

theorem exists_loadable_spending : ∃ template,
    (plainInvocation.loader {}).Loadable spending.texts "a" ⟨"a.js", none⟩ template Loader.counted := by
  refine ⟨"let n = Data.keys().len(); Data.clear(); [0][n]", by decide +kernel, ?_⟩
  have hdata : spending.texts ((plainInvocation.loader {}).dataFile "a") = .ok Loader.countText := by
    decide +kernel
  rw [hdata]
  exact .mapping (by decide +kernel) Loader.readData_countText

theorem isRestartable_spending : plainInvocation.IsRestartable {} bareFactory ⟨0⟩ spendingScripts
    [firstStart, firstStart] spending := by
  obtain ⟨template, hloadable⟩ := exists_loadable_spending
  constructor
  case requester => exact .inl rfl
  case configured =>
    intro _
    decide +kernel
  case names =>
    intro identifier entry hentry
    obtain ⟨rfl, -⟩ := spendingScripts_get? hentry
    decide
  case uncached =>
    intro start hstart
    obtain rfl : start = firstStart := by simpa using hstart
    exact ⟨_, template, _, rfl, hloadable, rfl, rfl⟩
  case saves =>
    intro identifier entry template values hentry hthere
    obtain ⟨rfl, rfl⟩ := spendingScripts_get? hentry
    obtain ⟨-, rfl⟩ := hloadable.unique hthere
    decide +kernel
  case reads =>
    intro n
    apply readsBack_of_isEmpty
    cases n with
    | zero => decide +kernel
    | succ n =>
      rw [List.take_of_length_le (by simp)]
      decide +kernel
  case apart =>
    rintro path identifier (rfl | ⟨other, entry, hentry, rfl⟩) ⟨_, _, _, hid, _⟩
    · obtain ⟨rfl, -⟩ := spendingScripts_get? hid
      decide +kernel
    · obtain ⟨rfl, rfl⟩ := spendingScripts_get? hentry
      obtain ⟨rfl, -⟩ := spendingScripts_get? hid
      decide +kernel

/-- The first process fails, but not without having taken the value away, and so the second one does
not fail. -/
theorem restarts_are_invisible_failing :
    plainInvocation.IsRestartable {} bareFactory ⟨0⟩ spendingScripts [firstStart, firstStart] spending ∧
      (plainInvocation.restarts {} bareFactory [firstStart, firstStart] spending).1 =
        [⟨0, ["Script error (check console)"]⟩, ⟨0, ["0"]⟩] ∧
      (plainInvocation.restarts {} bareFactory [firstStart, firstStart] spending).1 =
        (spending.run (plainInvocation.serveAndSave {} bareFactory ⟨0⟩
          ([firstStart, firstStart].map Start.call))).1 ∧
      ∀ place,
        (plainInvocation.restarts {} bareFactory [firstStart, firstStart] spending).2.files.node? place =
          (spending.run (plainInvocation.serveAndSave {} bareFactory ⟨0⟩
            ([firstStart, firstStart].map Start.call))).2.files.node? place := by
  have htemplates : ∀ identifier entry text, spendingScripts.get? identifier = some entry →
      ((plainInvocation.loader {}).makeDataDir spending.files).2.readText
        (Path.join (plainInvocation.loader {}).scriptsDir entry.file) = .ok text →
      spending.texts (Path.join (plainInvocation.loader {}).scriptsDir entry.file) = .ok text := by
    intro identifier entry text hentry hread
    obtain ⟨rfl, rfl⟩ := spendingScripts_get? hentry
    have hsame : spending.texts (Path.join (plainInvocation.loader {}).scriptsDir "a.js") =
        ((plainInvocation.loader {}).makeDataDir spending.files).2.readText
          (Path.join (plainInvocation.loader {}).scriptsDir "a.js") := by
      decide +kernel
    exact hsame.trans hread
  obtain ⟨houtcomes, hfiles⟩ := restarts_are_invisible isRestartable_spending htemplates
  exact ⟨isRestartable_spending, by decide +kernel, houtcomes, hfiles (by simp)⟩

/-- The template of a second script is reached through the directory of the data files, which is not
there yet. -/
def secluded : World where
  files :=
    { nodes :=
        [(["scripts"], .directory),
          (["scripts", "scripts.yml"],
            .file (.text "a:\n  file: a.js\nb:\n  file: data/../b.js\n")),
          (["scripts", "a.js"], .file (.text "1")), (["scripts", "b.js"], .file (.text "2"))]
      working := [] }
  clock := .zero
  service := fun _ _ text => .ok text

def secludedScripts : Configuration := .ofList [("a", ⟨"a.js", none⟩), ("b", ⟨"data/../b.js", none⟩)]

theorem secludedScripts_get? {identifier : String} {entry : ScriptEntry}
    (h : secludedScripts.get? identifier = some entry) :
    (identifier = "a" ∧ entry = ⟨"a.js", none⟩) ∨ identifier = "b" ∧ entry = ⟨"data/../b.js", none⟩ := by
  have hmem := Dict.get?_eq_some_iff.mp h
  have hentries : secludedScripts.entries = [("a", ⟨"a.js", none⟩), ("b", ⟨"data/../b.js", none⟩)] := rfl
  rw [hentries] at hmem
  simpa using hmem

theorem loadable_secluded : (plainInvocation.loader {}).Loadable secluded.texts "a" ⟨"a.js", none⟩ "1"
    Dict.empty := by
  refine ⟨by decide +kernel, ?_⟩
  have hdata : secluded.texts ((plainInvocation.loader {}).dataFile "a") = .error .notFound := by
    decide +kernel
  rw [hdata]
  exact .absent

theorem eq_of_loadable_secluded {identifier : String} {entry : ScriptEntry} {template : String}
    {values : Dict Datum} (hentry : secludedScripts.get? identifier = some entry)
    (h : (plainInvocation.loader {}).Loadable secluded.texts identifier entry template values) :
    identifier = "a" ∧ values = Dict.empty := by
  rcases secludedScripts_get? hentry with ⟨rfl, rfl⟩ | ⟨rfl, rfl⟩
  · exact ⟨rfl, (loadable_secluded.unique h).2.symm⟩
  · have hgap : secluded.texts (Path.join (plainInvocation.loader {}).scriptsDir "data/../b.js") =
        .error .notFound := by
      decide +kernel
    have htemplate := h.template
    rw [hgap] at htemplate
    cases htemplate

theorem isRestartable_secluded {starts : List Start} (hstarts : ∀ start ∈ starts, start = firstStart)
    (hreads : ∀ n, (secluded.run (plainInvocation.serve {} bareFactory ⟨0⟩
      ((starts.take (n + 1)).map Start.call))).1.2.registry.ReadsBack) :
    plainInvocation.IsRestartable {} bareFactory ⟨0⟩ secludedScripts starts secluded := by
  constructor
  case requester => exact .inl rfl
  case configured =>
    intro _
    decide +kernel
  case names =>
    intro identifier entry hentry
    rcases secludedScripts_get? hentry with ⟨rfl, -⟩ | ⟨rfl, -⟩ <;> decide
  case uncached =>
    intro start hstart
    obtain rfl := hstarts start hstart
    exact ⟨_, _, _, rfl, loadable_secluded, rfl, rfl⟩
  case saves =>
    intro identifier entry template values hentry hthere
    obtain ⟨rfl, rfl⟩ := eq_of_loadable_secluded hentry hthere
    decide +kernel
  case reads => exact hreads
  case apart =>
    rintro path identifier (rfl | ⟨other, entry, hentry, rfl⟩) ⟨_, _, _, hid, hthere⟩
    · obtain ⟨rfl, -⟩ := eq_of_loadable_secluded hid hthere
      decide +kernel
    · obtain ⟨rfl, -⟩ := eq_of_loadable_secluded hid hthere
      rcases secludedScripts_get? hentry with ⟨rfl, rfl⟩ | ⟨rfl, rfl⟩ <;> decide +kernel

/-- A template that comes into reach shows, and so does a single process that has nothing to do. -/
theorem restarts_can_show :
    (plainInvocation.IsRestartable {} bareFactory ⟨0⟩ secludedScripts [firstStart, firstStart] secluded ∧
      (plainInvocation.restarts {} bareFactory [firstStart, firstStart] secluded).2.files.node?
        ["scripts", "data", "b_data.yml"] = some (.file (.text "\x7b\x7d\n")) ∧
      (secluded.run (plainInvocation.serveAndSave {} bareFactory ⟨0⟩
        ([firstStart, firstStart].map Start.call))).2.files.node?
        ["scripts", "data", "b_data.yml"] = none) ∧
    plainInvocation.IsRestartable {} bareFactory ⟨0⟩ secludedScripts [] secluded ∧
      (plainInvocation.restarts {} bareFactory [] secluded).2.files.node?
        ["scripts", "data", "a_data.yml"] = none ∧
      (secluded.run (plainInvocation.serveAndSave {} bareFactory ⟨0⟩ [])).2.files.node?
        ["scripts", "data", "a_data.yml"] = some (.file (.text "\x7b\x7d\n")) := by
  have htwice : plainInvocation.IsRestartable {} bareFactory ⟨0⟩ secludedScripts
      [firstStart, firstStart] secluded := by
    refine isRestartable_secluded (by simp) fun n => readsBack_of_isEmpty ?_
    cases n with
    | zero => decide +kernel
    | succ n =>
      rw [List.take_of_length_le (by simp)]
      decide +kernel
  have hnever : plainInvocation.IsRestartable {} bareFactory ⟨0⟩ secludedScripts [] secluded := by
    refine isRestartable_secluded (by simp) fun n => readsBack_of_isEmpty ?_
    rw [List.take_nil]
    decide +kernel
  refine ⟨⟨htwice, ?_, ?_⟩, hnever, ?_, ?_⟩
  all_goals decide +kernel

end Fixed

end CommandLine

end PlaceholderScripts
