import PlaceholderScripts.Proofs.Files.Writing
import PlaceholderScripts.Surroundings

/-!
# Surroundings with files

What can be read from the files of the surroundings depends on their state only, and nothing but writing
changes it. Surroundings with a disk also keep what is written to them. How a request fails is left to the
surroundings.
-/

namespace PlaceholderScripts

def Request.IsWriting : Request → Prop
  | .writeText _ _ => True
  | .createParents _ => True
  | _ => False

variable {σ : Type}

/-- In every state there is something to be read from each path, and only writing changes it. -/
structure SteadyFiles (reply : σ → (q : Request) → q.Reply × σ)
    (files : σ → Path → Except FileError String) : Prop where
  reading : ∀ s path, (reply s (.readText path)).1 = files s path
  steady : ∀ s q, ¬ q.IsWriting → files (reply s q).2 = files s

/-- A conversation without writing leaves what can be read from the files. -/
theorem SteadyFiles.run_of_asked {reply : σ → (q : Request) → q.Reply × σ}
    {files : σ → Path → Except FileError String} (h : SteadyFiles reply files) {α : Type}
    {program : Program α} {s : σ} (hasked : ∀ q ∈ program.asked reply s, ¬ q.IsWriting) :
    files (program.run reply s).2 = files s := by
  induction program generalizing s with
  | done a => rfl
  | ask q next ih =>
    obtain ⟨hfirst, hrest⟩ := List.forall_mem_cons.mp hasked
    exact (ih _ hrest).trans (h.steady s q hfirst)

/-- What is written to a file reads back. Neither writing it nor making the directories above it spoils
what can be read elsewhere. -/
structure Disk (reply : σ → (q : Request) → q.Reply × σ)
    (files : σ → Path → Except FileError String) : Prop extends SteadyFiles reply files where
  written : ∀ s path text, (reply s (.writeText path text)).1 = .ok () →
    files (reply s (.writeText path text)).2 path = .ok text
  siblings : ∀ s dir name other text, Path.IsName name → Path.IsName other → name ≠ other →
    files (reply s (.writeText (Path.join dir name) text)).2 (Path.join dir other) =
      files s (Path.join dir other)
  parents : ∀ s path p text, files s p = .ok text →
    files (reply s (.createParents path)).2 p = .ok text

namespace World

def texts (world : World) (path : Path) : Except FileError String := world.files.readText path

theorem reply_of_not_writing (world : World) {q : Request} (h : ¬ q.IsWriting) :
    (world.reply q).2 = world := by
  cases q with
  | now => rfl
  | readText path => rfl
  | substitute form identity text => rfl
  | writeText path text => exact absurd trivial h
  | createParents path => exact absurd trivial h

theorem steadyFiles : SteadyFiles reply texts where
  reading := fun _ _ => rfl
  steady := fun world _ h => congrArg texts (world.reply_of_not_writing h)

theorem disk : Disk reply texts where
  toSteadyFiles := steadyFiles
  written := by
    intro world path text hok
    simp only [reply] at hok ⊢
    cases hwrite : world.files.writeText path text with
    | error e =>
      rw [hwrite] at hok
      exact nomatch hok
    | ok files => exact FileSystem.readText_writeText hwrite
  siblings := by
    intro world dir name other text hname hother hne
    simp only [reply]
    cases hwrite : world.files.writeText (Path.join dir name) text with
    | error e => rfl
    | ok files => exact FileSystem.readText_writeText_of_ne hname hother hne hwrite
  parents := by
    intro world path p text hread
    simp only [reply]
    cases Path.parentNames? path with
    | none => exact hread
    | some names =>
      simp only [FileSystem.createDirectories]
      split
      · exact hread
      · exact (FileSystem.makesDirectories_makeDirectories _ _ names).readText hread

end World

end PlaceholderScripts
