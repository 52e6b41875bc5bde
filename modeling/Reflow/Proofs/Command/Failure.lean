import Mathlib
import Reflow.Command.Run

/-!
# Commands that fail

A command reads all that it needs before it writes anything, and it writes once. Up to the writing
only readings can have failed, and a writing that fails in a world has not begun. So whatever the
error is and wherever it arises, all files are as they were and nothing has been printed.
-/

namespace Reflow.Command

/-- The files are the same in two worlds, and so is what has been printed. -/
structure World.Untouched (before after : World) : Prop where
  directory : after.directory = before.directory
  standardOutput : after.standardOutput = before.standardOutput

namespace World.Untouched

theorem refl (world : World) : Untouched world world := ⟨rfl, rfl⟩

theorem trans {first second third : World} (left : Untouched first second)
    (right : Untouched second third) : Untouched first third :=
  ⟨right.directory.trans left.directory, right.standardOutput.trans left.standardOutput⟩

end World.Untouched

namespace Program

variable {α β : Type}

/-- The world after a program, whether it has failed or not. -/
def worldAfter (program : Program α) (world : World) : World :=
  match program world with
  | .ok _ after => after
  | .error _ after => after

/-- A program that neither changes a file nor prints. -/
def OnlyReads (program : Program α) : Prop :=
  ∀ world : World, world.Untouched (worldAfter program world)

/-- A program that has neither changed a file nor printed where it fails. -/
def FailsClean (program : Program α) : Prop :=
  ∀ (world after : World) (error : Error), program world = .error error after →
    world.Untouched after

/-! ## One thing after the other -/

theorem bind_apply (first : Program α) (next : α → Program β) (world : World) :
    (first >>= next) world =
      match first world with
      | .ok value between => next value between
      | .error error after => .error error after := by
  change EStateM.bind first next world = _
  rw [EStateM.bind]
  cases first world <;> rfl

theorem OnlyReads.of_ok {program : Program α} (reads : OnlyReads program) {world after : World}
    {value : α} (ended : program world = .ok value after) : world.Untouched after := by
  have untouched := reads world
  rwa [worldAfter, ended] at untouched

theorem OnlyReads.failsClean {program : Program α} (reads : OnlyReads program) :
    FailsClean program := by
  intro world after error failed
  have untouched := reads world
  rwa [worldAfter, failed] at untouched

/-- A program that begins with reading fails clean if what follows does. -/
theorem FailsClean.bind {first : Program α} {next : α → Program β} (reads : OnlyReads first)
    (clean : ∀ value, FailsClean (next value)) : FailsClean (first >>= next) := by
  intro world after error failed
  rw [bind_apply] at failed
  cases begun : first world with
  | ok value between =>
      rw [begun] at failed
      exact (reads.of_ok begun).trans (clean value between after error failed)
  | error fault between =>
      rw [begun] at failed
      cases failed
      exact reads.failsClean world after error begun

theorem OnlyReads.bind {first : Program α} {next : α → Program β} (reads : OnlyReads first)
    (alsoReads : ∀ value, OnlyReads (next value)) : OnlyReads (first >>= next) := by
  intro world
  rw [worldAfter, bind_apply]
  cases begun : first world with
  | ok value between => exact (reads.of_ok begun).trans (alsoReads value between)
  | error fault between => exact reads.failsClean world between fault begun

/-! ## Reading -/

theorem onlyReads_pure (value : α) : OnlyReads (pure value) :=
  fun world => .refl world

theorem onlyReads_require (result : Except Error α) : OnlyReads (require result) := by
  cases result with
  | ok value => exact onlyReads_pure value
  | error error => exact fun world => .refl world

theorem onlyReads_readFile (path : Text) : OnlyReads (Host.readFile path) := by
  intro world
  change world.Untouched (worldAfter (World.readFile path) world)
  rw [worldAfter, World.readFile]
  cases world.directory.read path <;> exact .refl world

theorem onlyReads_readInput : OnlyReads Host.readInput := by
  intro world
  change world.Untouched (worldAfter World.readInput world)
  rw [worldAfter, World.readInput]
  cases world.standardInput.read <;> exact ⟨rfl, rfl⟩

theorem onlyReads_mapM {action : α → Program β} (reads : ∀ value, OnlyReads (action value))
    (values : List α) : OnlyReads (values.mapM action) := by
  induction values with
  | nil => exact onlyReads_pure []
  | cons value values ih =>
      rw [List.mapM_cons]
      exact (reads value).bind fun _ => ih.bind fun _ => onlyReads_pure _

theorem onlyReads_readSources (files : List Text) : OnlyReads (readSources files) := by
  cases files with
  | nil => exact onlyReads_readInput
  | cons file files =>
      exact (onlyReads_mapM onlyReads_readFile (file :: files)).bind fun _ => onlyReads_pure _

theorem onlyReads_base (settings : LayoutSettings) : OnlyReads settings.base := by
  rw [LayoutSettings.base]
  split
  · exact (onlyReads_readFile _).bind fun _ => onlyReads_require _
  · exact onlyReads_pure _
  · exact onlyReads_pure _

/-- Before its input, an action reads no more than its settings name. -/
theorem onlyReads_prepare (action : Action) : OnlyReads action.prepare := by
  cases action with
  | reflow settings => exact (onlyReads_base settings).bind fun _ => onlyReads_pure _
  | clean settings => exact (onlyReads_require settings.options).bind fun _ => onlyReads_pure _
  | _ => exact onlyReads_pure _

/-! ## Writing -/

theorem failsClean_writeFile (path text : Text) : FailsClean (Host.writeFile path text) := by
  intro world after error failed
  change World.writeFile path text world = .error error after at failed
  rw [World.writeFile] at failed
  split at failed
  · cases failed
  · cases failed
    exact .refl world

/-- A delivery is the last step of a command, and the only one that can be seen from outside. -/
theorem failsClean_deliver (output : Option Text) (text : Text) :
    FailsClean (deliver output text) := by
  cases output with
  | some path => exact failsClean_writeFile path text
  | none =>
      -- Printing does not fail.
      intro world after error failed
      cases failed

theorem failsClean_perform (request : Request) : FailsClean request.perform :=
  .bind (onlyReads_prepare request.action) fun _ =>
    .bind (onlyReads_readSources request.files) fun _ =>
      .bind (onlyReads_require _) fun _ => failsClean_deliver request.output _

end Program

open Program

/-- A command that fails changes nothing. Whatever the arguments are and whatever the world holds,
if the command ends in an error, then all files are as they were before, and nothing has been
printed. -/
theorem execute_error_untouched {arguments : List Text} {world after : World} {error : Error}
    (failed : (execute arguments : Program Unit) world = .error error after) :
    after.directory = world.directory ∧ after.standardOutput = world.standardOutput := by
  have clean : FailsClean (execute arguments) :=
    .bind (onlyReads_require _) failsClean_perform
  have untouched := clean world after error failed
  exact ⟨untouched.directory, untouched.standardOutput⟩

/-- A file that should be rewritten in place and is no document: the file keeps its text, although
it has been read and the output goes to it. -/
theorem execute_error_untouched_in_place :
    let arguments : List Text := ["json", "format", "a", "-o", "./a"].map String.toList
    let world : World := {
      directory := { files := [(['a'], .text ['{', '}', ']'])] }
      standardInput := .text []
      standardOutput := [] }
    ∃ error after, (execute arguments : Program Unit) world = .error error after ∧
      after.directory = world.directory ∧ after.standardOutput = world.standardOutput := by
  intro arguments world
  have failed : (execute arguments : Program Unit) world =
      .error (.document (.malformed .trailingCharacters { index := 2, row := 0, column := 2 }))
        world := by
    cbv
  exact ⟨_, world, failed, execute_error_untouched failed⟩

end Reflow.Command
