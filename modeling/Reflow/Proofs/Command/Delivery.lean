import Reflow.Proofs.Command.Failure

/-!
# From the input to the output

Before it writes anything, a command takes two things from its world: what its settings name in the
directory, and the input. What it makes of these is all that its output depends on. So it makes no
difference whether the input is read from files or from the standard input, and the output is the
same whether it is printed or written to a file, even to one that has been read before.
-/

namespace Reflow.Command

/-! ## Files that are written -/

namespace Directory

variable {directory after : Directory} {path text name : Text}

theorem lookup_replaced (files : List (Text × Content)) (name : Text) (content : Content)
    (other : Text) :
    (files.map fun (first, old) => if first = name then (first, content) else (first, old)).lookup
        other =
      (files.lookup other).map fun old => if other = name then content else old := by
  induction files with
  | nil => rfl
  | cons file files ih =>
      obtain ⟨first, old⟩ := file
      have entry : (if first = name then (first, content) else (first, old)) =
          (first, if first = name then content else old) := by
        split <;> rfl
      simp only [List.map_cons, entry, List.lookup_cons, ih]
      by_cases same : other = first
      · simp [same]
      · simp [beq_eq_false_iff_ne.mpr same]

/-- A file holds what has been put into it, and all others hold what they held. -/
theorem find?_put (directory : Directory) (name : Text) (content : Content) (other : Text) :
    (directory.put name content).find? other =
      if other = name then some content else directory.find? other := by
  rw [put]
  split
  · next there =>
    rw [find?, lookup_replaced, ← find?]
    by_cases same : other = name
    · obtain ⟨old, found⟩ := Option.isSome_iff_exists.mp there
      rw [same, found, if_pos rfl, Option.map_some, if_pos rfl]
    · simp [same]
  · next missing =>
    rw [Option.not_isSome_iff_eq_none] at missing
    rw [find?, List.lookup_append, ← find?, List.lookup_cons, List.lookup_nil]
    by_cases same : other = name
    · simp [same, missing]
    · simp [same, beq_eq_false_iff_ne.mpr same]

/-- A path that leads to a file when it is written leads to that file when it is read, whatever else
is in the directory. -/
theorem resolve_reading {steps : List Text}
    (leads : directory.resolve .writing steps = .ok (.file name)) (other : Directory) :
    other.resolve .reading steps = .ok (.file name) := by
  fun_induction Directory.resolve directory .writing steps with
  | case4 step notThere notTooLong => rwa [resolve, if_neg notThere, if_neg notTooLong]
  | case5 step next steps stays ih => rw [resolve, if_pos stays, ih leads]
  | _ => cases leads

theorem locate_reading (leads : directory.locate .writing path = .ok (.file name))
    (other : Directory) : other.locate .reading path = .ok (.file name) := by
  unfold locate at leads ⊢
  split at leads
  · cases leads
  · next noZero =>
    rw [if_neg noZero]
    split at leads
    · cases leads
    · next notTooLong =>
      rw [if_neg notTooLong]
      split at leads
      · split at leads <;> cases leads
      · exact resolve_reading leads other

/-- A text can be written where the path leads to a file. Then the path leads to that text, and all
other files hold what they held. -/
theorem write_eq (leads : directory.locate .writing path = .ok (.file name)) (text : Text) :
    directory.write path text = .ok (directory.put name (.text text)) := by
  rw [write, leads]
  rfl

theorem read_put (leads : directory.locate .writing path = .ok (.file name)) (text : Text) :
    (directory.put name (.text text)).read path = .ok text := by
  have found : (directory.put name (.text text)).find? name = some (.text text) := by
    rw [find?_put, if_pos rfl]
  rw [read, locate_reading leads]
  simp only [bind, Except.bind, found, Content.read]

/-- Nothing can be written where the path leads to no file. -/
theorem exists_write_eq_error (noFile : ∀ name, directory.locate .writing path ≠ .ok (.file name))
    (text : Text) : ∃ fault, directory.write path text = .error fault := by
  rw [write]
  cases located : directory.locate .writing path with
  | error fault => exact ⟨fault, rfl⟩
  | ok target =>
      cases target with
      | directory => exact ⟨.isDirectory, rfl⟩
      | file name => exact absurd located (noFile name)

end Directory

/-! ## Programs that look something up -/

namespace Program

variable {α β : Type} {directory : Directory}

/-- In every world with the given directory the program has the given result, and it leaves the
world as it is. -/
def Finds (program : Program α) (directory : Directory) (result : Except Error α) : Prop :=
  ∀ world : World, world.directory = directory →
    program world = match result with
      | .ok value => .ok value world
      | .error error => .error error world

theorem finds_pure (value : α) : Finds (pure value) directory (.ok value) :=
  fun _ _ => rfl

theorem finds_require (result : Except Error α) : Finds (require result) directory result := by
  cases result with
  | ok value => exact finds_pure value
  | error error => exact fun _ _ => rfl

theorem finds_readFile (path : Text) :
    Finds (Host.readFile path) directory ((directory.read path).mapError (.access path)) := by
  rintro world rfl
  change World.readFile path world = _
  rw [World.readFile]
  cases world.directory.read path <;> rfl

/-- One look-up after the other. -/
theorem Finds.bind {first : Program α} {next : α → Program β} {result : Except Error α}
    {results : α → Except Error β} (finds : Finds first directory result)
    (findNext : ∀ value, Finds (next value) directory (results value)) :
    Finds (first >>= next) directory (result >>= results) := by
  intro world same
  rw [bind_apply, finds world same]
  cases result with
  | ok value => exact findNext value world same
  | error error => rfl

/-- What an action does to a text depends on the directory only. -/
theorem exists_finds_prepare (action : Action) (directory : Directory) :
    ∃ prepared, Finds action.prepare directory prepared := by
  cases action with
  | reflow settings =>
      have base : ∃ options, Finds settings.base directory options := by
        rw [LayoutSettings.base]
        split
        · exact ⟨_, (finds_readFile _).bind fun _ => finds_require _⟩
        · exact ⟨_, finds_pure _⟩
        · exact ⟨_, finds_pure _⟩
      obtain ⟨options, finds⟩ := base
      exact ⟨_, finds.bind fun _ => finds_pure _⟩
  | clean settings => exact ⟨_, (finds_require settings.options).bind fun _ => finds_pure _⟩
  | _ => exact ⟨_, finds_pure _⟩

/-- Readable files give their contents. -/
theorem finds_mapM_readFile {files contents : List Text}
    (readable : List.Forall₂ (fun file content => directory.read file = .ok content)
      files contents) :
    Finds (files.mapM Host.readFile) directory (.ok contents) := by
  induction readable with
  | nil => exact finds_pure []
  | @cons file content files contents isContent _ ih =>
      have finds : Finds (Host.readFile file) directory (.ok content) := by
        have reads := @finds_readFile directory file
        rwa [isContent] at reads
      rw [List.mapM_cons]
      exact finds.bind fun _ => ih.bind fun _ => finds_pure _

end Program

/-! ## The whole command -/

open Program

variable {directory : Directory}

/-- What a program leaves behind. -/
def outcome (program : Program Unit) (world : World) : Except Error Outcome :=
  match program world with
  | .ok _ after => .ok { standardOutput := after.standardOutput, directory := after.directory }
  | .error error _ => .error error

/-- What is left behind when a text is delivered in a directory and nothing has been printed. -/
def delivery (directory : Directory) (output : Option Text) (text : Text) : Except Error Outcome :=
  match output with
  | none => .ok { standardOutput := text ++ ['\n'], directory }
  | some path =>
      match directory.write path text with
      | .ok after => .ok { standardOutput := [], directory := after }
      | .error fault => .error (.access path fault)

theorem outcome_deliver (output : Option Text) (text : Text) (input : Content) :
    outcome (deliver output text) { directory, standardInput := input, standardOutput := [] } =
      delivery directory output text := by
  cases output with
  | none => rfl
  | some path =>
      change outcome (World.writeFile path text) _ = _
      rw [outcome, World.writeFile, delivery]
      cases directory.write path text <;> rfl

theorem outcome_require_deliver (result : Except Error Text) (output : Option Text)
    (input : Content) :
    outcome (require result >>= deliver output)
        { directory, standardInput := input, standardOutput := [] } =
      result >>= delivery directory output := by
  rw [outcome, bind_apply]
  cases result with
  | error error => rfl
  | ok text => exact outcome_deliver output text input

/-- The outcome of a command depends on the directory, on the text that is read as its input, and on
where its output goes to. By the time it writes, only the standard input has been used up. -/
theorem run_eq {request : Request} {prepared : Except Error (Text → Except Error Text)}
    {arguments : List Text} {input behind : Content} {text : Text}
    (asked : readCommand arguments = .ok request)
    (prepares : Finds request.action.prepare directory prepared)
    (reads : (readSources request.files : Program Text)
        { directory, standardInput := input, standardOutput := [] } =
      .ok text { directory, standardInput := behind, standardOutput := [] }) :
    run directory input arguments =
      (prepared >>= fun transform => transform text) >>= delivery directory request.output := by
  have begun : (execute arguments : Program Unit) = request.perform := by
    rw [execute, asked]
    rfl
  change outcome (execute arguments) _ = _
  rw [begun, Request.perform, outcome, bind_apply, prepares _ rfl]
  cases prepared with
  | error error => rfl
  | ok transform =>
      dsimp only
      rw [bind_apply, reads]
      exact outcome_require_deliver (transform text) request.output behind

/-- What a command leaves behind in a directory, by its result and by where its output goes to. -/
inductive Delivered (directory : Directory) :
    (result : Except Error Text) → (output : Option Text) → Except Error Outcome → Prop where
  | failed (error : Error) (output : Option Text) :
      Delivered directory (.error error) output (.error error)
  /-- The text is printed with a line feed, and all files are as before. -/
  | printed (text : Text) :
      Delivered directory (.ok text) none (.ok { standardOutput := text ++ ['\n'], directory })
  /-- The path leads to a file, which then holds the text. Nothing is printed, and all other files
  are as before. -/
  | written {path name : Text} {after : Directory} (text : Text)
      (leads : directory.locate .writing path = .ok (.file name))
      (holds : after.find? name = some (.text text)) (readBack : after.read path = .ok text)
      (others : ∀ other, other ≠ name → after.find? other = directory.find? other) :
      Delivered directory (.ok text) (some path) (.ok { standardOutput := [], directory := after })
  /-- The path leads to no file. -/
  | refused {path : Text} (text : Text) (fault : AccessFault)
      (noFile : ∀ name, directory.locate .writing path ≠ .ok (.file name)) :
      Delivered directory (.ok text) (some path) (.error (.access path fault))

theorem delivered (directory : Directory) (result : Except Error Text) (output : Option Text) :
    Delivered directory result output (result >>= delivery directory output) := by
  cases result with
  | error error => exact .failed error output
  | ok text =>
      cases output with
      | none => exact .printed text
      | some path =>
          change Delivered directory (.ok text) (some path) (delivery directory (some path) text)
          by_cases file : ∃ name, directory.locate .writing path = .ok (.file name)
          · obtain ⟨name, leads⟩ := file
            rw [delivery, Directory.write_eq leads]
            refine .written text leads ?_ (Directory.read_put leads text) ?_
            · rw [Directory.find?_put, if_pos rfl]
            · intro other different
              rw [Directory.find?_put, if_neg different]
          · rw [not_exists] at file
            obtain ⟨fault, refused⟩ := Directory.exists_write_eq_error file text
            rw [delivery, refused]
            exact .refused text fault file

/-- It makes no difference where the input comes from: files that can be read, one or more and maybe
the same one again, are like the standard input with their contents one after the other. And the
result of the action does not depend on where the output goes to: it is an error, or a text that is
printed or written as it is, also where it is written over an input or over the configuration. -/
theorem run_from_files_to_output {action : Action} {files contents : List Text}
    (notEmpty : files ≠ [])
    (readable : List.Forall₂ (fun file content => directory.read file = .ok content)
      files contents) :
    (∀ (output : Option Text) (arguments bare : List Text) (input : Content),
      readCommand arguments = .ok { action, files, output } →
      readCommand bare = .ok { action, files := [], output } →
      run directory input arguments = run directory (.text contents.flatten) bare) ∧
    ∃ result : Except Error Text,
      ∀ (output : Option Text) (arguments : List Text) (input : Content),
        readCommand arguments = .ok { action, files, output } →
        Delivered directory result output (run directory input arguments) := by
  obtain ⟨prepared, prepares⟩ := exists_finds_prepare action directory
  have reads (input : Content) : (readSources files : Program Text)
      { directory, standardInput := input, standardOutput := [] } =
        .ok contents.flatten { directory, standardInput := input, standardOutput := [] } := by
    cases files with
    | nil => exact absurd rfl notEmpty
    | cons file files =>
        exact ((finds_mapM_readFile readable).bind fun _ => finds_pure _) _ rfl
  constructor
  · intro output arguments bare input asked askedBare
    rw [run_eq asked prepares (reads input), run_eq askedBare prepares rfl]
  · refine ⟨prepared >>= fun transform => transform contents.flatten, ?_⟩
    intro output arguments input asked
    rw [run_eq asked prepares (reads input)]
    exact delivered directory _ output

/-- One file is the configuration, both inputs and the output: lines end behind its commas. -/
theorem run_from_files_to_output_in_place :
    run { files := [(['c'], .text "[[],[],[\",\"]]".toList)] } (.text [])
        (["reflow", "--config", "c", "-o", "c", "c", "./c"].map String.toList) =
      run { files := [(['c'], .text "[[],[],[\",\"]]".toList)] }
        (.text "[[],[],[\",\"]][[],[],[\",\"]]".toList)
        (["reflow", "--config", "c", "-o", "c"].map String.toList) ∧
    (∃ result : Except Error Text,
      Delivered { files := [(['c'], .text "[[],[],[\",\"]]".toList)] } result (some ['c'])
        (run { files := [(['c'], .text "[[],[],[\",\"]]".toList)] } (.text [])
          (["reflow", "--config", "c", "-o", "c", "c", "./c"].map String.toList))) ∧
    run { files := [(['c'], .text "[[],[],[\",\"]]".toList)] } (.text [])
        (["reflow", "--config", "c", "-o", "c", "c", "./c"].map String.toList) =
      .ok { standardOutput := [],
            directory := { files :=
              [(['c'], .text "[[],\n[],\n[\",\n\"]][[],\n[],\n[\",\n\"]]".toList)] } } := by
  let settings : LayoutSettings :=
    { config := some ['c'], preset := none, indentWidth := none, lineEnding := none,
      openTokens := [], closeTokens := [], breakTokens := [] }
  have asked : readCommand
      (["reflow", "--config", "c", "-o", "c", "c", "./c"].map String.toList) =
        .ok { action := .reflow settings, files := [['c'], ['.', '/', 'c']],
              output := some ['c'] } := by
    cbv
  have askedBare : readCommand (["reflow", "--config", "c", "-o", "c"].map String.toList) =
      .ok { action := .reflow settings, files := [], output := some ['c'] } := by
    cbv
  have readable : List.Forall₂
      (fun file content => Directory.read
        { files := [(['c'], .text "[[],[],[\",\"]]".toList)] } file = .ok content)
      [['c'], ['.', '/', 'c']] ["[[],[],[\",\"]]".toList, "[[],[],[\",\"]]".toList] := by
    refine .cons ?_ (.cons ?_ .nil) <;> cbv
  obtain ⟨alike, result, delivers⟩ := @run_from_files_to_output _ (.reflow settings) _ _
    (List.cons_ne_nil _ _) readable
  refine ⟨alike _ _ _ _ asked askedBare, ⟨result, delivers _ _ _ asked⟩, ?_⟩
  cbv

end Reflow.Command
