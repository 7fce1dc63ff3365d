import ChessDiagram.CommandLine.Run
import ChessDiagram.Proofs.CommandLine.Writes
import ChessDiagram.Proofs.Render.Outcome

/-!
# What a run does with files

A run either writes the markup of its input to the path of its output and touches no other file, or
it fails and leaves every file as it was.  It fails for a file that the system does not serve or for
a configuration that is refused, and never because a drawing cannot be exported: a configuration
that is taken draws everything.
-/

namespace ChessDiagram

theorem Config.rendersAll_of_validate {config : Config} (accepted : config.validate = .ok ()) :
    config.RendersAll := by
  rcases sound_or_fault config with ⟨light, dark, canvas⟩ | ⟨error, fault⟩
  · exact rendersAll_of_sound light dark canvas
  · cases accepted.symm.trans (validate_eq_error fault)

theorem Config.validate_default : Config.validate {} = .ok () := by
  have positive : ({} : Config).canvas.isPositive = true := by decide +kernel
  unfold Config.validate
  rw [positive]
  rfl

/-- What the input is rendered to in the form of the output. -/
def OutputForm.Renders (form : OutputForm) (config : Config) (source markup : Text) : Prop :=
  match form with
  | .fragment => config.renderFragment (Notation.diagram source) = .ok markup
  | .board => config.renderBoard (Notation.diagram source) = .ok markup
  | .markdown => Markdown.render config source = .ok markup

theorem OutputForm.exists_renders {config : Config} (renders : config.RendersAll)
    (form : OutputForm) (source : Text) :
    ∃ markup, form.Renders config source markup ∧ form.render config source = .ok markup := by
  cases form with
  | fragment =>
      obtain ⟨markup, rendered⟩ := renders.fragments (Notation.diagram source)
      exact ⟨markup, rendered, by rw [OutputForm.render, Config.render, rendered]; rfl⟩
  | board =>
      obtain ⟨markup, rendered⟩ := renders.boards (Notation.diagram source)
      exact ⟨markup, rendered, by rw [OutputForm.render, rendered]; rfl⟩
  | markdown =>
      obtain ⟨markup, rendered⟩ := renders.documents source
      exact ⟨markup, rendered, by rw [OutputForm.render, rendered]; rfl⟩

namespace FileTree

variable {tree : FileTree} {system : Option Text}

/-- Where the configuration is taken from: the explicit path, whether it is there or not, or else
the first that is there of the local path and the one of the system, or else nowhere. -/
inductive ConfigSource (tree : FileTree) (system : Option Text) :
    Option Text → Option Text → Prop where
  | explicitFile (path : Text) : ConfigSource tree system (some path) (some path)
  | localFile :
      tree.isPresent Config.localPath = true →
      ConfigSource tree system none (some Config.localPath)
  | systemFile {path : Text} :
      tree.isPresent Config.localPath = false →
      system = some path →
      tree.isPresent path = true →
      ConfigSource tree system none (some path)
  | nowhere :
      tree.isPresent Config.localPath = false →
      (∀ path, system = some path → tree.isPresent path = false) →
      ConfigSource tree system none none

/-- What is read there: the default configuration when there is nothing to read, and otherwise the
configuration of the file or the first fault that reading it meets. -/
inductive Configures (tree : FileTree) : Option Text → Except Failure Config → Prop where
  | default : Configures tree none (.ok {})
  | missing {path : Text} :
      tree.isPresent path = false →
      Configures tree (some path)
        (.error (.configuration ("Missing configuration file: " ++ path)))
  | unreadable {path : Text} {refusal : PathRefusal} :
      tree.isPresent path = true →
      tree.read path = .error refusal →
      Configures tree (some path) (.error (.system refusal.message))
  | noDocument {path content : Text} :
      tree.isPresent path = true →
      tree.read path = .ok content →
      Config.ofDocument? content = none →
      Configures tree (some path) (.error (.configuration "Failed to parse TOML configuration"))
  | rejected {path content : Text} {config : Config} {error : RenderError} :
      tree.isPresent path = true →
      tree.read path = .ok content →
      Config.ofDocument? content = some config →
      config.validate = .error error →
      Configures tree (some path) (.error error.rejection)
  | accepted {path content : Text} {config : Config} :
      tree.isPresent path = true →
      tree.read path = .ok content →
      Config.ofDocument? content = some config →
      config.validate = .ok () →
      Configures tree (some path) (.ok config)

/-- How a run ends, and the tree after it. -/
inductive Ends (tree : FileTree) (system : Option Text) (arguments : Arguments) :
    Except Failure Unit → FileTree → Prop where
  | unconfigured {path : Option Text} {failure : Failure} :
      ConfigSource tree system arguments.config path →
      Configures tree path (.error failure) →
      Ends tree system arguments (.error failure) tree
  | unread {path : Option Text} {config : Config} {refusal : PathRefusal} :
      ConfigSource tree system arguments.config path →
      Configures tree path (.ok config) →
      tree.read arguments.input = .error refusal →
      Ends tree system arguments (.error (.system refusal.message)) tree
  | unwritten {path : Option Text} {config : Config} {source markup : Text}
      {refusal : PathRefusal} :
      ConfigSource tree system arguments.config path →
      Configures tree path (.ok config) →
      tree.read arguments.input = .ok source →
      arguments.form.Renders config source markup →
      tree.destination arguments.outputPath = .error refusal →
      Ends tree system arguments (.error (.system refusal.message)) tree
  | written {path : Option Text} {config : Config} {source markup : Text} {after : FileTree} :
      ConfigSource tree system arguments.config path →
      Configures tree path (.ok config) →
      tree.read arguments.input = .ok source →
      arguments.form.Renders config source markup →
      tree.Written arguments.outputPath markup after →
      Ends tree system arguments (.ok ()) after

/-- The outcome of an action on a tree, and the tree after it. -/
def perform (tree : FileTree) (action : ExceptT Failure (StateM FileTree) α) :
    Except Failure α × FileTree :=
  action.run.run tree

theorem perform_bind (first : ExceptT Failure (StateM FileTree) α)
    (next : α → ExceptT Failure (StateM FileTree) β) :
    tree.perform (first >>= next) =
      match tree.perform first with
      | (.ok value, after) => after.perform (next value)
      | (.error failure, after) => (.error failure, after) := by
  show (ExceptT.bindCont next (first.run.run tree).1).run (first.run.run tree).2 = _
  unfold perform
  rcases first.run.run tree with ⟨_ | value, after⟩ <;> rfl

theorem perform_bind_of_ok {first : ExceptT Failure (StateM FileTree) α} {value : α}
    {after : FileTree} (performed : tree.perform first = (.ok value, after))
    (next : α → ExceptT Failure (StateM FileTree) β) :
    tree.perform (first >>= next) = after.perform (next value) := by
  rw [perform_bind, performed]

theorem perform_bind_of_error {first : ExceptT Failure (StateM FileTree) α} {failure : Failure}
    {after : FileTree} (performed : tree.perform first = (.error failure, after))
    (next : α → ExceptT Failure (StateM FileTree) β) :
    tree.perform (first >>= next) = (.error failure, after) := by
  rw [perform_bind, performed]

theorem perform_lift_of_run {action : StateM FileTree α} {value : α} {after : FileTree}
    (ran : action.run tree = (value, after)) :
    tree.perform (liftM action) = (.ok value, after) := by
  have lifted : tree.perform (liftM action) = (.ok (action.run tree).1, (action.run tree).2) := rfl
  rw [lifted, ran]

theorem perform_liftExcept (result : Except Failure α) :
    tree.perform (liftExcept result) = (result, tree) := by
  cases result <;> rfl

theorem perform_read (path : Text) :
    tree.perform (access.read path) =
      ((tree.read path).mapError fun refusal => .system refusal.message, tree) := by
  have asked : tree.perform (getThe FileTree) = (.ok tree, tree) := rfl
  apply (perform_bind_of_ok asked _).trans
  cases tree.read path <;> rfl

theorem perform_read_of_ok {path text : Text} (found : tree.read path = .ok text) :
    tree.perform (access.read path) = (.ok text, tree) := by
  rw [perform_read, found]
  rfl

theorem perform_read_of_error {path : Text} {refusal : PathRefusal}
    (refused : tree.read path = .error refusal) :
    tree.perform (access.read path) = (.error (.system refusal.message), tree) := by
  rw [perform_read, refused]
  rfl

theorem perform_write (path text : Text) :
    tree.perform (access.write path text) =
      match tree.write path text with
      | .ok after => (.ok (), after)
      | .error refusal => (.error (.system refusal.message), tree) := by
  have asked : tree.perform (getThe FileTree) = (.ok tree, tree) := rfl
  apply (perform_bind_of_ok asked _).trans
  cases tree.write path text <;> rfl

theorem write_eq_error {path text : Text} {refusal : PathRefusal}
    (refused : tree.write path text = .error refusal) :
    tree.destination path = .error refusal := by
  unfold write at refused
  cases target : tree.destination path with
  | error cause =>
      rw [target] at refused
      exact congrArg Except.error (Except.error.inj refused)
  | ok place =>
      rw [target] at refused
      cases refused

theorem run_findM?_isPresent (paths : List Text) :
    (paths.findM? access.isPresent).run tree = (paths.find? tree.isPresent, tree) := by
  induction paths with
  | nil => rfl
  | cons path paths induction =>
      show (bif tree.isPresent path then pure (some path)
        else paths.findM? access.isPresent).run tree = _
      cases present : tree.isPresent path with
      | true =>
          rw [List.find?_cons_of_pos present]
          rfl
      | false => simp [List.find?_cons_of_neg (Bool.eq_false_iff.mp present), induction]

theorem exists_configSource (tree : FileTree) (system explicit : Option Text) :
    ∃ path, ConfigSource tree system explicit path ∧
      (access.configPath? system explicit).run tree = (path, tree) := by
  cases explicit with
  | some path => exact ⟨some path, .explicitFile path, rfl⟩
  | none =>
      refine ⟨_, ?_, run_findM?_isPresent _⟩
      cases localPresent : tree.isPresent Config.localPath with
      | true =>
          rw [List.find?_cons_of_pos localPresent]
          exact .localFile localPresent
      | false =>
          rw [List.find?_cons_of_neg (by simp [localPresent])]
          cases system with
          | none => exact .nowhere localPresent (by simp)
          | some path =>
              cases present : tree.isPresent path with
              | true => simpa [present] using ConfigSource.systemFile localPresent rfl present
              | false => simpa [present] using .nowhere localPresent (by simp [present])

theorem configures_ofFile {path content : Text} (present : tree.isPresent path = true)
    (found : tree.read path = .ok content) :
    Configures tree (some path) (Config.ofFile content) := by
  unfold Config.ofFile
  cases described : Config.ofDocument? content with
  | none => exact .noDocument present found described
  | some config =>
      show Configures tree (some path)
        ((config.validate.mapError RenderError.rejection).bind fun _ => .ok config)
      cases checked : config.validate with
      | error error => exact .rejected present found described checked
      | ok => exact .accepted present found described checked

theorem exists_configures (tree : FileTree) (system explicit : Option Text) :
    ∃ path result, ConfigSource tree system explicit path ∧ Configures tree path result ∧
      tree.perform (access.loadConfig system explicit) = (result, tree) := by
  obtain ⟨path, source, looked⟩ := exists_configSource tree system explicit
  unfold FileAccess.loadConfig
  rw [perform_bind_of_ok (perform_lift_of_run looked)]
  cases path with
  | none => exact ⟨none, _, source, .default, rfl⟩
  | some path =>
      refine ⟨some path, ?_⟩
      have asked : (access.isPresent path).run tree = (tree.isPresent path, tree) := rfl
      dsimp only
      rw [perform_bind_of_ok (perform_lift_of_run asked)]
      cases present : tree.isPresent path with
      | false => exact ⟨_, source, .missing present, rfl⟩
      | true =>
          cases found : tree.read path with
          | error refusal =>
              exact ⟨_, source, .unreadable present found,
                perform_bind_of_error (perform_read_of_error found) _⟩
          | ok content =>
              refine ⟨_, source, configures_ofFile present found, ?_⟩
              exact (perform_bind_of_ok (perform_read_of_ok found) _).trans (perform_liftExcept _)

theorem rendersAll_of_configures {path : Option Text} {config : Config}
    (configured : Configures tree path (.ok config)) : config.RendersAll := by
  cases configured with
  | default => exact Config.rendersAll_of_validate Config.validate_default
  | accepted present found described checked => exact Config.rendersAll_of_validate checked

theorem Configures.failure_eq {path : Option Text} {failure : Failure}
    (fails : Configures tree path (.error failure)) :
    (∃ cause, failure = .system cause) ∨ ∃ detail, failure = .configuration detail := by
  cases fails with
  | missing => exact .inr ⟨_, rfl⟩
  | unreadable => exact .inl ⟨_, rfl⟩
  | noDocument => exact .inr ⟨_, rfl⟩
  | rejected => exact .inr ⟨_, rfl⟩

/-- Every run ends in one of these ways.  When it fails, no file is created or changed, and the
failure is one of the system or of the configuration. -/
theorem run_ends (tree : FileTree) (system : Option Text) (arguments : Arguments) :
    ∃ result after,
      tree.run system arguments = (result, after) ∧
        Ends tree system arguments result after ∧
        ∀ failure, result = .error failure →
          after = tree ∧
            ((∃ cause, failure = .system cause) ∨ ∃ detail, failure = .configuration detail) := by
  show ∃ result after, tree.perform (access.run system arguments) = (result, after) ∧ _
  obtain ⟨path, configured, source, configures, loaded⟩ :=
    exists_configures tree system arguments.config
  unfold FileAccess.run
  cases configured with
  | error failure =>
      refine ⟨_, _, perform_bind_of_error loaded _, .unconfigured source configures, ?_⟩
      rintro _ ⟨⟩
      exact ⟨rfl, configures.failure_eq⟩
  | ok config =>
      rw [perform_bind_of_ok loaded]
      cases input : tree.read arguments.input with
      | error refusal =>
          refine ⟨_, _, perform_bind_of_error (perform_read_of_error input) _,
            .unread source configures input, ?_⟩
          rintro _ ⟨⟩
          exact ⟨rfl, .inl ⟨_, rfl⟩⟩
      | ok text =>
          obtain ⟨markup, renders, rendered⟩ :=
            OutputForm.exists_renders (rendersAll_of_configures configures) arguments.form text
          have output : tree.perform (liftExcept (arguments.form.render config text)) =
              (.ok markup, tree) := by
            rw [perform_liftExcept, rendered]
          rw [perform_bind_of_ok (perform_read_of_ok input), perform_bind_of_ok output,
            perform_write]
          cases stored : tree.write arguments.outputPath markup with
          | error refusal =>
              refine ⟨_, _, rfl,
                .unwritten source configures input renders (write_eq_error stored), ?_⟩
              rintro _ ⟨⟩
              exact ⟨rfl, .inl ⟨_, rfl⟩⟩
          | ok after =>
              refine ⟨_, _, rfl,
                .written source configures input renders (written_of_write stored), ?_⟩
              rintro _ ⟨⟩

end FileTree

end ChessDiagram
