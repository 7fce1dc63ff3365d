import ChessDiagram.CommandLine.Arguments
import ChessDiagram.CommandLine.FileTree
import ChessDiagram.Config.Document
import ChessDiagram.Config.Validation
import ChessDiagram.Markdown.Document

/-!
# Runs

A run reads a configuration and the input, renders the input in the form that the arguments ask for,
and writes the result.  It reads all before it writes anything, so a failure leaves the files as
they were.

The configuration is the file that the arguments name, which must be there, or else the first that
is there of the local file and the one of the system, or else the default.
-/

namespace ChessDiagram

/-- What a run does with files, in a monad that keeps them. -/
structure FileAccess (M : Type → Type) where
  isPresent : Text → M Bool
  read : Text → ExceptT Failure M Text
  write : Text → Text → ExceptT Failure M Unit

/-- Access to the files of a tree that a state holds. -/
def FileTree.access : FileAccess (StateM FileTree) where
  isPresent path := do
    return (← get).isPresent path
  read path := do
    match (← getThe FileTree).read path with
    | .ok text => return text
    | .error refusal => throw (.system refusal.message)
  write path text := do
    match (← getThe FileTree).write path text with
    | .ok tree => set tree
    | .error refusal => throw (.system refusal.message)

def Config.localPath : Text := "chessmark/config.toml"

/-- The configuration in the text of a file.  The message of a text that is none stops after its
opening: what the reader of the format says of the fault and its place is left out. -/
def Config.ofFile (content : Text) : Except Failure Config := do
  let some config := ofDocument? content
    | throw (.configuration "Failed to parse TOML configuration")
  config.validate.mapError RenderError.rejection
  return config

def OutputForm.render (form : OutputForm) (config : Config) (source : Text) :
    Except Failure Text :=
  let result := match form with
    | .fragment => config.render source
    | .board => config.renderBoard (Notation.diagram source)
    | .markdown => Markdown.render config source
  result.mapError RenderError.failure

namespace FileAccess

variable {M : Type → Type} [Monad M]

/-- The path of the configuration: the explicit one, or the first that is there. -/
def configPath? (files : FileAccess M) (system : Option Text) : Option Text → M (Option Text)
  | some explicit => return some explicit
  | none => (Config.localPath :: system.toList).findM? files.isPresent

def loadConfig (files : FileAccess M) (system explicit : Option Text) :
    ExceptT Failure M Config := do
  match ← (files.configPath? system explicit : M (Option Text)) with
  | none => return {}
  | some path =>
      unless ← (files.isPresent path : M Bool) do
        throw (.configuration ("Missing configuration file: " ++ path))
      liftExcept (Config.ofFile (← files.read path))

/-- Carries out a command line. -/
def run (files : FileAccess M) (system : Option Text) (arguments : Arguments) :
    ExceptT Failure M Unit := do
  let config ← files.loadConfig system arguments.config
  let source ← files.read arguments.input
  let output ← liftExcept (arguments.form.render config source)
  files.write arguments.outputPath output

end FileAccess

/-- The outcome of a run on a file tree, and the tree after it. -/
def FileTree.run (tree : FileTree) (system : Option Text) (arguments : Arguments) :
    Except Failure Unit × FileTree :=
  (FileTree.access.run system arguments).run.run tree

end ChessDiagram
