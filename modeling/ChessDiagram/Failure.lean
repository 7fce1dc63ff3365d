import ChessDiagram.Text.Basic

/-!
# Failures

What a run may end with: the system refuses a file, the configuration is at fault, or a drawing
cannot be exported.  A report of a failure shows its code, its message, help where there is any, and
the text of the system where the failure comes from there.
-/

namespace ChessDiagram

inductive Failure where
  | system (cause : Text)
  | configuration (detail : Text)
  | export (detail : Text)
deriving DecidableEq

namespace Failure

def message : Failure → Text
  | .system cause => "I/O error: " ++ cause
  | .configuration detail => "Configuration error: " ++ detail
  | .export detail => "Export error: " ++ detail

def code : Failure → Text
  | .system _ => "chessmark::io"
  | .configuration _ => "chessmark::config"
  | .export _ => "chessmark::export"

def help? : Failure → Option Text
  | .system _ => none
  | .configuration _ => some "check the configuration file; colors accept any CSS color string"
  | .export _ => some "board.canvas_size must be a positive number"

/-- The text of the failure underneath. -/
def source? : Failure → Option Text
  | .system cause => some cause
  | _ => none

end Failure

end ChessDiagram
