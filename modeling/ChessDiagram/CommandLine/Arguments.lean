import ChessDiagram.Text.Basic

/-!
# Command line arguments

A command line names an input and says what to make of it: in which form it is written, where to,
and under which configuration.  It may be refused, because it asks for help or the version, or
because its words make no arguments.
-/

namespace ChessDiagram

/-- What is made of the input. -/
inductive OutputForm where
  | fragment
  | board
  | markdown
deriving DecidableEq

structure Arguments where
  input : Text
  output : Option Text := none
  config : Option Text := none
  form : OutputForm := .fragment
  logLevel : Text := "info"
deriving DecidableEq

namespace OutputForm

/-- The path that output goes to when none is given. -/
def defaultPath : OutputForm → Text
  | .fragment => "out.html"
  | .board => "out.svg"
  | .markdown => "out.md"

end OutputForm

namespace Arguments

def outputPath (arguments : Arguments) : Text :=
  arguments.output.getD arguments.form.defaultPath

end Arguments

namespace CommandLine

/-- Why a command line is not carried out. -/
inductive Refusal where
  | help
  | version
  | missingInput
  /-- A word has no meaning. -/
  | unknownWord
  | missingValue
  /-- A flag has a value. -/
  | needlessValue
  /-- Something is given twice, or two things exclude each other. -/
  | conflict
deriving DecidableEq

end CommandLine

end ChessDiagram
