import ChessDiagram.CommandLine.Run
import ChessDiagram.CommandLine.Scan

/-!
# The program

Carries out a command line on the files of the system.  It ends with 0 when the output is written,
or help or the version was asked for, with 1 when the run fails, and with 2 when the command line is
not understood.
-/

namespace ChessDiagram

/-- The number of a system error, which may come with its sign turned. -/
def errorNumber (code : UInt32) : Nat :=
  min code.toNat (Nat.pow 2 32 - code.toNat)

/-- The failure that a system error makes of a run. -/
def systemFailure (error : IO.Error) : Failure :=
  .system <|
    match error with
    | .noFileOrDirectory .. => PathRefusal.notFound.message
    | .inappropriateType _ code _ =>
        if errorNumber code = 21 then PathRefusal.isDirectory.message
        else PathRefusal.notDirectory.message
    | .invalidArgument _ code details =>
        if errorNumber code = 36 then PathRefusal.nameTooLong.message else details.toList
    | other => (toString other).toList

/-- Access to the files of the system. -/
def systemAccess : FileAccess IO where
  isPresent path := do
    try
      discard (IO.FS.realPath (Text.toString path))
      return true
    catch _ =>
      return false
  read path := do
    let result ← (IO.FS.readBinFile (Text.toString path)).toBaseIO
    match result with
    | .error error => throw (systemFailure error)
    | .ok content =>
        match String.fromUTF8? content with
        | some string => return string.toList
        | none => throw (.system PathRefusal.notUnicode.message)
  write path text := do
    let result ← (IO.FS.writeFile (Text.toString path) (Text.toString text)).toBaseIO
    match result with
    | .error error => throw (systemFailure error)
    | .ok () => return ()

/-- The configuration file of the user. -/
def systemConfigPath? : IO (Option Text) := do
  let folder? := fun (folder : String) =>
    if folder.startsWith "/" then some (folder.toList ++ "/" ++ Config.localPath) else none
  match (← IO.getEnv "XDG_CONFIG_HOME").bind folder?, ← IO.getEnv "HOME" with
  | some path, _ => return some path
  | none, some home => return folder? (home ++ "/.config")
  | none, none => return none

def usage : String :=
  "Usage: chessmark [OPTIONS] <INPUT>\n\n" ++
  "Arguments:\n" ++
  "  <INPUT>                Path to the input file\n\n" ++
  "Options:\n" ++
  "  -o, --output <OUTPUT>  Path to the output file [default: out.html, out.md with\n" ++
  "                         --markdown, out.svg with --svg-only]\n" ++
  "  -c, --config <CONFIG>  Path to configuration file (TOML)\n" ++
  "      --markdown         Treat the input as a Markdown document and render its\n" ++
  "                         chess blocks\n" ++
  "      --svg-only         Write the bare board SVG instead of the HTML fragment\n" ++
  "      --log-level <LOG_LEVEL>\n" ++
  "                         Log level (off, error, warn, info, debug, trace)\n" ++
  "                         [default: info]\n" ++
  "  -h, --help             Print help\n" ++
  "  -V, --version          Print version"

namespace CommandLine.Refusal

def message : CommandLine.Refusal → String
  | .help => usage
  | .version => "chessmark"
  | .missingInput => "error: no input file is given"
  | .unknownWord => "error: unexpected argument"
  | .missingValue => "error: an option has no value"
  | .needlessValue => "error: a flag takes no value"
  | .conflict => "error: an argument is given twice, or arguments exclude each other"

end CommandLine.Refusal

/-- A failure with its code and its help. -/
def reportFailure (failure : Failure) : IO Unit := do
  IO.eprintln (Text.toString (failure.code ++ ": " ++ failure.message))
  if let some help := failure.help? then
    IO.eprintln (Text.toString ("help: " ++ help))

end ChessDiagram

open ChessDiagram in
def main (words : List String) : IO UInt32 := do
  match Arguments.ofWords (words.map String.toList) with
  | .error .help =>
      IO.println (CommandLine.Refusal.message .help)
      return 0
  | .error .version =>
      IO.println (CommandLine.Refusal.message .version)
      return 0
  | .error refusal =>
      IO.eprintln refusal.message
      return 2
  | .ok arguments =>
      match ← (systemAccess.run (← systemConfigPath?) arguments).run with
      | .ok () => return 0
      | .error failure =>
          reportFailure failure
          return 1
