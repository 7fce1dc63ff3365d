import ChessDiagram.CommandLine.Arguments

/-!
# Reading a command line

The words of a command line are read from the left.  A word is an option, a flag, the value that an
option before it waits for, or the input; after `--` every word is an input.  The first fault that
the reading meets is the answer: a word of no meaning at once, an option given twice or left without
its value as soon as the next word shows it, and what only the whole line shows, at its end.
-/

namespace ChessDiagram

namespace CommandLine

/-- The options that take a value. -/
inductive Parameter where
  | output
  | config
  | logLevel
deriving DecidableEq

inductive Flag where
  | markdown
  | svgOnly
deriving DecidableEq

inductive Switch where
  | parameter (parameter : Parameter)
  | flag (flag : Flag)
  | help
  | version

namespace Switch

def ofLong? (name : Text) : Option Switch :=
  if name = "output" then some (.parameter .output)
  else if name = "config" then some (.parameter .config)
  else if name = "log-level" then some (.parameter .logLevel)
  else if name = "markdown" then some (.flag .markdown)
  else if name = "svg-only" then some (.flag .svgOnly)
  else if name = "help" then some .help
  else if name = "version" then some .version
  else none

def ofShort? : Char → Option Switch
  | 'o' => some (.parameter .output)
  | 'c' => some (.parameter .config)
  | 'h' => some .help
  | 'V' => some .version
  | _ => none

end Switch

/-- An option that waits for its value or has it.  It is entered by the word after its value. -/
structure Pending where
  parameter : Parameter
  value : Option Text := none

/-- What is known after some words. -/
structure Scan where
  input : Option Text := none
  values : List (Parameter × Text) := []
  flags : List Flag := []
  pending : Option Pending := none
  onlyInputs : Bool := false

namespace Scan

def value? (scan : Scan) (parameter : Parameter) : Option Text :=
  scan.values.lookup parameter

/-- Enters the value of an option, which must be its first. -/
def enter (parameter : Parameter) (value : Text) (scan : Scan) : Except Refusal Scan :=
  match scan.value? parameter with
  | some _ => .error .conflict
  | none => .ok { scan with values := (parameter, value) :: scan.values }

def settle (scan : Scan) : Except Refusal Scan :=
  match scan.pending with
  | none => .ok scan
  | some ⟨_, none⟩ => .error .missingValue
  | some ⟨parameter, some value⟩ => { scan with pending := none }.enter parameter value

def assign (parameter : Parameter) (value : Text) (scan : Scan) : Except Refusal Scan := do
  (← scan.settle).enter parameter value

def await (parameter : Parameter) (scan : Scan) : Except Refusal Scan := do
  return { ← scan.settle with pending := some { parameter } }

def raise (flag : Flag) (scan : Scan) : Except Refusal Scan := do
  let scan ← scan.settle
  if flag ∈ scan.flags then throw .conflict
  return { scan with flags := flag :: scan.flags }

/-- Ends the reading for a request that needs no input. -/
def request (refusal : Refusal) (scan : Scan) : Except Refusal Scan := do
  let _ ← scan.settle
  throw refusal

/-- Reads the rest of a word that starts with two hyphens. -/
def long (word : Text) (scan : Scan) : Except Refusal Scan :=
  let name := word.takeWhile (· != '=')
  let value? := (word.dropWhile (· != '=')).tail?
  match Switch.ofLong? name, value? with
  | none, _ => .error .unknownWord
  | some (.parameter parameter), none => scan.await parameter
  | some (.parameter parameter), some value => scan.assign parameter value
  | some _, some _ => .error .needlessValue
  | some (.flag flag), none => scan.raise flag
  | some .help, none => scan.request .help
  | some .version, none => scan.request .version

/-- Reads the rest of a word that starts with one hyphen: letters, of which an option takes what
follows it as its value. -/
def short : Text → Scan → Except Refusal Scan
  | [], scan => .ok scan
  | letter :: rest, scan =>
      match Switch.ofShort? letter with
      | none => .error .unknownWord
      | some (.parameter parameter) =>
          match rest with
          | [] => scan.await parameter
          | '=' :: value => scan.assign parameter value
          | value => scan.assign parameter value
      | some (.flag flag) => do short rest (← scan.raise flag)
      | some .help => scan.request .help
      | some .version => scan.request .version

def take (word : Text) (scan : Scan) : Except Refusal Scan :=
  match scan.input with
  | some _ => .error .unknownWord
  | none => do return { ← scan.settle with input := some word }

/-- Takes a word that starts no option. -/
def plain (word : Text) (scan : Scan) : Except Refusal Scan :=
  match scan.pending with
  | some ⟨parameter, none⟩ => .ok { scan with pending := some ⟨parameter, some word⟩ }
  | _ => scan.take word

def next (scan : Scan) (word : Text) : Except Refusal Scan :=
  if scan.onlyInputs then
    scan.take word
  else
    match word with
    | ['-'] => scan.plain word
    | ['-', '-'] => .ok { scan with onlyInputs := true }
    | '-' :: '-' :: rest => scan.long rest
    | '-' :: rest => scan.short rest
    | _ => scan.plain word

def form (scan : Scan) : Except Refusal OutputForm :=
  if .markdown ∈ scan.flags then
    if .svgOnly ∈ scan.flags then .error .conflict else .ok .markdown
  else if .svgOnly ∈ scan.flags then
    .ok .board
  else
    .ok .fragment

def finish (scan : Scan) : Except Refusal Arguments := do
  let scan ← scan.settle
  let form ← scan.form
  let some input := scan.input | throw .missingInput
  let arguments : Arguments := { input, form }
  return { arguments with
    output := scan.value? .output
    config := scan.value? .config
    logLevel := (scan.value? .logLevel).getD arguments.logLevel }

end Scan

end CommandLine

/-- The arguments that the words of a command line give, without the name of the program. -/
def Arguments.ofWords (words : List Text) : Except CommandLine.Refusal Arguments := do
  (← words.foldlM CommandLine.Scan.next {}).finish

end ChessDiagram
