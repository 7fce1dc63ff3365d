import ChessDiagram.Toml.Composite

/-!
# TOML documents

A document is a sequence of statements, one a line: an assignment, the header of a table, or the
doubled header of a table that is added to an array.  Assignments go to the table that the last
header opened.  A document that breaks a rule anywhere has no entries at all.
-/

namespace ChessDiagram.Toml

inductive Statement where
  | assignment (key : List Text) (value : Value)
  | table (key : List Text)
  | element (key : List Text)

/-- The text after the end of a line, before which blanks and a comment may stand. -/
def lineEnd? (text : Text) : Option Text :=
  let text := Text.skipGap text
  let text := match text with
    | '#' :: rest => rest.dropWhile isPlain
    | _ => text
  match text with
  | [] => some []
  | '\n' :: rest => some rest
  | '\r' :: '\n' :: rest => some rest
  | _ => none

/-- The key of a header up to its closing. -/
def header? (closing text : Text) : Option (List Text × Text) := do
  let (key, rest) ← key? (Text.skipGap text)
  return (key, ← Text.afterExact? closing (Text.skipGap rest))

def statement? : Text → Option (Statement × Text)
  | '[' :: '[' :: text => (header? "]]" text).map fun (key, rest) => (.element key, rest)
  | '[' :: text => (header? "]" text).map fun (key, rest) => (.table key, rest)
  | text =>
      (assignment? Text.skipGap value? text).map fun ((key, value), rest) =>
        (.assignment key value, rest)

/-- The statements of at most so many lines. -/
def statementsOfLines? : Nat → Text → Option (List Statement)
  | _, [] => some []
  | 0, _ => none
  | lines + 1, text =>
      match lineEnd? text with
      | some rest => statementsOfLines? lines rest
      | none => do
          let (statement, rest) ← statement? (Text.skipGap text)
          let following ← statementsOfLines? lines (← lineEnd? rest)
          return statement :: following

def statements? (text : Text) : Option (List Statement) :=
  statementsOfLines? (text.length + 1) text

/-- What is known after some statements: the entries so far, and the key of the last header. -/
structure Progress where
  header : List Text := []
  entries : Entries := []

namespace Progress

/-- Opens the table of a header by a rule for its last key. -/
def enter (rule : Text → Entries → Option Entries) (key : List Text) (progress : Progress) :
    Option Progress := do
  let entries ← progress.entries.within (rule (← key.getLast?)) key.dropLast
  return { header := key, entries }

def after (progress : Progress) : Statement → Option Progress
  | .assignment key value => do
      let entries ← progress.entries.within (Entries.assign value key) progress.header
      return { progress with entries }
  | .table key => progress.enter Entries.openTable key
  | .element key => progress.enter Entries.openElement key

end Progress

/-- The entries of a document, which may start with a byte order mark. -/
def document? (text : Text) : Option Entries := do
  let text := match text with
    | '\uFEFF' :: rest => rest
    | _ => text
  let progress ← (← statements? text).foldlM Progress.after {}
  return progress.entries

end ChessDiagram.Toml
