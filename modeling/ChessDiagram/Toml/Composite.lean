import ChessDiagram.Toml.Quoted
import ChessDiagram.Toml.Scalar

/-!
# TOML keys and composite values

A key is a path of simple keys with dots between them.  Arrays and inline tables list their items
between brackets, with a comma between neighbours and, if one likes, behind the last; blanks, line
breaks and comments may stand around every item, and in an inline table also around the equals signs.
They nest at most eighty deep, and a key has at most eighty parts.
-/

namespace ChessDiagram.Toml

theorem length_dropWhile_le (among : Char → Bool) (text : Text) :
    (text.dropWhile among).length ≤ text.length :=
  (List.dropWhile_sublist among).length_le

/-- The text after blanks, line breaks and comments. -/
def skipFiller (text : Text) : Text :=
  match text with
  | ' ' :: rest => skipFiller rest
  | '\t' :: rest => skipFiller rest
  | '\n' :: rest => skipFiller rest
  | '\r' :: '\n' :: rest => skipFiller rest
  | '#' :: rest => skipFiller (rest.dropWhile isPlain)
  | text => text
termination_by text.length
decreasing_by
  all_goals
    have := length_dropWhile_le isPlain rest
    simp only [List.length_cons]
    omega

def isKeyChar (character : Char) : Bool :=
  Text.isWordChar character || character == '-'

/-- A key without dots: bare, or a string on one line. -/
def simpleKey? (text : Text) : Option (Text × Text) :=
  match text with
  | '"' :: rest => basic? rest
  | '\'' :: rest => literal? rest
  | _ =>
      let key := text.takeWhile isKeyChar
      if key.isEmpty then none else some (key, text.drop key.length)

/-- The key of at most so many parts at the start of a text.  Blanks may stand around its dots. -/
def keyOfParts? : Nat → Text → Option (List Text × Text)
  | 0, _ => none
  | parts + 1, text => do
      let (first, rest) ← simpleKey? text
      match Text.skipGap rest with
      | '.' :: rest =>
          let (others, rest) ← keyOfParts? parts (Text.skipGap rest)
          return (first :: others, rest)
      | _ => return ([first], rest)

def key? : Text → Option (List Text × Text) :=
  keyOfParts? 80

/-- A key, an equals sign and a value.  The first rule skips what may stand around the sign. -/
def assignment? (skip : Text → Text) (value? : Text → Option (Value × Text)) (text : Text) :
    Option ((List Text × Value) × Text) := do
  let (key, rest) ← key? text
  match skip rest with
  | '=' :: rest =>
      let (value, rest) ← value? (skip rest)
      return ((key, value), rest)
  | _ => none

/-- At most so many items up to the closing bracket, and the text after it. -/
def itemsAtMost? {Item : Type} (item? : Text → Option (Item × Text)) (closing : Char) :
    Nat → Text → Option (List Item × Text)
  | 0, _ => none
  | count + 1, text =>
      let text := skipFiller text
      if text.head? = some closing then
        some ([], text.drop 1)
      else do
        let (first, rest) ← item? text
        let rest := skipFiller rest
        if rest.head? = some closing then
          return ([first], rest.drop 1)
        else if rest.head? = some ',' then
          let (others, rest) ← itemsAtMost? item? closing count (rest.drop 1)
          return (first :: others, rest)
        else
          none

def items? {Item : Type} (item? : Text → Option (Item × Text)) (closing : Char) (text : Text) :
    Option (List Item × Text) :=
  itemsAtMost? item? closing (text.length + 1) text

/-- The entries that a list of assignments makes, one after the other. -/
def Entries.ofAssignments? (assignments : List (List Text × Value)) : Option Entries :=
  assignments.foldlM (fun entries (key, value) => entries.assign value key) []

/-- A value that holds no other. -/
def simpleValue? (text : Text) : Option (Value × Text) :=
  match string? text with
  | some (string, rest) => some (.string string, rest)
  | none => scalar? text

/-- A value of at most so much depth. -/
def valueOfDepth? : Nat → Text → Option (Value × Text)
  | depth + 1, '[' :: text => do
      let (elements, rest) ← items? (valueOfDepth? depth) ']' text
      return (.array false elements, rest)
  | depth + 1, '{' :: text => do
      let (assignments, rest) ← items? (assignment? skipFiller (valueOfDepth? depth)) '}' text
      return (.table .inline (← Entries.ofAssignments? assignments), rest)
  | _, text => simpleValue? text

def value? : Text → Option (Value × Text) :=
  valueOfDepth? 80

end ChessDiagram.Toml
