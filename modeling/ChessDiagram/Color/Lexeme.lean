import ChessDiagram.Number.Floating
import ChessDiagram.Text.Basic

/-!
# Lexemes of written colours

Numbers, identifiers and what may stand between them, after the grammar of style sheets.  Comments
are skipped before every number and punctuation mark; a comment that is not closed is never
skipped.  Identifiers hold ASCII letters, digits, underscores and hyphens, without escapes.
-/

namespace ChessDiagram.Color

def afterComment? : Text → Option Text
  | [] => none
  | '*' :: '/' :: rest => some rest
  | _ :: rest => afterComment? rest

theorem length_afterComment_le {text rest : Text} (found : afterComment? text = some rest) :
    rest.length ≤ text.length := by
  fun_induction afterComment? text with
  | case1 => simp at found
  | case2 =>
      cases found
      simp only [List.length_cons]
      omega
  | case3 _ _ _ induction => exact Nat.le_succ_of_le (induction found)

/-- The text after the comment that it starts with, if there is one that is closed. -/
def commentTail? : Text → Option Text
  | '/' :: '*' :: rest => afterComment? rest
  | _ => none

theorem length_commentTail_lt {text rest : Text} (found : commentTail? text = some rest) :
    rest.length < text.length := by
  unfold commentTail? at found
  split at found
  · have bound := length_afterComment_le found
    simp only [List.length_cons]
    omega
  · contradiction

def skipComments (text : Text) : Text :=
  match _found : commentTail? text with
  | some rest => skipComments rest
  | none => text
termination_by text.length
decreasing_by exact length_commentTail_lt ‹_›

def isSpace (character : Char) : Bool :=
  character == ' ' || character == '\t' || character == '\r' || character == '\n'

/-- Skips spaces, line ends and comments. -/
def skipSpace (text : Text) : Text :=
  match _found : commentTail? text with
  | some rest => skipSpace rest
  | none =>
      match text with
      | [] => []
      | character :: rest => if isSpace character then skipSpace rest else character :: rest
termination_by text.length
decreasing_by
  · exact length_commentTail_lt ‹_›
  · simp

def isIdentifierStart (character : Char) : Bool :=
  Text.isLetter character || character == '_' || character == '-'

def isIdentifierChar (character : Char) : Bool :=
  isIdentifierStart character || Text.isDigit character

/-- The identifier at the start of a text, and the text after it.  A hyphen may only come first
before a letter or an underscore. -/
def identifier? : Text → Option (Text × Text)
  | '-' :: second :: rest =>
      if isIdentifierStart second && second != '-' then
        some ('-' :: second :: rest.takeWhile isIdentifierChar, rest.dropWhile isIdentifierChar)
      else
        none
  | first :: rest =>
      if isIdentifierStart first && first != '-' then
        some (first :: rest.takeWhile isIdentifierChar, rest.dropWhile isIdentifierChar)
      else
        none
  | [] => none

/-- The sign at the start of a text, as whether it is a minus, and the text after it. -/
def takeSign : Text → Bool × Text
  | '+' :: rest => (false, rest)
  | '-' :: rest => (true, rest)
  | text => (false, text)

/-- The digits after a point, if there are any. -/
def takeFraction : Text → Text × Text
  | '.' :: rest =>
      let digits := rest.takeWhile Text.isDigit
      if digits.isEmpty then ([], '.' :: rest) else (digits, rest.dropWhile Text.isDigit)
  | text => ([], text)

/-- The value of an exponent, if there is one with digits. -/
def takeExponent : Text → Int × Text
  | [] => (0, [])
  | mark :: rest =>
      let (negative, unsigned) := takeSign rest
      let digits := unsigned.takeWhile Text.isDigit
      if (mark = 'e' ∨ mark = 'E') ∧ digits ≠ [] then
        let magnitude : Int := Text.decimalValue digits
        (if negative then -magnitude else magnitude, unsigned.dropWhile Text.isDigit)
      else
        (0, mark :: rest)

/-- The number at the start of a text, and the text after it. -/
def number? (text : Text) : Option (Binary64 × Text) :=
  let (negative, unsigned) := takeSign (skipComments text)
  let whole := unsigned.takeWhile Text.isDigit
  let (fraction, afterFraction) := takeFraction (unsigned.dropWhile Text.isDigit)
  let (exponent, rest) := takeExponent afterFraction
  if whole = [] ∧ fraction = [] then
    none
  else
    let digits := Text.decimalValue (whole ++ fraction)
    some (.ofDecimal negative digits (exponent - fraction.length), rest)

/-- A value that a component or an angle is written with. -/
inductive Value where
  | number (number : Binary64)
  | percentage (number : Binary64)
  | dimension (number : Binary64) (unit : Text)
  | word (word : Text)

def value? (text : Text) : Option (Value × Text) :=
  match number? text with
  | some (number, '%' :: rest) => some (.percentage number, rest)
  | some (number, rest) =>
      match identifier? rest with
      | some (unit, rest) => some (.dimension number unit, rest)
      | none => some (.number number, rest)
  | none =>
      (identifier? (skipComments text)).map fun (word, rest) => (.word word, rest)

end ChessDiagram.Color
