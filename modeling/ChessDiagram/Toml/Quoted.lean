import ChessDiagram.Text.Blank
import ChessDiagram.Text.Decimal

/-!
# TOML strings

Basic strings stand in double quotes and know escapes; literal strings stand in single quotes and
know none.  Both have a form in three quotes that may hold line breaks, of which the one right after
the opening is dropped.  Each reader starts after the opening quotes and gives the string and the
text after its closing quotes.
-/

namespace ChessDiagram.Toml

/-- The characters that strings and comments may hold as they are. -/
def isPlain (character : Char) : Bool :=
  character == '\t' || (' ' ≤ character && character != '\x7f')

def hexValue? (digit : Char) : Option Nat :=
  if Text.isDigit digit then some (Text.digitValue digit)
  else
    let lowered := Text.lowerChar digit
    if 'a' ≤ lowered ∧ lowered ≤ 'f' then some (lowered.toNat - 'a'.toNat + 10) else none

/-- The character of a code point in hexadecimal digits. -/
def ofHexDigits? (digits : List Char) : Option Char := do
  let values ← digits.mapM hexValue?
  let code := values.foldl (fun value digit => 16 * value + digit) 0
  if code.isValidChar then return Char.ofNat code else none

/-- The character that an escape stands for, and the text after it. -/
def escaped? : Text → Option (Char × Text)
  | 'b' :: rest => some ('\x08', rest)
  | 't' :: rest => some ('\t', rest)
  | 'n' :: rest => some ('\n', rest)
  | 'f' :: rest => some ('\x0c', rest)
  | 'r' :: rest => some ('\r', rest)
  | 'e' :: rest => some ('\x1b', rest)
  | '"' :: rest => some ('"', rest)
  | '\\' :: rest => some ('\\', rest)
  | 'x' :: a :: b :: rest => (ofHexDigits? [a, b]).map (·, rest)
  | 'u' :: a :: b :: c :: d :: rest => (ofHexDigits? [a, b, c, d]).map (·, rest)
  | 'U' :: a :: b :: c :: d :: e :: f :: g :: h :: rest =>
      (ofHexDigits? [a, b, c, d, e, f, g, h]).map (·, rest)
  | _ => none

theorem length_escaped_lt {text rest : Text} {character : Char}
    (found : escaped? text = some (character, rest)) : rest.length < text.length := by
  unfold escaped? at found
  split at found
  case h_12 => contradiction
  case h_9 | h_10 | h_11 =>
    obtain ⟨_, _, pair⟩ := Option.map_eq_some_iff.1 found
    cases pair
    simp only [List.length_cons]
    omega
  all_goals
    cases found
    simp

/-- The text after all blanks and line breaks. -/
def skipBreaks : Text → Text
  | ' ' :: rest => skipBreaks rest
  | '\t' :: rest => skipBreaks rest
  | '\n' :: rest => skipBreaks rest
  | '\r' :: '\n' :: rest => skipBreaks rest
  | text => text

theorem length_skipBreaks_le (text : Text) : (skipBreaks text).length ≤ text.length := by
  fun_induction skipBreaks text <;> grind

/-- The text after a backslash that ends a line: all following blanks and line breaks are gone. -/
def continued? (text : Text) : Option Text :=
  match Text.skipGap text with
  | '\n' :: rest => some (skipBreaks rest)
  | '\r' :: '\n' :: rest => some (skipBreaks rest)
  | _ => none

theorem length_continued_lt {text rest : Text} (found : continued? text = some rest) :
    rest.length < text.length := by
  have bound : (Text.skipGap text).length ≤ text.length := (List.dropWhile_sublist _).length_le
  unfold continued? at found
  split at found
  case h_3 => contradiction
  all_goals
    rename_i tail equation
    have inner := length_skipBreaks_le tail
    rw [equation] at bound
    cases found
    simp only [List.length_cons] at bound
    omega

/-- A basic string on one line. -/
def basic? (text : Text) : Option (Text × Text) :=
  match text with
  | [] => none
  | '"' :: rest => some ([], rest)
  | '\\' :: escape =>
      match _found : escaped? escape with
      | some (character, rest) =>
          (basic? rest).map fun (string, rest) => (character :: string, rest)
      | none => none
  | character :: rest =>
      if isPlain character then
        (basic? rest).map fun (string, rest) => (character :: string, rest)
      else
        none
termination_by text.length
decreasing_by
  · have := length_escaped_lt ‹_›
    simp only [List.length_cons]
    omega
  · simp

/-- A basic string that may hold line breaks. -/
def basicLines? (text : Text) : Option (Text × Text) :=
  match text with
  | [] => none
  | '"' :: '"' :: '"' :: '"' :: '"' :: rest => some (['"', '"'], rest)
  | '"' :: '"' :: '"' :: '"' :: rest => some (['"'], rest)
  | '"' :: '"' :: '"' :: rest => some ([], rest)
  | '\\' :: escape =>
      match _found : escaped? escape with
      | some (character, rest) =>
          (basicLines? rest).map fun (string, rest) => (character :: string, rest)
      | none =>
          match _joined : continued? escape with
          | some rest => basicLines? rest
          | none => none
  | '\n' :: rest => (basicLines? rest).map fun (string, rest) => ('\n' :: string, rest)
  | '\r' :: '\n' :: rest =>
      (basicLines? rest).map fun (string, rest) => ('\r' :: '\n' :: string, rest)
  | character :: rest =>
      if isPlain character then
        (basicLines? rest).map fun (string, rest) => (character :: string, rest)
      else
        none
termination_by text.length
decreasing_by
  · have := length_escaped_lt ‹_›
    simp only [List.length_cons]
    omega
  · have := length_continued_lt ‹_›
    simp only [List.length_cons]
    omega
  all_goals
    simp only [List.length_cons]
    omega

/-- A literal string on one line. -/
def literal? (text : Text) : Option (Text × Text) :=
  let string := text.takeWhile fun character => character != '\'' && isPlain character
  match text.drop string.length with
  | '\'' :: rest => some (string, rest)
  | _ => none

/-- A literal string that may hold line breaks. -/
def literalLines? : Text → Option (Text × Text)
  | [] => none
  | '\'' :: '\'' :: '\'' :: '\'' :: '\'' :: rest => some (['\'', '\''], rest)
  | '\'' :: '\'' :: '\'' :: '\'' :: rest => some (['\''], rest)
  | '\'' :: '\'' :: '\'' :: rest => some ([], rest)
  | '\n' :: rest => (literalLines? rest).map fun (string, rest) => ('\n' :: string, rest)
  | '\r' :: '\n' :: rest =>
      (literalLines? rest).map fun (string, rest) => ('\r' :: '\n' :: string, rest)
  | character :: rest =>
      if isPlain character then
        (literalLines? rest).map fun (string, rest) => (character :: string, rest)
      else
        none

/-- A text without the line break that it starts with. -/
def dropBreak : Text → Text
  | '\n' :: rest => rest
  | '\r' :: '\n' :: rest => rest
  | text => text

/-- A string of any form, from its opening quotes on. -/
def string? : Text → Option (Text × Text)
  | '"' :: '"' :: '"' :: rest => basicLines? (dropBreak rest)
  | '"' :: rest => basic? rest
  | '\'' :: '\'' :: '\'' :: rest => literalLines? (dropBreak rest)
  | '\'' :: rest => literal? rest
  | _ => none

end ChessDiagram.Toml
