/-!
# Text

A text is a list of characters, so that every rule on it is a recursion over its characters and
every fact about it an induction.  String literals stand for texts wherever one is expected.

Two texts agree up to case when they have the same characters once the ASCII capitals are lowered.
No other letter is folded: `É` and `é` stay different.
-/

namespace ChessDiagram

abbrev Text := List Char

instance : Coe String Text where
  coe := String.toList

namespace Text

def toString (text : Text) : String :=
  String.ofList text

/-- The lower-case form of an ASCII capital; every other character is its own. -/
def lowerChar (character : Char) : Char :=
  if 'A' ≤ character ∧ character ≤ 'Z' then Char.ofNat (character.toNat + 32) else character

def lower (text : Text) : Text :=
  text.map lowerChar

/-- Equality up to ASCII case. -/
def agrees (left right : Text) : Bool :=
  lower left == lower right

/-- The text after a word that it starts with up to ASCII case. -/
def afterWord? : Text → Text → Option Text
  | [], text => some text
  | _ :: _, [] => none
  | letter :: word, character :: text =>
      if lowerChar letter = lowerChar character then afterWord? word text else none

/-- The text after an exact opening. -/
def afterExact? : Text → Text → Option Text
  | [], text => some text
  | _ :: _, [] => none
  | letter :: word, character :: text =>
      if letter = character then afterExact? word text else none

def isDigit (character : Char) : Bool :=
  '0' ≤ character && character ≤ '9'

def isLetter (character : Char) : Bool :=
  ('a' ≤ character && character ≤ 'z') || ('A' ≤ character && character ≤ 'Z')

/-- A character of an ASCII word: a letter, a digit or the underscore. -/
def isWordChar (character : Char) : Bool :=
  isLetter character || isDigit character || character == '_'

/-- The texts one after another with a separator between neighbours. -/
def join (separator : Text) : List Text → Text
  | [] => []
  | [text] => text
  | text :: texts => text ++ separator ++ join separator texts

/-- Lexicographic order by code point. -/
def precedes : Text → Text → Bool
  | [], [] => false
  | [], _ :: _ => true
  | _ :: _, [] => false
  | left :: lefts, right :: rights =>
      if left = right then precedes lefts rights else left.toNat < right.toNat

end Text

end ChessDiagram
