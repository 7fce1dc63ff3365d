import ChessDiagram.Text.Basic

/-!
# Blanks

Two classes of space occur.  A *blank* is a character with the Unicode property `White_Space`; it
is what trimming removes and what separates words.  A *gap* is a run of spaces and tabs only; it is
what the notation allows between the parts of one line.
-/

namespace ChessDiagram.Text

/-- The characters with the Unicode property `White_Space`. -/
def isBlank (character : Char) : Bool :=
  let code := character.toNat
  (0x9 ≤ code && code ≤ 0xD) || code == 0x20 || code == 0x85 || code == 0xA0 || code == 0x1680
    || (0x2000 ≤ code && code ≤ 0x200A) || code == 0x2028 || code == 0x2029 || code == 0x202F
    || code == 0x205F || code == 0x3000

def isGap (character : Char) : Bool :=
  character == ' ' || character == '\t'

def skipGap (text : Text) : Text :=
  text.dropWhile isGap

def trimStart (text : Text) : Text :=
  text.dropWhile isBlank

/-- The text without the longest final run of characters of a class. -/
def dropEndWhile (among : Char → Bool) (text : Text) : Text :=
  text.foldr (fun character rest => if rest.isEmpty && among character then [] else character :: rest) []

def trimEnd (text : Text) : Text :=
  dropEndWhile isBlank text

def trim (text : Text) : Text :=
  trimEnd (trimStart text)

/-- The pieces between the characters of a class, empty ones included. -/
def pieces (separates : Char → Bool) : Text → List Text
  | [] => [[]]
  | character :: rest =>
      if separates character then
        [] :: pieces separates rest
      else
        match pieces separates rest with
        | [] => [[character]]
        | piece :: others => (character :: piece) :: others

/-- The first word of a text, where blanks separate words. -/
def firstWord (text : Text) : Text :=
  (trimStart text).takeWhile fun character => !isBlank character

theorem isBlank_of_isGap {character : Char} (gap : isGap character = true) :
    isBlank character = true := by
  simp only [isGap, Bool.or_eq_true, beq_iff_eq] at gap
  rcases gap with rfl | rfl <;> decide

end ChessDiagram.Text
