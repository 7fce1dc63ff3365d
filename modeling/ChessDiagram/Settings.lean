import ChessDiagram.Text.Decimal

/-!
# Settings

How a diagram is shown beside its grid: theme, alignment, size, three free texts and two switches.
Themes, alignments and length units have one spelling each, which is written in lower case and read
in any ASCII case.
-/

namespace ChessDiagram

inductive Theme where
  | base
  | dark
  | light
deriving DecidableEq, Inhabited

inductive Align where
  | left
  | right
  | none
deriving DecidableEq

inductive LengthUnit where
  | vmin
  | vmax
  | rem
  | cm
  | mm
  | inch
  | px
  | pt
  | pc
  | em
  | ex
  | ch
  | vw
  | vh
  | percent
deriving DecidableEq

/-- A word that is the spelling of no theme, alignment or length unit. -/
inductive SpellingError where
  | theme (word : Text)
  | align (word : Text)
  | lengthUnit (word : Text)
deriving DecidableEq

namespace SpellingError

def message : SpellingError → Text
  | .theme word => "invalid theme `" ++ word ++ "`, valid values: base, dark, light"
  | .align word => "invalid align `" ++ word ++ "`, valid values: left, right, none"
  | .lengthUnit word => "invalid length unit `" ++ word ++ "`"

end SpellingError

namespace Theme

def all : List Theme :=
  [.base, .dark, .light]

def spelling : Theme → Text
  | .base => "base"
  | .dark => "dark"
  | .light => "light"

def ofSpelling? (word : Text) : Option Theme :=
  all.find? fun theme => Text.agrees theme.spelling word

def read (word : Text) : Except SpellingError Theme :=
  match ofSpelling? word with
  | some theme => .ok theme
  | none => .error (.theme word)

end Theme

namespace Align

def all : List Align :=
  [.left, .right, .none]

def spelling : Align → Text
  | .left => "left"
  | .right => "right"
  | .none => "none"

def ofSpelling? (word : Text) : Option Align :=
  all.find? fun align => Text.agrees align.spelling word

def read (word : Text) : Except SpellingError Align :=
  match ofSpelling? word with
  | some align => .ok align
  | Option.none => .error (.align word)

end Align

namespace LengthUnit

def all : List LengthUnit :=
  [.vmin, .vmax, .rem, .cm, .mm, .inch, .px, .pt, .pc, .em, .ex, .ch, .vw, .vh, .percent]

def spelling : LengthUnit → Text
  | .vmin => "vmin"
  | .vmax => "vmax"
  | .rem => "rem"
  | .cm => "cm"
  | .mm => "mm"
  | .inch => "in"
  | .px => "px"
  | .pt => "pt"
  | .pc => "pc"
  | .em => "em"
  | .ex => "ex"
  | .ch => "ch"
  | .vw => "vw"
  | .vh => "vh"
  | .percent => "%"

def ofSpelling? (word : Text) : Option LengthUnit :=
  all.find? fun unit => Text.agrees unit.spelling word

def read (word : Text) : Except SpellingError LengthUnit :=
  match ofSpelling? word with
  | some unit => .ok unit
  | none => .error (.lengthUnit word)

end LengthUnit

/-- The width of a shown diagram: a whole number below `2 ^ 32` of some unit. -/
structure BoardSize where
  magnitude : UInt32
  unit : LengthUnit
deriving DecidableEq

namespace BoardSize

def text (size : BoardSize) : Text :=
  Text.decimal size.magnitude.toNat ++ size.unit.spelling

end BoardSize

structure Settings where
  theme : Theme := .base
  align : Align := .none
  size : BoardSize := { magnitude := 50, unit := .percent }
  title : Text := []
  notes : Text := []
  moves : Text := []
  letters : Bool := false
  numbers : Bool := false
deriving DecidableEq

end ChessDiagram
