import ChessDiagram.Config.Basic
import ChessDiagram.Toml.Document

/-!
# Configuration documents

A configuration is written as a TOML document with the sections `board`, `style` and `text`.  A
section is a table or an array that gives the fields in their order.  What is not there has its
default, and keys of no meaning are passed over; a value of the wrong kind spoils the document.

So does a number without a value anywhere in the document, also behind a key of no meaning.  Only an
array that is a section is not read beyond its fields.
-/

namespace ChessDiagram.Config

def boardKeys : List Text :=
  ["canvas_size"]

def styleKeys : List Text :=
  [Tone.light.key, Tone.dark.key]

def textKeys : List Text :=
  ["escape"]

/-- The keys of the fields of each section. -/
def sections : List (Text × List Text) :=
  [("board", boardKeys), ("style", styleKeys), ("text", textKeys)]

/-- The values of a section's fields in the order of their keys. -/
def fields? (keys : List Text) : Option Toml.Value → Option (List (Option Toml.Value))
  | none => some (keys.map fun _ => none)
  | some (.table _ entries) => some (keys.map (Toml.Entries.get? entries))
  | some (.array _ elements) => some ((List.range keys.length).map (elements[·]?))
  | some .moment => some (keys.map fun _ => none)
  | some _ => none

/-- The value of a field, which must be of its kind when it is there. -/
def field? {Kind : Type} (read? : Toml.Value → Option Kind) :
    Option Toml.Value → Option (Option Kind)
  | none => some none
  | some value => (read? value).map some

/-- The configuration with the given values of its sections. -/
def ofSections? (board style text : Option Toml.Value) : Option Config := do
  let [canvas] ← fields? boardKeys board | none
  let [light, dark] ← fields? styleKeys style | none
  let [escape] ← fields? textKeys text | none
  let canvas ← field? Toml.Value.number? canvas
  let lightSquare ← field? Toml.Value.text? light
  let darkSquare ← field? Toml.Value.text? dark
  let escape ← field? Toml.Value.boolean? escape
  let default : Config := {}
  return {
    canvas := canvas.getD default.canvas
    lightSquare
    darkSquare
    escape := escape.getD default.escape
  }

/-- Whether what is read of a top-level entry has a value. -/
def isReadable (key : Text) (value : Toml.Value) : Bool :=
  match sections.lookup key, value with
  | some keys, .array _ elements => Toml.Value.areReadable (elements.take keys.length)
  | _, value => value.isReadable

/-- The configuration that a TOML document describes. -/
def ofDocument? (document : Text) : Option Config := do
  let entries ← Toml.document? document
  if entries.all fun (key, value) => isReadable key value then
    ofSections? (entries.get? "board") (entries.get? "style") (entries.get? "text")
  else
    none

end ChessDiagram.Config
