import ChessDiagram.Number.Floating

/-!
# TOML values

The values of a TOML document.  While a document is read, tables and arrays remember how they came
about, because that decides how they may still be extended: a table that a header names is complete
for later headers of the same name, one that only occurs inside longer names is not, and an inline
table or a written array never grows.

A number may be well formed and still have no value, because it is too great or has no digits.  Such
a number is a value that cannot be read, and it spoils nothing where nobody reads it.
-/

namespace ChessDiagram.Toml

inductive TableOrigin where
  /-- Only named as a part of a longer header. -/
  | implied
  /-- Named by a header of its own. -/
  | header
  /-- Named as a part of a dotted key. -/
  | dotted
  /-- Written with braces. -/
  | inline
deriving DecidableEq

inductive Value where
  | string (text : Text)
  | integer (number : Int)
  | float (number : Binary64)
  | boolean (value : Bool)
  /-- A number without a value. -/
  | unreadable
  /-- A date, a time or both. -/
  | moment
  /-- An array, growing while headers add tables to it. -/
  | array (growing : Bool) (elements : List Value)
  | table (origin : TableOrigin) (entries : List (Text × Value))

namespace Value

def text? : Value → Option Text
  | .string text => some text
  | _ => none

def boolean? : Value → Option Bool
  | .boolean value => some value
  | _ => none

/-- A number in some format.  Integers are rounded to it directly; only those of 64 bits, with or
without sign, count as numbers. -/
def number? {format : Format} : Value → Option (Floating format)
  | .integer number =>
      if -Int.pow 2 63 ≤ number ∧ number < Int.pow 2 64 then some (.ofRat false number) else none
  | .float number => some number.convert
  | _ => none

mutual

/-- Whether every number inside a value has a value. -/
def isReadable : Value → Bool
  | .unreadable => false
  | .array _ elements => areReadable elements
  | .table _ entries => entriesAreReadable entries
  | _ => true

def areReadable : List Value → Bool
  | [] => true
  | value :: rest => value.isReadable && areReadable rest

def entriesAreReadable : List (Text × Value) → Bool
  | [] => true
  | (_, value) :: rest => value.isReadable && entriesAreReadable rest

end

end Value

abbrev Entries := List (Text × Value)

namespace Entries

def get? (entries : Entries) (key : Text) : Option Value :=
  entries.lookup key

/-- The entries with the value of a present key changed by a rule that may refuse. -/
def modify (key : Text) (change : Value → Option Value) : Entries → Option Entries
  | [] => none
  | (present, value) :: rest =>
      if present = key then
        (change value).map fun changed => (present, changed) :: rest
      else
        (modify key change rest).map ((present, value) :: ·)

/-- The entries with a new value at the end. -/
def add (entries : Entries) (key : Text) (value : Value) : Entries :=
  entries ++ [(key, value)]

/-- The elements of an array with a change to the entries of the table at its end. -/
def changeLast (change : Entries → Option Entries) (elements : List Value) : Option (List Value) :=
  match elements.getLast? with
  | some (.table origin inner) =>
      (change inner).map fun changed => elements.dropLast ++ [.table origin changed]
  | _ => none

/-- Assigns a value to a dotted key.  Its parts before the last name tables, which no header may
name; an array of tables is entered at its last table on the way to another table. -/
def assign (value : Value) : List Text → Entries → Option Entries
  | [], _ => none
  | [key], entries =>
      match entries.get? key with
      | none => some (entries.add key value)
      | some _ => none
  | key :: path, entries =>
      match entries.get? key with
      | none => (assign value path []).map fun inner => entries.add key (.table .dotted inner)
      | some _ =>
          entries.modify key fun
            | .table .implied inner => (assign value path inner).map (.table .dotted ·)
            | .table .dotted inner => (assign value path inner).map (.table .dotted ·)
            | .array true elements =>
                match path with
                | _ :: _ :: _ => (changeLast (assign value path) elements).map (.array true ·)
                | _ => none
            | _ => none

/-- Applies a change to the table that a header stands in, by the keys on the way to it.  Missing
tables are made on the way, and an array of tables is entered at its last table. -/
def within (change : Entries → Option Entries) : List Text → Entries → Option Entries
  | [], entries => change entries
  | key :: path, entries =>
      match entries.get? key with
      | none => (within change path []).map fun inner => entries.add key (.table .implied inner)
      | some _ =>
          entries.modify key fun
            | .table .inline _ => none
            | .table origin inner => (within change path inner).map (.table origin ·)
            | .array true elements =>
                (changeLast (within change path) elements).map (.array true ·)
            | _ => none

/-- Opens the table of a header's last key. -/
def openTable (key : Text) (entries : Entries) : Option Entries :=
  match entries.get? key with
  | none => some (entries.add key (.table .header []))
  | some _ =>
      entries.modify key fun
        | .table .implied inner => some (.table .header inner)
        | _ => none

/-- Opens a new table in the array of a doubled header's last key. -/
def openElement (key : Text) (entries : Entries) : Option Entries :=
  match entries.get? key with
  | none => some (entries.add key (.array true [.table .header []]))
  | some _ =>
      entries.modify key fun
        | .array true elements => some (.array true (elements ++ [.table .header []]))
        | _ => none

end Entries

end ChessDiagram.Toml
