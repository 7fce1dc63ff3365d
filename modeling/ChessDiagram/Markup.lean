import ChessDiagram.Text.Basic

/-!
# Markup

Drawings and the text around them are trees of elements.  An element keeps its attributes in the
order of their keys.  It is written on one line when it is empty, and otherwise with every child on
a line of its own between the opening and the closing tag.

An inline element holds a text instead of children.  It is written without line breaks of its own
and always with a closing tag; its text is written as it is.
-/

namespace ChessDiagram

inductive Markup where
  | element (name : Text) (attributes : List (Text × Text)) (children : List Markup)
  | inline (name : Text) (attributes : List (Text × Text)) (content : Text)

namespace Markup

/-- Characters that are written as references inside attribute values. -/
def referenceOf? : Char → Option Text
  | '&' => some "&amp;"
  | '<' => some "&lt;"
  | '>' => some "&gt;"
  | '"' => some "&quot;"
  | '\'' => some "&apos;"
  | _ => none

def valueText (value : Text) : Text :=
  value.flatMap fun character => (referenceOf? character).getD [character]

def attributesText (attributes : List (Text × Text)) : Text :=
  attributes.flatMap fun (key, value) => " " ++ key ++ "=\"" ++ valueText value ++ "\""

/-- Attributes with one more, in the order of their keys; a key that is present gets the value. -/
def insertAttribute (key value : Text) : List (Text × Text) → List (Text × Text)
  | [] => [(key, value)]
  | (present, old) :: rest =>
      if key = present then (key, value) :: rest
      else if Text.precedes key present then (key, value) :: (present, old) :: rest
      else (present, old) :: insertAttribute key value rest

def orderAttributes (attributes : List (Text × Text)) : List (Text × Text) :=
  attributes.foldl (fun ordered (key, value) => insertAttribute key value ordered) []

/-- An element with attributes given in any order. -/
def node (name : Text) (attributes : List (Text × Text)) (children : List Markup) : Markup :=
  .element name (orderAttributes attributes) children

def name : Markup → Text
  | .element name _ _ => name
  | .inline name _ _ => name

def attributes : Markup → List (Text × Text)
  | .element _ attributes _ => attributes
  | .inline _ attributes _ => attributes

def attribute? (markup : Markup) (key : Text) : Option Text :=
  markup.attributes.lookup key

def children : Markup → List Markup
  | .element _ _ children => children
  | .inline .. => []

mutual

def text : Markup → Text
  | .element name attributes [] => "<" ++ name ++ attributesText attributes ++ "/>"
  | .element name attributes (first :: rest) =>
      "<" ++ name ++ attributesText attributes ++ ">" ++ childrenText (first :: rest)
        ++ "\n</" ++ name ++ ">"
  | .inline name attributes content =>
      "<" ++ name ++ attributesText attributes ++ ">" ++ content ++ "</" ++ name ++ ">"

def childrenText : List Markup → Text
  | [] => []
  | first :: rest => '\n' :: (first.text ++ childrenText rest)

end

end Markup

end ChessDiagram
