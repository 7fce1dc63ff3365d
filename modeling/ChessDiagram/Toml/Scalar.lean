import ChessDiagram.Text.Blank
import ChessDiagram.Toml.Quoted
import ChessDiagram.Toml.Value

/-!
# TOML scalars

Numbers, booleans, dates and times.  Digits may be grouped by single underscores.  Integers that do
not fit into 128 bits, with or without sign, and floats that overflow have no value.

A scalar is a word, which blanks and the marks of the composite values end.  Tabs do not end a word
that goes on behind them.
-/

namespace ChessDiagram.Toml

/-- The characters that end a word, besides tabs. -/
def wordEnds : List Char :=
  [' ', '\n', '\r', '#', '=', ',', '[', ']', '{', '}']

/-- Whether a word goes on behind tabs, where a string is no part of a word. -/
def goesOn (text : Text) : Bool :=
  match text.dropWhile (· == '\t') with
  | [] => false
  | next :: _ => !(wordEnds.contains next || next == '"' || next == '\'')

/-- The word at the start of a text. -/
def takeWord : Text → Text
  | [] => []
  | '\t' :: rest => if goesOn rest then '\t' :: takeWord rest else []
  | character :: rest => if wordEnds.contains character then [] else character :: takeWord rest

/-- The sign of a number, as whether it is a minus, and the text after it. -/
def signed : Text → Bool × Text
  | '+' :: rest => (false, rest)
  | '-' :: rest => (true, rest)
  | text => (false, text)

/-- Whether every underscore of a number stands between two digits. -/
def isGrouped (isDigit : Char → Bool) (number : Text) : Bool :=
  let groups := Text.pieces (· == '_') number
  groups.tail.all (fun group => group.head?.any isDigit) &&
    groups.dropLast.all fun group => group.getLast?.any isDigit

/-- Whether a zero stands before the other digits of a number. -/
def isPadded : Text → Bool
  | '0' :: next :: _ => Text.isDigit next || next == '_'
  | _ => false

namespace Value

/-- The value of an integer, which has at most 128 bits. -/
def ofInteger (number : Int) : Value :=
  if -Int.pow 2 127 ≤ number && number < Int.pow 2 128 then .integer number else .unreadable

/-- The value of a float that is written in digits. -/
def ofFloat (number : Binary64) : Value :=
  if number.isFinite then .float number else .unreadable

end Value

/-- An integer in a base of at most sixteen. -/
def based? (base : Nat) (text : Text) : Option Value :=
  let isDigit := fun character => (hexValue? character).any (· < base)
  let digits := text.filter (· != '_')
  if digits.all isDigit && isGrouped isDigit text then
    if digits.isEmpty then
      some .unreadable
    else
      let number := (digits.filterMap hexValue?).foldl (fun number digit => base * number + digit) 0
      some (.ofInteger number)
  else
    none

/-- A decimal integer.  Behind its first underscore other characters than digits may stand; the
number then has no value. -/
def decimal? (word : Text) : Option Value :=
  let (negative, magnitude) := signed word
  let isFloatMark := fun character : Char =>
    character == '.' || character == 'e' || character == 'E'
  let startsWhole := (magnitude.dropWhile Text.isDigit).head?.all (· == '_')
  let isWellFormed := !magnitude.isEmpty && startsWhole && !magnitude.any isFloatMark
    && !isPadded magnitude && isGrouped (fun digit => (hexValue? digit).isSome) word
  let digits := magnitude.filter (· != '_')
  let number : Int := Text.decimalValue digits
  if !isWellFormed then none
  else if digits.all Text.isDigit then some (.ofInteger (if negative then -number else number))
  else some .unreadable

/-- The digits after a point, if there is one, and the text after them. -/
def fraction? : Text → Option (Text × Text)
  | '.' :: rest =>
      let digits := rest.takeWhile Text.isDigit
      if digits.isEmpty then none else some (digits, rest.dropWhile Text.isDigit)
  | text => some ([], text)

/-- The value of the exponent that a number ends in, if it has one. -/
def exponent? : Text → Option Int
  | [] => some 0
  | mark :: power =>
      let (negative, digits) := signed power
      if (mark == 'e' || mark == 'E') && !digits.isEmpty && digits.all Text.isDigit then
        let magnitude : Int := Text.decimalValue digits
        some (if negative then -magnitude else magnitude)
      else
        none

def float? (word : Text) : Option Value := do
  let (negative, magnitude) := signed word
  if magnitude = "inf" then
    return .float (.infinite negative)
  else if magnitude = "nan" then
    return .float .nan
  else
    let plain := magnitude.filter (· != '_')
    let whole := plain.takeWhile Text.isDigit
    let (fraction, rest) ← fraction? (plain.dropWhile Text.isDigit)
    let exponent ← exponent? rest
    if whole.isEmpty || isPadded magnitude || !isGrouped Text.isDigit word then
      none
    else
      let digits := Text.decimalValue (whole ++ fraction)
      return .ofFloat (.ofDecimal negative digits (exponent - fraction.length))

def number? (word : Text) : Option Value :=
  match word with
  | '0' :: 'x' :: digits => based? 16 digits
  | '0' :: 'o' :: digits => based? 8 digits
  | '0' :: 'b' :: digits => based? 2 digits
  | _ =>
      match decimal? word with
      | some value => some value
      | none => float? word

def isLeapYear (year : Nat) : Bool :=
  year % 4 == 0 && (year % 100 != 0 || year % 400 == 0)

def daysOfMonth (year month : Nat) : Nat :=
  if month == 2 then (if isLeapYear year then 29 else 28)
  else if month == 4 || month == 6 || month == 9 || month == 11 then 30
  else 31

/-- The number of exactly so many digits. -/
def fixed? (count : Nat) (digits : Text) : Option Nat :=
  if digits.length = count ∧ digits.all Text.isDigit then some (Text.decimalValue digits) else none

def isDate (word : Text) : Bool :=
  match Text.pieces (· == '-') word with
  | [year, month, day] =>
      match fixed? 4 year, fixed? 2 month, fixed? 2 day with
      | some year, some month, some day =>
          1 ≤ month && month ≤ 12 && 1 ≤ day && day ≤ daysOfMonth year month
      | _, _, _ => false
  | _ => false

/-- Whether a text is a number of two digits with a bound. -/
def isBelow (bound : Nat) (digits : Text) : Bool :=
  match fixed? 2 digits with
  | some number => number < bound
  | none => false

def isSeconds (text : Text) : Bool :=
  match Text.pieces (· == '.') text with
  | [seconds] => isBelow 61 seconds
  | [seconds, fraction] => isBelow 61 seconds && !fraction.isEmpty && fraction.all Text.isDigit
  | _ => false

def isTime (word : Text) : Bool :=
  match Text.pieces (· == ':') word with
  | [hours, minutes] => isBelow 24 hours && isBelow 60 minutes
  | [hours, minutes, seconds] => isBelow 24 hours && isBelow 60 minutes && isSeconds seconds
  | _ => false

/-- A time of day with an offset or without one. -/
def isOffsetTime (word : Text) : Bool :=
  let isOffsetStart := fun character : Char =>
    character == 'Z' || character == 'z' || character == '+' || character == '-'
  let time := word.takeWhile (!isOffsetStart ·)
  isTime time &&
    match word.dropWhile (!isOffsetStart ·) with
    | [] => true
    | mark :: offset =>
        if mark == 'Z' || mark == 'z' then
          offset.isEmpty
        else
          match Text.pieces (· == ':') offset with
          | [hours, minutes] => isBelow 24 hours && isBelow 60 minutes
          | _ => false

def isMoment (word : Text) : Bool :=
  isTime word || isDate word ||
    (isDate (word.take 10) &&
      match word.drop 10 with
      | 'T' :: time => isOffsetTime time
      | 't' :: time => isOffsetTime time
      | _ => false)

/-- The value of a word that is not a string, an array or a table. -/
def scalarOf? (word : Text) : Option Value :=
  if word = "true" then some (.boolean true)
  else if word = "false" then some (.boolean false)
  else if isMoment word then some .moment
  else number? word

/-- The scalar at the start of a text, and the text after it.  A space may stand between date and
time. -/
def scalar? (text : Text) : Option (Value × Text) :=
  let word := takeWord text
  let rest := text.drop word.length
  match isDate word, rest with
  | true, ' ' :: following =>
      let time := takeWord following
      if time.head?.any Text.isDigit then
        if isOffsetTime time then some (.moment, following.drop time.length) else none
      else
        some (.moment, rest)
  | _, _ => (scalarOf? word).map (·, rest)

end ChessDiagram.Toml
