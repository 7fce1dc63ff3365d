import ChessDiagram.Text.Basic

/-!
# Lines

A text is read by lines in two ways.  `lines` gives what stands between the line feeds, where one
carriage return before a line feed belongs to the line's end; a final line feed opens no further
line.  `segments` cuts after every line feed and keeps all characters, so that the segments put
together are the text again.
-/

namespace ChessDiagram.Text

def lines : Text → List Text
  | [] => []
  | '\n' :: rest => [] :: lines rest
  | '\r' :: '\n' :: rest => [] :: lines rest
  | character :: rest =>
      match lines rest with
      | [] => [[character]]
      | line :: others => (character :: line) :: others

def segments : Text → List Text
  | [] => []
  | character :: rest =>
      if character = '\n' then
        [character] :: segments rest
      else
        match segments rest with
        | [] => [[character]]
        | segment :: others => (character :: segment) :: others

theorem flatten_segments (text : Text) : (segments text).flatten = text := by
  induction text with
  | nil => rfl
  | cons character rest induction =>
      unfold segments
      split
      · simp [induction]
      · cases parts : segments rest with
        | nil => simp_all
        | cons segment others => simp_all

end ChessDiagram.Text
