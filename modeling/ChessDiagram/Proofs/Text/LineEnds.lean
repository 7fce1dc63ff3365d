import ChessDiagram.Proofs.Text.Lines
import ChessDiagram.Text.Escape

/-!
# Line ends

What stands between the line feeds of a text are its lines, but for two things: a carriage return in
front of a line feed is no part of a line, and an empty last stretch is no line.  A reader to which
neither matters reads the same off the lines and off the stretches between line feeds, so that it
reads the same when every line feed gets a carriage return in front of it.
-/

namespace ChessDiagram.Text

/-- The text with a carriage return in front of every line feed. -/
def crlf (text : Text) : Text :=
  replaceChar '\n' "\r\n" text

theorem crlf_append (front back : Text) : crlf (front ++ back) = crlf front ++ crlf back :=
  List.flatMap_append

theorem crlf_flatten (texts : List Text) : crlf texts.flatten = (texts.map crlf).flatten := by
  induction texts with
  | nil => rfl
  | cons text texts induction =>
      rw [List.flatten_cons, crlf_append, induction, List.map_cons, List.flatten_cons]

theorem crlf_of_noFeed {text : Text} (noFeed : '\n' ∉ text) : crlf text = text := by
  induction text with
  | nil => rfl
  | cons character text induction =>
      have different : character ≠ '\n' := (List.ne_of_not_mem_cons noFeed).symm
      have tail := induction (List.not_mem_of_not_mem_cons noFeed)
      rw [← List.singleton_append, crlf_append, tail]
      simp [crlf, replaceChar, different]

theorem crlf_append_feed {line : Text} (noFeed : '\n' ∉ line) (rest : Text) :
    crlf (line ++ '\n' :: rest) = (line ++ ['\r']) ++ '\n' :: crlf rest := by
  rw [crlf_append, crlf_of_noFeed noFeed, List.append_assoc]
  rfl

private theorem feed_notMem_append_return {line : Text} (noFeed : '\n' ∉ line) :
    '\n' ∉ line ++ ['\r'] := by
  simpa using noFeed

theorem segments_crlf (text : Text) : segments (crlf text) = (segments text).map crlf := by
  induction text using lineInduction with
  | last line noFeed =>
      rw [crlf_of_noFeed noFeed]
      by_cases empty : line = []
      · subst line
        rfl
      · rw [segments_of_noFeed empty noFeed, List.map_singleton, crlf_of_noFeed noFeed]
  | step line rest noFeed induction =>
      rw [crlf_append_feed noFeed, segments_append_feed (feed_notMem_append_return noFeed),
        induction, segments_append_feed noFeed, List.map_cons, crlf_append_feed noFeed]
      rfl

theorem withoutReturn_append_return (line : Text) : withoutReturn (line ++ ['\r']) = line := by
  simp [withoutReturn]

/-- The segments of a text with a line feed at its end are what stands between the line feeds, each
with a line feed. -/
theorem segments_append_singleton_feed (text : Text) :
    segments (text ++ ['\n']) = (text.splitOn '\n').map (· ++ ['\n']) := by
  induction text using lineInduction with
  | last line noFeed =>
      rw [segments_append_feed noFeed, List.splitOn_eq_singleton noFeed]
      rfl
  | step line rest noFeed induction =>
      rw [List.append_assoc, List.cons_append, segments_append_feed noFeed, induction,
        List.splitOn_append_cons_self_of_not_mem noFeed, List.map_cons]

theorem notMem_of_mem_splitOn {mark : Char} {text piece : Text}
    (member : piece ∈ text.splitOn mark) : mark ∉ piece := by
  induction text using cutInduction mark with
  | last text unmarked =>
      rw [List.splitOn_eq_singleton unmarked] at member
      rw [List.mem_singleton.mp member]
      exact unmarked
  | step first rest unmarked induction =>
      rw [List.splitOn_append_cons_self_of_not_mem unmarked] at member
      rcases List.mem_cons.mp member with rfl | later
      · exact unmarked
      · exact induction later

theorem length_splitOn (mark : Char) (text : Text) :
    (text.splitOn mark).length = text.count mark + 1 := by
  induction text using cutInduction mark with
  | last piece unmarked =>
      rw [List.splitOn_eq_singleton unmarked, List.count_eq_zero.mpr unmarked]
      rfl
  | step piece rest unmarked induction =>
      rw [List.splitOn_append_cons_self_of_not_mem unmarked, List.length_cons, induction,
        List.count_append, List.count_eq_zero.mpr unmarked, List.count_cons_self, Nat.zero_add]

theorem infix_of_mem_splitOn {text line : Text} (member : line ∈ text.splitOn '\n') :
    line <:+: text := by
  induction text using lineInduction with
  | last text noFeed =>
      rw [List.splitOn_eq_singleton noFeed] at member
      obtain rfl := List.mem_singleton.mp member
      exact List.infix_refl line
  | step first rest noFeed induction =>
      rw [List.splitOn_append_cons_self_of_not_mem noFeed] at member
      rcases List.mem_cons.mp member with rfl | later
      · exact (List.prefix_append _ _).isInfix
      · have behind : rest <:+ first ++ '\n' :: rest :=
          (List.suffix_cons _ _).trans (List.suffix_append _ _)
        exact (induction later).trans behind.isInfix

section

variable {read : Text → Option α} (insensitive : ∀ line, read (withoutReturn line) = read line)
include insensitive

/-- Only the last stretch between line feeds may be no line, and then it is empty. -/
theorem map_splitOn (empty : read [] = none) (text : Text) :
    (text.splitOn '\n').map read = (lines text).map read ∨
      (text.splitOn '\n').map read = (lines text).map read ++ [none] := by
  induction text using lineInduction with
  | last line noFeed =>
      rw [List.splitOn_eq_singleton noFeed]
      by_cases nothing : line = []
      · subst line
        exact .inr (congrArg (fun value => [value]) empty)
      · rw [lines_of_noFeed nothing noFeed]
        exact .inl rfl
  | step line rest noFeed induction =>
      rw [List.splitOn_append_cons_self_of_not_mem noFeed, lines_append_feed noFeed, List.map_cons,
        List.map_cons, insensitive, List.cons_append]
      apply induction.imp
      · exact congrArg _
      · exact congrArg _

theorem map_splitOn_crlf (text : Text) :
    ((crlf text).splitOn '\n').map read = (text.splitOn '\n').map read := by
  induction text using lineInduction with
  | last line noFeed => rw [crlf_of_noFeed noFeed]
  | step line rest noFeed induction =>
      have sameRead : read (line ++ ['\r']) = read line := by
        rw [← insensitive, withoutReturn_append_return]
      rw [crlf_append_feed noFeed,
        List.splitOn_append_cons_self_of_not_mem (feed_notMem_append_return noFeed),
        List.splitOn_append_cons_self_of_not_mem noFeed, List.map_cons, List.map_cons, sameRead,
        induction]

end

end ChessDiagram.Text
