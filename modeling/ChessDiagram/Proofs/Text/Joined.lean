import ChessDiagram.Proofs.Text.Lines

/-!
# Lines of joined texts

Joining lines with line feeds and cutting the result into lines gives them back but for two things:
a carriage return at the end of a line belongs to the line feed behind it, and an empty last line is
no line.  What is read off the lines one by one does not change as long as neither matters to it.
-/

namespace ChessDiagram.Text

theorem join_cons (separator text : Text) {others : List Text} (more : others ≠ []) :
    join separator (text :: others) = text ++ separator ++ join separator others := by
  cases others with
  | nil => exact (more rfl).elim
  | cons next others => rfl

theorem lines_join_cons {line : Text} {others : List Text} (noFeed : '\n' ∉ line)
    (more : others ≠ []) :
    lines (join "\n" (line :: others)) = withoutReturn line :: lines (join "\n" others) := by
  rw [join_cons _ line more, List.append_assoc]
  exact lines_append_feed noFeed _

theorem lines_join_append {front back : List Text} (noFeed : ∀ line ∈ front, '\n' ∉ line)
    (more : back ≠ []) :
    lines (join "\n" (front ++ back)) = front.map withoutReturn ++ lines (join "\n" back) := by
  induction front with
  | nil => rfl
  | cons line front induction =>
      have behind : front ++ back ≠ [] := by simp [more]
      obtain ⟨first, others⟩ := List.forall_mem_cons.mp noFeed
      rw [List.cons_append, lines_join_cons first behind, induction others]
      rfl

/-- A first match over the lines of a text with a further text behind a line feed is one over the
lines of the first text or else one over those of the second. -/
theorem findSome?_lines_append_feed {read : Text → Option α} (empty : read [] = none)
    (insensitive : ∀ line, read (withoutReturn line) = read line) (front back : Text) :
    (lines (front ++ '\n' :: back)).findSome? read =
      ((lines front).findSome? read).or ((lines back).findSome? read) := by
  induction front using lineInduction with
  | last line noFeed =>
      rw [lines_append_feed noFeed, List.findSome?_cons, insensitive]
      by_cases nothing : line = []
      · subst line
        rw [empty]
        rfl
      · rw [lines_of_noFeed nothing noFeed, List.findSome?_singleton]
        cases read line <;> rfl
  | step line rest noFeed induction =>
      rw [List.append_assoc, List.cons_append, lines_append_feed noFeed, lines_append_feed noFeed,
        List.findSome?_cons, List.findSome?_cons, insensitive, induction]
      cases read line <;> rfl

/-- A first match over joined lines is one over the lines themselves. -/
theorem findSome?_lines_join {read : Text → Option α} (empty : read [] = none)
    (insensitive : ∀ line, read (withoutReturn line) = read line) {texts : List Text}
    (noFeed : ∀ text ∈ texts, '\n' ∉ text) :
    (lines (join "\n" texts)).findSome? read = texts.findSome? read := by
  induction texts with
  | nil => rfl
  | cons text others induction =>
      obtain ⟨first, behind⟩ := List.forall_mem_cons.mp noFeed
      by_cases more : others = []
      · subst more
        show (lines text).findSome? read = _
        by_cases nothing : text = []
        · subst nothing
          simp [lines, empty]
        · rw [lines_of_noFeed nothing first]
      · rw [lines_join_cons first more, List.findSome?_cons, List.findSome?_cons, insensitive,
          induction behind]

theorem head?_lines_join {line : Text} (noFeed : '\n' ∉ line) (others : List Text) :
    ∀ first ∈ (lines (join "\n" (line :: others))).head?,
      first = line ∨ first = withoutReturn line := by
  intro first member
  by_cases more : others = []
  · subst more
    rw [join] at member
    by_cases nothing : line = []
    · subst nothing
      cases member
    · rw [lines_of_noFeed nothing noFeed] at member
      exact .inl (Option.some.inj member).symm
  · rw [lines_join_cons noFeed more] at member
    exact .inr (Option.some.inj member).symm

section

variable {read : Text → Option α} (insensitive : ∀ line, read (withoutReturn line) = read line)
include insensitive

/-- Joined lines are all read off when the last one is not empty. -/
theorem map_lines_join {texts : List Text} (noFeed : ∀ text ∈ texts, '\n' ∉ text)
    (last : ∀ text ∈ texts.getLast?, text ≠ []) :
    (lines (join "\n" texts)).map read = texts.map read := by
  rcases List.eq_nil_or_concat texts with rfl | ⟨init, text, rfl⟩
  · rfl
  · rw [List.concat_eq_append] at noFeed last ⊢
    have initNoFeed : ∀ line ∈ init, '\n' ∉ line :=
      fun line member => noFeed line (List.mem_append_left _ member)
    have textNoFeed : '\n' ∉ text := noFeed text (by simp)
    have nonempty : text ≠ [] := last text (by simp)
    have sameRead : read ∘ withoutReturn = read := funext insensitive
    rw [lines_join_append initNoFeed (by simp), join, lines_of_noFeed nonempty textNoFeed,
      List.map_append, List.map_map, sameRead, List.map_append]

/-- What is read off joined lines up to one that is not empty is what is read off these lines, and
then nothing is read where nothing is read off the line behind them. -/
theorem exists_map_lines_join {front after : List Text} (noFeed : ∀ line ∈ front, '\n' ∉ line)
    (last : ∀ line ∈ front.getLast?, line ≠ [])
    (behind : ∀ line ∈ after.head?, '\n' ∉ line ∧ read line = none) :
    ∃ rest, (lines (join "\n" (front ++ after))).map read = front.map read ++ rest ∧
      ∀ value ∈ rest.head?, value = none := by
  cases after with
  | nil =>
      refine ⟨[], ?_, by simp⟩
      rw [List.append_nil, List.append_nil, map_lines_join insensitive noFeed last]
  | cons first more =>
      obtain ⟨firstNoFeed, firstRead⟩ := behind first rfl
      have sameRead : read ∘ withoutReturn = read := funext insensitive
      refine ⟨(lines (join "\n" (first :: more))).map read, ?_, ?_⟩
      · rw [lines_join_append noFeed (by simp), List.map_append, List.map_map, sameRead]
      · intro value member
        rw [List.head?_map] at member
        obtain ⟨line, lineMember, rfl⟩ := Option.map_eq_some_iff.mp member
        rcases head?_lines_join firstNoFeed more line lineMember with rfl | rfl
        · exact firstRead
        · rw [insensitive, firstRead]

end

end ChessDiagram.Text
