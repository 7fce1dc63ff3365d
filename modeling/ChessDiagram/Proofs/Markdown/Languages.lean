import ChessDiagram.Proofs.Markdown.Grammar
import ChessDiagram.Proofs.Text.Pieces

/-!
# The languages of fences

A fence holds a diagram exactly when its language, the first word behind its markers, has the word
of diagram blocks in it: in some ASCII case, and with no letter, digit or underscore of ASCII next
to it.  What follows the first word does not matter, neither to the kind of the block nor to the
lines that close it.
-/

namespace ChessDiagram.Markdown

theorem Fence.isDiagram_iff {fence : Fence} {word : Text}
    (first : Text.IsFirstWord word fence.info) :
    fence.isDiagram = true ↔ Text.HoldsWord diagramWord word := by
  have isWord : ∀ character ∈ diagramWord, Text.isWordChar character = true := by
    simp [diagramWord, Text.isWordChar, Text.isLetter, Text.isDigit]
  rw [first.eq_firstWord]
  exact Text.any_pieces_iff isWord

/-- Fences with the same markers and the same first word open blocks of the same kind, which the
same lines close. -/
theorem Fence.block_congr {fence other : Fence} {word : Text} (marker : other.marker = fence.marker)
    (length : other.length = fence.length) (first : Text.IsFirstWord word fence.info)
    (otherFirst : Text.IsFirstWord word other.info) :
    other.isDiagram = fence.isDiagram ∧
      ∀ line, other.isClosedBy line = fence.isClosedBy line := by
  constructor
  · rw [Bool.eq_iff_iff, isDiagram_iff first, isDiagram_iff otherFirst]
  · intro line
    rw [Bool.eq_iff_iff, isClosedBy_iff, isClosedBy_iff, marker, length]

/-- A line opens a fence exactly when it starts, perhaps behind a gap, with a run of three or more
markers.  The fence holds a diagram exactly when the first word behind the run has the word of
diagram blocks in it, and nothing else behind the run matters.  No such line opens a container. -/
theorem isDiagram_iff_holdsWord :
    (∀ (content : Text) (fence : Fence), fence? content = some fence ↔ fence.IsOpening content) ∧
    (∀ text : Text, ∃! word, Text.IsFirstWord word text) ∧
    (∀ (content : Text) (fence : Fence) (word : Text), fence? content = some fence →
      Text.IsFirstWord word fence.info →
      (fence.isDiagram = true ↔ Text.HoldsWord diagramWord word)) ∧
    (∀ (content other : Text) (fence otherFence : Fence) (word : Text),
      fence? content = some fence → fence? other = some otherFence →
      otherFence.marker = fence.marker → otherFence.length = fence.length →
      Text.IsFirstWord word fence.info → Text.IsFirstWord word otherFence.info →
      otherFence.isDiagram = fence.isDiagram ∧
        ∀ line, otherFence.isClosedBy line = fence.isClosedBy line) ∧
    ∀ content : Text, ¬ (opensContainer content = true ∧ (fence? content).isSome = true) := by
  refine ⟨fun _ _ => fence?_eq_some_iff, ?firstWord, ?language, ?sameWord, ?container⟩
  case firstWord =>
    intro text
    exact ⟨_, Text.isFirstWord_firstWord text, fun _ first => first.eq_firstWord⟩
  case language =>
    intro content fence word _ first
    exact fence.isDiagram_iff first
  case sameWord =>
    intro content other fence otherFence word _ _ marker length first otherFirst
    exact Fence.block_congr marker length first otherFirst
  case container =>
    rintro content ⟨opens, isFence⟩
    obtain ⟨fence, found⟩ := Option.isSome_iff_exists.mp isFence
    exact not_opensContainer_of_fence? found opens

/-- A letter outside of ASCII is a boundary, an underscore is none, and later words do not count. -/
theorem isDiagram_iff_holdsWord_boundaries :
    ∃ fence other notes : Fence,
      fence? "  ~~~~ \u00a0éChEsS-x chess_y" = some fence ∧ fence? "~~~~éChEsS-x" = some other ∧
      fence? "``` chess_notes chess" = some notes ∧
      fence.isDiagram = true ∧ other.isDiagram = true ∧ other.isClosedBy "\t~~~~~" = true ∧
      ¬ Text.HoldsWord diagramWord "chess_notes" ∧
      ¬ opensContainer "``` chess_notes chess" = true := by
  obtain ⟨opens, -, language, sameWord, container⟩ := isDiagram_iff_holdsWord
  have found := (opens "  ~~~~ \u00a0éChEsS-x chess_y" ⟨.tilde, 4, " \u00a0éChEsS-x chess_y"⟩).mpr
    ⟨"  ", by decide +kernel⟩
  have otherFound := (opens "~~~~éChEsS-x" ⟨.tilde, 4, "éChEsS-x"⟩).mpr
    ⟨[], by decide +kernel⟩
  have notesFound := (opens "``` chess_notes chess" ⟨.backtick, 3, " chess_notes chess"⟩).mpr
    ⟨[], by decide +kernel⟩
  have first : Text.IsFirstWord "éChEsS-x" " \u00a0éChEsS-x chess_y" :=
    ⟨" \u00a0", " chess_y", by simp [Text.isBlank]⟩
  have otherFirst : Text.IsFirstWord "éChEsS-x" "éChEsS-x" :=
    ⟨[], [], by simp [Text.isBlank]⟩
  have notesFirst : Text.IsFirstWord "chess_notes" " chess_notes chess" :=
    ⟨" ", " chess", by simp [Text.isBlank]⟩
  have isDiagram := (language _ _ _ found first).mpr
    ⟨"é", "ChEsS", "-x", by decide +kernel, by decide +kernel,
      by simp [Text.isWordChar, Text.isLetter, Text.isDigit]⟩
  obtain ⟨sameKind, sameClosing⟩ := sameWord _ _ _ _ _ found otherFound rfl rfl first otherFirst
  refine ⟨_, _, _, found, otherFound, notesFound, isDiagram, sameKind.trans isDiagram, ?_, ?_, ?_⟩
  · exact (sameClosing _).trans (by decide +kernel)
  · exact fun holds => absurd ((language _ _ _ notesFound notesFirst).mpr holds) (by decide +kernel)
  · exact fun both => container _ ⟨both, by rw [notesFound]; rfl⟩

end ChessDiagram.Markdown
