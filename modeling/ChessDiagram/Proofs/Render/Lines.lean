import ChessDiagram.Proofs.Render.FreeText

/-!
# Rendered sources line by line

A fragment that a source renders to is one block of markup: cut at its line feeds, it is the lines
of its frame, of the board and of the three texts, and every one of them begins with the opening
bracket of a tag.  Each text stands between its tags on one line, also when it is empty.
-/

namespace ChessDiagram

theorem Text.TagLines.head?_of_mem_splitOn {text : Text} (tagLines : TagLines text) :
    ∀ line ∈ text.splitOn '\n', line.head? = some '<' := by
  induction tagLines with
  | @last line noFeed =>
      rw [List.splitOn_eq_singleton (by simpa using noFeed)]
      simp
  | @cons line rest noFeed _ induction =>
      have lineNoFeed : '\n' ∉ '<' :: line := by simpa using noFeed
      rw [← List.cons_append, List.splitOn_append_cons_self_of_not_mem lineNoFeed]
      simpa using induction

/-- A text that ends in a line feed has an empty last line. -/
theorem Text.getLast?_ne_feed {text : Text}
    (tagged : ∀ line ∈ text.splitOn '\n', line.head? = some '<') : text.getLast? ≠ some '\n' := by
  intro feed
  obtain ⟨front, rfl⟩ := List.getLast?_eq_some_iff.mp feed
  have empty : [] ∈ (front ++ ['\n']).splitOn '\n' := by
    rw [List.splitOn_append_cons_self]
    simp
  cases tagged [] empty

namespace Fragment

open Markup

def wrapperLine : Text :=
  "<div" ++ attributesText [("class", wrapperClass), ("style", wrapperStyle)] ++ ">"

def frameLine (size : BoardSize) (align : Align) : Text :=
  "<div" ++ attributesText [("style", frameStyle size align)] ++ ">"

/-- The line of the title. -/
def headingLine (escape : Bool) (title : Text) : Text :=
  "<h3" ++ attributesText [("style", titleStyle)] ++ ">"
    ++ freeText escape (Text.capitalizeWords title) ++ "</h3>"

/-- The line of the moves or of the notes. -/
def paragraphLine (escape : Bool) (text : Text) : Text :=
  "<p>" ++ freeText escape text ++ "</p>"

def closingLine : Text := "</div>"

/-- The lines of a fragment around those of its board. -/
def lines (settings : Settings) (escape : Bool) (board : List Text) : List Text :=
  [wrapperLine, frameLine settings.size settings.align, headingLine escape settings.title]
    ++ board
    ++ [paragraphLine escape settings.moves, paragraphLine escape settings.notes, closingLine,
      closingLine]

theorem feed_notMem_wrapperLine : '\n' ∉ wrapperLine := by
  decide +kernel

theorem feed_notMem_frameLine (size : BoardSize) (align : Align) :
    '\n' ∉ frameLine size align := by
  have attributes : '\n' ∉ attributesText [("style", frameStyle size align)] :=
    feed_notMem_attributesText (by simp [feed_notMem_frameStyle])
  unfold frameLine
  simp only [List.mem_append, attributes, or_false, not_or]
  decide

theorem feed_notMem_headingLine {title : Text} (noFeed : '\n' ∉ title) (escape : Bool) :
    '\n' ∉ headingLine escape title := by
  have attributes : '\n' ∉ attributesText [("style", titleStyle)] := by decide +kernel
  have written := feed_notMem_freeText (Text.feed_notMem_capitalizeWords noFeed) escape
  unfold headingLine
  simp only [List.mem_append, attributes, written, or_false, not_or]
  decide

theorem feed_notMem_paragraphLine {text : Text} (noFeed : '\n' ∉ text) (escape : Bool) :
    '\n' ∉ paragraphLine escape text := by
  unfold paragraphLine
  simp only [List.mem_append, feed_notMem_freeText noFeed escape, or_false, not_or]
  decide

theorem frame_eq_lines (size : BoardSize) (align : Align) (escape : Bool)
    (board title moves notes : Text) :
    frame size align board (freeText escape (Text.capitalizeWords title)) (freeText escape moves)
        (freeText escape notes) =
      wrapperLine ++ '\n' :: (frameLine size align ++ '\n' :: (headingLine escape title
        ++ '\n' :: (board ++ '\n' :: (paragraphLine escape moves
        ++ '\n' :: (paragraphLine escape notes
        ++ '\n' :: (closingLine ++ '\n' :: closingLine)))))) := by
  unfold frame wrapperLine frameLine headingLine paragraphLine closingLine
  generalize attributesText [("class", wrapperClass), ("style", wrapperStyle)] = wrapper
  generalize attributesText [("style", frameStyle size align)] = style
  generalize attributesText [("style", titleStyle)] = heading
  simp

/-- Texts without line feeds stay on the lines that the frame has for them. -/
theorem splitOn_text_assemble {settings : Settings} (escape : Bool) (board : Markup)
    (title : '\n' ∉ settings.title) (moves : '\n' ∉ settings.moves)
    (notes : '\n' ∉ settings.notes) :
    (assemble settings escape board).text.splitOn '\n' =
      lines settings escape (board.text.splitOn '\n') := by
  have closing : '\n' ∉ closingLine := by decide
  rw [text_assemble, frame_eq_lines,
    List.splitOn_append_cons_self_of_not_mem feed_notMem_wrapperLine,
    List.splitOn_append_cons_self_of_not_mem (feed_notMem_frameLine _ _),
    List.splitOn_append_cons_self_of_not_mem (feed_notMem_headingLine title escape),
    List.splitOn_append_cons_self,
    List.splitOn_append_cons_self_of_not_mem (feed_notMem_paragraphLine moves escape),
    List.splitOn_append_cons_self_of_not_mem (feed_notMem_paragraphLine notes escape),
    List.splitOn_append_cons_self_of_not_mem closing, List.splitOn_eq_singleton closing]
  simp [lines]

end Fragment

namespace Config

/-- Every source that renders gives the lines of a frame around the lines of its board, with the
title above and the moves and the notes below, whether free text is escaped or not.  No line is
blank and none is opened at the end. -/
theorem splitOn_render {config : Config} {source fragment : Text}
    (rendered : config.render source = .ok fragment) :
    ∃ board,
      config.renderBoard (Notation.diagram source) = .ok board ∧
        fragment.splitOn '\n' =
          Fragment.lines (Notation.settings source) config.escape (board.splitOn '\n') ∧
        (∀ line ∈ fragment.splitOn '\n',
          line.head? = some '<' ∧ ∃ character ∈ line, Text.isBlank character = false) ∧
        fragment.getLast? ≠ some '\n' := by
  have tagged := (tagLines_render rendered).head?_of_mem_splitOn
  obtain ⟨board, drawn, whole⟩ := exists_board_of_renderFragment rendered
  refine ⟨board.text, ?_, ?_, ?_, Text.getLast?_ne_feed tagged⟩
  · rw [renderBoard, drawn]
    rfl
  · rw [whole]
    exact Fragment.splitOn_text_assemble config.escape board (Notation.feed_notMem_value source _)
      (Notation.feed_notMem_value source _) (Notation.feed_notMem_value source _)
  · intro line member
    have head := tagged line member
    exact ⟨head, '<', List.mem_of_head? head, by decide⟩

/-- A title of blanks alone, moves that close their paragraph, and no notes, all of them as they are
written. -/
theorem splitOn_render_blankTitle :
    ∃ board fragment,
      Config.render { escape := false } "title \u00a0\nmoves </p>\r\n|k|" = .ok fragment ∧
        Config.renderBoard { escape := false }
            (Notation.diagram "title \u00a0\nmoves </p>\r\n|k|") = .ok board ∧
        fragment.splitOn '\n' =
          Fragment.lines { moves := "</p>" } false (board.splitOn '\n') ∧
        (∀ line ∈ fragment.splitOn '\n',
          line.head? = some '<' ∧ ∃ character ∈ line, Text.isBlank character = false) ∧
        fragment.getLast? ≠ some '\n' := by
  obtain ⟨fragment, rendered⟩ :
      ∃ fragment, Config.render { escape := false } "title \u00a0\nmoves </p>\r\n|k|" =
        .ok fragment := exists_renderFragment_escape false _
  obtain ⟨board, drawn, cut, tagged, closed⟩ := splitOn_render rendered
  have settings : Notation.settings "title \u00a0\nmoves </p>\r\n|k|" = { moves := "</p>" } := by
    decide +kernel
  rw [settings] at cut
  exact ⟨board, fragment, rendered, drawn, cut, tagged, closed⟩

end Config

end ChessDiagram
