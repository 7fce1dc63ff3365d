import ChessDiagram.Markdown.Document
import ChessDiagram.Proofs.Text.Runs

/-!
# Blocks line by line

A block is taken from the lines behind its opening line in one go.  The equations below say what
this means for the first of these lines: it closes the block, or it is the first line of the body of
the block that the remaining lines give.
-/

namespace ChessDiagram.Markdown

theorem content_append_feed (line : Text) : content (line ++ ['\n']) = content line :=
  Text.dropEndWhile_append_of_pos line rfl

theorem content_append_lineEnd (line : Text) : content line ++ lineEnd line = line := by
  obtain ⟨run, -, whole⟩ := Text.exists_append_dropEndWhile isLineEnd line
  have rest : lineEnd line = run := by
    rw [lineEnd, content]
    conv => lhs; rhs; rw [whole]
    exact List.drop_left
  rw [rest]
  exact whole.symm

theorem lineEnd_append_feed (line : Text) : lineEnd (line ++ ['\n']) = lineEnd line ++ ['\n'] := by
  have whole := content_append_lineEnd (line ++ ['\n'])
  rw [content_append_feed] at whole
  refine List.append_cancel_left (whole.trans ?_)
  rw [← List.append_assoc, content_append_lineEnd]

/-- The end of a line without line feed is its carriage returns. -/
theorem content_eq_of_noFeed {line : Text} (noFeed : '\n' ∉ line) :
    content line = Text.dropEndWhile (· == '\r') line := by
  apply Text.dropEndWhile_congr
  intro character member
  have different : character ≠ '\n' := by
    rintro rfl
    exact noFeed member
  simp [isLineEnd, different]

theorem content_append_singleton {character : Char} (line : Text)
    (outside : isLineEnd character = false) :
    content (line ++ [character]) = line ++ [character] :=
  Text.dropEndWhile_append_of_neg line outside

theorem prefix_content (line : Text) : content line <+: line :=
  ⟨lineEnd line, content_append_lineEnd line⟩

theorem feed_notMem_lineEnd {line : Text} (noFeed : '\n' ∉ line) : '\n' ∉ lineEnd line :=
  fun feed => noFeed ((List.drop_sublist _ line).mem feed)

namespace Block

variable {closes : Text → Bool}

@[simp] theorem take_nil : take closes [] = { body := [], closing := none, rest := [] } :=
  rfl

theorem take_cons_of_closes {line : Text} (rest : List Text)
    (closed : closes (content line) = true) :
    take closes (line :: rest) = { body := [], closing := some line, rest } := by
  simp [take, closed]

theorem take_cons_of_not_closes {line : Text} (rest : List Text)
    (open_ : closes (content line) = false) :
    take closes (line :: rest) =
      { take closes rest with body := line :: (take closes rest).body } := by
  unfold take
  rw [List.takeWhile_cons_of_pos (by simp [open_]), List.dropWhile_cons_of_pos (by simp [open_])]
  split <;> rfl

/-- Lines that do not close a block are its body when a closing line follows them. -/
theorem take_append_cons {body : List Text} {closing : Text}
    (inside : ∀ line ∈ body, closes (content line) = false)
    (closed : closes (content closing) = true) (rest : List Text) :
    take closes (body ++ closing :: rest) = { body, closing := some closing, rest } := by
  induction body with
  | nil => exact take_cons_of_closes rest closed
  | cons line body induction =>
      obtain ⟨first, others⟩ := List.forall_mem_cons.mp inside
      rw [List.cons_append, take_cons_of_not_closes _ first, induction others]

/-- A block and what follows it are the lines that it was taken from. -/
theorem lines_append_rest (closes : Text → Bool) (lines : List Text) :
    (take closes lines).lines ++ (take closes lines).rest = lines := by
  induction lines with
  | nil => rfl
  | cons line rest induction =>
      cases closed : closes (content line) with
      | true => simp [take_cons_of_closes rest closed, Block.lines]
      | false =>
          rw [take_cons_of_not_closes rest closed]
          simpa [Block.lines] using induction

/-- Only a closing line leaves lines behind a block. -/
theorem rest_eq_nil_or_closed (closes : Text → Bool) (lines : List Text) :
    (take closes lines).rest = [] ∨ ∃ closing, (take closes lines).closing = some closing := by
  unfold take
  split
  · exact .inl rfl
  · exact .inr ⟨_, rfl⟩

private theorem take_lines_append_of_closed {lines : List Text} {closing : Text}
    (closed : (take closes lines).closing = some closing) (more : List Text) :
    take closes ((take closes lines).lines ++ more) = { take closes lines with rest := more } := by
  induction lines with
  | nil => cases closed
  | cons line rest induction =>
      cases closesLine : closes (content line) with
      | true =>
          rw [take_cons_of_closes rest closesLine]
          exact take_cons_of_closes more closesLine
      | false =>
          rw [take_cons_of_not_closes rest closesLine] at closed ⊢
          show take closes (line :: ((take closes rest).lines ++ more)) = _
          rw [take_cons_of_not_closes _ closesLine, induction closed]

/-- A block is taken again from its own lines, whatever follows them where lines follow the
block. -/
theorem take_lines_append {lines more : List Text}
    (seam : (take closes lines).rest = [] → more = []) :
    take closes ((take closes lines).lines ++ more) = { take closes lines with rest := more } := by
  rcases rest_eq_nil_or_closed closes lines with behind | ⟨closing, closed⟩
  · have whole := lines_append_rest closes lines
    rw [behind, List.append_nil] at whole
    rw [seam behind, List.append_nil, whole, ← behind]
  · exact take_lines_append_of_closed closed more

theorem ending_cons_of_not_closes {line : Text} (rest : List Text) (opening : Text)
    (open_ : closes (content line) = false) :
    (take closes (line :: rest)).ending opening = (take closes rest).ending line := by
  rw [take_cons_of_not_closes rest open_]
  simp [ending, Block.lines, List.getLast?_cons]

end Block

@[simp] theorem parts_nil : parts [] = [] := by
  rw [parts]

theorem parts_container {line : Text} (rest : List Text)
    (opens : opensContainer (content line) = true) :
    parts (line :: rest) =
      .diagram .container (Block.take closesContainer rest).source
          ((Block.take closesContainer rest).ending line) ::
        parts (Block.take closesContainer rest).rest := by
  rw [parts, if_pos opens]

theorem parts_fenced {line : Text} {fence : Fence} (rest : List Text)
    (noContainer : ¬ opensContainer (content line) = true)
    (opens : fence? (content line) = some fence) (diagram : fence.isDiagram = true) :
    parts (line :: rest) =
      .diagram .fence (Block.take fence.isClosedBy rest).source
          ((Block.take fence.isClosedBy rest).ending line) ::
        parts (Block.take fence.isClosedBy rest).rest := by
  rw [parts, if_neg noContainer, opens]
  exact if_pos diagram

theorem parts_code {line : Text} {fence : Fence} (rest : List Text)
    (noContainer : ¬ opensContainer (content line) = true)
    (opens : fence? (content line) = some fence) (noDiagram : ¬ fence.isDiagram = true) :
    parts (line :: rest) =
      .code (line :: (Block.take fence.isClosedBy rest).lines) ::
        parts (Block.take fence.isClosedBy rest).rest := by
  rw [parts, if_neg noContainer, opens]
  exact if_neg noDiagram

theorem parts_copied {line : Text} (rest : List Text)
    (noContainer : ¬ opensContainer (content line) = true)
    (noFence : fence? (content line) = none) :
    parts (line :: rest) = .copied line :: parts rest := by
  rw [parts, if_neg noContainer, noFence]

/-- Induction over the lines of a document as they are cut into parts. -/
@[elab_as_elim]
theorem partsInduction {motive : List Text → Prop}
    (nil : motive [])
    (container : ∀ line rest, opensContainer (content line) = true →
      motive (Block.take closesContainer rest).rest → motive (line :: rest))
    (fenced : ∀ line rest fence, ¬ opensContainer (content line) = true →
      fence? (content line) = some fence → fence.isDiagram = true →
      motive (Block.take fence.isClosedBy rest).rest → motive (line :: rest))
    (code : ∀ line rest fence, ¬ opensContainer (content line) = true →
      fence? (content line) = some fence → ¬ fence.isDiagram = true →
      motive (Block.take fence.isClosedBy rest).rest → motive (line :: rest))
    (copied : ∀ line rest, ¬ opensContainer (content line) = true →
      fence? (content line) = none → motive rest → motive (line :: rest))
    (lines : List Text) : motive lines := by
  induction lines using parts.induct with
  | case1 => exact nil
  | case2 line rest opens block induction => exact container line rest opens induction
  | case3 line rest noContainer fence opens block diagram induction =>
      exact fenced line rest fence noContainer opens diagram induction
  | case4 line rest noContainer fence opens block noDiagram induction =>
      exact code line rest fence noContainer opens noDiagram induction
  | case5 line rest noContainer noFence induction =>
      exact copied line rest noContainer noFence induction

/-- The texts of parts, one after another. -/
def renderParts (config : Config) (parts : List Part) : Except RenderError Text :=
  (parts.mapM (Part.render config)).map List.flatten

theorem renderParts_cons (config : Config) (part : Part) (others : List Part) :
    renderParts config (part :: others) = (do
      let written ← part.render config
      let rest ← renderParts config others
      return written ++ rest) := by
  rw [renderParts, renderParts, List.mapM_cons]
  cases part.render config with
  | error failure => rfl
  | ok written => cases others.mapM (Part.render config) <;> rfl

theorem render_eq_renderParts (config : Config) (document : Text) :
    render config document = renderParts config (parts (Text.segments document)) := by
  rw [render, renderParts]
  cases (parts (Text.segments document)).mapM (Part.render config) <;> rfl

end ChessDiagram.Markdown
