import ChessDiagram.Proofs.Markdown.Automaton
import ChessDiagram.Proofs.Notation.LineEnds
import ChessDiagram.Proofs.Render.TagLines

/-!
# Sources as blocks of documents

Every source can stand in a document as a diagram block.  A fence that is longer than every run of
its marker in the source is closed by no line of the source, and a container is closed only by a
line of colons.  The block then has the source with a line feed at its end, and this is a source of
the same diagram.
-/

namespace ChessDiagram

theorem Config.render_append_feed (config : Config) (source : Text) :
    config.render (source ++ ['\n']) = config.render source := by
  rw [render, render, Notation.diagram_append_feed]

namespace Markdown

/-- A source on the lines between an opening and a closing line. -/
def enclosed (opening source closing : Text) : Text :=
  opening ++ "\n" ++ source ++ "\n" ++ closing ++ "\n"

def fenceOpening (marker : Marker) (length : Nat) : Text :=
  List.replicate length marker.character ++ diagramWord

def fenceClosing (marker : Marker) (length : Nat) : Text :=
  List.replicate length marker.character

/-- A source in a fence of so many markers. -/
def fenced (marker : Marker) (length : Nat) (source : Text) : Text :=
  enclosed (fenceOpening marker length) source (fenceClosing marker length)

def contained (source : Text) : Text :=
  enclosed "::: chess" source ":::"

section

variable (marker : Marker) (length : Nat)

theorem feed_notMem_fenceClosing : '\n' ∉ fenceClosing marker length := by
  intro feed
  have same := List.eq_of_mem_replicate feed
  cases marker <;> cases same

theorem feed_notMem_fenceOpening : '\n' ∉ fenceOpening marker length := by
  intro feed
  rcases List.mem_append.mp feed with inMarkers | inWord
  · exact feed_notMem_fenceClosing marker length inMarkers
  · exact absurd inWord (by decide)

theorem content_fenceOpening :
    content (fenceOpening marker length) = fenceOpening marker length := by
  have cut : fenceOpening marker length =
      (List.replicate length marker.character ++ "ches") ++ ['s'] := by
    rw [List.append_assoc]
    rfl
  rw [cut]
  exact content_append_singleton _ rfl

variable {length} (enough : 3 ≤ length)
include enough

theorem content_fenceClosing :
    content (fenceClosing marker length) = fenceClosing marker length := by
  obtain ⟨more, rfl⟩ := Nat.exists_eq_add_of_le' enough
  rw [fenceClosing, List.replicate_succ']
  apply content_append_singleton
  cases marker <;> rfl

theorem fence?_fenceOpening :
    fence? (fenceOpening marker length) = some { marker, length, info := diagramWord } := by
  apply fence?_eq_some_iff.mpr
  refine ⟨[], ?_, enough, ?_, rfl⟩
  · simp [Text.GapOnly]
  · show diagramWord.head? ≠ some marker.character
    cases marker <;> decide

end

theorem Fence.isClosedBy_fenceClosing (fence : Fence) :
    fence.isClosedBy (fenceClosing fence.marker fence.length) = true := by
  apply Fence.isClosedBy_iff.mpr
  refine ⟨[], fence.length, [], ?_, ?_, Nat.le_refl _, ?_⟩
  · simp [Text.GapOnly]
  · simp [Text.GapOnly]
  · simp [fenceClosing]

/-- A line that closes a fence has a run of its marker that is at least as long. -/
theorem Fence.length_le_longestRun {fence : Fence} {line text : Text} (inside : line <:+: text)
    (closed : fence.isClosedBy (content line) = true) :
    fence.length ≤ Text.longestRun fence.marker.character text := by
  obtain ⟨before, count, after, -, -, enough, whole⟩ := Fence.isClosedBy_iff.mp closed
  have run : List.replicate count fence.marker.character <:+: content line :=
    ⟨before, after, whole.symm⟩
  apply enough.trans
  apply Text.le_longestRun_iff.mpr
  exact run.trans ((prefix_content line).isInfix.trans inside)

theorem segments_enclosed {opening closing : Text} (openingNoFeed : '\n' ∉ opening)
    (closingNoFeed : '\n' ∉ closing) (source : Text) :
    Text.segments (enclosed opening source closing) =
      (opening ++ ['\n']) :: ((source.splitOn '\n').map (· ++ ['\n']) ++ [closing ++ ['\n']]) := by
  have whole : enclosed opening source closing =
      opening ++ '\n' :: (source ++ '\n' :: (closing ++ '\n' :: [])) := by
    simp [enclosed]
  rw [whole, Text.segments_append_feed openingNoFeed, Text.segments_append_cons_feed,
    Text.segments_append_singleton_feed, Text.segments_append_feed closingNoFeed]
  rfl

theorem flatten_map_splitOn (source : Text) :
    ((source.splitOn '\n').map (· ++ ['\n'])).flatten = source ++ ['\n'] := by
  rw [← Text.segments_append_singleton_feed, Text.flatten_segments]

/-- The block between an opening and a closing line has the source and the line feed behind it, and
nothing follows it. -/
theorem take_enclosed {closes : Text → Bool} {source closing : Text}
    (inside : ∀ line ∈ source.splitOn '\n', closes (content line) = false)
    (bare : content closing = closing) (closed : closes closing = true) (opening : Text) :
    let block :=
      Block.take closes ((source.splitOn '\n').map (· ++ ['\n']) ++ [closing ++ ['\n']])
    block.source = source ++ ['\n'] ∧ block.ending opening = ['\n'] ∧ block.rest = [] := by
  have body : ∀ line ∈ (source.splitOn '\n').map (· ++ ['\n']), closes (content line) = false := by
    intro line member
    obtain ⟨stretch, stretchMember, rfl⟩ := List.mem_map.mp member
    rw [content_append_feed]
    exact inside stretch stretchMember
  have last : closes (content (closing ++ ['\n'])) = true := by
    rw [content_append_feed, bare]
    exact closed
  have ending : lineEnd (closing ++ ['\n']) = ['\n'] := by
    rw [lineEnd_append_feed, lineEnd, bare, List.drop_length]
    rfl
  rw [Block.take_append_cons body last]
  refine ⟨flatten_map_splitOn source, ?_, rfl⟩
  simpa [Block.ending, Block.lines] using ending

theorem parts_contained {source : Text}
    (noRule : ∀ line ∈ source.splitOn '\n', ¬ IsRule ':' 3 (content line)) :
    parts (Text.segments (contained source)) =
      [.diagram .container (source ++ ['\n']) ['\n']] := by
  have opens : opensContainer (content ("::: chess" ++ ['\n'])) = true := by decide
  have bare : content ":::" = ":::" := by decide
  have closed : closesContainer ":::" = true := by decide
  have inside : ∀ line ∈ source.splitOn '\n', closesContainer (content line) = false := by
    intro line member
    rw [Bool.eq_false_iff]
    exact fun closes => noRule line member (closesContainer_iff.mp closes)
  obtain ⟨body, ending, rest⟩ := take_enclosed inside bare closed ("::: chess" ++ ['\n'])
  rw [contained, segments_enclosed (by decide) (by decide), parts_container _ opens, body, ending,
    rest, parts_nil]

theorem parts_fenced_source {marker : Marker} {length : Nat} (enough : 3 ≤ length) {source : Text}
    (longer : Text.longestRun marker.character source < length) :
    parts (Text.segments (fenced marker length source)) =
      [.diagram .fence (source ++ ['\n']) ['\n']] := by
  let fence : Fence := { marker, length, info := diagramWord }
  have opens : fence? (content (fenceOpening marker length ++ ['\n'])) = some fence := by
    rw [content_append_feed, content_fenceOpening]
    exact fence?_fenceOpening marker enough
  have inside : ∀ line ∈ source.splitOn '\n', fence.isClosedBy (content line) = false := by
    intro line member
    rw [Bool.eq_false_iff]
    intro closes
    have short := Fence.length_le_longestRun (Text.infix_of_mem_splitOn member) closes
    exact absurd short (Nat.not_le.mpr longer)
  obtain ⟨body, ending, rest⟩ := take_enclosed inside (content_fenceClosing marker enough)
    fence.isClosedBy_fenceClosing (fenceOpening marker length ++ ['\n'])
  rw [fenced, segments_enclosed (feed_notMem_fenceOpening marker length)
    (feed_notMem_fenceClosing marker length),
    parts_fenced _ (not_opensContainer_of_fence? opens) opens rfl, body, ending, rest, parts_nil]

/-- A document of one diagram block with a source and a line feed behind it renders as the source
does. -/
private theorem render_of_parts {config : Config} {document source : Text} {enclosure : Enclosure}
    (only : parts (Text.segments document) =
      [.diagram enclosure (source ++ ['\n']) ['\n']]) :
    render config document =
      (config.render source).map fun fragment => enclosure.wrap fragment ++ ['\n'] := by
  rw [render_eq_renderParts, only, renderParts_cons, Part.render, config.render_append_feed]
  cases config.render source with
  | error failure => rfl
  | ok fragment => exact congrArg Except.ok (List.append_nil _)

/-- A source renders to the same fragment in a document.  In a fence that is longer than all runs of
its marker in the source the fragment stands inside an unstyled element, and in a container, which a
source without lines of colons does not close, it stands alone.  Where the source does not render,
the document fails with the same error. -/
theorem render_enclosed (config : Config) (source : Text) :
    (∀ (marker : Marker) (length : Nat), 3 ≤ length →
      Text.longestRun marker.character source < length →
      render config (fenced marker length source) =
        (config.render source).map fun (fragment : Text) =>
          "<pre style=\"all:unset;\">" ++ fragment ++ "</pre>\n") ∧
      ((∀ line ∈ source.splitOn '\n', ¬ IsRule ':' 3 (Text.dropEndWhile (· == '\r') line)) →
        render config (contained source) =
          (config.render source).map fun (fragment : Text) => fragment ++ "\n") := by
  constructor
  · intro marker length enough longer
    rw [render_of_parts (parts_fenced_source enough longer)]
    congr 1
    funext fragment
    exact List.append_assoc _ _ _
  · intro noRule
    have noClosing : ∀ line ∈ source.splitOn '\n', ¬ IsRule ':' 3 (content line) := by
      intro line member
      rw [content_eq_of_noFeed (Text.notMem_of_mem_splitOn member)]
      exact noRule line member
    exact render_of_parts (parts_contained noClosing)

/-- A source that opens blocks of its own and ends in a carriage return. -/
theorem render_enclosed_nestedFence :
    ∃ fragment,
      Config.render {} "```chess\ntitle :::\n|k|\r" = .ok fragment ∧
        render {} "````chess\n```chess\ntitle :::\n|k|\r\n````\n" =
          .ok ("<pre style=\"all:unset;\">" ++ fragment ++ "</pre>\n") ∧
        render {} "::: chess\n```chess\ntitle :::\n|k|\r\n:::\n" = .ok (fragment ++ "\n") := by
  obtain ⟨fragment, rendered⟩ := Config.exists_render_default "```chess\ntitle :::\n|k|\r"
  obtain ⟨inFence, inContainer⟩ := render_enclosed {} "```chess\ntitle :::\n|k|\r"
  have fence := inFence .backtick 4 (by decide) (by decide)
  have container := inContainer (by decide +kernel)
  rw [rendered] at fence container
  exact ⟨fragment, rendered, fence, container⟩

end Markdown

end ChessDiagram
