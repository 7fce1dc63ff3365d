import ChessDiagram.Proofs.Markdown.Blocks
import ChessDiagram.Proofs.Render.TagLines

/-!
# Rendering a rendered document

A rendered document holds no diagram blocks any more, so that rendering it again, under any
configuration, changes nothing.  The reason is the shape of what a block is replaced by: each of its
lines begins with the opening bracket of a tag and can neither open nor close a block, and its last
line ends where the last line of the block ended.  The lines that are kept are therefore read in the
same mode as before.
-/

namespace ChessDiagram.Markdown

theorem head?_of_mem_segments {text ending : Text} (tagLines : Text.TagLines text)
    (short : ending = [] ∨ ending = ['\n']) :
    ∀ line ∈ Text.segments (text ++ ending), line.head? = some '<' := by
  induction tagLines with
  | @last line noFeed =>
      have lineNoFeed : '\n' ∉ '<' :: line := by simpa using noFeed
      rcases short with rfl | rfl
      · rw [List.append_nil, Text.segments_of_noFeed (by simp) lineNoFeed]
        simp
      · rw [Text.segments_append_feed lineNoFeed]
        simp [Text.segments]
  | @cons line rest noFeed _ induction =>
      have lineNoFeed : '\n' ∉ '<' :: line := by simpa using noFeed
      have cut := Text.segments_append_feed lineNoFeed (rest ++ ending)
      have whole : '<' :: (line ++ '\n' :: rest) ++ ending =
          '<' :: line ++ '\n' :: (rest ++ ending) := by simp
      rw [whole, cut]
      simpa using induction

private theorem content_tag (line : Text) :
    content ('<' :: line) = '<' :: Text.dropEndWhile isLineEnd line := by
  rw [content, Text.dropEndWhile_cons]
  simp [isLineEnd]

theorem opensContainer_tag (content : Text) : ¬ opensContainer ('<' :: content) = true := by
  simp [opensContainer, afterColons?, run?, Text.skipGap, Text.isGap]

theorem fence?_tag (content : Text) : fence? ('<' :: content) = none := by
  simp [fence?, Text.skipGap, Text.isGap, Marker.ofCharacter?]

/-- Lines that begin with a tag are copied. -/
theorem parts_append_of_tags {front : List Text} (tags : ∀ line ∈ front, line.head? = some '<')
    (back : List Text) : parts (front ++ back) = front.map .copied ++ parts back := by
  induction front with
  | nil => rfl
  | cons line front induction =>
      obtain ⟨rest, rfl⟩ : ∃ rest, line = '<' :: rest := by
        have first := tags line List.mem_cons_self
        cases line with
        | nil => cases first
        | cons character rest =>
            obtain rfl := Option.some.inj first
            exact ⟨rest, rfl⟩
      have noContainer : ¬ opensContainer (content ('<' :: rest)) = true := by
        rw [content_tag]
        exact opensContainer_tag _
      have noFence : fence? (content ('<' :: rest)) = none := by
        rw [content_tag]
        exact fence?_tag _
      rw [List.cons_append, parts_copied _ noContainer noFence,
        induction fun other member => tags other (List.mem_cons_of_mem _ member)]
      rfl

theorem tagLines_wrap {fragment : Text} (tagLines : Text.TagLines fragment)
    (enclosure : Enclosure) : Text.TagLines (enclosure.wrap fragment) := by
  cases enclosure with
  | container => exact tagLines
  | fence =>
      have tag : '\n' ∉ ("pre style=\"all:unset;\">" : Text) := by decide +kernel
      have opened : Text.TagLines (opening ++ fragment) := tagLines.prepend tag
      exact opened.append (by decide +kernel)

theorem segmented_block (closes : Text → Bool) {line : Text} {rest : List Text}
    (segmented : Text.Segmented (line :: rest)) :
    Text.Segmented ((line :: (Block.take closes rest).lines) ++ (Block.take closes rest).rest) := by
  rw [List.cons_append, Block.lines_append_rest]
  exact segmented

/-- The end of the last line of a block has a line feed at its end and nowhere else, which is there
when lines follow the block. -/
theorem exists_feed_ending (closes : Text → Bool) {line : Text} {rest : List Text}
    (segmented : Text.Segmented (line :: rest)) :
    ∃ returns, '\n' ∉ returns ∧
      ((Block.take closes rest).ending line = returns ++ ['\n'] ∨
        (Block.take closes rest).ending line = returns ∧ (Block.take closes rest).rest = []) := by
  let taken := Block.take closes rest
  have cut : Text.Segmented ((line :: taken.lines) ++ taken.rest) :=
    segmented_block closes segmented
  have last : (line :: taken.lines).getLast? = some (taken.lines.getLast?.getD line) :=
    List.getLast?_cons
  have ending : taken.ending line = lineEnd (taken.lines.getLast?.getD line) := rfl
  by_cases behind : taken.rest = []
  · have member := List.mem_append_left taken.rest (List.mem_of_getLast? last)
    obtain ⟨body, noFeed, whole | whole⟩ := cut.exists_body member
    · exact ⟨lineEnd body, feed_notMem_lineEnd noFeed, .inr ⟨by rw [ending, whole], behind⟩⟩
    · refine ⟨lineEnd body, feed_notMem_lineEnd noFeed, .inl ?_⟩
      rw [ending, whole, lineEnd_append_feed]
  · obtain ⟨body, noFeed, whole⟩ := cut.exists_feed_of_getLast? behind last
    refine ⟨lineEnd body, feed_notMem_lineEnd noFeed, .inl ?_⟩
    rw [ending, whole, lineEnd_append_feed]

def Part.isDiagram : Part → Bool
  | .diagram .. => true
  | _ => false

/-- What a part of a document is in the rendered document: a diagram is lines to copy, and all other
parts stay what they are. -/
def Part.settled (config : Config) (part : Part) : List Part :=
  match part with
  | .diagram .. =>
      match part.render config with
      | .ok written => (Text.segments written).map .copied
      | .error _ => []
  | _ => [part]

theorem Part.isDiagram_of_mem_settled {config : Config} {part settled : Part}
    (member : settled ∈ part.settled config) : settled.isDiagram = false := by
  unfold Part.settled at member
  split at member
  · split at member
    · obtain ⟨line, -, rfl⟩ := List.mem_map.mp member
      rfl
    · cases member
  · rename_i noDiagram
    rw [List.mem_singleton.mp member]
    cases part with
    | diagram enclosure source ending => exact (noDiagram _ _ _ rfl).elim
    | copied line => rfl
    | code lines => rfl

private theorem renderParts_cons_ok {config : Config} {part : Part} {others : List Part}
    {output : Text} (rendered : renderParts config (part :: others) = .ok output) :
    ∃ written rest, part.render config = .ok written ∧ renderParts config others = .ok rest ∧
      output = written ++ rest := by
  rw [renderParts_cons] at rendered
  cases first : part.render config with
  | error failure =>
      rw [first] at rendered
      cases rendered
  | ok written =>
      cases later : renderParts config others with
      | error failure =>
          rw [first, later] at rendered
          cases rendered
      | ok rest =>
          rw [first, later] at rendered
          exact ⟨written, rest, rfl, rfl, (Except.ok.inj rendered).symm⟩

private theorem eq_nil_of_renderParts {config : Config} {lines : List Text} {output : Text}
    (rendered : renderParts config (parts lines) = .ok output) : lines = [] → output = [] := by
  rintro rfl
  rw [parts_nil] at rendered
  exact (Except.ok.inj rendered).symm

/-- The replacement of a block is cut off from what follows it, and is all lines to copy. -/
theorem parts_segments_diagram {config : Config} {closes : Text → Bool} {line : Text}
    {rest : List Text} {enclosure : Enclosure} {source written output : Text}
    (segmented : Text.Segmented (line :: rest))
    (rendered : Part.render config (.diagram enclosure source
      ((Block.take closes rest).ending line)) = .ok written)
    (seam : (Block.take closes rest).rest = [] → output = []) :
    parts (Text.segments (written ++ output)) =
      (Text.segments written).map .copied ++ parts (Text.segments output) := by
  obtain ⟨fragment, fragmentRendered, rfl⟩ : ∃ fragment, config.render source = .ok fragment ∧
      written = enclosure.wrap fragment ++ (Block.take closes rest).ending line := by
    rw [Part.render] at rendered
    cases fragmentRendered : config.render source with
    | error failure =>
        rw [fragmentRendered] at rendered
        cases rendered
    | ok fragment =>
        rw [fragmentRendered] at rendered
        exact ⟨fragment, rfl, (Except.ok.inj rendered).symm⟩
  have tagLines : Text.TagLines (enclosure.wrap fragment) :=
    tagLines_wrap (Config.tagLines_render fragmentRendered) enclosure
  obtain ⟨returns, noFeed, feed | ⟨noLine, behind⟩⟩ := exists_feed_ending closes segmented
  · have cut := Text.segments_append_cons_feed (enclosure.wrap fragment ++ returns) output
    have tags := head?_of_mem_segments (tagLines.append noFeed) (.inr rfl)
    rw [feed, ← List.append_assoc, List.append_assoc _ ['\n'], List.singleton_append, cut]
    exact parts_append_of_tags tags _
  · -- A last line without a line feed is the end of the document: nothing follows its replacement.
    have tags := head?_of_mem_segments (tagLines.append noFeed) (.inl rfl)
    rw [seam behind, noLine]
    simpa [Text.segments] using parts_append_of_tags tags []

/-- What holds behind a diagram block holds from the block on. -/
private theorem parts_segments_cons_diagram {config : Config} {closes : Text → Bool} {line : Text}
    {rest : List Text} {enclosure : Enclosure} {source output : Text}
    (segmented : Text.Segmented (line :: rest))
    (settled : Text.Segmented (Block.take closes rest).rest → ∀ {others : Text},
      renderParts config (parts (Block.take closes rest).rest) = .ok others →
      parts (Text.segments others) =
        (parts (Block.take closes rest).rest).flatMap (Part.settled config))
    (rendered : renderParts config (.diagram enclosure source ((Block.take closes rest).ending line)
      :: parts (Block.take closes rest).rest) = .ok output) :
    parts (Text.segments output) =
      (.diagram enclosure source ((Block.take closes rest).ending line) ::
        parts (Block.take closes rest).rest).flatMap (Part.settled config) := by
  obtain ⟨written, others, writtenRendered, othersRendered, rfl⟩ := renderParts_cons_ok rendered
  have behind := (segmented_block closes segmented).of_append
  rw [parts_segments_diagram segmented writtenRendered (eq_nil_of_renderParts othersRendered),
    List.flatMap_cons, settled behind othersRendered, Part.settled, writtenRendered]

/-- The parts of a rendered document are those of the document, each of them settled. -/
theorem parts_segments_of_renderParts {config : Config} {lines : List Text}
    (segmented : Text.Segmented lines) {output : Text}
    (rendered : renderParts config (parts lines) = .ok output) :
    parts (Text.segments output) = (parts lines).flatMap (Part.settled config) := by
  induction lines using partsInduction generalizing output with
  | nil =>
      rw [eq_nil_of_renderParts rendered rfl, Text.segments, parts_nil]
      rfl
  | container line rest opens induction =>
      rw [parts_container rest opens] at rendered ⊢
      exact parts_segments_cons_diagram segmented induction rendered
  | fenced line rest fence noContainer opens diagram induction =>
      rw [parts_fenced rest noContainer opens diagram] at rendered ⊢
      exact parts_segments_cons_diagram segmented induction rendered
  | code line rest fence noContainer opens noDiagram induction =>
      rw [parts_code rest noContainer opens noDiagram] at rendered ⊢
      obtain ⟨written, others, writtenRendered, othersRendered, rfl⟩ :=
        renderParts_cons_ok rendered
      obtain rfl := Except.ok.inj writtenRendered
      have cut := segmented_block fence.isClosedBy segmented
      have seam := eq_nil_of_renderParts othersRendered
      -- The fence ends where it did: its own last line closes it, or nothing is written behind it.
      have taken : Block.take fence.isClosedBy
          ((Block.take fence.isClosedBy rest).lines ++ Text.segments others) =
            { Block.take fence.isClosedBy rest with rest := Text.segments others } :=
        Block.take_lines_append fun behind => by rw [seam behind, Text.segments]
      rw [cut.segments_append seam, List.cons_append, parts_code _ noContainer opens noDiagram,
        taken, List.flatMap_cons, induction cut.of_append othersRendered]
      rfl
  | copied line rest noContainer noFence induction =>
      rw [parts_copied rest noContainer noFence] at rendered ⊢
      obtain ⟨written, others, writtenRendered, othersRendered, rfl⟩ :=
        renderParts_cons_ok rendered
      obtain rfl := Except.ok.inj writtenRendered
      have cut : Text.Segmented ([line] ++ rest) := segmented
      have apart := cut.segments_append (eq_nil_of_renderParts othersRendered)
      rw [List.flatten_singleton, List.singleton_append] at apart
      rw [apart, parts_copied _ noContainer noFence, List.flatMap_cons,
        induction cut.of_append othersRendered]
      rfl

/-- Without diagram blocks a document stays as it is. -/
theorem renderParts_of_noDiagram (config : Config) {lines : List Text}
    (noDiagram : ∀ part ∈ parts lines, part.isDiagram = false) :
    renderParts config (parts lines) = .ok lines.flatten := by
  induction lines using partsInduction with
  | nil =>
      rw [parts_nil]
      rfl
  | container line rest opens induction =>
      rw [parts_container rest opens] at noDiagram
      cases noDiagram _ List.mem_cons_self
  | fenced line rest fence noContainer opens diagram induction =>
      rw [parts_fenced rest noContainer opens diagram] at noDiagram
      cases noDiagram _ List.mem_cons_self
  | code line rest fence noContainer opens noDiagramFence induction =>
      rw [parts_code rest noContainer opens noDiagramFence] at noDiagram ⊢
      have behind := induction (List.forall_mem_cons.mp noDiagram).2
      have whole := congrArg List.flatten (Block.lines_append_rest fence.isClosedBy rest)
      rw [renderParts_cons, behind, List.flatten_cons, ← whole]
      simp [Part.render, bind, Except.bind, pure, Except.pure]
  | copied line rest noContainer noFence induction =>
      rw [parts_copied rest noContainer noFence] at noDiagram ⊢
      have behind := induction (List.forall_mem_cons.mp noDiagram).2
      rw [renderParts_cons, behind]
      rfl

/-- Where every source renders, so does every document. -/
theorem exists_renderParts {config : Config}
    (renders : ∀ source, ∃ fragment, config.render source = .ok fragment) (parts : List Part) :
    ∃ output, renderParts config parts = .ok output := by
  induction parts with
  | nil => exact ⟨[], rfl⟩
  | cons part others induction =>
      obtain ⟨rest, restRendered⟩ := induction
      obtain ⟨written, partRendered⟩ : ∃ written, part.render config = .ok written := by
        cases part with
        | copied line => exact ⟨line, rfl⟩
        | code lines => exact ⟨lines.flatten, rfl⟩
        | diagram enclosure source ending =>
            obtain ⟨fragment, rendered⟩ := renders source
            exact ⟨enclosure.wrap fragment ++ ending, by rw [Part.render, rendered]; rfl⟩
      exact ⟨written ++ rest, by rw [renderParts_cons, partRendered, restRendered]; rfl⟩

/-- Rendering a rendered document under any configuration gives it back.  It has no diagram blocks,
and its parts are those of the document with every diagram block turned into lines to copy: nothing
that a diagram is replaced by opens a block or closes one. -/
theorem render_rendered {config : Config} {document output : Text}
    (rendered : render config document = .ok output) (other : Config) :
    render other output = .ok output ∧
      (∀ part ∈ parts (Text.segments output), part.isDiagram = false) ∧
      parts (Text.segments output) =
        (parts (Text.segments document)).flatMap (Part.settled config) := by
  rw [render_eq_renderParts] at rendered
  have settled := parts_segments_of_renderParts (Text.segmented_segments document) rendered
  have noDiagram : ∀ part ∈ parts (Text.segments output), part.isDiagram = false := by
    intro part member
    rw [settled] at member
    obtain ⟨source, -, among⟩ := List.mem_flatMap.mp member
    exact Part.isDiagram_of_mem_settled among
  refine ⟨?_, noDiagram, settled⟩
  rw [render_eq_renderParts, renderParts_of_noDiagram other noDiagram, Text.flatten_segments]

/-- A container, a fence of code that holds a container, and a diagram fence that is never closed,
rendered again without a canvas. -/
theorem render_rendered_unclosedFence :
    ∃ output,
      render {} "::: chess\n|k|\n:::\n~~~\n::: chess\n~~~\n```chess\ntitle ```" = .ok output ∧
        render { canvas := .ofNat 0 } output = .ok output ∧
        ∀ part ∈ parts (Text.segments output), part.isDiagram = false := by
  obtain ⟨output, rendered⟩ := exists_renderParts Config.exists_render_default
    (parts (Text.segments "::: chess\n|k|\n:::\n~~~\n::: chess\n~~~\n```chess\ntitle ```"))
  rw [← render_eq_renderParts] at rendered
  have again := render_rendered rendered { canvas := .ofNat 0 }
  exact ⟨output, rendered, again.1, again.2.1⟩

end ChessDiagram.Markdown
