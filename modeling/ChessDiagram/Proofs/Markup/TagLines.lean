import ChessDiagram.Proofs.Markup.Texts
import ChessDiagram.Proofs.Text.OneLine

/-!
# The lines of written markup

Markup whose names, values and inline texts stand on one line each is written in lines that all
begin with the opening bracket of a tag: an element breaks its line only before a child and before
its closing tag.
-/

namespace ChessDiagram

/-- Every line of a text begins with the opening bracket of a tag. -/
inductive Text.TagLines : Text → Prop where
  | last {line : Text} :
      '\n' ∉ line → TagLines ('<' :: line)
  | cons {line rest : Text} :
      '\n' ∉ line → TagLines rest → TagLines ('<' :: (line ++ '\n' :: rest))

namespace Text.TagLines

theorem append {text more : Text} (tagLines : TagLines text) (noFeed : '\n' ∉ more) :
    TagLines (text ++ more) := by
  induction tagLines with
  | last lineNoFeed => exact .last (by simp [lineNoFeed, noFeed])
  | cons lineNoFeed _ induction =>
      simpa using TagLines.cons lineNoFeed induction

theorem append_line {text more : Text} (tagLines : TagLines text) (others : TagLines more) :
    TagLines (text ++ '\n' :: more) := by
  induction tagLines with
  | last lineNoFeed => exact .cons lineNoFeed others
  | cons lineNoFeed _ induction =>
      simpa using TagLines.cons lineNoFeed induction

theorem prepend {opening text : Text} (noFeed : '\n' ∉ opening) (tagLines : TagLines text) :
    TagLines ('<' :: (opening ++ text)) := by
  cases tagLines with
  | last lineNoFeed => exact .last (by simp [lineNoFeed, noFeed])
  | @cons line rest lineNoFeed others =>
      have joined : '\n' ∉ opening ++ '<' :: line := by simp [lineNoFeed, noFeed]
      simpa using TagLines.cons joined others

end Text.TagLines

namespace Markup

/-- No name, key, value or inline text of the markup has a line feed. -/
abbrev Feedless : Markup → Prop :=
  TextsHave ('\n' ∉ ·) ('\n' ∉ ·)

theorem feed_notMem_valueText {value : Text} (noFeed : '\n' ∉ value) :
    '\n' ∉ valueText value := by
  apply Text.feed_notMem_flatMap
  intro character member
  have different : character ≠ '\n' := by
    rintro rfl
    exact noFeed member
  unfold referenceOf?
  split <;> simp [Ne.symm different]

theorem feed_notMem_attributesText {attributes : List (Text × Text)}
    (noFeed : PairsHave ('\n' ∉ ·) ('\n' ∉ ·) attributes) :
    '\n' ∉ attributesText attributes := by
  intro feed
  obtain ⟨⟨key, value⟩, member, within⟩ := List.mem_flatMap.mp feed
  have keyNoFeed := (noFeed _ member).1
  have valueNoFeed := feed_notMem_valueText (noFeed _ member).2
  simp [keyNoFeed, valueNoFeed] at within

private theorem tagLines_childrenText {children : List Markup} {opening : Text}
    (opened : Text.TagLines opening)
    (childLines : ∀ child ∈ children, Text.TagLines child.text) :
    Text.TagLines (opening ++ childrenText children) := by
  induction children generalizing opening with
  | nil => simpa [childrenText] using opened
  | cons first rest induction =>
      have firstLines := childLines first List.mem_cons_self
      have later := induction (opened.append_line firstLines) fun child member =>
        childLines child (List.mem_cons_of_mem _ member)
      simpa [childrenText] using later

theorem tagLines_text {markup : Markup} (feedless : markup.Feedless) :
    Text.TagLines markup.text := by
  induction feedless with
  | @element name attributes children nameNoFeed attributesNoFeed _ induction =>
      have tag : '\n' ∉ name ++ attributesText attributes := by
        simp [nameNoFeed, feed_notMem_attributesText attributesNoFeed]
      cases children with
      | nil =>
          have closed : Text.TagLines ('<' :: (name ++ attributesText attributes ++ ['/', '>'])) :=
            .last (by simpa using tag)
          simpa [Markup.text] using closed
      | cons first rest =>
          have opened : Text.TagLines ('<' :: (name ++ attributesText attributes ++ ['>'])) :=
            .last (by simpa using tag)
          have closed : Text.TagLines ('<' :: ('/' :: name ++ ['>'])) :=
            .last (by simp [nameNoFeed])
          have whole := (tagLines_childrenText opened induction).append_line closed
          simpa [Markup.text] using whole
  | @inline name attributes content nameNoFeed attributesNoFeed contentNoFeed =>
      have line : '\n' ∉ name ++ attributesText attributes ++ ['>'] ++ content ++ ['<', '/'] ++ name
          ++ ['>'] := by
        simp [nameNoFeed, feed_notMem_attributesText attributesNoFeed, contentNoFeed]
      have whole := Text.TagLines.last line
      simpa [Markup.text] using whole

end Markup

end ChessDiagram
