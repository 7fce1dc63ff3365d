import ChessDiagram.Proofs.Markup.TagLines
import ChessDiagram.Proofs.Text.Escape

/-!
# The tags of written markup

The tags of a text are the stretches from an opening bracket to the next closing one.  Markup whose
names, keys and inline texts have no brackets of their own is written as its tags, with texts
without brackets between them.  The tags do not depend on the inline texts.
-/

namespace ChessDiagram

namespace Text

/-- The tags of a text.  Inside of a tag its characters so far are given. -/
def tagsFrom : Option Text → Text → List Text
  | _, [] => []
  | none, character :: rest =>
      if character = '<' then tagsFrom (some [character]) rest else tagsFrom none rest
  | some tag, character :: rest =>
      if character = '>' then (tag ++ [character]) :: tagsFrom none rest
      else tagsFrom (some (tag ++ [character])) rest

/-- The stretches of a text from an opening bracket to the next closing bracket, brackets
included. -/
def tags (text : Text) : List Text :=
  tagsFrom none text

/-- Every opening bracket is closed before another one opens. -/
def BracketsClose (text : Text) : Prop :=
  ∀ rest, '<' :: rest <:+ text →
    ∃ body behind, rest = body ++ '>' :: behind ∧ Bracketless body

/-- A text made of tags, with texts without brackets between them. -/
inductive Tagged : List Text → Text → Prop where
  | nil : Tagged [] []
  | text {between rest : Text} {tags : List Text} :
      Bracketless between → Tagged tags rest → Tagged tags (between ++ rest)
  | tag {body rest : Text} {tags : List Text} :
      Bracketless body → Tagged tags rest →
      Tagged (('<' :: (body ++ ['>'])) :: tags) ('<' :: (body ++ '>' :: rest))

theorem tagsFrom_none_append {between : Text} (noOpening : '<' ∉ between) (rest : Text) :
    tagsFrom none (between ++ rest) = tagsFrom none rest := by
  induction between with
  | nil => rfl
  | cons character between induction =>
      have different : character ≠ '<' := (List.ne_of_not_mem_cons noOpening).symm
      rw [List.cons_append, tagsFrom, if_neg different,
        induction (List.not_mem_of_not_mem_cons noOpening)]

theorem tagsFrom_some_append {body : Text} (noClosing : '>' ∉ body) (tag rest : Text) :
    tagsFrom (some tag) (body ++ '>' :: rest) = (tag ++ body ++ ['>']) :: tagsFrom none rest := by
  induction body generalizing tag with
  | nil => simp [tagsFrom]
  | cons character body induction =>
      have different : character ≠ '>' := (List.ne_of_not_mem_cons noClosing).symm
      rw [List.cons_append, tagsFrom, if_neg different,
        induction (List.not_mem_of_not_mem_cons noClosing)]
      simp

namespace Tagged

theorem single {body : Text} (plain : Bracketless body) :
    Tagged ['<' :: (body ++ ['>'])] ('<' :: (body ++ ['>'])) :=
  .tag plain .nil

theorem append {front back : Text} {frontTags backTags : List Text}
    (first : Tagged frontTags front) (second : Tagged backTags back) :
    Tagged (frontTags ++ backTags) (front ++ back) := by
  induction first with
  | nil => exact second
  | text between _ induction => simpa using induction.text between
  | tag body _ induction => simpa using induction.tag body

theorem tags_eq {text : Text} {tags : List Text} (tagged : Tagged tags text) :
    Text.tags text = tags := by
  unfold Text.tags
  induction tagged with
  | nil => rfl
  | text between _ induction => rw [tagsFrom_none_append between.1, induction]
  | tag body _ induction =>
      rw [tagsFrom, if_pos rfl, tagsFrom_some_append body.2, induction]
      rfl

theorem bracketsClose {text : Text} {tags : List Text} (tagged : Tagged tags text) :
    BracketsClose text := by
  induction tagged with
  | nil =>
      intro rest suffix
      cases List.suffix_nil.mp suffix
  | text between _ induction =>
      exact fun rest suffix => induction rest (suffix_of_suffix_append between.1 suffix)
  | @tag body behind _ bodyPlain _ induction =>
      intro rest suffix
      rcases List.suffix_cons_iff.mp suffix with same | later
      · exact ⟨body, behind, (List.cons.inj same).2, bodyPlain⟩
      · have noOpening : '<' ∉ body ++ ['>'] := by simp [bodyPlain.1]
        have split : body ++ '>' :: behind = (body ++ ['>']) ++ behind := by simp
        rw [split] at later
        exact induction rest (suffix_of_suffix_append noOpening later)

end Tagged

end Text

namespace Markup

mutual

/-- The tags of the markup in the order in which they are written. -/
def tags : Markup → List Text
  | .element name attributes [] => ["<" ++ name ++ attributesText attributes ++ "/>"]
  | .element name attributes (first :: rest) =>
      ("<" ++ name ++ attributesText attributes ++ ">") ::
        (childrenTags (first :: rest) ++ ["</" ++ name ++ ">"])
  | .inline name attributes _ =>
      ["<" ++ name ++ attributesText attributes ++ ">", "</" ++ name ++ ">"]

def childrenTags : List Markup → List Text
  | [] => []
  | first :: rest => first.tags ++ childrenTags rest

end

/-- Names, keys and inline texts of the markup are without angle brackets; its values may have
any. -/
abbrev Plain : Markup → Prop :=
  TextsHave Text.Bracketless fun _ => True

/-- A value is written without brackets, because they are written as references. -/
theorem bracketless_valueText (value : Text) : Text.Bracketless (valueText value) := by
  have character (character : Char) :
      Text.Bracketless ((referenceOf? character).getD [character]) := by
    unfold referenceOf?
    split
    case h_6 _ noOpening noClosing _ _ =>
      exact ⟨by simpa using Ne.symm noOpening, by simpa using Ne.symm noClosing⟩
    all_goals decide
  unfold valueText
  induction value with
  | nil => exact Text.bracketless_nil
  | cons first rest induction =>
      rw [List.flatMap_cons]
      exact Text.bracketless_append.mpr ⟨character first, induction⟩

theorem bracketless_attributesText {attributes : List (Text × Text)}
    (keysPlain : PairsHave Text.Bracketless (fun _ => True) attributes) :
    Text.Bracketless (attributesText attributes) := by
  have quotes : Text.Bracketless " " ∧ Text.Bracketless "=\"" ∧ Text.Bracketless "\"" := by
    decide
  unfold attributesText
  induction attributes with
  | nil => exact Text.bracketless_nil
  | cons first rest induction =>
      obtain ⟨firstPlain, restPlain⟩ := List.forall_mem_cons.mp keysPlain
      rw [List.flatMap_cons]
      simp only [Text.bracketless_append]
      exact ⟨⟨⟨⟨⟨quotes.1, firstPlain.1⟩, quotes.2.1⟩, bracketless_valueText first.2⟩, quotes.2.2⟩,
        induction restPlain⟩

private theorem tagged_childrenText {children : List Markup}
    (childrenTagged : ∀ child ∈ children, Text.Tagged child.tags child.text) :
    Text.Tagged (childrenTags children) (childrenText children) := by
  induction children with
  | nil => exact .nil
  | cons first rest induction =>
      obtain ⟨firstTagged, restTagged⟩ := List.forall_mem_cons.mp childrenTagged
      have break_ : Text.Bracketless ['\n'] := by decide
      exact .text break_ (firstTagged.append (induction restTagged))

/-- Plain markup is written as its tags, with texts without brackets between them. -/
theorem tagged_text {markup : Markup} (plain : markup.Plain) :
    Text.Tagged markup.tags markup.text := by
  induction plain with
  | @element name attributes children namePlain keysPlain _ induction =>
      have opened : Text.Bracketless (name ++ attributesText attributes) :=
        Text.bracketless_append.mpr ⟨namePlain, bracketless_attributesText keysPlain⟩
      have slash : Text.Bracketless ['/'] := by decide
      have break_ : Text.Bracketless ['\n'] := by decide
      cases children with
      | nil =>
          have empty := Text.Tagged.single (Text.bracketless_append.mpr ⟨opened, slash⟩)
          simpa [text, tags] using empty
      | cons first rest =>
          have closed := Text.Tagged.single (Text.bracketless_append.mpr ⟨slash, namePlain⟩)
          have whole := (Text.Tagged.single opened).append
            ((tagged_childrenText induction).append (.text break_ closed))
          simpa [text, tags] using whole
  | @inline name attributes content namePlain keysPlain contentPlain =>
      have opened : Text.Bracketless (name ++ attributesText attributes) :=
        Text.bracketless_append.mpr ⟨namePlain, bracketless_attributesText keysPlain⟩
      have slash : Text.Bracketless ['/'] := by decide
      have closed := Text.Tagged.single (Text.bracketless_append.mpr ⟨slash, namePlain⟩)
      have whole := (Text.Tagged.single opened).append (.text contentPlain closed)
      simpa [text, tags] using whole

end Markup

end ChessDiagram
