import ChessDiagram.Proofs.Markup.Texts
import Mathlib.Data.List.Infix

/-!
# Words in written markup

A word that has none of the characters with which markup is punctuated, and is not in the name of a
reference either, stands in written markup only where a name, a key, a value or an inline text has
it.
-/

namespace ChessDiagram

namespace Text

/-- The word does not stand anywhere in the text. -/
def Omits (word text : Text) : Prop :=
  ¬ word <:+: text

variable {word front back text : Text}

instance : Decidable (Omits word text) :=
  inferInstanceAs (Decidable (¬ _))

theorem omits_nil (nonempty : word ≠ []) : Omits word [] :=
  fun within => nonempty (List.infix_nil.mp within)

/-- A text omits every word with a character that it is without. -/
theorem omits_of_notMem {character : Char} (member : character ∈ word)
    (without : character ∉ text) : Omits word text :=
  fun within => without (within.subset member)

/-- A word does not stand across a character that it is without. -/
theorem infix_append_cons_iff {character : Char} (without : character ∉ word) :
    word <:+: front ++ character :: back ↔ word <:+: front ∨ word <:+: back := by
  constructor
  · rintro ⟨before, after, whole⟩
    rcases List.append_eq_append_iff.mp whole with ⟨rest, inFront, -⟩ | ⟨rest, ending, started⟩
    · exact .inl ⟨before, rest, inFront.symm⟩
    · rcases List.cons_eq_append_iff.mp started with ⟨rfl, -⟩ | ⟨between, rfl, rfl⟩
      · exact .inl ⟨before, [], by simpa using ending⟩
      · rcases List.append_eq_append_iff.mp ending with ⟨overlap, -, split⟩ | ⟨gap, -, split⟩
        · exact absurd (split ▸ List.mem_append_right _ List.mem_cons_self) without
        · rcases List.cons_eq_append_iff.mp split with ⟨rfl, rfl⟩ | ⟨inner, rfl, rfl⟩
          · exact absurd List.mem_cons_self without
          · exact .inr ⟨inner, after, rfl⟩
  · rintro (inFront | inBack)
    · exact inFront.trans (List.prefix_append _ _).isInfix
    · exact inBack.trans (List.suffix_append_of_suffix (List.suffix_cons _ _)).isInfix

theorem omits_append_cons_iff {character : Char} (without : character ∉ word) :
    Omits word (front ++ character :: back) ↔ Omits word front ∧ Omits word back := by
  rw [Omits, infix_append_cons_iff without, not_or]
  rfl

theorem omits_cons_iff {character : Char} (without : character ∉ word) (nonempty : word ≠ []) :
    Omits word (character :: back) ↔ Omits word back := by
  have split : Omits word ([] ++ character :: back) ↔ _ := omits_append_cons_iff without
  rw [List.nil_append] at split
  rw [split]
  exact and_iff_right (omits_nil nonempty)

end Text

namespace Markup

/-- A word that written markup has only from the texts in it: it has none of the characters between
them, and references do not spell it. -/
structure IsWord (word : Text) : Prop where
  ne_nil : word ≠ []
  plain : ∀ character ∈ (['<', '>', '/', '=', '"', ' ', '\n', '&', ';'] : Text), character ∉ word
  unspelled : ∀ name ∈ ["amp", "lt", "gt", "quot", "apos"], Text.Omits word name.toList

variable {word : Text}

private theorem referenceOf?_eq_some {character : Char} {reference : Text}
    (found : referenceOf? character = some reference) :
    ∃ name ∈ ["amp", "lt", "gt", "quot", "apos"], reference = '&' :: (name.toList ++ [';']) := by
  unfold referenceOf? at found
  split at found <;> cases found
  · exact ⟨"amp", by decide⟩
  · exact ⟨"lt", by decide⟩
  · exact ⟨"gt", by decide⟩
  · exact ⟨"quot", by decide⟩
  · exact ⟨"apos", by decide⟩

private theorem valueText_cons (character : Char) (rest : Text) :
    valueText (character :: rest) =
      (referenceOf? character).getD [character] ++ valueText rest :=
  List.flatMap_cons

/-- A text without references that a value is written with at its start is at the start of the
value. -/
private theorem prefix_of_prefix_valueText {part value : Text} (plain : '&' ∉ part)
    (starts : part <+: valueText value) : part <+: value := by
  induction value generalizing part with
  | nil => exact starts
  | cons character rest induction =>
      cases part with
      | nil => exact List.nil_prefix
      | cons first part =>
          rw [valueText_cons] at starts
          cases found : referenceOf? character with
          | none =>
              simp only [found, Option.getD_none, List.singleton_append] at starts
              obtain ⟨rfl, behind⟩ := List.cons_prefix_cons.mp starts
              exact List.cons_prefix_cons.mpr
                ⟨rfl, induction (List.not_mem_of_not_mem_cons plain) behind⟩
          | some reference =>
              obtain ⟨name, -, rfl⟩ := referenceOf?_eq_some found
              simp only [found, Option.getD_some, List.cons_append] at starts
              obtain ⟨rfl, -⟩ := List.cons_prefix_cons.mp starts
              exact absurd List.mem_cons_self plain

theorem omits_valueText (isWord : IsWord word) {value : Text} (omits : Text.Omits word value) :
    Text.Omits word (valueText value) := by
  have ampersand : '&' ∉ word := isWord.plain '&' (by decide)
  have semicolon : ';' ∉ word := isWord.plain ';' (by decide)
  induction value with
  | nil => exact omits
  | cons character rest induction =>
      have restOmits : Text.Omits word rest :=
        fun within => omits (within.trans (List.suffix_cons _ _).isInfix)
      rw [valueText_cons]
      cases found : referenceOf? character with
      | none =>
          intro within
          rcases List.infix_cons_iff.mp within with starts | later
          · have whole : word <+: valueText (character :: rest) := by
              rw [valueText_cons, found]
              exact starts
            exact omits (prefix_of_prefix_valueText ampersand whole).isInfix
          · exact induction restOmits later
      | some reference =>
          obtain ⟨name, listed, rfl⟩ := referenceOf?_eq_some found
          have spelled : (some ('&' :: (name.toList ++ [';']))).getD [character] ++ valueText rest =
              ('&' :: name.toList) ++ ';' :: valueText rest := by simp
          rw [spelled, Text.omits_append_cons_iff semicolon,
            Text.omits_cons_iff ampersand isWord.ne_nil]
          exact ⟨isWord.unspelled name listed, induction restOmits⟩

/-- No name, key, value or inline text of the markup has the word. -/
abbrev Omits (word : Text) : Markup → Prop :=
  TextsHave (Text.Omits word) (Text.Omits word)

private theorem omits_append_attributesText (isWord : IsWord word) {front : Text}
    {attributes : List (Text × Text)} (frontOmits : Text.Omits word front)
    (pairsOmit : PairsHave (Text.Omits word) (Text.Omits word) attributes) :
    Text.Omits word (front ++ attributesText attributes) := by
  have space := isWord.plain ' ' (by decide)
  have equals := isWord.plain '=' (by decide)
  have quote := isWord.plain '"' (by decide)
  induction attributes generalizing front with
  | nil => simpa [attributesText] using frontOmits
  | cons first rest induction =>
      obtain ⟨⟨keyOmits, valueOmits⟩, restOmit⟩ := List.forall_mem_cons.mp pairsOmit
      have written : front ++ attributesText (first :: rest) =
          front ++ ' ' :: (first.1 ++ '=' :: ([] ++ '"' ::
            (valueText first.2 ++ '"' :: attributesText rest))) := by
        simp [attributesText]
      have nothing := Text.omits_nil isWord.ne_nil
      rw [written, Text.omits_append_cons_iff space, Text.omits_append_cons_iff equals,
        Text.omits_append_cons_iff quote, Text.omits_append_cons_iff quote]
      exact ⟨frontOmits, keyOmits, nothing, omits_valueText isWord valueOmits,
        induction nothing restOmit⟩

private theorem omits_append_childrenText (isWord : IsWord word) {front : Text}
    {children : List Markup} (frontOmits : Text.Omits word front)
    (childrenOmit : ∀ child ∈ children, Text.Omits word child.text) :
    Text.Omits word (front ++ childrenText children) := by
  induction children generalizing front with
  | nil => simpa [childrenText] using frontOmits
  | cons first rest induction =>
      obtain ⟨firstOmits, restOmit⟩ := List.forall_mem_cons.mp childrenOmit
      rw [childrenText, Text.omits_append_cons_iff (isWord.plain '\n' (by decide))]
      exact ⟨frontOmits, induction firstOmits restOmit⟩

/-- Inside of a tag, after an opening or a slash, and in front of a text behind the tag. -/
private theorem omits_tag (isWord : IsWord word) {body behind : Text}
    (bodyOmits : Text.Omits word body) (behindOmits : Text.Omits word behind) :
    Text.Omits word ('<' :: (body ++ '>' :: behind)) := by
  rw [Text.omits_cons_iff (isWord.plain '<' (by decide)) isWord.ne_nil,
    Text.omits_append_cons_iff (isWord.plain '>' (by decide))]
  exact ⟨bodyOmits, behindOmits⟩

/-- Markup is written without a word that none of its texts has. -/
theorem Omits.text (isWord : IsWord word) {markup : Markup} (omits : markup.Omits word) :
    Text.Omits word markup.text := by
  have nothing := Text.omits_nil isWord.ne_nil
  have slash := isWord.plain '/' (by decide)
  have opening := isWord.plain '<' (by decide)
  have feed := isWord.plain '\n' (by decide)
  have closed {name : Text} (nameOmits : Text.Omits word name) :
      Text.Omits word ('<' :: (('/' :: name) ++ '>' :: [])) :=
    omits_tag isWord ((Text.omits_cons_iff slash isWord.ne_nil).mpr nameOmits) nothing
  induction omits with
  | @element name attributes children nameOmits pairsOmit _ induction =>
      have opened := omits_append_attributesText isWord nameOmits pairsOmit
      cases children with
      | nil =>
          have empty := omits_tag isWord
            ((Text.omits_append_cons_iff slash).mpr ⟨opened, nothing⟩) nothing
          simpa [Markup.text] using empty
      | cons first rest =>
          have inner := omits_append_childrenText isWord nothing induction
          have whole := omits_tag isWord opened
            ((Text.omits_append_cons_iff feed).mpr ⟨inner, closed nameOmits⟩)
          simpa [Markup.text] using whole
  | @inline name attributes content nameOmits pairsOmit contentOmits =>
      have opened := omits_append_attributesText isWord nameOmits pairsOmit
      have behind := (Text.omits_cons_iff opening isWord.ne_nil).mp (closed nameOmits)
      have whole := omits_tag isWord opened
        ((Text.omits_append_cons_iff opening).mpr ⟨contentOmits, behind⟩)
      simpa [Markup.text] using whole

end Markup

end ChessDiagram
