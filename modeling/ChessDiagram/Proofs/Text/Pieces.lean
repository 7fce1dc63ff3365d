import ChessDiagram.Proofs.Text.Case
import ChessDiagram.Proofs.Text.Lines

/-!
# Pieces and words

The pieces of a text are the longest runs of characters that do not separate.  A word without
separators is therefore one of them exactly when it occurs in the text with nothing but separators,
or an end of the text, next to it.  The first word of a text is determined by what stands around it.
-/

namespace ChessDiagram.Text

theorem pieces_eq_splitOnP (separates : Char → Bool) (text : Text) :
    pieces separates text = text.splitOnP separates := by
  induction text with
  | nil => rfl
  | cons character rest induction =>
      rw [pieces, induction, List.splitOnP_cons_eq_if_modifyHead]
      split
      · rfl
      · obtain ⟨piece, others, cut⟩ :=
          List.exists_cons_of_ne_nil (List.splitOnP_ne_nil separates rest)
        rw [cut]
        rfl

theorem pieces_of_none {separates : Char → Bool} {piece : Text}
    (inside : ∀ character ∈ piece, separates character = false) :
    pieces separates piece = [piece] := by
  rw [pieces_eq_splitOnP, List.splitOnP_eq_singleton inside]

theorem pieces_append_cons {separates : Char → Bool} {separator : Char}
    (isSeparator : separates separator = true) (front back : Text) :
    pieces separates (front ++ separator :: back) =
      pieces separates front ++ pieces separates back := by
  simp only [pieces_eq_splitOnP, List.splitOnP_append_cons front back isSeparator]

/-- A piece occurs in the text without separators in it and with no other characters next to it. -/
def IsPiece (separates : Char → Bool) (piece text : Text) : Prop :=
  ∃ before after, text = before ++ (piece ++ after) ∧
    (∀ character ∈ piece, separates character = false) ∧
    (∀ character ∈ before.getLast?, separates character = true) ∧
    ∀ character ∈ after.head?, separates character = true

theorem isPiece_of_mem_pieces {separates : Char → Bool} {piece text : Text}
    (member : piece ∈ pieces separates text) : IsPiece separates piece text := by
  induction text using pieceInduction separates with
  | last text inside =>
      rw [pieces_of_none inside] at member
      obtain rfl := List.mem_singleton.mp member
      exact ⟨[], [], by simp, inside, by simp, by simp⟩
  | step first separator rest inside isSeparator induction =>
      rw [pieces_append_cons isSeparator, pieces_of_none inside] at member
      rcases List.mem_cons.mp member with rfl | later
      · exact ⟨[], separator :: rest, by simp, inside, by simp, by simpa using isSeparator⟩
      · obtain ⟨before, after, rfl, pieceInside, starts, stops⟩ := induction later
        refine ⟨first ++ separator :: before, after, by simp, pieceInside, ?_, stops⟩
        intro character last
        rw [List.getLast?_append, List.getLast?_cons] at last
        cases final : before.getLast? with
        | none =>
            rw [final] at last
            obtain rfl : separator = character := by simpa using last
            exact isSeparator
        | some other =>
            rw [final] at last
            obtain rfl : other = character := by simpa using last
            exact starts other final

theorem IsPiece.mem_pieces {separates : Char → Bool} {piece text : Text}
    (isPiece : IsPiece separates piece text) : piece ∈ pieces separates text := by
  obtain ⟨before, after, rfl, inside, starts, stops⟩ := isPiece
  have first : piece ∈ pieces separates (piece ++ after) := by
    cases after with
    | nil => simp [pieces_of_none inside]
    | cons separator after =>
        rw [pieces_append_cons (stops separator rfl), pieces_of_none inside]
        exact List.mem_cons_self
  rcases List.eq_nil_or_concat before with rfl | ⟨front, separator, rfl⟩
  · exact first
  · rw [List.concat_eq_append, List.append_assoc, List.singleton_append,
      pieces_append_cons (starts separator (by simp))]
    exact List.mem_append_right _ first

theorem mem_pieces_iff {separates : Char → Bool} {piece text : Text} :
    piece ∈ pieces separates text ↔ IsPiece separates piece text :=
  ⟨isPiece_of_mem_pieces, IsPiece.mem_pieces⟩

/-- A word occurs in a text, in some ASCII case, with no character of an ASCII word next to it. -/
def HoldsWord (word text : Text) : Prop :=
  ∃ before occurrence after, text = before ++ (occurrence ++ after) ∧
    agrees word occurrence = true ∧
    (∀ character ∈ before.getLast?, isWordChar character = false) ∧
    ∀ character ∈ after.head?, isWordChar character = false

theorem CaseBlind.isWordChar : CaseBlind isWordChar :=
  of_capitals (by decide)

theorem any_pieces_iff {word text : Text}
    (isWord : ∀ character ∈ word, isWordChar character = true) :
    (pieces (fun character => !isWordChar character) text).any (agrees word) = true ↔
      HoldsWord word text := by
  rw [List.any_eq_true]
  constructor
  · rintro ⟨piece, member, agreeing⟩
    obtain ⟨before, after, whole, -, starts, stops⟩ := mem_pieces_iff.mp member
    exact ⟨before, piece, after, whole, agreeing, by simpa using starts, by simpa using stops⟩
  · rintro ⟨before, occurrence, after, whole, agreeing, starts, stops⟩
    have inside := CaseBlind.isWordChar.forall_of_lower_eq (agrees_iff.mp agreeing).symm isWord
    refine ⟨occurrence, mem_pieces_iff.mpr ⟨before, after, whole, ?_, ?_, ?_⟩, agreeing⟩
    · simpa using inside
    · simpa using starts
    · simpa using stops

/-- The first word of a text: blanks at most stand in front of it, and a blank or nothing behind it.
It is empty only where there are no other characters than blanks. -/
def IsFirstWord (word text : Text) : Prop :=
  ∃ before after, text = before ++ (word ++ after) ∧
    (∀ character ∈ before, isBlank character = true) ∧
    (∀ character ∈ word, isBlank character = false) ∧
    (∀ character ∈ after.head?, isBlank character = true) ∧ (word = [] → after = [])

theorem isFirstWord_firstWord (text : Text) : IsFirstWord (firstWord text) text := by
  refine ⟨text.takeWhile isBlank, (trimStart text).dropWhile (!isBlank ·), ?_, ?_, ?_, ?_, ?_⟩
  · rw [firstWord, List.takeWhile_append_dropWhile, trimStart, List.takeWhile_append_dropWhile]
  · intro character member
    exact List.mem_takeWhile_imp member
  · intro character member
    simpa using List.mem_takeWhile_imp member
  · intro character first
    simpa using stopsAt_dropWhile (!isBlank ·) (trimStart text) character first
  · intro empty
    have starts : StopsAt isBlank (trimStart text) := stopsAt_dropWhile isBlank text
    cases rest : trimStart text with
    | nil => rfl
    | cons character others =>
        rw [firstWord, rest] at empty
        rw [rest, stopsAt_cons] at starts
        simp [starts] at empty

theorem IsFirstWord.eq_firstWord {word text : Text} (isFirst : IsFirstWord word text) :
    word = firstWord text := by
  obtain ⟨before, after, rfl, blank, inside, stops, alone⟩ := isFirst
  have starts : StopsAt isBlank (word ++ after) := by
    cases word with
    | nil => simp [alone rfl]
    | cons character word => simpa using inside character List.mem_cons_self
  have ends : StopsAt (!isBlank ·) after := by
    intro character first
    simpa using stops character first
  rw [firstWord, trimStart, dropWhile_run blank starts, takeWhile_run (by simpa using inside) ends]

end ChessDiagram.Text
