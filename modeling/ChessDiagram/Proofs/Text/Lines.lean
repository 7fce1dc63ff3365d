import ChessDiagram.Proofs.Text.Runs
import ChessDiagram.Text.Line

/-!
# Cutting texts into lines

Both ways of reading a text by lines cut it at its line feeds.  Segments keep everything, so that a
list of lines is the cutting of a text exactly when every line but perhaps the last ends in its only
line feed.
-/

namespace ChessDiagram.Text

/-- Lines with their ends: a line feed ends every line and stands nowhere else, except that the last
line may have none. -/
inductive Segmented : List Text → Prop where
  | nil : Segmented []
  | last {line : Text} :
      line ≠ [] → '\n' ∉ line → Segmented [line]
  | cons {line : Text} {rest : List Text} :
      '\n' ∉ line → Segmented rest → Segmented ((line ++ ['\n']) :: rest)

theorem segments_append_feed {line : Text} (noFeed : '\n' ∉ line) (rest : Text) :
    segments (line ++ '\n' :: rest) = (line ++ ['\n']) :: segments rest := by
  induction line with
  | nil => simp [segments]
  | cons character line induction =>
      have different : character ≠ '\n' := (List.ne_of_not_mem_cons noFeed).symm
      have tail : '\n' ∉ line := List.not_mem_of_not_mem_cons noFeed
      rw [List.cons_append, segments, if_neg different, induction tail]
      rfl

theorem segments_of_noFeed {line : Text} (nonempty : line ≠ []) (noFeed : '\n' ∉ line) :
    segments line = [line] := by
  induction line with
  | nil => exact (nonempty rfl).elim
  | cons character line induction =>
      have different : character ≠ '\n' := (List.ne_of_not_mem_cons noFeed).symm
      have tail : '\n' ∉ line := List.not_mem_of_not_mem_cons noFeed
      rw [segments, if_neg different]
      cases line with
      | nil => rfl
      | cons next line => rw [induction (by simp) tail]

/-- Induction over the pieces of a text that the characters of a class separate: a text without
them, or a first piece, the character behind it and the rest. -/
@[elab_as_elim]
theorem pieceInduction (separates : Char → Bool) {motive : Text → Prop}
    (last : ∀ piece, (∀ character ∈ piece, separates character = false) → motive piece)
    (step : ∀ piece separator rest, (∀ character ∈ piece, separates character = false) →
      separates separator = true → motive rest → motive (piece ++ separator :: rest))
    (text : Text) : motive text := by
  generalize size : text.length = length
  induction length using Nat.strongRecOn generalizing text with
  | ind length induction =>
      have inside : ∀ character ∈ text.takeWhile (!separates ·), separates character = false := by
        intro character member
        simpa using List.mem_takeWhile_imp member
      have stops := stopsAt_dropWhile (!separates ·) text
      have whole := List.takeWhile_append_dropWhile (p := (!separates ·)) (l := text)
      cases behind : text.dropWhile (!separates ·) with
      | nil =>
          rw [behind, List.append_nil] at whole
          rw [← whole]
          exact last _ inside
      | cons separator rest =>
          rw [behind] at whole stops
          have shorter : rest.length < length := by
            rw [← size, ← whole, List.length_append, List.length_cons]
            omega
          rw [← whole]
          exact step _ separator rest inside (by simpa using stops)
            (induction rest.length shorter rest rfl)

/-- Induction over the pieces of a text that a mark separates. -/
@[elab_as_elim]
theorem cutInduction (mark : Char) {motive : Text → Prop}
    (last : ∀ piece, mark ∉ piece → motive piece)
    (step : ∀ piece rest, mark ∉ piece → motive rest → motive (piece ++ mark :: rest))
    (text : Text) : motive text := by
  have unmarked {piece : Text} (inside : ∀ character ∈ piece, (character == mark) = false) :
      mark ∉ piece := by
    intro member
    simpa using inside mark member
  induction text using pieceInduction (· == mark) with
  | last piece inside => exact last piece (unmarked inside)
  | step piece separator rest inside isMark induction =>
      rw [beq_iff_eq.mp isMark]
      exact step piece rest (unmarked inside) induction

/-- Induction over the lines of a text. -/
@[elab_as_elim]
theorem lineInduction {motive : Text → Prop}
    (last : ∀ line, '\n' ∉ line → motive line)
    (step : ∀ line rest, '\n' ∉ line → motive rest → motive (line ++ '\n' :: rest))
    (text : Text) : motive text :=
  cutInduction '\n' last step text

/-- Every line feed cuts a text into two that are cut on their own. -/
theorem segments_append_cons_feed (front back : Text) :
    segments (front ++ '\n' :: back) = segments (front ++ ['\n']) ++ segments back := by
  induction front using lineInduction with
  | last line noFeed =>
      rw [segments_append_feed noFeed, segments_append_feed noFeed]
      rfl
  | step line rest noFeed induction =>
      rw [List.append_assoc, List.append_assoc, List.cons_append, List.cons_append,
        segments_append_feed noFeed, segments_append_feed noFeed, induction]
      rfl

theorem segmented_segments (text : Text) : Segmented (segments text) := by
  induction text using lineInduction with
  | last line noFeed =>
      by_cases empty : line = []
      · subst line
        exact .nil
      · rw [segments_of_noFeed empty noFeed]
        exact .last empty noFeed
  | step line rest noFeed induction =>
      rw [segments_append_feed noFeed]
      exact .cons noFeed induction

theorem Segmented.segments_flatten {lines : List Text} (segmented : Segmented lines) :
    segments lines.flatten = lines := by
  induction segmented with
  | nil => rfl
  | last nonempty noFeed => simpa using segments_of_noFeed nonempty noFeed
  | @cons line rest noFeed _ induction =>
      rw [List.flatten_cons, List.append_assoc]
      show segments (line ++ '\n' :: rest.flatten) = _
      rw [segments_append_feed noFeed, induction]

/-- Segments are the only lines with their ends that make up a text. -/
theorem eq_segments_iff {lines : List Text} {text : Text} :
    lines = segments text ↔ Segmented lines ∧ lines.flatten = text := by
  constructor
  · rintro rfl
    exact ⟨segmented_segments text, flatten_segments text⟩
  · rintro ⟨segmented, rfl⟩
    exact segmented.segments_flatten.symm

/-- The first lines of a cutting stay cut off when another text follows them in place of the other
lines. -/
theorem Segmented.segments_append {front back : List Text} (segmented : Segmented (front ++ back))
    {text : Text} (seam : back = [] → text = []) :
    segments (front.flatten ++ text) = front ++ segments text := by
  induction front with
  | nil => rfl
  | cons line front induction =>
      rw [List.cons_append] at segmented
      generalize others : front ++ back = rest at segmented
      cases segmented with
      | last nonempty noFeed =>
          obtain ⟨rfl, rfl⟩ := List.append_eq_nil_iff.mp others
          rw [seam rfl]
          simpa [segments] using segments_of_noFeed nonempty noFeed
      | @cons body _ noFeed tail =>
          rw [← others] at tail
          have cut := segments_append_feed noFeed (front.flatten ++ text)
          rw [induction tail] at cut
          simpa using cut

/-- A line of a cutting is a body without line feed, with or without a line feed at its end. -/
theorem Segmented.exists_body {lines : List Text} (segmented : Segmented lines) {line : Text}
    (member : line ∈ lines) :
    ∃ body, '\n' ∉ body ∧ (line = body ∨ line = body ++ ['\n']) := by
  induction segmented with
  | nil => cases member
  | @last only _ noFeed =>
      rw [List.mem_singleton.mp member]
      exact ⟨only, noFeed, .inl rfl⟩
  | @cons body rest noFeed _ induction =>
      rcases List.mem_cons.mp member with rfl | later
      · exact ⟨body, noFeed, .inr rfl⟩
      · exact induction later

/-- A line that another line follows ends in a line feed. -/
theorem Segmented.exists_feed_of_getLast? {front back : List Text}
    (segmented : Segmented (front ++ back)) (more : back ≠ []) {line : Text}
    (last : front.getLast? = some line) : ∃ body, '\n' ∉ body ∧ line = body ++ ['\n'] := by
  induction front with
  | nil => cases last
  | cons first front induction =>
      rw [List.cons_append] at segmented
      generalize others : front ++ back = rest at segmented
      cases segmented with
      | last => exact (more (List.append_eq_nil_iff.mp others).2).elim
      | @cons body _ noFeed tail =>
          rw [← others] at tail
          cases front with
          | nil =>
              obtain rfl := Option.some.inj last
              exact ⟨body, noFeed, rfl⟩
          | cons next front =>
              rw [List.getLast?_cons_cons] at last
              exact induction tail last

theorem Segmented.of_append {front back : List Text} (segmented : Segmented (front ++ back)) :
    Segmented back := by
  induction front with
  | nil => exact segmented
  | cons line front induction =>
      rw [List.cons_append] at segmented
      generalize others : front ++ back = rest at segmented
      cases segmented with
      | last =>
          rw [(List.append_eq_nil_iff.mp others).2]
          exact .nil
      | cons _ tail =>
          rw [← others] at tail
          exact induction tail

/-- A line without the carriage return that a line feed behind it takes with it. -/
def withoutReturn (line : Text) : Text :=
  if line.getLast? = some '\r' then line.dropLast else line

private theorem withoutReturn_cons (character : Char) {line : Text} (nonempty : line ≠ []) :
    withoutReturn (character :: line) = character :: withoutReturn line := by
  obtain ⟨next, line, rfl⟩ := List.exists_cons_of_ne_nil nonempty
  unfold withoutReturn
  rw [List.getLast?_cons_cons]
  split <;> rfl

private theorem lines_cons {character : Char} {rest : Text} (noFeed : character ≠ '\n')
    (noReturn : character = '\r' → ∀ more, rest ≠ '\n' :: more) :
    lines (character :: rest) =
      match lines rest with
      | [] => [[character]]
      | line :: others => (character :: line) :: others := by
  apply lines.eq_4
  · exact noFeed
  · intro more returns same
    exact noReturn returns more same

theorem lines_append_feed {line : Text} (noFeed : '\n' ∉ line) (rest : Text) :
    lines (line ++ '\n' :: rest) = withoutReturn line :: lines rest := by
  induction line with
  | nil => simp [lines, withoutReturn]
  | cons character line induction =>
      have different : character ≠ '\n' := (List.ne_of_not_mem_cons noFeed).symm
      have tail : '\n' ∉ line := List.not_mem_of_not_mem_cons noFeed
      by_cases empty : line = []
      · subst line
        by_cases returns : character = '\r'
        · subst character
          simp [lines, withoutReturn]
        · rw [List.cons_append, lines_cons different (fun same => (returns same).elim),
            induction tail]
          simp [withoutReturn, returns]
      · have noFeedNext : ∀ more, line ++ '\n' :: rest ≠ '\n' :: more := by
          intro more same
          obtain ⟨next, line, rfl⟩ := List.exists_cons_of_ne_nil empty
          rw [(List.cons.inj same).1] at tail
          exact tail List.mem_cons_self
        rw [List.cons_append, lines_cons different (fun _ => noFeedNext), induction tail,
          withoutReturn_cons character empty]

theorem lines_of_noFeed {line : Text} (nonempty : line ≠ []) (noFeed : '\n' ∉ line) :
    lines line = [line] := by
  induction line with
  | nil => exact (nonempty rfl).elim
  | cons character line induction =>
      have different : character ≠ '\n' := (List.ne_of_not_mem_cons noFeed).symm
      have tail : '\n' ∉ line := List.not_mem_of_not_mem_cons noFeed
      have noFeedNext : ∀ more, line ≠ '\n' :: more := by
        rintro more rfl
        exact tail List.mem_cons_self
      rw [lines_cons different fun _ => noFeedNext]
      cases line with
      | nil => rfl
      | cons next line => rw [induction (by simp) tail]

theorem withoutReturn_eq_or (line : Text) :
    withoutReturn line = line ∨ line = withoutReturn line ++ ['\r'] := by
  unfold withoutReturn
  split
  · rename_i last
    obtain ⟨front, rfl⟩ := List.getLast?_eq_some_iff.mp last
    rw [List.dropLast_concat]
    exact .inr rfl
  · exact .inl rfl

theorem mem_of_mem_withoutReturn {line : Text} {character : Char}
    (member : character ∈ withoutReturn line) : character ∈ line := by
  unfold withoutReturn at member
  split at member
  · exact (List.dropLast_sublist line).mem member
  · exact member

theorem feed_notMem_of_mem_lines {text line : Text} (member : line ∈ lines text) :
    '\n' ∉ line := by
  induction text using lineInduction with
  | last text noFeed =>
      by_cases empty : text = []
      · subst text
        cases member
      · rw [lines_of_noFeed empty noFeed] at member
        rw [List.mem_singleton.mp member]
        exact noFeed
  | step first rest noFeed induction =>
      rw [lines_append_feed noFeed] at member
      rcases List.mem_cons.mp member with rfl | later
      · exact fun feed => noFeed (mem_of_mem_withoutReturn feed)
      · exact induction later

end ChessDiagram.Text
