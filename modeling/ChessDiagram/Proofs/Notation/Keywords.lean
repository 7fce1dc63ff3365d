import ChessDiagram.Notation.Row
import ChessDiagram.Proofs.Notation.Values
import ChessDiagram.Proofs.Text.Case
import ChessDiagram.Proofs.Text.Joined

/-!
# Lines that set a name

A line sets a name when it starts, perhaps after a gap, with the name in some ASCII case and a gap.
No keyword begins another one, so that a line sets at most one of them, and no row of a grid sets
any.
-/

namespace ChessDiagram

namespace Text

theorem afterWord?_append (word rest : Text) : afterWord? word (word ++ rest) = some rest :=
  afterWord?_eq_some_iff.mpr ⟨word, rfl, rfl⟩

/-- Two words of which neither begins the other differ at some character of both. -/
theorem afterWord?_append_of_incomparable {word other : Text}
    (noPrefix : ¬ lower other <+: lower word) (noExtension : ¬ lower word <+: lower other)
    (rest : Text) : afterWord? other (word ++ rest) = none := by
  rw [Option.eq_none_iff_forall_ne_some]
  intro found opened
  obtain ⟨opening, whole, lowered⟩ := afterWord?_eq_some_iff.mp opened
  have openingPrefix : opening <+: word ++ rest := ⟨found, whole.symm⟩
  rcases List.prefix_or_prefix_of_prefix openingPrefix (List.prefix_append word rest) with
    shorter | longer
  · exact noPrefix (lowered ▸ shorter.map lowerChar)
  · exact noExtension (lowered ▸ longer.map lowerChar)

theorem skipGap_append_return (text : Text) :
    skipGap (text ++ ['\r']) = skipGap text ++ ['\r'] := by
  rw [skipGap, List.dropWhile_append]
  split
  · rename_i nothing
    rw [skipGap, List.isEmpty_iff.mp nothing]
    rfl
  · rfl

theorem trimEnd_append_return (text : Text) : trimEnd (text ++ ['\r']) = trimEnd text :=
  dropEndWhile_append_of_pos text (by decide)

end Text

namespace Notation

/-- A value reaches to the end of its line, with a carriage return that stands there: what is
behind the name begins with a gap, so that the carriage return is no part of the name. -/
theorem valueOn?_append_return (name line : Text) :
    valueOn? name (line ++ ['\r']) = (valueOn? name line).map (· ++ ['\r']) := by
  apply Option.ext
  intro found
  rw [Option.map_eq_some_iff, valueOn?_eq_some_iff, Text.skipGap_append_return]
  constructor
  · rintro ⟨opening, separator, rest, whole, agreeing, gap, rfl⟩
    have last := congrArg List.getLast? whole
    rw [List.getLast?_concat, List.getLast?_append, List.getLast?_cons] at last
    obtain ⟨behind, rfl⟩ : ∃ behind, rest = behind ++ ['\r'] := by
      apply List.getLast?_eq_some_iff.mp
      cases found : rest.getLast? with
      | none =>
          rw [found] at last
          obtain rfl := Option.some.inj last
          cases gap
      | some character =>
          rw [found] at last
          exact last.symm
    rw [← List.cons_append, ← List.append_assoc] at whole
    have read := valueOn?_eq_some_iff.mpr
      ⟨opening, separator, behind, List.append_cancel_right whole, agreeing, gap, rfl⟩
    exact ⟨_, read, (Text.skipGap_append_return behind).symm⟩
  · rintro ⟨value, read, rfl⟩
    obtain ⟨opening, separator, rest, whole, agreeing, gap, rfl⟩ := valueOn?_eq_some_iff.mp read
    refine ⟨opening, separator, rest ++ ['\r'], ?_, agreeing, gap, ?_⟩
    · rw [whole, List.append_assoc, List.cons_append]
    · rw [Text.skipGap_append_return]

/-- The value that a line sets a name to, without blanks at its end. -/
def settingOn? (name line : Text) : Option Text :=
  (valueOn? name line).map Text.trimEnd

theorem settingOn?_nil (name : Text) : settingOn? name [] = none := by
  unfold settingOn? valueOn?
  cases name <;> rfl

theorem settingOn?_withoutReturn (name line : Text) :
    settingOn? name (Text.withoutReturn line) = settingOn? name line := by
  rcases Text.withoutReturn_eq_or line with same | longer
  · rw [same]
  · conv => rhs; rw [longer]
    unfold settingOn?
    rw [valueOn?_append_return, Option.map_map]
    cases valueOn? name (Text.withoutReturn line) with
    | none => rfl
    | some found => exact congrArg some (Text.trimEnd_append_return found).symm

theorem value_eq_findSome? (source name : Text) :
    value source name = ((Text.lines source).findSome? (settingOn? name)).getD [] := by
  have mapped : (Text.lines source).findSome? (settingOn? name) =
      ((Text.lines source).findSome? (valueOn? name)).map Text.trimEnd :=
    List.map_findSome?.symm
  rw [value, mapped]
  cases (Text.lines source).findSome? (valueOn? name) <;> rfl

/-- The value of a name in joined lines is read off the first of them that sets it. -/
theorem value_join (name : Text) {texts : List Text}
    (noFeed : ∀ text ∈ texts, '\n' ∉ text) :
    value (Text.join "\n" texts) name = (texts.findSome? (settingOn? name)).getD [] := by
  rw [value_eq_findSome?, Text.findSome?_lines_join (settingOn?_nil name)
    (settingOn?_withoutReturn name) noFeed]

namespace Keyword

theorem word_ne_nil (keyword : Keyword) : keyword.word ≠ [] := by
  cases keyword <;> decide

theorem isCellChar_of_mem_lower_word {keyword : Keyword} {character : Char}
    (member : character ∈ Text.lower keyword.word) : isCellChar character = true := by
  have all : (Text.lower keyword.word).all isCellChar = true := by
    cases keyword <;> decide
  exact List.all_eq_true.mp all character member

/-- No keyword begins another one. -/
theorem eq_of_begins {keyword other : Keyword}
    (opening : Text.lower other.word <+: Text.lower keyword.word) : other = keyword := by
  revert opening
  cases keyword <;> cases other <;> decide

/-- The value of a keyword, written as given settings have it. -/
def valueText (keyword : Keyword) (settings : Settings) : Text :=
  match keyword with
  | .theme => settings.theme.spelling
  | .align => settings.align.spelling
  | .size => settings.size.text
  | .title => settings.title
  | .notes => settings.notes
  | .moves => settings.moves
  | .letters => if settings.letters then "true" else "false"
  | .numbers => if settings.numbers then "true" else "false"

/-- The line that sets a keyword as given settings have it. -/
def line (keyword : Keyword) (settings : Settings) : Text :=
  keyword.word ++ " " ++ keyword.valueText settings

theorem feed_notMem_line {keyword : Keyword} {settings : Settings}
    (noFeed : '\n' ∉ keyword.valueText settings) : '\n' ∉ keyword.line settings := by
  have inWord : '\n' ∉ keyword.word := by
    cases keyword <;> decide
  simp [line, inWord, noFeed]

theorem skipGap_line (keyword : Keyword) (settings : Settings) :
    Text.skipGap (keyword.line settings) = keyword.line settings := by
  have stops : Text.StopsAt Text.isGap keyword.word := by
    intro character member
    cases keyword <;> (obtain rfl := Option.some.inj member; rfl)
  rw [line, List.append_assoc]
  exact Text.skipGap_of_stopsAt (stops.append keyword.word_ne_nil _)

theorem valueOn?_line {keyword : Keyword} {settings : Settings}
    (start : Text.StopsAt Text.isGap (keyword.valueText settings)) :
    valueOn? keyword.word (keyword.line settings) = some (keyword.valueText settings) := by
  have opened : Text.afterWord? keyword.word (keyword.line settings) =
      some (' ' :: keyword.valueText settings) := by
    rw [line, List.append_assoc]
    exact Text.afterWord?_append _ _
  have isSpace : Text.isGap ' ' = true := rfl
  simp only [valueOn?, skipGap_line, opened, if_pos isSpace, Text.skipGap_of_stopsAt start]

theorem valueOn?_line_of_ne {keyword other : Keyword} (different : other ≠ keyword)
    (settings : Settings) : valueOn? other.word (keyword.line settings) = none := by
  have closed : Text.afterWord? other.word (keyword.line settings) = none := by
    rw [line, List.append_assoc]
    exact Text.afterWord?_append_of_incomparable
      (fun opening => different (eq_of_begins opening))
      (fun opening => different (eq_of_begins opening).symm) _
  simp only [valueOn?, skipGap_line, closed]

end Keyword

/-- The first character of a row is a bar, blanks aside. -/
theorem head?_trimStart_of_row? {line : Text} (row : (row? line).isSome) :
    (Text.trimStart line).head? = some '|' := by
  unfold row? trimmedRow? at row
  split at row
  · rename_i bar
    obtain ⟨run, -, whole⟩ := Text.exists_append_dropEndWhile Text.isBlank (Text.trimStart line)
    rw [Text.trim, Text.trimEnd] at bar
    rw [whole, List.head?_append, bar]
    rfl
  · cases row

theorem isCellChar_caseBlind : Text.CaseBlind isCellChar :=
  .of_capitals (by decide)

/-- A row does not set any keyword: before a keyword stands nothing but a gap, and its first
character is neither a bar nor a blank. -/
theorem valueOn?_of_row? {line : Text} (row : (row? line).isSome) (keyword : Keyword) :
    valueOn? keyword.word line = none := by
  rw [Option.eq_none_iff_forall_ne_some]
  intro found value
  obtain ⟨before, opening, separator, rest, rfl, gap, lowered, -⟩ := exists_of_valueOn? value
  obtain ⟨first, opening, rfl⟩ : ∃ first others, opening = first :: others := by
    apply List.exists_cons_of_ne_nil
    rintro rfl
    exact keyword.word_ne_nil (List.map_eq_nil_iff.mp lowered.symm)
  have inWord : Text.lowerChar first ∈ Text.lower keyword.word := by
    rw [← lowered]
    exact List.mem_cons_self
  have cellChar := Keyword.isCellChar_of_mem_lower_word inWord
  rw [isCellChar_caseBlind] at cellChar
  simp only [isCellChar, Bool.and_eq_true, bne_iff_ne, Bool.not_eq_true'] at cellChar
  have bar := head?_trimStart_of_row? row
  rw [Text.trimStart, List.dropWhile_append_of_pos fun _ member =>
    Text.isBlank_of_isGap (gap _ member), List.cons_append,
    List.dropWhile_cons_of_neg (by simp [cellChar.2])] at bar
  exact cellChar.1 (Option.some.inj bar)

end Notation

end ChessDiagram
