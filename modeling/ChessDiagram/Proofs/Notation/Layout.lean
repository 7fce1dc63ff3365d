import ChessDiagram.Proofs.Notation.Keywords
import ChessDiagram.Proofs.Notation.Sizes

/-!
# Reading settings back

Settings that are written on lines, one for every keyword, are read back from them in whatever order
the lines stand and whatever other lines stand between them.  Other lines may even set a keyword, as
long as they do it behind the keyword's own line: the first line with a keyword decides, and the
lines of the other keywords never have it.
-/

namespace ChessDiagram

/-- A text that a line can have as its value: it stays on the line, no gap stands before it and no
blank at its end. -/
structure Text.IsValue (text : Text) : Prop where
  noFeed : '\n' ∉ text
  start : ∀ character ∈ text.head?, isGap character = false
  last : ∀ character ∈ text.getLast?, isBlank character = false

namespace Text.IsValue

theorem of_noBlank {text : Text} (noBlank : ∀ character ∈ text, isBlank character = false) :
    text.IsValue where
  noFeed feed := absurd (noBlank _ feed) (by decide)
  start _ member := not_isGap_of_not_isBlank (noBlank _ (List.mem_of_head? member))
  last _ member := noBlank _ (List.mem_of_getLast? member)

theorem of_all {text : Text} (noBlank : (text.all fun character => !isBlank character) = true) :
    text.IsValue := by
  apply of_noBlank
  simpa using noBlank

theorem trimEnd_eq {text : Text} (isValue : text.IsValue) : trimEnd text = text :=
  trimEnd_of_getLast? isValue.last

end Text.IsValue

structure Settings.IsWritable (settings : Settings) : Prop where
  title : settings.title.IsValue
  notes : settings.notes.IsValue
  moves : settings.moves.IsValue

namespace Notation

namespace Keyword

def all : List Keyword :=
  [.theme, .align, .size, .title, .notes, .moves, .letters, .numbers]

theorem mem_all (keyword : Keyword) : keyword ∈ all := by
  cases keyword <;> decide

theorem isValue_valueText {settings : Settings} (writable : settings.IsWritable)
    (keyword : Keyword) : (keyword.valueText settings).IsValue := by
  cases keyword with
  | theme =>
      rw [valueText]
      cases settings.theme <;> exact .of_all (by decide)
  | align =>
      rw [valueText]
      cases settings.align <;> exact .of_all (by decide)
  | size => exact .of_noBlank fun _ => BoardSize.not_isBlank_of_mem_text
  | title => exact writable.title
  | notes => exact writable.notes
  | moves => exact writable.moves
  | letters =>
      rw [valueText]
      cases settings.letters <;> exact .of_all (by decide)
  | numbers =>
      rw [valueText]
      cases settings.numbers <;> exact .of_all (by decide)

theorem settingOn?_line {keyword : Keyword} {settings : Settings}
    (isValue : (keyword.valueText settings).IsValue) :
    settingOn? keyword.word (keyword.line settings) = some (keyword.valueText settings) := by
  rw [settingOn?, valueOn?_line isValue.start, Option.map_some, isValue.trimEnd_eq]

theorem settingOn?_line_of_ne {keyword other : Keyword} (different : other ≠ keyword)
    (settings : Settings) : settingOn? other.word (keyword.line settings) = none := by
  rw [settingOn?, valueOn?_line_of_ne different, Option.map_none]

end Keyword

/-- A line of a source: the own line of a keyword, or any other text. -/
inductive SourceLine where
  | setting (keyword : Keyword)
  | other (text : Text)
deriving DecidableEq

namespace SourceLine

def keyword? : SourceLine → Option Keyword
  | .setting keyword => some keyword
  | .other _ => none

def text (settings : Settings) : SourceLine → Text
  | .setting keyword => keyword.line settings
  | .other text => text

end SourceLine

/-- The lines before the own line of a keyword. -/
def linesBefore (keyword : Keyword) (lines : List SourceLine) : List SourceLine :=
  lines.takeWhile fun line => line ≠ .setting keyword

/-- Lines with one of its own for every keyword, and with no other line that sets a keyword before
the keyword's own line. -/
structure IsLayout (lines : List SourceLine) : Prop where
  complete : (lines.filterMap SourceLine.keyword?).Perm Keyword.all
  noFeed : ∀ text, .other text ∈ lines → '\n' ∉ text
  undisturbed : ∀ keyword text, .other text ∈ linesBefore keyword lines →
    valueOn? keyword.word text = none

namespace IsLayout

variable {lines : List SourceLine}

theorem setting_mem (layout : IsLayout lines) (keyword : Keyword) :
    SourceLine.setting keyword ∈ lines := by
  have member : keyword ∈ lines.filterMap SourceLine.keyword? :=
    layout.complete.mem_iff.mpr keyword.mem_all
  obtain ⟨line, lineMember, same⟩ := List.mem_filterMap.mp member
  cases line with
  | setting other =>
      obtain rfl := Option.some.inj same
      exact lineMember
  | other text => cases same

theorem feed_notMem_text (layout : IsLayout lines) {settings : Settings}
    (writable : settings.IsWritable) :
    ∀ text ∈ lines.map (SourceLine.text settings), '\n' ∉ text := by
  intro text member
  obtain ⟨line, lineMember, rfl⟩ := List.mem_map.mp member
  cases line with
  | setting keyword =>
      exact Keyword.feed_notMem_line (keyword.isValue_valueText writable).noFeed
  | other text => exact layout.noFeed text lineMember

theorem exists_eq_linesBefore_append (layout : IsLayout lines) (keyword : Keyword) :
    ∃ after, lines = linesBefore keyword lines ++ .setting keyword :: after := by
  obtain ⟨before, after, rfl, first⟩ := List.eq_append_cons_of_mem (layout.setting_mem keyword)
  have isBefore : linesBefore keyword (before ++ .setting keyword :: after) = before := by
    rw [linesBefore, List.takeWhile_append_of_pos, List.takeWhile_cons_of_neg (by simp),
      List.append_nil]
    intro line member
    rw [decide_eq_true_eq]
    rintro rfl
    exact first member
  exact ⟨after, by rw [isBefore]⟩

theorem settingOn?_of_mem_linesBefore (layout : IsLayout lines) {keyword : Keyword}
    {line : SourceLine} (member : line ∈ linesBefore keyword lines) (settings : Settings) :
    settingOn? keyword.word (line.text settings) = none := by
  cases line with
  | setting other =>
      have different : keyword ≠ other := by
        rintro rfl
        have notOwn := List.mem_takeWhile_imp member
        simp at notOwn
      exact Keyword.settingOn?_line_of_ne different settings
  | other text =>
      have unset := layout.undisturbed keyword text member
      rw [SourceLine.text, settingOn?, unset, Option.map_none]

/-- The first line that sets a keyword is the keyword's own line. -/
theorem findSome?_settingOn? (layout : IsLayout lines) {settings : Settings}
    (writable : settings.IsWritable) (keyword : Keyword) :
    (lines.map (SourceLine.text settings)).findSome? (settingOn? keyword.word) =
      some (keyword.valueText settings) := by
  obtain ⟨after, whole⟩ := layout.exists_eq_linesBefore_append keyword
  have nothing : ((linesBefore keyword lines).map (SourceLine.text settings)).findSome?
      (settingOn? keyword.word) = none := by
    rw [List.findSome?_eq_none_iff]
    intro text member
    obtain ⟨line, lineMember, rfl⟩ := List.mem_map.mp member
    exact layout.settingOn?_of_mem_linesBefore lineMember settings
  have own : settingOn? keyword.word (SourceLine.text settings (.setting keyword)) =
      some (keyword.valueText settings) :=
    Keyword.settingOn?_line (keyword.isValue_valueText writable)
  rw [whole, List.map_append, List.findSome?_append, nothing, List.map_cons, List.findSome?_cons,
    own]
  rfl

theorem value_join (layout : IsLayout lines) {settings : Settings}
    (writable : settings.IsWritable) (keyword : Keyword) :
    value (Text.join "\n" (lines.map (SourceLine.text settings))) keyword.word =
      keyword.valueText settings := by
  rw [Notation.value_join keyword.word (layout.feed_notMem_text writable),
    layout.findSome?_settingOn? writable keyword]
  rfl

end IsLayout

private theorem agrees_switch (isOn : Bool) :
    Text.agrees "true" (if isOn then "true" else "false" : Text) = isOn := by
  cases isOn <;> decide

/-- Every source whose values are those of given settings has these settings. -/
theorem settings_of_values {source : Text} {written : Settings}
    (values : ∀ keyword : Keyword, value source keyword.word = keyword.valueText written) :
    settings source = written := by
  have themeRead : theme source = written.theme := by
    rw [theme, values, Keyword.valueText, Theme.ofSpelling?_spelling, Option.getD_some]
  have alignRead : align source = written.align := by
    rw [align, values, Keyword.valueText, Align.ofSpelling?_spelling, Option.getD_some]
  have sizeRead : size source = written.size := by
    rw [size, values, Keyword.valueText, size?_text, Option.getD_some]
  have lettersRead : switch source .letters = written.letters := by
    rw [switch, values]
    exact agrees_switch written.letters
  have numbersRead : switch source .numbers = written.numbers := by
    rw [switch, values]
    exact agrees_switch written.numbers
  rw [settings, themeRead, alignRead, sizeRead, lettersRead, numbersRead, values, values, values]
  rfl

/-- A line with nothing but a size is read as this size. -/
theorem size_line (written : BoardSize) :
    size (Keyword.size.word ++ " " ++ written.text) = written := by
  have isValue : (Keyword.size.valueText { size := written }).IsValue :=
    .of_noBlank fun _ => BoardSize.not_isBlank_of_mem_text
  have noFeed : ∀ text ∈ [Keyword.size.line { size := written }], '\n' ∉ text := by
    intro text member
    rw [List.mem_singleton.mp member]
    exact Keyword.feed_notMem_line isValue.noFeed
  have own : value (Keyword.size.line { size := written }) Keyword.size.word = written.text := by
    have joined := value_join Keyword.size.word noFeed
    rw [List.findSome?_cons, Keyword.settingOn?_line isValue] at joined
    exact joined
  show size (Keyword.size.line { size := written }) = written
  rw [size, own, size?_text, Option.getD_some]

/-- Settings are read back from the lines that they are written on, in any order and with any other
lines that do not set a keyword too early.  All sizes survive, and no row of a grid is among the
lines that set a keyword. -/
theorem settings_join_layout :
    (∀ (written : Settings) (lines : List SourceLine), written.IsWritable → IsLayout lines →
      settings (Text.join "\n" (lines.map (SourceLine.text written))) = written) ∧
    (∀ written : BoardSize, size (Keyword.size.word ++ " " ++ written.text) = written) ∧
    ∀ (line : Text) (keyword : Keyword),
      (row? line).isSome → valueOn? keyword.word line = none := by
  refine ⟨?_, size_line, ?_⟩
  · intro written lines writable layout
    exact settings_of_values (layout.value_join writable)
  · intro line keyword row
    exact valueOn?_of_row? row keyword

/-- Values that look like other lines, and a late line with a keyword in capitals. -/
theorem settings_join_layout_lateTitle :
    ∃ (written : Settings) (lines : List SourceLine), written.IsWritable ∧ IsLayout lines ∧
      Text.join "\n" (lines.map (SourceLine.text written)) =
        ("|kl|\nnumbers false\ntitle theme light\nTITLE late\nmoves |kd|\n\ntheme dark\nsize\n" ++
          "notes \nalign left\nsize 4294967295vmin\nletters true" : Text) ∧
      settings (Text.join "\n" (lines.map (SourceLine.text written))) = written := by
  let written : Settings :=
    { theme := .dark, align := .left, size := { magnitude := 4294967295, unit := .vmin },
      title := "theme light", moves := "|kd|", letters := true }
  let lines : List SourceLine :=
    [.other "|kl|", .setting .numbers, .setting .title, .other "TITLE late", .setting .moves,
      .other "", .setting .theme, .other "size", .setting .notes, .setting .align,
      .setting .size, .setting .letters]
  have writable : written.IsWritable := by
    constructor <;> constructor <;> simp [written, Text.isGap, Text.isBlank]
  have layout : IsLayout lines := by
    constructor
    · decide
    · simp [lines]
    · intro keyword text member
      cases keyword <;> simp [linesBefore, lines] at member
      all_goals rcases member with rfl | rfl | rfl | rfl <;> decide
  have read := settings_join_layout.1 written lines writable layout
  exact ⟨written, lines, writable, layout, by decide +kernel, read⟩

end Notation

end ChessDiagram
