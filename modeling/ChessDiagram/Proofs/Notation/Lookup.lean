import ChessDiagram.Proofs.Notation.Keywords

/-!
# Looking settings up

The first line that sets a name decides, also when it sets it to nothing.  A text in front of
another one therefore hides the other's value of a name as soon as it sets the name, and leaves it
as it is otherwise.  A line sets at most one keyword, so that no change of the lines with one
keyword reaches the value of another one.
-/

namespace ChessDiagram.Notation

theorem settingOn?_eq_none_iff {name line : Text} :
    settingOn? name line = none ↔ ¬ Sets name line := by
  rw [settingOn?, Option.map_eq_none_iff, sets_iff, Option.not_isSome_iff_eq_none]

theorem findSome?_settingOn?_eq_none_iff {name : Text} {lines : List Text} :
    lines.findSome? (settingOn? name) = none ↔ ∀ line ∈ lines, ¬ Sets name line := by
  simp only [List.findSome?_eq_none_iff, settingOn?_eq_none_iff]

theorem value_eq_nil {source name : Text} (unset : ∀ line ∈ Text.lines source, ¬ Sets name line) :
    value source name = [] := by
  rw [value_eq_findSome?, findSome?_settingOn?_eq_none_iff.mpr unset]
  rfl

/-- A text in front of another one decides on every name that it sets, and on no other. -/
theorem value_append_feed (front back name : Text) :
    value (front ++ '\n' :: back) name =
      if ∃ line ∈ Text.lines front, Sets name line then value front name
      else value back name := by
  rw [value_eq_findSome?, Text.findSome?_lines_append_feed (settingOn?_nil name)
    (settingOn?_withoutReturn name)]
  split
  case isTrue set =>
    obtain ⟨line, member, sets⟩ := set
    rw [value_eq_findSome?]
    cases found : (Text.lines front).findSome? (settingOn? name) with
    | none => exact absurd sets (findSome?_settingOn?_eq_none_iff.mp found line member)
    | some decided => rfl
  case isFalse unset =>
    have nothing : (Text.lines front).findSome? (settingOn? name) = none :=
      findSome?_settingOn?_eq_none_iff.mpr fun line member sets => unset ⟨line, member, sets⟩
    rw [nothing, Option.none_or, ← value_eq_findSome?]

/-- The value is what stands on the first line that sets the name, behind the gap, without the
blanks at its end. -/
theorem value_of_first {source name line opening rest : Text} {before after : List Text}
    {separator : Char} (cut : Text.lines source = before ++ line :: after)
    (unset : ∀ other ∈ before, ¬ Sets name other)
    (whole : Text.skipGap line = opening ++ separator :: rest)
    (agreeing : Text.agrees opening name = true) (gap : Text.isGap separator = true) :
    value source name = Text.trimEnd (Text.skipGap rest) := by
  have own : valueOn? name line = some (Text.skipGap rest) :=
    valueOn?_eq_some_iff.mpr ⟨opening, separator, rest, whole, agreeing, gap, rfl⟩
  rw [value_eq_findSome?, cut, List.findSome?_append, findSome?_settingOn?_eq_none_iff.mpr unset,
    List.findSome?_cons, settingOn?, own]
  rfl

/-- No line sets a name that is empty or starts with a gap or a line feed: gaps in front are
skipped as far as they go. -/
theorem not_sets_of_head? {source name line : Text} (member : line ∈ Text.lines source)
    (start : ∀ first ∈ name.head?, first = ' ' ∨ first = '\t' ∨ first = '\n') :
    ¬ Sets name line := by
  rintro ⟨opening, separator, rest, whole, agreeing, gap⟩
  have lowered := Text.agrees_iff.mp agreeing
  have noGap : Text.StopsAt Text.isGap (Text.skipGap line) := Text.stopsAt_skipGap line
  rw [whole] at noGap
  cases opening with
  | nil =>
      rw [List.nil_append, Text.stopsAt_cons, gap] at noGap
      cases noGap
  | cons first opening =>
      rw [List.cons_append, Text.stopsAt_cons] at noGap
      obtain ⟨letter, others, rfl⟩ : ∃ letter others, name = letter :: others := by
        apply List.exists_cons_of_ne_nil
        rintro rfl
        cases lowered
      have same : Text.lowerChar first = Text.lowerChar letter := (List.cons.inj lowered).1
      have noFeed : first ≠ '\n' := by
        rintro rfl
        apply Text.feed_notMem_of_mem_lines member
        apply (List.dropWhile_suffix Text.isGap).mem
        show '\n' ∈ Text.skipGap line
        rw [whole]
        exact List.mem_cons_self
      have blind : Text.CaseBlind (· == '\n') := .of_capitals (by decide)
      rcases start letter rfl with rfl | rfl | rfl
      · rw [← Text.CaseBlind.isGap first, same] at noGap
        cases noGap
      · rw [← Text.CaseBlind.isGap first, same] at noGap
        cases noGap
      · have feed := blind first
        rw [same] at feed
        exact noFeed (beq_iff_eq.mp feed.symm)

theorem Keyword.eq_of_sets {keyword other : Keyword} {line : Text} (sets : Sets keyword.word line)
    (setsOther : Sets other.word line) : other = keyword := by
  obtain ⟨opening, separator, rest, whole, agreeing, -⟩ := sets
  obtain ⟨otherOpening, otherSeparator, otherRest, otherWhole, otherAgreeing, -⟩ := setsOther
  have lowered := Text.agrees_iff.mp agreeing
  have otherLowered := Text.agrees_iff.mp otherAgreeing
  have begins : opening <+: Text.skipGap line := ⟨_, whole.symm⟩
  have otherBegins : otherOpening <+: Text.skipGap line := ⟨_, otherWhole.symm⟩
  rcases List.prefix_or_prefix_of_prefix begins otherBegins with shorter | longer
  · have words := shorter.map Text.lowerChar
    exact (eq_of_begins (lowered ▸ otherLowered ▸ words)).symm
  · have words := longer.map Text.lowerChar
    exact eq_of_begins (lowered ▸ otherLowered ▸ words)

private theorem findSome?_filter {read : Text → Option α} {kept : Text → Bool}
    (skipped : ∀ line, kept line = false → read line = none) (lines : List Text) :
    (lines.filter kept).findSome? read = lines.findSome? read := by
  induction lines with
  | nil => rfl
  | cons line lines induction =>
      rw [List.filter_cons, List.findSome?_cons]
      cases keep : kept line with
      | true => rw [if_pos rfl, List.findSome?_cons, induction]
      | false => rw [if_neg Bool.false_ne_true, skipped line keep, induction]

/-- Lines that set one keyword may change, go or come: the other keywords keep their values. -/
theorem value_of_edit {keyword other : Keyword} {source edited : Text} (different : other ≠ keyword)
    (same : (Text.lines edited).filter (fun line => ¬ Sets keyword.word line) =
      (Text.lines source).filter (fun line => ¬ Sets keyword.word line)) :
    value edited other.word = value source other.word := by
  have skipped : ∀ line, decide (¬ Sets keyword.word line) = false →
      settingOn? other.word line = none := by
    intro line dropped
    have sets : Sets keyword.word line := not_not.mp (of_decide_eq_false dropped)
    exact settingOn?_eq_none_iff.mpr fun setsOther => different (Keyword.eq_of_sets sets setsOther)
  rw [value_eq_findSome?, value_eq_findSome?, ← findSome?_filter skipped (Text.lines edited), same,
    findSome?_filter skipped]

/-- The value of a name is read off the first line that sets it, in whichever of two texts that
line stands, and stays on this line.  Some names are set by no line, and every line sets one keyword
at most, so that the lines of the others decide on the value of a keyword without it. -/
theorem value_firstLine :
    (∀ front back name : Text, value (front ++ '\n' :: back) name =
      if ∃ line ∈ Text.lines front, Sets name line then value front name
      else value back name) ∧
    (∀ (source name : Text) (before : List Text) (line : Text) (after : List Text)
      (opening : Text) (separator : Char) (rest : Text),
      Text.lines source = before ++ line :: after → (∀ other ∈ before, ¬ Sets name other) →
      Text.skipGap line = opening ++ separator :: rest → Text.agrees opening name = true →
      Text.isGap separator = true →
      value source name = Text.trimEnd (Text.skipGap rest)) ∧
    (∀ source name : Text, (∀ line ∈ Text.lines source, ¬ Sets name line) →
      value source name = []) ∧
    (∀ source name : Text, '\n' ∉ value source name) ∧
    (∀ name : Text, (∀ first ∈ name.head?, first = ' ' ∨ first = '\t' ∨ first = '\n') →
      ∀ source, value source name = []) ∧
    (∀ (keyword other : Keyword) (line : Text), Sets keyword.word line → Sets other.word line →
      other = keyword) ∧
    ∀ (keyword other : Keyword) (source edited : Text), other ≠ keyword →
      (Text.lines edited).filter (fun line => ¬ Sets keyword.word line) =
        (Text.lines source).filter (fun line => ¬ Sets keyword.word line) →
      value edited other.word = value source other.word := by
  refine ⟨value_append_feed, ?_, ?_, feed_notMem_value, ?_, ?_, ?_⟩
  · intro source name before line after opening separator rest cut unset whole agreeing gap
    exact value_of_first cut unset whole agreeing gap
  · intro source name unset
    exact value_eq_nil unset
  · intro name start source
    exact value_eq_nil fun line member => not_sets_of_head? member start
  · intro keyword other line sets setsOther
    exact Keyword.eq_of_sets sets setsOther
  · intro keyword other source edited different same
    exact value_of_edit different same

/-- An empty value hides a later one, a carriage return at the seam changes nothing, and a title
that goes leaves the notes. -/
theorem value_firstLine_emptyTitle :
    value ("Notes x y \r" ++ '\n' :: "TITLE \t\r\ntitle late") "title" = [] ∧
      value "Notes x y \r\nTITLE \t\r\ntitle late" "notes" = ("x y" : Text) ∧
      value "title late" " title" = [] ∧
      value "Notes x y \r\n" Keyword.notes.word =
        value "Notes x y \r\nTITLE \t\r\ntitle late" Keyword.notes.word := by
  obtain ⟨append, first, unset, -, unnamed, -, edit⟩ := value_firstLine
  refine ⟨?_, ?_, ?_, ?_⟩
  · rw [append, if_neg (by decide +kernel)]
    exact first _ _ [] "TITLE \t" ["title late"] "TITLE" ' ' "\t" (by decide +kernel) (by simp)
      (by decide +kernel) (by decide +kernel) (by decide +kernel)
  · exact first _ _ [] "Notes x y " ["TITLE \t", "title late"] "Notes" ' ' "x y "
      (by decide +kernel) (by simp) (by decide +kernel) (by decide +kernel) (by decide +kernel)
  · exact unnamed " title" (by simp) "title late"
  · exact edit .title .notes _ _ (by decide) (by decide +kernel)

end ChessDiagram.Notation
