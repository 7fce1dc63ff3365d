import ChessDiagram.Markdown.Fence
import ChessDiagram.Proofs.Text.Runs
import ChessDiagram.Proofs.Text.Words

/-!
# The grammar of block lines

The lines that open and close blocks, described by what they are made of.  The readers of fences and
containers accept exactly these lines: a greedy reader never misses a way of cutting a line into
gaps, a run of markers and what comes behind it.
-/

namespace ChessDiagram.Markdown

/-- A gap, at least so many of a marker, and a gap. -/
def IsRule (marker : Char) (least : Nat) (content : Text) : Prop :=
  ∃ before count after, Text.GapOnly before ∧ Text.GapOnly after ∧ least ≤ count ∧
    content = before ++ List.replicate count marker ++ after

/-- A gap, three or more colons, a gap, the word of diagram blocks, and a gap. -/
def IsContainerOpening (content : Text) : Prop :=
  ∃ before count between after, Text.GapOnly before ∧ Text.GapOnly between ∧ Text.GapOnly after ∧
    3 ≤ count ∧
    content = before ++ List.replicate count ':' ++ between ++ diagramWord ++ after

/-- A gap, a run of three or more markers that is as long as it can be, and the info. -/
def Fence.IsOpening (fence : Fence) (content : Text) : Prop :=
  ∃ before, Text.GapOnly before ∧ 3 ≤ fence.length ∧
    fence.info.head? ≠ some fence.marker.character ∧
    content = before ++ List.replicate fence.length fence.marker.character ++ fence.info

private theorem stopsAt_marker_iff {marker : Char} {rest : Text} :
    Text.StopsAt (· == marker) rest ↔ rest.head? ≠ some marker := by
  cases rest with
  | nil => simp
  | cons character rest => simp

theorem run?_eq_some_iff {marker : Char} {least : Nat} {text run rest : Text} :
    run? marker least text = some (run, rest) ↔
      ∃ count, least ≤ count ∧ run = List.replicate count marker ∧
        rest.head? ≠ some marker ∧ text = run ++ rest := by
  constructor
  · intro taken
    simp only [run?] at taken
    split at taken
    · rename_i enough
      obtain ⟨rfl, rfl⟩ := Prod.mk.inj (Option.some.inj taken)
      refine ⟨_, enough, ?_, ?_, List.takeWhile_append_dropWhile.symm⟩
      · apply List.eq_replicate_of_mem
        intro character member
        simpa using List.mem_takeWhile_imp member
      · exact stopsAt_marker_iff.mp (Text.stopsAt_dropWhile _ text)
    · cases taken
  · rintro ⟨count, enough, rfl, stops, rfl⟩
    have inside : ∀ character ∈ List.replicate count marker, (character == marker) = true := by
      intro character member
      simpa using List.eq_of_mem_replicate member
    have stopped := stopsAt_marker_iff.mpr stops
    unfold run?
    rw [Text.takeWhile_run inside stopped, Text.dropWhile_run inside stopped]
    simpa using enough

private theorem stopsAt_isGap_replicate {marker : Char} (noGap : Text.isGap marker = false)
    {count : Nat} (positive : 0 < count) (rest : Text) :
    Text.StopsAt Text.isGap (List.replicate count marker ++ rest) := by
  cases count with
  | zero => cases positive
  | succ count => simpa [List.replicate_succ] using noGap

private theorem head?_ne_of_gapOnly {marker : Char} (noGap : Text.isGap marker = false)
    {text : Text} (gap : Text.GapOnly text) : text.head? ≠ some marker := by
  intro first
  have isGap := gap marker (List.mem_of_head? first)
  rw [noGap] at isGap
  cases isGap

private theorem run?_skipGap_any_iff {marker : Char} (noGap : Text.isGap marker = false)
    {least : Nat} {content : Text} :
    ((run? marker least (Text.skipGap content)).any fun (_, rest) =>
      (Text.skipGap rest).isEmpty) = true ↔ IsRule marker least content := by
  rw [Option.any_eq_true]
  constructor
  · rintro ⟨⟨run, rest⟩, taken, empty⟩
    obtain ⟨count, enough, rfl, -, start⟩ := run?_eq_some_iff.mp taken
    obtain ⟨before, beforeGap, whole⟩ := Text.exists_gap_append_skipGap content
    have gap : Text.GapOnly rest := Text.skipGap_eq_nil_iff.mp (List.isEmpty_iff.mp empty)
    refine ⟨before, count, rest, beforeGap, gap, enough, ?_⟩
    rw [whole, start, List.append_assoc]
  · rintro ⟨before, count, after, beforeGap, afterGap, enough, rfl⟩
    have empty : (Text.skipGap after).isEmpty = true :=
      List.isEmpty_iff.mpr (Text.skipGap_eq_nil_iff.mpr afterGap)
    have stops : after.head? ≠ some marker := head?_ne_of_gapOnly noGap afterGap
    rw [List.append_assoc, Text.skipGap_append beforeGap]
    rcases Nat.eq_zero_or_pos count with rfl | positive
    · refine ⟨([], []), run?_eq_some_iff.mpr ⟨0, enough, rfl, by simp, ?_⟩, rfl⟩
      simpa using Text.skipGap_eq_nil_iff.mpr afterGap
    · refine ⟨(_, after), run?_eq_some_iff.mpr ⟨count, enough, rfl, stops, ?_⟩, empty⟩
      exact Text.skipGap_of_stopsAt (stopsAt_isGap_replicate noGap positive after)

namespace Marker

theorem isGap_character (marker : Marker) : Text.isGap marker.character = false := by
  cases marker <;> rfl

theorem ofCharacter?_eq_some_iff {character : Char} {marker : Marker} :
    ofCharacter? character = some marker ↔ character = marker.character := by
  unfold ofCharacter? Marker.character
  cases marker <;> split <;> simp_all

end Marker

theorem Fence.isClosedBy_iff {fence : Fence} {content : Text} :
    fence.isClosedBy content = true ↔ IsRule fence.marker.character fence.length content := by
  rw [← run?_skipGap_any_iff fence.marker.isGap_character]
  unfold Fence.isClosedBy
  cases run? fence.marker.character fence.length (Text.skipGap content) <;> simp

theorem fence?_eq_some_iff {content : Text} {fence : Fence} :
    fence? content = some fence ↔ fence.IsOpening content := by
  constructor
  · intro opened
    simp only [fence?, Option.bind_eq_bind, Option.bind_eq_some_iff] at opened
    obtain ⟨marker, markerFound, ⟨run, info⟩, taken, built⟩ := opened
    obtain rfl : _ = fence := Option.some.inj built
    obtain ⟨count, enough, rfl, stops, start⟩ := run?_eq_some_iff.mp taken
    obtain ⟨before, beforeGap, whole⟩ := Text.exists_gap_append_skipGap content
    refine ⟨before, beforeGap, by simpa using enough, stops, ?_⟩
    rw [whole, start]
    simp
  · rintro ⟨before, beforeGap, enough, stops, rfl⟩
    obtain ⟨marker, length, info⟩ := fence
    simp only at enough stops
    have start : Text.skipGap (before ++ List.replicate length marker.character ++ info) =
        List.replicate length marker.character ++ info := by
      rw [List.append_assoc, Text.skipGap_append beforeGap]
      exact Text.skipGap_of_stopsAt
        (stopsAt_isGap_replicate marker.isGap_character (by omega) info)
    have first : (List.replicate length marker.character ++ info).head? =
        some marker.character := by
      cases length with
      | zero => omega
      | succ length => simp [List.replicate_succ]
    have taken : run? marker.character 3 (List.replicate length marker.character ++ info) =
        some (List.replicate length marker.character, info) :=
      run?_eq_some_iff.mpr ⟨length, enough, rfl, stops, rfl⟩
    have markerFound : Marker.ofCharacter? marker.character = some marker :=
      Marker.ofCharacter?_eq_some_iff.mpr rfl
    simp only [fence?, start, first, Option.bind_eq_bind, Option.bind_some, markerFound, taken]
    simp

private theorem isGap_colon : Text.isGap ':' = false := rfl

theorem closesContainer_iff {content : Text} :
    closesContainer content = true ↔ IsRule ':' 3 content := by
  rw [← run?_skipGap_any_iff isGap_colon]
  unfold closesContainer afterColons?
  cases run? ':' 3 (Text.skipGap content) <;> simp

private theorem afterColons?_eq_some_iff {content start : Text} :
    afterColons? content = some start ↔
      ∃ before count between, Text.GapOnly before ∧ 3 ≤ count ∧ Text.GapOnly between ∧
        Text.StopsAt Text.isGap start ∧ (between ++ start).head? ≠ some ':' ∧
        content = before ++ List.replicate count ':' ++ (between ++ start) := by
  unfold afterColons?
  rw [Option.map_eq_some_iff]
  constructor
  · rintro ⟨⟨run, rest⟩, taken, rfl⟩
    obtain ⟨count, enough, rfl, stops, start⟩ := run?_eq_some_iff.mp taken
    obtain ⟨before, beforeGap, whole⟩ := Text.exists_gap_append_skipGap content
    obtain ⟨between, betweenGap, cut⟩ := Text.exists_gap_append_skipGap rest
    refine ⟨before, count, between, beforeGap, enough, betweenGap,
      Text.stopsAt_skipGap rest, ?_, ?_⟩
    · rw [← cut]
      exact stops
    · rw [← cut, List.append_assoc, ← start]
      exact whole
  · rintro ⟨before, count, between, beforeGap, enough, betweenGap, startStops, stops, rfl⟩
    refine ⟨(List.replicate count ':', between ++ start), ?_, ?_⟩
    · refine run?_eq_some_iff.mpr ⟨count, enough, rfl, stops, ?_⟩
      rw [List.append_assoc, Text.skipGap_append beforeGap]
      exact Text.skipGap_of_stopsAt (stopsAt_isGap_replicate isGap_colon (by omega) _)
    · simp only [Text.skipGap_append betweenGap, Text.skipGap_of_stopsAt startStops]

private theorem opensContainer_iff_exists {content : Text} :
    opensContainer content = true ↔
      ∃ start, afterColons? content = some start ∧
        ∃ after, start = diagramWord ++ after ∧ Text.GapOnly after := by
  unfold opensContainer
  cases colons : afterColons? content with
  | none => simp
  | some start =>
      cases word : Text.afterExact? diagramWord start with
      | none =>
          have differs (after : Text) : start ≠ diagramWord ++ after := by
            intro same
            have found := Text.afterExact?_eq_some_iff.mpr same
            rw [word] at found
            cases found
          simp [word, differs]
      | some after =>
          obtain rfl := Text.afterExact?_eq_some_iff.mp word
          simp [word, Text.skipGap_eq_nil_iff]

theorem opensContainer_iff {content : Text} :
    opensContainer content = true ↔ IsContainerOpening content := by
  have wordStops (after : Text) : Text.StopsAt Text.isGap (diagramWord ++ after) :=
    Text.stopsAt_cons.mpr rfl
  rw [opensContainer_iff_exists]
  constructor
  · rintro ⟨start, colons, after, rfl, afterGap⟩
    obtain ⟨before, count, between, beforeGap, enough, betweenGap, -, -, whole⟩ :=
      afterColons?_eq_some_iff.mp colons
    refine ⟨before, count, between, after, beforeGap, betweenGap, afterGap, enough, ?_⟩
    simpa using whole
  · rintro ⟨before, count, between, after, beforeGap, betweenGap, afterGap, enough, rfl⟩
    have noColon : (between ++ (diagramWord ++ after)).head? ≠ some ':' := by
      cases between with
      | nil => simp [diagramWord]
      | cons character between => simpa using head?_ne_of_gapOnly isGap_colon betweenGap
    refine ⟨diagramWord ++ after, afterColons?_eq_some_iff.mpr ?_, after, rfl, afterGap⟩
    exact ⟨before, count, between, beforeGap, enough, betweenGap, wordStops after, noColon,
      by simp⟩

private theorem head?_skipGap_run {marker : Char} (noGap : Text.isGap marker = false)
    {before : Text} (gap : Text.GapOnly before) {count : Nat} (positive : 0 < count)
    (rest : Text) :
    (Text.skipGap (before ++ (List.replicate count marker ++ rest))).head? = some marker := by
  rw [Text.skipGap_append gap,
    Text.skipGap_of_stopsAt (stopsAt_isGap_replicate noGap positive rest)]
  obtain ⟨more, rfl⟩ := Nat.exists_eq_add_one_of_ne_zero positive.ne'
  rfl

/-- A line that opens a fence does not open a container. -/
theorem not_opensContainer_of_fence? {content : Text} {fence : Fence}
    (opens : fence? content = some fence) : ¬ opensContainer content = true := by
  intro container
  obtain ⟨before, gap, enough, -, whole⟩ := fence?_eq_some_iff.mp opens
  obtain ⟨colonsBefore, count, between, after, colonsGap, -, -, least, colons⟩ :=
    opensContainer_iff.mp container
  have marker : (Text.skipGap content).head? = some fence.marker.character := by
    rw [whole, List.append_assoc]
    exact head?_skipGap_run fence.marker.isGap_character gap (by omega) _
  have colon : (Text.skipGap content).head? = some ':' := by
    rw [colons, List.append_assoc, List.append_assoc, List.append_assoc]
    exact head?_skipGap_run isGap_colon colonsGap (by omega) _
  have same : fence.marker.character = ':' := Option.some.inj (marker.symm.trans colon)
  cases kind : fence.marker <;> rw [kind] at same <;> cases same

end ChessDiagram.Markdown
