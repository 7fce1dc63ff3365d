import ChessDiagram.Proofs.Text.Lines
import ChessDiagram.Proofs.Text.Runs

/-!
# ASCII case

Lowering changes nothing but the ASCII capitals, so that it commutes with every cutting of a text at
characters of a class that no capital belongs to without its small letter.  A character outside of
ASCII is the lower form of itself alone.
-/

namespace ChessDiagram.Text

theorem lowerChar_eq_or_capital (character : Char) :
    lowerChar character = character ∨ ∃ index < 26, character = Char.ofNat (65 + index) := by
  unfold lowerChar
  split
  · rename_i capital
    right
    simp only [Char.le_def, UInt32.le_iff_toNat_le] at capital
    change 65 ≤ character.toNat ∧ character.toNat ≤ 90 at capital
    have code : 65 + (character.toNat - 65) = character.toNat := by omega
    refine ⟨character.toNat - 65, by omega, ?_⟩
    rw [code, Char.ofNat_toNat]
  · exact .inl rfl

/-- A character is one of the capitals, or lowering leaves it alone. -/
@[elab_as_elim]
theorem capitalCases {motive : Char → Prop}
    (capital : ∀ index < 26, motive (Char.ofNat (65 + index)))
    (other : ∀ character, lowerChar character = character → motive character)
    (character : Char) : motive character := by
  rcases lowerChar_eq_or_capital character with same | ⟨index, inside, rfl⟩
  · exact other character same
  · exact capital index inside

@[simp] theorem lowerChar_lowerChar (character : Char) :
    lowerChar (lowerChar character) = lowerChar character := by
  cases character using capitalCases with
  | capital index inside =>
      revert index
      decide
  | other character same => rw [same, same]

@[simp] theorem lower_lower (text : Text) : lower (lower text) = lower text := by
  simp [lower]

@[simp] theorem lower_nil : lower [] = [] :=
  rfl

@[simp] theorem lower_cons (character : Char) (text : Text) :
    lower (character :: text) = lowerChar character :: lower text :=
  rfl

@[simp] theorem lower_append (front back : Text) :
    lower (front ++ back) = lower front ++ lower back :=
  List.map_append

@[simp] theorem lower_eq_nil_iff {text : Text} : lower text = [] ↔ text = [] :=
  List.map_eq_nil_iff

@[simp] theorem length_lower (text : Text) : (lower text).length = text.length :=
  List.length_map _

theorem take_lower (count : Nat) (text : Text) :
    (lower text).take count = lower (text.take count) :=
  List.map_take.symm

theorem drop_lower (count : Nat) (text : Text) :
    (lower text).drop count = lower (text.drop count) :=
  List.map_drop.symm

def CaseBlind (among : Char → Bool) : Prop :=
  ∀ character, among (lowerChar character) = among character

namespace CaseBlind

theorem of_capitals {among : Char → Bool}
    (same : ∀ index < 26, among (lowerChar (Char.ofNat (65 + index))) =
      among (Char.ofNat (65 + index))) : CaseBlind among := by
  intro character
  cases character using capitalCases with
  | capital index inside => exact same index inside
  | other character unchanged => rw [unchanged]

theorem isGap : CaseBlind isGap :=
  of_capitals (by decide)

theorem isBlank : CaseBlind isBlank :=
  of_capitals (by decide)

theorem isDigit : CaseBlind isDigit :=
  of_capitals (by decide)

variable {among : Char → Bool} (blind : CaseBlind among)
include blind

theorem takeWhile_lower (text : Text) :
    (lower text).takeWhile among = lower (text.takeWhile among) := by
  have same : among ∘ lowerChar = among := funext blind
  rw [lower, List.takeWhile_map, same]
  rfl

theorem dropWhile_lower (text : Text) :
    (lower text).dropWhile among = lower (text.dropWhile among) := by
  have same : among ∘ lowerChar = among := funext blind
  rw [lower, List.dropWhile_map, same]
  rfl

theorem dropEndWhile_lower (text : Text) :
    dropEndWhile among (lower text) = lower (dropEndWhile among text) := by
  induction text with
  | nil => rfl
  | cons character text induction =>
      rw [lower_cons, dropEndWhile_cons, dropEndWhile_cons, induction, blind]
      have empty : (lower (dropEndWhile among text)).isEmpty =
          (dropEndWhile among text).isEmpty := List.isEmpty_map
      rw [empty]
      split <;> rfl

/-- What agrees with a text of the class is of the class, too. -/
theorem forall_of_lower_eq {word text : Text} (same : lower text = lower word)
    (inside : ∀ letter ∈ word, among letter = true) :
    ∀ character ∈ text, among character = true := by
  intro character member
  have lowered : lowerChar character ∈ lower word := by
    rw [← same]
    exact List.mem_map_of_mem member
  obtain ⟨letter, inWord, agreeing⟩ := List.mem_map.mp lowered
  rw [← blind character, ← agreeing, blind letter]
  exact inside letter inWord

end CaseBlind

theorem lower_of_digits {digits : Text} (inside : ∀ digit ∈ digits, isDigit digit = true) :
    lower digits = digits := by
  have noDigit : ∀ index < 26, isDigit (Char.ofNat (65 + index)) = false := by decide
  have unchanged : ∀ digit ∈ digits, lowerChar digit = id digit := by
    intro digit member
    rcases lowerChar_eq_or_capital digit with same | ⟨index, below, rfl⟩
    · exact same
    · exact absurd (inside _ member) (by simp [noDigit index below])
  rw [lower, List.map_congr_left unchanged, List.map_id]

theorem skipGap_lower (text : Text) : skipGap (lower text) = lower (skipGap text) :=
  CaseBlind.isGap.dropWhile_lower text

theorem trimEnd_lower (text : Text) : trimEnd (lower text) = lower (trimEnd text) :=
  CaseBlind.isBlank.dropEndWhile_lower text

theorem trim_lower (text : Text) : trim (lower text) = lower (trim text) := by
  rw [trim, trim, trimStart, CaseBlind.isBlank.dropWhile_lower, trimEnd_lower]
  rfl

theorem feed_notMem_lower {text : Text} (noFeed : '\n' ∉ text) : '\n' ∉ lower text := by
  intro feed
  obtain ⟨character, member, lowered⟩ := List.mem_map.mp feed
  have blind : CaseBlind (· == '\n') := .of_capitals (by decide)
  have same := blind character
  rw [lowered] at same
  exact noFeed (beq_iff_eq.mp same.symm ▸ member)

theorem splitOn_lower (text : Text) :
    (lower text).splitOn '\n' = (text.splitOn '\n').map lower := by
  induction text using lineInduction with
  | last line noFeed =>
      rw [List.splitOn_eq_singleton noFeed, List.splitOn_eq_singleton (feed_notMem_lower noFeed)]
      rfl
  | step line rest noFeed induction =>
      have cut : lower (line ++ '\n' :: rest) = lower line ++ '\n' :: lower rest :=
        lower_append line ('\n' :: rest)
      rw [cut, List.splitOn_append_cons_self_of_not_mem (feed_notMem_lower noFeed), induction,
        List.splitOn_append_cons_self_of_not_mem noFeed, List.map_cons]

/-- A word is found alike in both cases, and what follows it keeps its case. -/
theorem afterWord?_lower (word text : Text) :
    afterWord? word (lower text) = (afterWord? word text).map lower := by
  induction word generalizing text with
  | nil => rfl
  | cons letter word induction =>
      cases text with
      | nil => rfl
      | cons character text =>
          rw [lower_cons, afterWord?, afterWord?, lowerChar_lowerChar, induction]
          split <;> rfl

theorem agrees_lower (word text : Text) : agrees word (lower text) = agrees word text := by
  rw [agrees, agrees, lower_lower]

theorem agrees_iff {left right : Text} : agrees left right = true ↔ lower left = lower right := by
  rw [agrees, beq_iff_eq]

def isAscii (character : Char) : Bool :=
  character.toNat < 128

theorem CaseBlind.isAscii : CaseBlind isAscii :=
  of_capitals (by decide)

theorem lowerChar_of_not_isAscii {character : Char} (outside : isAscii character = false) :
    lowerChar character = character := by
  rcases lowerChar_eq_or_capital character with same | ⟨index, below, rfl⟩
  · exact same
  · have ascii : ∀ index < 26, Text.isAscii (Char.ofNat (65 + index)) = true := by decide
    rw [ascii index below] at outside
    cases outside

/-- No other character is folded with a character outside of ASCII. -/
theorem lowerChar_eq_iff_of_not_isAscii {character other : Char}
    (outside : isAscii character = false) :
    lowerChar other = lowerChar character ↔ other = character := by
  rw [lowerChar_of_not_isAscii outside]
  constructor
  · rintro rfl
    rw [CaseBlind.isAscii other] at outside
    exact (lowerChar_of_not_isAscii outside).symm
  · rintro rfl
    exact lowerChar_of_not_isAscii outside

/-- A text that agrees with an ASCII word is in ASCII. -/
theorem isAscii_of_lower_eq {word text : Text} (same : lower text = lower word)
    (ascii : word.all isAscii = true) : ∀ character ∈ text, isAscii character = true :=
  CaseBlind.isAscii.forall_of_lower_eq same (List.all_eq_true.mp ascii)

end ChessDiagram.Text
