import ChessDiagram.Proofs.Text.Decimal
import ChessDiagram.Proofs.Text.Runs
import ChessDiagram.Proofs.Text.Uppercase
import ChessDiagram.Text.Capital
import ChessDiagram.Text.Escape
import Mathlib.Data.List.TakeWhile

/-!
# Texts on one line

Numerals have no line feeds, and nothing that is done to free text brings one into it: joining,
trimming, upper case and escaping keep a text on its line.
-/

namespace ChessDiagram.Text

theorem feed_notMem_flatMap {text : Text} {image : Char → Text}
    (within : ∀ character ∈ text, '\n' ∉ image character) : '\n' ∉ text.flatMap image := by
  intro feed
  obtain ⟨character, member, imageFeed⟩ := List.mem_flatMap.mp feed
  exact within character member imageFeed

theorem mem_of_mem_join {separator : Text} {texts : List Text} {character : Char}
    (member : character ∈ join separator texts) :
    character ∈ separator ∨ ∃ text ∈ texts, character ∈ text := by
  induction texts with
  | nil => cases member
  | cons text texts induction =>
      cases texts with
      | nil => exact .inr ⟨text, List.mem_cons_self, member⟩
      | cons next texts =>
          rw [join, List.append_assoc, List.mem_append, List.mem_append] at member
          rcases member with first | between | others
          · exact .inr ⟨text, List.mem_cons_self, first⟩
          · exact .inl between
          · rcases induction others with between | ⟨other, behind, within⟩
            · exact .inl between
            · exact .inr ⟨other, List.mem_cons_of_mem _ behind, within⟩
          · exact nofun

theorem feed_notMem_join {separator : Text} {texts : List Text} (between : '\n' ∉ separator)
    (within : ∀ text ∈ texts, '\n' ∉ text) : '\n' ∉ join separator texts := by
  intro feed
  rcases mem_of_mem_join feed with outside | ⟨text, member, inside⟩
  · exact between outside
  · exact within text member inside

theorem feed_notMem_dropEndWhile {among : Char → Bool} {text : Text} (noFeed : '\n' ∉ text) :
    '\n' ∉ dropEndWhile among text :=
  fun feed => noFeed ((prefix_dropEndWhile among text).mem feed)

@[simp] theorem feed_notMem_decimal (number : Nat) : '\n' ∉ decimal number := by
  intro feed
  have digit := isDigit_of_mem_decimal number _ feed
  exact absurd digit (by decide)

/-- Only the line feed itself has a line feed in its upper-case form. -/
theorem feed_notMem_upperChar {character : Char} (different : character ≠ '\n') :
    '\n' ∉ upperChar character := by
  intro feed
  cases blank : isBlank character with
  | true =>
      rw [upperChar_of_isBlank blank, List.mem_singleton] at feed
      exact different feed.symm
  | false => exact absurd (isBlank_of_mem_upperChar feed blank) (by decide)

theorem feed_notMem_capitalizeFrom {text : Text} (noFeed : '\n' ∉ text) (atStart : Bool) :
    '\n' ∉ capitalizeFrom atStart text := by
  induction text generalizing atStart with
  | nil => simp [capitalizeFrom]
  | cons character text induction =>
      have different : character ≠ '\n' := (List.ne_of_not_mem_cons noFeed).symm
      have rest := induction (List.not_mem_of_not_mem_cons noFeed) (isBlank character)
      cases atStart with
      | true => simp [capitalizeFrom, rest, feed_notMem_upperChar different]
      | false => simp [capitalizeFrom, rest, Ne.symm different]

theorem feed_notMem_capitalizeWords {text : Text} (noFeed : '\n' ∉ text) :
    '\n' ∉ capitalizeWords text :=
  feed_notMem_capitalizeFrom noFeed true

private theorem feed_notMem_replaceChar {target : Char} {replacement text : Text}
    (noFeed : '\n' ∉ text) (replacementNoFeed : '\n' ∉ replacement) :
    '\n' ∉ replaceChar target replacement text := by
  apply feed_notMem_flatMap
  intro character member
  split
  · exact replacementNoFeed
  · intro feed
    rw [← List.mem_singleton.mp feed] at member
    exact noFeed member

theorem feed_notMem_escape {text : Text} (noFeed : '\n' ∉ text) : '\n' ∉ escape text :=
  feed_notMem_replaceChar
    (feed_notMem_replaceChar (feed_notMem_replaceChar noFeed (by simp)) (by simp)) (by simp)

end ChessDiagram.Text
