import ChessDiagram.Proofs.Text.Escape
import ChessDiagram.Proofs.Text.Joined

/-!
# Escaped text read back

Escaping replaces one character after the other in the whole text, and each replacement cuts the
text at its character and joins the pieces by the reference.  Together they are a single pass, which
unescaping reverses reference by reference, so that every text is read back from its escaped form.
Every text without brackets whose ampersands all open references is the escaped form of some text.
-/

namespace ChessDiagram.Text

theorem replaceChar_append (target : Char) (replacement front back : Text) :
    replaceChar target replacement (front ++ back) =
      replaceChar target replacement front ++ replaceChar target replacement back :=
  List.flatMap_append

theorem replaceChar_of_notMem {target : Char} {text : Text} (absent : target ∉ text)
    (replacement : Text) : replaceChar target replacement text = text := by
  have same : ∀ character ∈ text,
      (if character = target then replacement else [character]) = [character] := by
    intro character member
    exact if_neg (ne_of_mem_of_not_mem member absent)
  rw [replaceChar, List.flatMap_congr same, List.flatMap_singleton']

/-- Replacing a character joins what stands between its occurrences by the replacement. -/
theorem replaceChar_eq_join_splitOn (target : Char) (replacement text : Text) :
    replaceChar target replacement text = join replacement (text.splitOn target) := by
  induction text using cutInduction target with
  | last piece absent =>
      rw [replaceChar_of_notMem absent, List.splitOn_eq_singleton absent]
      rfl
  | step piece rest absent induction =>
      have mark : replaceChar target replacement (target :: rest) =
          replacement ++ replaceChar target replacement rest := by
        rw [replaceChar, List.flatMap_cons, if_pos rfl]
        rfl
      rw [replaceChar_append, replaceChar_of_notMem absent, mark, induction,
        List.splitOn_append_cons_self_of_not_mem absent, join_cons _ _ (List.splitOn_ne_nil _ _),
        List.append_assoc]

theorem escape_append (front back : Text) :
    escape (front ++ back) = escape front ++ escape back := by
  rw [escape_eq_flatMap, escape_eq_flatMap, escape_eq_flatMap, List.flatMap_append]

/-- Reads the three references in one pass and leaves everything else alone. -/
def unescape : Text → Text
  | [] => []
  | '&' :: 'a' :: 'm' :: 'p' :: ';' :: rest => '&' :: unescape rest
  | '&' :: 'l' :: 't' :: ';' :: rest => '<' :: unescape rest
  | '&' :: 'g' :: 't' :: ';' :: rest => '>' :: unescape rest
  | character :: rest => character :: unescape rest

theorem unescape_cons_of_ne {character : Char} (different : character ≠ '&') (rest : Text) :
    unescape (character :: rest) = character :: unescape rest := by
  rw [unescape]
  all_goals
    intro _ ampersand
    exact (different ampersand).elim

theorem unescape_escapeChar_append (character : Char) (rest : Text) :
    unescape (escapeChar character ++ rest) = character :: unescape rest := by
  unfold escapeChar
  split
  case h_4 noAmpersand _ _ => exact unescape_cons_of_ne noAmpersand rest
  all_goals rfl

/-- What follows an escaped text is read on its own. -/
theorem unescape_escape_append (text rest : Text) :
    unescape (escape text ++ rest) = text ++ unescape rest := by
  induction text with
  | nil => rfl
  | cons character text induction =>
      rw [escape_cons, List.append_assoc, unescape_escapeChar_append, induction,
        List.cons_append]

theorem unescape_escape (text : Text) : unescape (escape text) = text := by
  have alone := unescape_escape_append text []
  rwa [unescape, List.append_nil, List.append_nil] at alone

theorem escape_inj {left right : Text} : escape left = escape right ↔ left = right := by
  constructor
  · intro same
    have readBack := congrArg unescape same
    rwa [unescape_escape, unescape_escape] at readBack
  · exact congrArg escape

/-- The three replacements, each made in the whole result of the one before, are a single pass over
the text.  Texts are therefore escaped part by part, and every text is read back from its escaped
form, which no other text has. -/
theorem escape_readsBack :
    (∀ text : Text,
      escape text =
        join "&gt;"
          ((join "&lt;" ((join "&amp;" (text.splitOn '&')).splitOn '<')).splitOn '>')) ∧
    (∀ text : Text, escape text = text.flatMap escapeChar) ∧
    (∀ front back : Text, escape (front ++ back) = escape front ++ escape back) ∧
    (∀ text : Text, unescape (escape text) = text) ∧
    ∀ left right : Text, escape left = escape right ↔ left = right := by
  refine ⟨?_, escape_eq_flatMap, escape_append, unescape_escape, fun _ _ => escape_inj⟩
  intro text
  rw [escape, replaceChar_eq_join_splitOn, replaceChar_eq_join_splitOn, replaceChar_eq_join_splitOn]

/-- A text that looks escaped already is escaped once more. -/
example : escape "&lt; &amp;lt;" = "&amp;lt; &amp;amp;lt;" := by
  decide

theorem AmpersandsOpenReferences.of_append {front text : Text}
    (whole : AmpersandsOpenReferences (front ++ text)) : AmpersandsOpenReferences text :=
  fun rest suffix => whole rest (suffix.trans (List.suffix_append front text))

theorem exists_escapeChar_of_mem_references :
    ∀ reference ∈ references, ∃ character, escapeChar character = reference := by
  simp only [references, List.forall_mem_cons]
  exact ⟨⟨'&', rfl⟩, ⟨'<', rfl⟩, ⟨'>', rfl⟩, nofun⟩

theorem escapeChar_of_ne {character : Char} (noAmpersand : character ≠ '&')
    (noOpening : character ≠ '<') (noClosing : character ≠ '>') :
    escapeChar character = [character] := by
  simp [escapeChar]

theorem escapeChar_ne_nil (character : Char) : escapeChar character ≠ [] := by
  unfold escapeChar
  split <;> simp

/-- Such a text begins with an escaped character, the reference or the character itself. -/
theorem exists_escapeChar_append {first : Char} {rest : Text}
    (bracketless : Bracketless (first :: rest))
    (opening : AmpersandsOpenReferences (first :: rest)) :
    ∃ character behind, escapeChar character ++ behind = first :: rest := by
  by_cases ampersand : first = '&'
  · subst first
    obtain ⟨reference, listed, behind, whole⟩ := opening rest List.suffix_rfl
    obtain ⟨character, rfl⟩ := exists_escapeChar_of_mem_references reference listed
    exact ⟨character, behind, whole⟩
  · refine ⟨first, rest, ?_⟩
    rw [escapeChar_of_ne ampersand (List.ne_of_not_mem_cons bracketless.1).symm
      (List.ne_of_not_mem_cons bracketless.2).symm, List.singleton_append]

theorem exists_escape_eq {encoded : Text} (bracketless : Bracketless encoded)
    (opening : AmpersandsOpenReferences encoded) : ∃ text, escape text = encoded := by
  generalize size : encoded.length = length
  -- Every step takes a whole reference off the front, so the induction is on the length.
  induction length using Nat.strongRecOn generalizing encoded with
  | ind length induction =>
      cases encoded with
      | nil => exact ⟨[], rfl⟩
      | cons first rest =>
          obtain ⟨character, behind, whole⟩ := exists_escapeChar_append bracketless opening
          rw [← whole] at bracketless opening size
          have shorter : behind.length < length := by
            have taken := List.length_pos_of_ne_nil (escapeChar_ne_nil character)
            rw [← size, List.length_append]
            omega
          obtain ⟨text, rfl⟩ := induction behind.length shorter
            (bracketless_append.mp bracketless).2 opening.of_append rfl
          exact ⟨character :: text, (escape_cons character text).trans whole⟩

/-- The escaped forms are the texts without brackets whose ampersands all open references. -/
theorem exists_escape_eq_iff {encoded : Text} :
    (∃ text, escape text = encoded) ↔
      Bracketless encoded ∧ AmpersandsOpenReferences encoded := by
  constructor
  · rintro ⟨text, rfl⟩
    exact ⟨bracketless_escape text, ampersandsOpenReferences_escape text⟩
  · rintro ⟨bracketless, opening⟩
    exact exists_escape_eq bracketless opening

end ChessDiagram.Text
