import ChessDiagram.Proofs.Text.Uppercase
import ChessDiagram.Text.Capital
import Mathlib.Data.List.SplitBy

/-!
# Capitalising word by word

Every text is cut in one way into runs of blanks and words in turn.  Capitalising leaves the runs of
blanks as they are and changes no more of a word than its first character, which may become several.
The result is cut into the changed runs, so that it has the same number of words and is not changed
by capitalising it again.
-/

namespace ChessDiagram.Text

def IsBlankRun (run : Text) : Prop :=
  run ≠ [] ∧ ∀ character ∈ run, isBlank character = true

def IsWord (run : Text) : Prop :=
  run ≠ [] ∧ ∀ character ∈ run, isBlank character = false

instance (run : Text) : Decidable (IsBlankRun run) :=
  decidable_of_iff (run ≠ [] ∧ run.all isBlank = true) (by rw [IsBlankRun, List.all_eq_true])

instance (run : Text) : Decidable (IsWord run) :=
  decidable_of_iff (run ≠ [] ∧ run.any isBlank = false) (by simp [IsWord])

/-- Runs of blanks and words that take turns, so that no run could be longer. -/
structure TakeTurns (runs : List Text) : Prop where
  kinds : ∀ run ∈ runs, IsBlankRun run ∨ IsWord run
  turns : runs.IsChain fun run next =>
    IsBlankRun run ∧ IsWord next ∨ IsWord run ∧ IsBlankRun next

/-- Whether two characters may stand next to each other in a run. -/
def sameKind (left right : Char) : Bool :=
  isBlank left == isBlank right

private theorem isBlank_eq_of_isChain {first : Char} {rest : Text}
    (chain : (first :: rest).IsChain fun left right => sameKind left right = true) :
    ∀ character ∈ rest, isBlank character = isBlank first := by
  induction rest generalizing first with
  | nil => simp
  | cons next rest induction =>
      obtain ⟨same, others⟩ := List.isChain_cons_cons.mp chain
      have next_eq : isBlank next = isBlank first := (beq_iff_eq.mp same).symm
      rw [List.forall_mem_cons]
      exact ⟨next_eq, fun character member => (induction others character member).trans next_eq⟩

private theorem isBlankRun_or_isWord {run : Text} (nonempty : run ≠ [])
    (chain : run.IsChain fun left right => sameKind left right = true) :
    IsBlankRun run ∨ IsWord run := by
  obtain ⟨first, rest, rfl⟩ := List.exists_cons_of_ne_nil nonempty
  have same := isBlank_eq_of_isChain chain
  cases kind : isBlank first with
  | true => exact .inl ⟨nonempty, List.forall_mem_cons.mpr ⟨kind, by simpa [kind] using same⟩⟩
  | false => exact .inr ⟨nonempty, List.forall_mem_cons.mpr ⟨kind, by simpa [kind] using same⟩⟩

private theorem isChain_sameKind {run : Text} (uniform : IsBlankRun run ∨ IsWord run) :
    run.IsChain fun left right => sameKind left right = true := by
  apply List.Pairwise.isChain
  apply List.pairwise_of_forall_mem_list
  intro left leftMember right rightMember
  rcases uniform with ⟨-, inside⟩ | ⟨-, inside⟩ <;>
    rw [sameKind, inside left leftMember, inside right rightMember, beq_self_eq_true]

theorem takeTurns_splitBy (text : Text) : TakeTurns (text.splitBy sameKind) := by
  have kinds : ∀ run ∈ text.splitBy sameKind, IsBlankRun run ∨ IsWord run := by
    intro run member
    exact isBlankRun_or_isWord (List.ne_nil_of_mem_splitBy member)
      (List.isChain_of_mem_splitBy member)
  refine ⟨kinds, (List.isChain_getLast_head_splitBy sameKind text).imp_of_mem_imp ?_⟩
  rintro run next runMember nextMember ⟨runNonempty, nextNonempty, differ⟩
  have last := List.getLast_mem runNonempty
  have first := List.head_mem nextNonempty
  rcases kinds run runMember with blank | word <;>
    rcases kinds next nextMember with nextBlank | nextWord
  · rw [sameKind, blank.2 _ last, nextBlank.2 _ first] at differ
    cases differ
  · exact .inl ⟨blank, nextWord⟩
  · exact .inr ⟨word, nextBlank⟩
  · rw [sameKind, word.2 _ last, nextWord.2 _ first] at differ
    cases differ

namespace TakeTurns

variable {run : Text} {runs : List Text}

theorem splitBy_flatten (turns : TakeTurns runs) : runs.flatten.splitBy sameKind = runs := by
  apply List.splitBy_flatten
  · intro member
    rcases turns.kinds [] member with blank | word
    · exact blank.1 rfl
    · exact word.1 rfl
  · exact fun run member => isChain_sameKind (turns.kinds run member)
  · apply turns.turns.imp
    rintro run next (⟨blank, word⟩ | ⟨word, blank⟩)
    · refine ⟨blank.1, word.1, ?_⟩
      rw [sameKind, blank.2 _ (List.getLast_mem _), word.2 _ (List.head_mem _)]
      rfl
    · refine ⟨word.1, blank.1, ?_⟩
      rw [sameKind, word.2 _ (List.getLast_mem _), blank.2 _ (List.head_mem _)]
      rfl

theorem eq_of_flatten {others : List Text} (turns : TakeTurns runs) (otherTurns : TakeTurns others)
    (same : others.flatten = runs.flatten) : others = runs := by
  rw [← otherTurns.splitBy_flatten, same, turns.splitBy_flatten]

theorem tail (turns : TakeTurns (run :: runs)) : TakeTurns runs where
  kinds := fun other member => turns.kinds other (List.mem_cons_of_mem _ member)
  turns := turns.turns.tail

/-- What follows a word starts with a blank. -/
theorem isBlank_of_head? (turns : TakeTurns (run :: runs)) (word : IsWord run) :
    ∀ character ∈ runs.flatten.head?, isBlank character = true := by
  cases runs with
  | nil => simp
  | cons next runs =>
      obtain ⟨first, others, rfl⟩ : ∃ first others, run = first :: others :=
        List.exists_cons_of_ne_nil word.1
      rcases (List.isChain_cons_cons.mp turns.turns).1 with ⟨blank, -⟩ | ⟨-, nextBlank⟩
      · have both := blank.2 first List.mem_cons_self
        rw [word.2 first List.mem_cons_self] at both
        cases both
      · obtain ⟨nextFirst, nextRest, rfl⟩ := List.exists_cons_of_ne_nil nextBlank.1
        simpa using nextBlank.2 nextFirst List.mem_cons_self

end TakeTurns

/-- A run with its first character in upper case, unless it is a run of blanks. -/
def capitalizeRun : Text → Text
  | [] => []
  | first :: rest => if isBlank first then first :: rest else upperChar first ++ rest

theorem capitalizeRun_of_isBlankRun {run : Text} (blank : IsBlankRun run) :
    capitalizeRun run = run := by
  obtain ⟨first, rest, rfl⟩ := List.exists_cons_of_ne_nil blank.1
  rw [capitalizeRun, if_pos (blank.2 first List.mem_cons_self)]

theorem capitalizeRun_cons_of_not_isBlank {first : Char} (rest : Text)
    (noBlank : isBlank first = false) :
    capitalizeRun (first :: rest) = upperChar first ++ rest := by
  rw [capitalizeRun, noBlank, if_neg Bool.false_ne_true]

theorem IsWord.capitalizeRun {run : Text} (word : IsWord run) : IsWord (capitalizeRun run) := by
  obtain ⟨first, rest, rfl⟩ := List.exists_cons_of_ne_nil word.1
  obtain ⟨firstInside, restInside⟩ := List.forall_mem_cons.mp word.2
  rw [capitalizeRun_cons_of_not_isBlank rest firstInside]
  refine ⟨List.append_ne_nil_of_left_ne_nil (upperChar_ne_nil first) rest, ?_⟩
  rw [List.forall_mem_append]
  exact ⟨fun _ member => isBlank_of_mem_upperChar member firstInside, restInside⟩

theorem isWord_capitalizeRun_iff {run : Text} (uniform : IsBlankRun run ∨ IsWord run) :
    IsWord (capitalizeRun run) ↔ IsWord run := by
  rcases uniform with blank | word
  · rw [capitalizeRun_of_isBlankRun blank]
  · exact iff_of_true word.capitalizeRun word

theorem capitalizeRun_capitalizeRun (run : Text) :
    capitalizeRun (capitalizeRun run) = capitalizeRun run := by
  cases run with
  | nil => rfl
  | cons first rest =>
      cases blank : isBlank first with
      | true => simp [capitalizeRun, blank]
      | false =>
          rw [capitalizeRun_cons_of_not_isBlank rest blank]
          obtain ⟨upper, others, cut⟩ := List.exists_cons_of_ne_nil (upperChar_ne_nil first)
          have upperBlank : isBlank upper = false :=
            isBlank_of_mem_upperChar (cut ▸ List.mem_cons_self) blank
          have starts : upper ∈ (upperChar first).head? := by
            rw [cut]
            rfl
          rw [cut, List.cons_append, capitalizeRun_cons_of_not_isBlank _ upperBlank,
            upperChar_of_head? starts]
          rfl

theorem TakeTurns.map_capitalizeRun {runs : List Text} (turns : TakeTurns runs) :
    TakeTurns (runs.map capitalizeRun) where
  kinds := by
    intro changed member
    obtain ⟨run, runMember, rfl⟩ := List.mem_map.mp member
    rcases turns.kinds run runMember with blank | word
    · rw [capitalizeRun_of_isBlankRun blank]
      exact .inl blank
    · exact .inr word.capitalizeRun
  turns := by
    rw [List.isChain_map]
    apply turns.turns.imp
    rintro run next (⟨blank, word⟩ | ⟨word, blank⟩)
    · rw [capitalizeRun_of_isBlankRun blank]
      exact .inl ⟨blank, word.capitalizeRun⟩
    · rw [capitalizeRun_of_isBlankRun blank]
      exact .inr ⟨word.capitalizeRun, blank⟩

/-- Whether a word starts behind a text is decided by its last character. -/
theorem capitalizeFrom_append (atStart : Bool) (front back : Text) :
    capitalizeFrom atStart (front ++ back) =
      capitalizeFrom atStart front ++
        capitalizeFrom ((front.getLast?.map isBlank).getD atStart) back := by
  induction front generalizing atStart with
  | nil => rfl
  | cons character front induction =>
      rw [List.cons_append, capitalizeFrom, capitalizeFrom, induction, List.append_assoc,
        List.getLast?_cons]
      cases front.getLast? <;> rfl

theorem capitalizeFrom_of_blank {run : Text} (blank : ∀ character ∈ run, isBlank character = true)
    (atStart : Bool) : capitalizeFrom atStart run = run := by
  induction run generalizing atStart with
  | nil => rfl
  | cons character run induction =>
      obtain ⟨first, others⟩ := List.forall_mem_cons.mp blank
      rw [capitalizeFrom, induction others, upperChar_of_isBlank first, ite_self]
      rfl

theorem capitalizeFrom_false_of_noBlank {run : Text}
    (noBlank : ∀ character ∈ run, isBlank character = false) :
    capitalizeFrom false run = run := by
  induction run with
  | nil => rfl
  | cons character run induction =>
      obtain ⟨first, others⟩ := List.forall_mem_cons.mp noBlank
      rw [capitalizeFrom, first, induction others, if_neg Bool.false_ne_true]
      rfl

theorem capitalizeWords_of_uniform {run : Text} (uniform : IsBlankRun run ∨ IsWord run) :
    capitalizeWords run = capitalizeRun run := by
  rcases uniform with blank | word
  · rw [capitalizeRun_of_isBlankRun blank]
    exact capitalizeFrom_of_blank blank.2 true
  · obtain ⟨first, rest, rfl⟩ := List.exists_cons_of_ne_nil word.1
    obtain ⟨firstInside, restInside⟩ := List.forall_mem_cons.mp word.2
    rw [capitalizeWords, capitalizeFrom, if_pos rfl, firstInside,
      capitalizeFrom_false_of_noBlank restInside,
      capitalizeRun_cons_of_not_isBlank rest firstInside]

/-- A blank starts no word, so that it does not matter what stands in front of it. -/
theorem capitalizeFrom_of_head? {text : Text}
    (blank : ∀ character ∈ text.head?, isBlank character = true) (atStart : Bool) :
    capitalizeFrom atStart text = capitalizeWords text := by
  cases text with
  | nil => rfl
  | cons character text =>
      rw [capitalizeWords, capitalizeFrom, capitalizeFrom, upperChar_of_isBlank (blank _ rfl),
        ite_self, ite_self]

theorem capitalizeWords_append {front : Text}
    (blank : ∀ character ∈ front.getLast?, isBlank character = true) (back : Text) :
    capitalizeWords (front ++ back) = capitalizeWords front ++ capitalizeWords back := by
  rw [capitalizeWords, capitalizeFrom_append]
  cases last : front.getLast? with
  | none => rfl
  | some character =>
      rw [Option.map_some, Option.getD_some, blank character last]
      rfl

theorem capitalizeWords_flatten {runs : List Text} (turns : TakeTurns runs) :
    capitalizeWords runs.flatten = (runs.map capitalizeRun).flatten := by
  induction runs with
  | nil => rfl
  | cons run runs induction =>
      have uniform := turns.kinds run List.mem_cons_self
      rw [List.flatten_cons, List.map_cons, List.flatten_cons, ← induction turns.tail,
        ← capitalizeWords_of_uniform uniform]
      rcases uniform with blank | word
      · exact capitalizeWords_append
          (fun character last => blank.2 character (List.mem_of_getLast? last)) _
      · rw [capitalizeWords, capitalizeFrom_append,
          capitalizeFrom_of_head? (turns.isBlank_of_head? word)]
        rfl

theorem capitalizeWords_capitalizeWords (text : Text) :
    capitalizeWords (capitalizeWords text) = capitalizeWords text := by
  have turns := takeTurns_splitBy text
  have again : capitalizeRun ∘ capitalizeRun = capitalizeRun := funext capitalizeRun_capitalizeRun
  rw [← List.flatten_splitBy sameKind text, capitalizeWords_flatten turns,
    capitalizeWords_flatten turns.map_capitalizeRun, List.map_map, again]

/-- A text is cut in one way into runs of blanks and words in turn.  Capitalising changes these runs
one by one: it keeps all blanks and all of a word but its first character, which it replaces by its
upper case.  It therefore keeps the number of words, may be done apart for what follows a blank, and
changes nothing when it is done again. -/
theorem capitalizeWords_takeTurns :
    (∀ text : Text, ∃! runs, TakeTurns runs ∧ runs.flatten = text) ∧
    (∀ runs : List Text, TakeTurns runs →
      capitalizeWords runs.flatten = (runs.map capitalizeRun).flatten ∧
        TakeTurns (runs.map capitalizeRun)) ∧
    (∀ run : Text, IsBlankRun run → capitalizeRun run = run) ∧
    (∀ (first : Char) (rest : Text), IsWord (first :: rest) →
      capitalizeRun (first :: rest) = upperChar first ++ rest) ∧
    (∀ runs capitalized : List Text, TakeTurns runs → TakeTurns capitalized →
      capitalized.flatten = capitalizeWords runs.flatten →
      capitalized.countP (IsWord ·) = runs.countP (IsWord ·)) ∧
    (∀ front back : Text, (∀ character ∈ front.getLast?, isBlank character = true) →
      capitalizeWords (front ++ back) = capitalizeWords front ++ capitalizeWords back) ∧
    ∀ text : Text, capitalizeWords (capitalizeWords text) = capitalizeWords text := by
  refine ⟨?cutting, ?runs, ?blanks, ?words, ?count, ?apart, capitalizeWords_capitalizeWords⟩
  case cutting =>
    intro text
    refine ⟨_, ⟨takeTurns_splitBy text, List.flatten_splitBy sameKind text⟩, ?_⟩
    rintro runs ⟨turns, rfl⟩
    exact turns.splitBy_flatten.symm
  case runs =>
    intro runs turns
    exact ⟨capitalizeWords_flatten turns, turns.map_capitalizeRun⟩
  case blanks =>
    intro run blank
    exact capitalizeRun_of_isBlankRun blank
  case words =>
    intro first rest word
    exact capitalizeRun_cons_of_not_isBlank rest (word.2 first List.mem_cons_self)
  case count =>
    intro runs capitalized turns capitalizedTurns whole
    rw [capitalizeWords_flatten turns] at whole
    rw [turns.map_capitalizeRun.eq_of_flatten capitalizedTurns whole, List.countP_map]
    apply List.countP_congr
    intro run member
    simpa using isWord_capitalizeRun_iff (turns.kinds run member)
  case apart =>
    intro front back blank
    exact capitalizeWords_append blank back

/-- First characters with an upper case of several characters, and a blank outside of ASCII. -/
theorem capitalizeWords_takeTurns_expansions :
    capitalizeWords "  ﬁne\u00a0ßtraße ŉ" = ("  FIne\u00a0SStraße ʼN" : Text) ∧
      capitalizeWords "  FIne\u00a0SStraße ʼN" = ("  FIne\u00a0SStraße ʼN" : Text) ∧
      capitalizeWords "ŉ \tß" = capitalizeWords "ŉ \t" ++ capitalizeWords "ß" ∧
      (["  ", "FIne", "\u00a0", "SStraße", " ", "ʼN"] : List Text).countP (IsWord ·) = 3 := by
  obtain ⟨-, changed, -, -, count, apart, again⟩ := capitalizeWords_takeTurns
  have turns : TakeTurns ["  ", "ﬁne", "\u00a0", "ßtraße", " ", "ŉ"] := by
    constructor <;> decide +kernel
  obtain ⟨whole, changedTurns⟩ := changed _ turns
  have result : (["  ", "ﬁne", "\u00a0", "ßtraße", " ", "ŉ"] : List Text).map capitalizeRun =
      (["  ", "FIne", "\u00a0", "SStraße", " ", "ʼN"] : List Text) := by
    decide +kernel
  rw [result] at whole changedTurns
  have capitalized : capitalizeWords "  ﬁne\u00a0ßtraße ŉ" = ("  FIne\u00a0SStraße ʼN" : Text) :=
    whole
  refine ⟨capitalized, ?_, apart "ŉ \t" "ß" (by simp [isBlank]), ?_⟩
  · have twice := again "  ﬁne\u00a0ßtraße ŉ"
    rw [capitalized] at twice
    exact twice
  · rw [count _ _ turns changedTurns whole.symm]
    decide +kernel

end ChessDiagram.Text
