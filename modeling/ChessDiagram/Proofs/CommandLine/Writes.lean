import ChessDiagram.CommandLine.FileTree
import ChessDiagram.Proofs.Text.Runs

/-!
# Writing into a file tree

A write touches one place.  The directories stay what they were, every other place keeps its
content, and the path that was written to reads as what was written.
-/

namespace ChessDiagram

/-- The place of the file that a path leads to, or that a write would make there. -/
def PathEnd.place? : PathEnd → Option Place
  | .directory => none
  | .file place _ => some place
  | .vacant place => some place

theorem Text.fromUTF8?_toUTF8 (text : Text) :
    String.fromUTF8? (Text.toString text).toUTF8 = some (Text.toString text) :=
  dif_pos (Text.toString text).isValidUTF8

namespace FileTree

variable {tree : FileTree}

theorem isDirectory_iff {place : Place} :
    tree.isDirectory place = true ↔
      place <+: tree.working ∨ ∃ file ∈ tree.files, place ≠ file.1 ∧ place <+: file.1 := by
  simp [isDirectory]

theorem isDirectory_of_prefix {place directory : Place} (above : place <+: directory)
    (standing : tree.isDirectory directory = true) : tree.isDirectory place = true := by
  rw [isDirectory_iff] at standing ⊢
  rcases standing with working | ⟨file, member, different, below⟩
  · exact .inl (above.trans working)
  · refine .inr ⟨file, member, ?_, above.trans below⟩
    rintro rfl
    exact different (below.eq_of_length_le above.length_le)

theorem content?_store (place other : Place) (content : ByteArray) :
    (tree.store place content).content? other =
      if other = place then some content else tree.content? other := by
  have kept (different : other ≠ place) :
      (tree.files.filter fun file => file.1 != place).lookup other =
        tree.files.lookup other := by
    induction tree.files with
    | nil => rfl
    | cons file files induction =>
        by_cases dropped : file.1 = place
        · have missed : (other == file.1) = false := by simp [dropped, different]
          rw [List.filter_cons_of_neg (by simp [dropped]), induction, List.lookup_cons, missed]
        · rw [List.filter_cons_of_pos (by simp [dropped]), List.lookup_cons, List.lookup_cons,
            induction]
  unfold content? store
  by_cases same : other = place
  · simp [same]
  · rw [if_neg same, List.lookup_cons, beq_eq_false_iff_ne.mpr same]
    exact kept same

/-- A file in a directory that stands brings no other directory about, and the file that it
replaces stood in the same directories. -/
theorem isDirectory_store {parent : Place} (standing : tree.isDirectory parent = true)
    (name : Text) (content : ByteArray) (place : Place) :
    (tree.store (parent ++ [name]) content).isDirectory place = tree.isDirectory place := by
  rw [Bool.eq_iff_iff]
  constructor
  · intro after
    rcases isDirectory_iff.mp after with working | ⟨file, member, different, below⟩
    · exact isDirectory_iff.mpr (.inl working)
    · rcases List.mem_cons.mp member with rfl | kept
      · rcases List.prefix_concat_iff.mp below with whole | above
        · exact (different whole).elim
        · exact isDirectory_of_prefix above standing
      · exact isDirectory_iff.mpr (.inr ⟨file, (List.mem_filter.mp kept).1, different, below⟩)
  · intro before
    rcases isDirectory_iff.mp before with working | ⟨file, member, different, below⟩
    · exact isDirectory_iff.mpr (.inl working)
    · refine isDirectory_iff.mpr (.inr ?_)
      by_cases replaced : file.1 = parent ++ [name]
      · exact ⟨_, List.mem_cons_self, replaced ▸ different, replaced ▸ below⟩
      · exact ⟨file, List.mem_cons_of_mem _ (List.mem_filter.mpr ⟨member, by simpa using replaced⟩),
          different, below⟩

/-- Names that lead to a place end in its own name, and the directory above it stands. -/
theorem exists_parent_of_follow {directory : Place} {names : List Text} {found : PathEnd}
    {place : Place} (standing : tree.isDirectory directory = true)
    (followed : tree.follow directory names = .ok found) (leads : found.place? = some place) :
    ∃ parent name, place = parent ++ [name] ∧ tree.isDirectory parent = true ∧
      names.getLast? = some name ∧ name ≠ "." ∧ name ≠ ".." := by
  have longer {skipped last : Text} {names : List Text} (ends : names.getLast? = some last) :
      (skipped :: names).getLast? = some last := by
    rw [List.getLast?_cons, ends]
    rfl
  fun_induction follow tree directory names with
  | case1 =>
      cases followed
      cases leads
  | case2 directory name names stays induction =>
      obtain ⟨parent, last, whole, stands, ends, noDots⟩ := induction standing followed
      exact ⟨parent, last, whole, stands, longer ends, noDots⟩
  | case3 directory names noStay induction =>
      have above := isDirectory_of_prefix (List.dropLast_prefix directory) standing
      obtain ⟨parent, last, whole, stands, ends, noDots⟩ := induction above followed
      exact ⟨parent, last, whole, stands, longer ends, noDots⟩
  | case4 => cases followed
  | case5 directory name names noStay noUp short target entered induction =>
      obtain ⟨parent, last, whole, stands, ends, noDots⟩ := induction entered followed
      exact ⟨parent, last, whole, stands, longer ends, noDots⟩
  | case6 directory name noStay noUp short target notEntered content present =>
      cases followed
      exact ⟨directory, name, (Option.some.inj leads).symm, standing, rfl, (not_or.mp noStay).2,
        noUp⟩
  | case7 => cases followed
  | case8 directory name noStay noUp short target notEntered absent =>
      cases followed
      exact ⟨directory, name, (Option.some.inj leads).symm, standing, rfl, (not_or.mp noStay).2,
        noUp⟩
  | case9 => cases followed

/-- The same names lead to the same place in a tree with the same directories, once a file is
there. -/
theorem follow_of_isDirectory_eq {after : FileTree} {directory : Place} {names : List Text}
    {found : PathEnd} {place : Place} {content : ByteArray}
    (same : ∀ other, after.isDirectory other = tree.isDirectory other)
    (held : after.content? place = some content)
    (followed : tree.follow directory names = .ok found) (leads : found.place? = some place) :
    after.follow directory names = .ok (.file place content) := by
  -- At the last name, where no directory stands, the file is found.
  have last {directory : Place} {name : Text} (noStay : ¬(name = [] ∨ name = "."))
      (noUp : name ≠ "..") (short : ¬255 < name.byteCount) (target : place = directory ++ [name])
      (notEntered : ¬tree.isDirectory (directory ++ [name]) = true) :
      after.follow directory [name] = .ok (.file place content) := by
    rw [← same] at notEntered
    rw [target] at held ⊢
    rw [follow, if_neg noStay, if_neg noUp, if_neg short]
    simp only [if_neg notEntered, held]
  fun_induction follow tree directory names with
  | case1 =>
      cases followed
      cases leads
  | case2 directory name names stays induction =>
      rw [follow, if_pos stays]
      exact induction followed
  | case3 directory names noStay induction =>
      rw [follow, if_neg noStay, if_pos rfl]
      exact induction followed
  | case4 => cases followed
  | case5 directory name names noStay noUp short target entered induction =>
      rw [follow, if_neg noStay, if_neg noUp, if_neg short, if_pos ((same _).trans entered)]
      exact induction followed
  | case6 directory name noStay noUp short target notEntered content present =>
      cases followed
      exact last noStay noUp short (Option.some.inj leads).symm notEntered
  | case7 => cases followed
  | case8 directory name noStay noUp short target notEntered absent =>
      cases followed
      exact last noStay noUp short (Option.some.inj leads).symm notEntered
  | case9 => cases followed

theorem isDirectory_start (tree : FileTree) (path : Text) :
    tree.isDirectory (if path.head? = some '/' then [] else tree.working) = true := by
  apply isDirectory_iff.mpr
  left
  split
  · exact List.nil_prefix
  · exact List.prefix_rfl

/-- Where names are followed from, the rest of the tree has no say in whether a path is refused
before. -/
theorem follow_of_locate {path : Text} {names : List Text} {found : PathEnd}
    (located : tree.locate path names = .ok found) :
    tree.follow (if path.head? = some '/' then [] else tree.working) names = .ok found ∧
      ∀ after : FileTree, after.locate path names =
        after.follow (if path.head? = some '/' then [] else after.working) names := by
  unfold locate at located ⊢
  split at located
  · cases located
  · rename_i noNul
    split at located
    · cases located
    · rename_i nonempty
      split at located
      · cases located
      · rename_i short
        exact ⟨located, fun after => by rw [if_neg noNul, if_neg nonempty, if_neg short]⟩

/-- A path that can be written to does not end in a slash, so it is written to where it is read. -/
theorem writtenNames_of_locate {path : Text} {found : PathEnd} {place : Place}
    (located : tree.locate path (writtenNames path) = .ok found)
    (leads : found.place? = some place) : writtenNames path = pathNames path := by
  obtain ⟨parent, name, -, -, ends, noStay, noUp⟩ :=
    exists_parent_of_follow (tree.isDirectory_start path) (follow_of_locate located).1 leads
  unfold writtenNames at ends ⊢
  split at ends
  · dsimp only at ends
    split at ends
    · rename_i up
      exact (noUp (Option.some.inj (ends.symm.trans up))).elim
    · rw [List.getLast?_concat] at ends
      exact (noStay (Option.some.inj ends).symm).elim
  · rename_i noSlash
    rw [if_neg noSlash]

theorem destination_eq_ok_iff {path : Text} {place : Place} :
    tree.destination path = .ok place ↔
      ∃ found, tree.locate path (writtenNames path) = .ok found ∧ found.place? = some place := by
  unfold destination
  cases tree.locate path (writtenNames path) with
  | error refusal => simp [bind, Except.bind]
  | ok found =>
      cases found <;>
        simp [bind, Except.bind, PathEnd.place?, pure, Except.pure, throw, throwThe,
          MonadExceptOf.throw]

/-- What a write leaves behind: the text at the path, and everything else as it was. -/
structure Written (tree : FileTree) (path text : Text) (after : FileTree) : Prop where
  read : after.read path = .ok text
  destination : ∃ place, tree.destination path = .ok place ∧
    after.content? place = some (Text.toString text).toUTF8 ∧
    ∀ other, other ≠ place → after.content? other = tree.content? other
  directories : ∀ place, after.isDirectory place = tree.isDirectory place
  working : after.working = tree.working

theorem written_of_write {after : FileTree} {path text : Text}
    (stored : tree.write path text = .ok after) : tree.Written path text after := by
  obtain ⟨place, target, rfl⟩ : ∃ place, tree.destination path = .ok place ∧
      after = tree.store place (Text.toString text).toUTF8 := by
    unfold write at stored
    cases target : tree.destination path with
    | error refusal =>
        rw [target] at stored
        cases stored
    | ok place =>
        rw [target] at stored
        exact ⟨place, rfl, (Except.ok.inj stored).symm⟩
  obtain ⟨found, located, leads⟩ := destination_eq_ok_iff.mp target
  obtain ⟨followed, unrefused⟩ := follow_of_locate located
  obtain ⟨parent, name, rfl, standing, -⟩ :=
    exists_parent_of_follow (tree.isDirectory_start path) followed leads
  have same := isDirectory_store standing name (Text.toString text).toUTF8
  have held : (tree.store (parent ++ [name]) (Text.toString text).toUTF8).content?
      (parent ++ [name]) = some (Text.toString text).toUTF8 := by
    rw [content?_store, if_pos rfl]
  refine ⟨?_, ⟨_, target, held, ?_⟩, same, rfl⟩
  · have resolved : (tree.store (parent ++ [name]) (Text.toString text).toUTF8).resolve path =
        .ok (.file (parent ++ [name]) (Text.toString text).toUTF8) := by
      rw [resolve, ← writtenNames_of_locate located leads, unrefused]
      exact follow_of_isDirectory_eq same held followed leads
    simp only [read, resolved, bind, Except.bind, Text.fromUTF8?_toUTF8]
    exact congrArg Except.ok (String.toList_ofList ..)
  · intro other different
    rw [content?_store, if_neg different]

end FileTree

end ChessDiagram
