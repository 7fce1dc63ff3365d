import ChessDiagram.Drawing.Layers
import Mathlib.Data.List.Basic

/-!
# Layers of drawings

A drawing has a list of elements on every layer, which is empty where the layer has no entry.  An
empty drawing has no entries, an element that is added comes last on its layer, and laying one
drawing over another puts the elements of the upper one behind those of the lower one on every
layer.  Drawings with the same entry for every layer are the same.
-/

namespace ChessDiagram

theorem Layer.mem_all (layer : Layer) : layer ∈ all := by
  cases layer <;> decide

namespace Layered

section Entries

variable {entries left right : List (Layer × List Markup)} {layer : Layer}

theorem lookup_cons_eq_ite (other : Layer) (placed : List Markup) :
    ((other, placed) :: entries).lookup layer =
      if layer = other then some placed else entries.lookup layer := by
  by_cases same : layer = other
  · subst other
    rw [List.lookup_cons_self, if_pos rfl]
  · rw [List.lookup_cons, beq_eq_false_iff_ne.mpr same, if_neg same]

theorem lookup_of_below (below : ∀ entry ∈ entries, layer.height < entry.1.height) :
    entries.lookup layer = none := by
  rw [List.lookup_eq_none_iff]
  intro entry member
  rw [bne_iff_ne]
  rintro rfl
  exact Nat.lt_irrefl _ (below entry member)

/-- Elements that are put on a layer get behind those of its entry, or into a new one. -/
theorem lookup_placeOn (ascending : IsAscending entries) (place : Layer) (elements : List Markup) :
    (placeOn place elements entries).lookup layer =
      Option.merge (· ++ ·) (entries.lookup layer)
        (if layer = place then some elements else none) := by
  induction entries with
  | nil => rw [placeOn, lookup_cons_eq_ite, List.lookup_nil, Option.merge_none_left]
  | cons first entries induction =>
      obtain ⟨other, placed⟩ := first
      obtain ⟨above, behind⟩ := List.pairwise_cons.mp ascending
      unfold placeOn
      split
      case isTrue same =>
        subst other
        rw [lookup_cons_eq_ite, lookup_cons_eq_ite]
        by_cases own : layer = place
        · simp only [if_pos own, Option.merge_some_some]
        · simp only [if_neg own, Option.merge_none_right]
      case isFalse different =>
        split
        case isTrue below =>
          rw [lookup_cons_eq_ite]
          by_cases own : layer = place
          · subst layer
            have missing : entries.lookup place = none :=
              lookup_of_below fun entry member => Nat.lt_trans below (above entry member)
            simp only [if_pos, lookup_cons_eq_ite, if_neg different, missing,
              Option.merge_none_left]
          · simp only [if_neg own, Option.merge_none_right]
        case isFalse notBelow =>
          rw [lookup_cons_eq_ite, lookup_cons_eq_ite, induction behind]
          by_cases same : layer = other
          · subst other
            simp only [if_pos, if_neg (Ne.symm different), Option.merge_none_right]
          · simp only [if_neg same]

/-- Entries in ascending order are determined by what is found for each layer. -/
theorem eq_of_lookup_eq (leftAscending : IsAscending left) (rightAscending : IsAscending right)
    (same : ∀ layer, left.lookup layer = right.lookup layer) : left = right := by
  induction left generalizing right with
  | nil =>
      cases right with
      | nil => rfl
      | cons first right =>
          have found := same first.1
          rw [List.lookup_nil, List.lookup_cons_self] at found
          cases found
  | cons first left induction =>
      obtain ⟨place, placed⟩ := first
      obtain ⟨leftAbove, leftBehind⟩ := List.pairwise_cons.mp leftAscending
      cases right with
      | nil =>
          have found := same place
          rw [List.lookup_nil, List.lookup_cons_self] at found
          cases found
      | cons other right =>
          obtain ⟨other, otherPlaced⟩ := other
          obtain ⟨rightAbove, rightBehind⟩ := List.pairwise_cons.mp rightAscending
          have missingLeft : left.lookup place = none := lookup_of_below leftAbove
          have missingRight : right.lookup other = none := lookup_of_below rightAbove
          simp only [lookup_cons_eq_ite] at same
          obtain rfl : place = other := by
            by_contra different
            -- The lower one of the two layers has an entry on one side only.
            rcases Nat.lt_or_gt_of_ne (fun heights => different (Layer.eq_of_height_eq heights))
              with lower | lower
            · have found := same place
              rw [if_pos rfl, if_neg different,
                lookup_of_below fun entry member => Nat.lt_trans lower (rightAbove entry member)]
                at found
              cases found
            · have found := same other
              rw [if_pos rfl, if_neg (Ne.symm different),
                lookup_of_below fun entry member => Nat.lt_trans lower (leftAbove entry member)]
                at found
              cases found
          have placedSame := same place
          rw [if_pos rfl, if_pos rfl, Option.some.injEq] at placedSame
          have behindSame : ∀ layer, left.lookup layer = right.lookup layer := by
            intro layer
            by_cases own : layer = place
            · rw [own, missingLeft, missingRight]
            · simpa only [if_neg own] using same layer
          rw [placedSame, induction leftBehind rightBehind behindSame]

theorem lookup_filterMap (found : Layer → Option (List Markup)) (layers : List Layer) :
    (layers.filterMap fun layer => (found layer).map fun elements => (layer, elements)).lookup layer =
      if layer ∈ layers then found layer else none := by
  induction layers with
  | nil => rfl
  | cons first layers induction =>
      cases entry : found first with
      | none =>
          rw [List.filterMap_cons_none (by rw [entry]; rfl), induction]
          by_cases own : layer = first
          · subst layer
            simp [entry]
          · simp [own]
      | some elements =>
          rw [List.filterMap_cons_some (by rw [entry]; rfl), lookup_cons_eq_ite, induction]
          by_cases own : layer = first
          · subst layer
            simp [entry]
          · simp [own]

end Entries

variable (layered lower upper : Layered) (layer : Layer)

@[ext] theorem ext_lookup {left right : Layered}
    (same : ∀ layer, left.entries.lookup layer = right.entries.lookup layer) : left = right := by
  cases left with
  | mk leftEntries leftAscending =>
      cases right with
      | mk rightEntries rightAscending =>
          obtain rfl := eq_of_lookup_eq leftAscending rightAscending same
          rfl

@[simp] theorem lookup_empty : empty.entries.lookup layer = none :=
  rfl

@[simp] theorem lookup_extend (place : Layer) (elements : List Markup) :
    (layered.extend place elements).entries.lookup layer =
      Option.merge (· ++ ·) (layered.entries.lookup layer)
        (if layer = place then some elements else none) :=
  lookup_placeOn layered.ascending place elements

private theorem lookup_foldl_extend {entries : List (Layer × List Markup)}
    (ascending : IsAscending entries) :
    (entries.foldl (fun drawing (place, elements) => drawing.extend place elements)
        lower).entries.lookup layer =
      Option.merge (· ++ ·) (lower.entries.lookup layer) (entries.lookup layer) := by
  induction entries generalizing lower with
  | nil => rw [List.foldl_nil, List.lookup_nil, Option.merge_none_right]
  | cons first entries induction =>
      obtain ⟨place, elements⟩ := first
      obtain ⟨above, behind⟩ := List.pairwise_cons.mp ascending
      rw [List.foldl_cons, induction _ behind, lookup_extend, lookup_cons_eq_ite]
      by_cases own : layer = place
      · subst layer
        rw [if_pos rfl, if_pos rfl, lookup_of_below above, Option.merge_none_right]
      · rw [if_neg own, if_neg own, Option.merge_none_right]

/-- The entry of a layer in two drawings, one over the other, comes from those that they have. -/
@[simp] theorem lookup_merge :
    (lower.merge upper).entries.lookup layer =
      Option.merge (· ++ ·) (lower.entries.lookup layer) (upper.entries.lookup layer) :=
  lookup_foldl_extend lower layer upper.ascending

theorem getD_merge (left right : Option (List Markup)) :
    (Option.merge (· ++ ·) left right).getD [] = left.getD [] ++ right.getD [] := by
  cases left <;> cases right <;> simp

@[simp] theorem on_empty : empty.on layer = [] :=
  rfl

@[simp] theorem on_merge : (lower.merge upper).on layer = lower.on layer ++ upper.on layer := by
  rw [on, lookup_merge, getD_merge]
  rfl

@[simp] theorem on_add (place : Layer) (element : Markup) :
    (layered.add place element).on layer =
      layered.on layer ++ if place = layer then [element] else [] := by
  rw [on, add, lookup_extend, getD_merge, on]
  by_cases own : layer = place
  · subst layer
    simp
  · simp [own, Ne.symm own]

@[simp] theorem merge_empty : layered.merge empty = layered :=
  rfl

@[simp] theorem empty_merge : empty.merge layered = layered := by
  ext1 layer
  rw [lookup_merge, lookup_empty, Option.merge_none_left]

theorem merge_assoc (first second third : Layered) :
    (first.merge second).merge third = first.merge (second.merge third) := by
  ext1 layer
  simp only [lookup_merge]
  exact Std.Associative.assoc _ _ _

/-- A drawing of elements on a single layer. -/
def oneLayer (layer : Layer) : List Markup → Layered
  | [] => empty
  | first :: rest => (empty.add layer first).merge (oneLayer layer rest)

@[simp] theorem oneLayer_nil : oneLayer layer [] = empty :=
  rfl

theorem oneLayer_cons (first : Markup) (rest : List Markup) :
    oneLayer layer (first :: rest) = (empty.add layer first).merge (oneLayer layer rest) :=
  rfl

theorem on_oneLayer (place : Layer) (elements : List Markup) :
    (oneLayer place elements).on layer = if place = layer then elements else [] := by
  induction elements with
  | nil => simp
  | cons first rest induction =>
      rw [oneLayer_cons, on_merge, induction, on_add, on_empty]
      split <;> rfl

/-- The entries are those of all layers that have one, from the bottom up. -/
theorem entries_eq_filterMap : layered.entries =
    Layer.all.filterMap fun layer => (layered.entries.lookup layer).map fun elements =>
      (layer, elements) := by
  apply eq_of_lookup_eq layered.ascending
  · rw [IsAscending, List.pairwise_filterMap]
    simp [Layer.all, Layer.height]
  · intro layer
    rw [lookup_filterMap (List.lookup · layered.entries), if_pos layer.mem_all]

/-- A drawing is rendered as one group for every layer with elements, from the bottom up. -/
theorem render_eq_flatMap : layered.render = Layer.all.flatMap fun layer =>
    if layered.on layer = [] then [] else [layerGroup layer (layered.on layer)] := by
  rw [render, entries_eq_filterMap, List.filter_filterMap, List.map_filterMap,
    List.filterMap_eq_flatMap_toList]
  congr 1
  funext layer
  rw [on]
  cases layered.entries.lookup layer with
  | none => rfl
  | some elements => cases elements <;> rfl

theorem isEmpty_iff : layered.isEmpty = true ↔ ∀ layer, layered.on layer = [] := by
  rw [isEmpty, entries_eq_filterMap, List.all_filterMap, List.all_eq_true]
  refine forall_congr' fun layer => ?_
  rw [on]
  cases layered.entries.lookup layer <;> simp [Layer.mem_all]

end Layered

end ChessDiagram
