import ChessDiagram.Markup

/-!
# Layers

A drawing is made of elements on three layers.  It has an entry for every layer that something was
put on, from the background up, with the elements in the order in which they were added.  Elements
are added in any order of layers, and two drawings are laid one over the other layer by layer.
Rendering gives one group per layer that has elements, from the background up.
-/

namespace ChessDiagram

inductive Layer where
  | background
  | squares
  | pieces
deriving DecidableEq

namespace Layer

/-- The layers from the bottom up. -/
def all : List Layer :=
  [.background, .squares, .pieces]

/-- How many layers lie below. -/
def height : Layer → Nat
  | .background => 0
  | .squares => 1
  | .pieces => 2

def name : Layer → Text
  | .background => "background"
  | .squares => "squares"
  | .pieces => "pieces"

theorem eq_of_height_eq {layer other : Layer} (same : layer.height = other.height) :
    layer = other := by
  revert same
  cases layer <;> cases other <;> decide

end Layer

namespace Layered

/-- Entries of layers from the bottom up, at most one for each layer. -/
def IsAscending (entries : List (Layer × List Markup)) : Prop :=
  entries.Pairwise fun lower upper => lower.1.height < upper.1.height

/-- Puts elements on top of a layer, which gets its entry where it has none yet. -/
def placeOn (layer : Layer) (elements : List Markup) :
    List (Layer × List Markup) → List (Layer × List Markup)
  | [] => [(layer, elements)]
  | (other, placed) :: entries =>
      if layer = other then
        (other, placed ++ elements) :: entries
      else if layer.height < other.height then
        (layer, elements) :: (other, placed) :: entries
      else
        (other, placed) :: placeOn layer elements entries

variable {layer : Layer} {elements : List Markup} {entries : List (Layer × List Markup)}

theorem forall_mem_placeOn (property : Layer → Prop) (own : property layer)
    (others : ∀ entry ∈ entries, property entry.1) :
    ∀ entry ∈ placeOn layer elements entries, property entry.1 := by
  induction entries with
  | nil => exact List.forall_mem_singleton.mpr own
  | cons first entries induction =>
      obtain ⟨lowest, behind⟩ := List.forall_mem_cons.mp others
      unfold placeOn
      split
      · exact List.forall_mem_cons.mpr ⟨lowest, behind⟩
      · split
        · exact List.forall_mem_cons.mpr ⟨own, others⟩
        · exact List.forall_mem_cons.mpr ⟨lowest, induction behind⟩

theorem IsAscending.placeOn (ascending : IsAscending entries) :
    IsAscending (placeOn layer elements entries) := by
  induction entries with
  | nil => exact List.pairwise_singleton _ _
  | cons first entries induction =>
      obtain ⟨above, behind⟩ := List.pairwise_cons.mp ascending
      unfold Layered.placeOn
      split
      case isTrue => exact List.pairwise_cons.mpr ⟨above, behind⟩
      case isFalse different =>
        split
        case isTrue below =>
          have higher : ∀ entry ∈ entries, layer.height < entry.1.height :=
            fun entry member => Nat.lt_trans below (above entry member)
          exact List.pairwise_cons.mpr ⟨List.forall_mem_cons.mpr ⟨below, higher⟩, ascending⟩
        case isFalse notBelow =>
          have distinct : layer.height ≠ first.1.height :=
            fun same => different (Layer.eq_of_height_eq same)
          have higher : first.1.height < layer.height := by omega
          refine List.pairwise_cons.mpr ⟨?_, induction behind⟩
          exact forall_mem_placeOn (first.1.height < ·.height) higher above

end Layered

/-- The elements of a drawing by layers. -/
structure Layered where
  entries : List (Layer × List Markup)
  ascending : Layered.IsAscending entries

namespace Layered

def empty : Layered where
  entries := []
  ascending := .nil

def extend (layered : Layered) (layer : Layer) (elements : List Markup) : Layered where
  entries := placeOn layer elements layered.entries
  ascending := layered.ascending.placeOn

def add (layered : Layered) (layer : Layer) (element : Markup) : Layered :=
  layered.extend layer [element]

/-- Lays the elements of the second drawing over those of the first. -/
def merge (lower upper : Layered) : Layered :=
  upper.entries.foldl (fun drawing (layer, elements) => drawing.extend layer elements) lower

def on (layered : Layered) (layer : Layer) : List Markup :=
  (layered.entries.lookup layer).getD []

def count (layered : Layered) (layer : Layer) : Nat :=
  (layered.on layer).length

def isEmpty (layered : Layered) : Bool :=
  layered.entries.all fun (_, elements) => elements.isEmpty

/-- The group that shows the elements of a layer. -/
def layerGroup (layer : Layer) (elements : List Markup) : Markup :=
  .node "g" [("data-layer", layer.name)] elements

def render (layered : Layered) : List Markup :=
  (layered.entries.filter fun (_, elements) => !elements.isEmpty).map fun (layer, elements) =>
    layerGroup layer elements

end Layered

end ChessDiagram
