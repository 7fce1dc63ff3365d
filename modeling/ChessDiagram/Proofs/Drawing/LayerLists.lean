import ChessDiagram.Proofs.Drawing.Layers

/-!
# Layers as three lists

A drawing behaves as three lists of elements, one for each layer.  Both are kinds of drawings with
the same operations; a session works on a pile of drawings of one kind and collects what rendering
and asking yield.  The view of a drawing as lists commutes with every operation, therefore with
every session.  What has been added to a layer in a session is on the drawings that are left or in
the groups of its layer that have been rendered, every element as often as it was added.
-/

namespace ChessDiagram

theorem Layer.eq_of_name_eq {layer other : Layer} (same : layer.name = other.name) :
    layer = other := by
  revert same
  cases layer <;> cases other <;> decide

/-- Drawings of some representation with their operations. -/
structure DrawingKind (Drawing : Type) where
  empty : Drawing
  add : Drawing → Layer → Markup → Drawing
  merge : Drawing → Drawing → Drawing
  render : Drawing → List Markup
  count : Drawing → Layer → Nat
  isEmpty : Drawing → Bool

/-- A view of drawings of one kind as drawings of another that commutes with all operations. -/
structure DrawingKind.Views {Source Target : Type} (source : DrawingKind Source)
    (target : DrawingKind Target) (view : Source → Target) : Prop where
  empty : view source.empty = target.empty
  add : ∀ drawing layer element,
    view (source.add drawing layer element) = target.add (view drawing) layer element
  merge : ∀ lower upper,
    view (source.merge lower upper) = target.merge (view lower) (view upper)
  render : ∀ drawing, source.render drawing = target.render (view drawing)
  count : ∀ drawing layer, source.count drawing layer = target.count (view drawing) layer
  isEmpty : ∀ drawing, source.isEmpty drawing = target.isEmpty (view drawing)

/-- The elements of a drawing, with one list for every layer. -/
structure LayerLists where
  background : List Markup
  squares : List Markup
  pieces : List Markup

namespace LayerLists

def empty : LayerLists where
  background := []
  squares := []
  pieces := []

def add (lists : LayerLists) : Layer → Markup → LayerLists
  | .background, element => { lists with background := lists.background ++ [element] }
  | .squares, element => { lists with squares := lists.squares ++ [element] }
  | .pieces, element => { lists with pieces := lists.pieces ++ [element] }

def merge (lower upper : LayerLists) : LayerLists where
  background := lower.background ++ upper.background
  squares := lower.squares ++ upper.squares
  pieces := lower.pieces ++ upper.pieces

/-- A group with a name, unless there is nothing to show in it. -/
def group (name : Text) (elements : List Markup) : List Markup :=
  if elements = [] then [] else [.node "g" [("data-layer", name)] elements]

def render (lists : LayerLists) : List Markup :=
  group "background" lists.background ++ group "squares" lists.squares
    ++ group "pieces" lists.pieces

def count (lists : LayerLists) : Layer → Nat
  | .background => lists.background.length
  | .squares => lists.squares.length
  | .pieces => lists.pieces.length

def isEmpty (lists : LayerLists) : Bool :=
  lists.background.isEmpty && lists.squares.isEmpty && lists.pieces.isEmpty

def kind : DrawingKind LayerLists where
  empty := empty
  add := add
  merge := merge
  render := render
  count := count
  isEmpty := isEmpty

end LayerLists

namespace Layered

def kind : DrawingKind Layered where
  empty := empty
  add := add
  merge := merge
  render := render
  count := count
  isEmpty := isEmpty

def lists (layered : Layered) : LayerLists where
  background := layered.on .background
  squares := layered.on .squares
  pieces := layered.on .pieces

theorem lists_add (layered : Layered) (layer : Layer) (element : Markup) :
    (layered.add layer element).lists = layered.lists.add layer element := by
  cases layer <;> simp [lists, LayerLists.add]

theorem lists_merge (lower upper : Layered) :
    (lower.merge upper).lists = lower.lists.merge upper.lists := by
  simp [lists, LayerLists.merge]

theorem render_eq_lists (layered : Layered) : layered.render = layered.lists.render := by
  rw [render_eq_flatMap, Layer.all, List.flatMap_cons, List.flatMap_cons, List.flatMap_singleton,
    ← List.append_assoc]
  rfl

theorem count_eq_lists (layered : Layered) (layer : Layer) :
    layered.count layer = layered.lists.count layer := by
  cases layer <;> rfl

theorem isEmpty_eq_lists (layered : Layered) : layered.isEmpty = layered.lists.isEmpty := by
  rw [Bool.eq_iff_iff, isEmpty_iff]
  constructor
  · intro nothing
    simp [LayerLists.isEmpty, lists, nothing]
  · intro nothing layer
    simp only [LayerLists.isEmpty, lists, Bool.and_eq_true, List.isEmpty_iff] at nothing
    obtain ⟨⟨background, squares⟩, pieces⟩ := nothing
    cases layer with
    | background => exact background
    | squares => exact squares
    | pieces => exact pieces

theorem views_lists : kind.Views LayerLists.kind lists where
  empty := rfl
  add := lists_add
  merge := lists_merge
  render := render_eq_lists
  count := count_eq_lists
  isEmpty := isEmpty_eq_lists

/-- The elements that rendered groups show on a layer. -/
def shownOn (layer : Layer) (groups : List Markup) : List Markup :=
  groups.flatMap fun group =>
    if group.attribute? "data-layer" = some layer.name then group.children else []

theorem shownOn_append (layer : Layer) (groups others : List Markup) :
    shownOn layer (groups ++ others) = shownOn layer groups ++ shownOn layer others :=
  List.flatMap_append

theorem shownOn_layerGroup (layer other : Layer) (elements : List Markup) :
    shownOn layer [layerGroup other elements] = if other = layer then elements else [] := by
  have named : (layerGroup other elements).attribute? "data-layer" = some other.name := rfl
  rw [shownOn, List.flatMap_singleton, named]
  by_cases same : other = layer
  · rw [if_pos (congrArg some (congrArg Layer.name same)), if_pos same]
    rfl
  · rw [if_neg fun names => same (Layer.eq_of_name_eq (Option.some.inj names)), if_neg same]

/-- Rendering shows the elements of every layer in the group of that layer. -/
theorem shownOn_render (layered : Layered) (layer : Layer) :
    shownOn layer layered.render = layered.on layer := by
  have each : ∀ other, shownOn layer
      (if layered.on other = [] then [] else [layerGroup other (layered.on other)]) =
        if other = layer then layered.on other else [] := by
    intro other
    by_cases nothing : layered.on other = []
    · rw [if_pos nothing, nothing, ite_self]
      rfl
    · rw [if_neg nothing, shownOn_layerGroup]
  rw [render_eq_flatMap, Layer.all, List.flatMap_cons, List.flatMap_cons, List.flatMap_singleton,
    shownOn_append, shownOn_append, each, each, each]
  cases layer <;> simp

end Layered

/-- What is done in a session: drawings are started, changed, merged, rendered and asked. -/
inductive Operation where
  | start
  | add (layer : Layer) (element : Markup)
  | merge
  | render
  | count (layer : Layer)
  | isEmpty

/-- How many drawings an operation takes from the pile. -/
def Operation.needs : Operation → Nat
  | .start => 0
  | .merge => 2
  | _ => 1

inductive Reply where
  | groups (groups : List Markup)
  | count (number : Nat)
  | isEmpty (answer : Bool)

/-- A pile of drawings, from the top down, and the replies so far. -/
structure Session (Drawing : Type) where
  drawings : List Drawing
  replies : List Reply

namespace Session

variable {Drawing : Type}

def new : Session Drawing where
  drawings := []
  replies := []

/-- An operation works on the drawings on top, where there are as many as it needs.  A drawing that
is merged or rendered leaves the pile. -/
def step (kind : DrawingKind Drawing) : Session Drawing → Operation → Option (Session Drawing)
  | ⟨drawings, replies⟩, .start => some ⟨kind.empty :: drawings, replies⟩
  | ⟨top :: below, replies⟩, .add layer element =>
      some ⟨kind.add top layer element :: below, replies⟩
  | ⟨upper :: lower :: below, replies⟩, .merge => some ⟨kind.merge lower upper :: below, replies⟩
  | ⟨top :: below, replies⟩, .render => some ⟨below, replies ++ [.groups (kind.render top)]⟩
  | ⟨top :: below, replies⟩, .count layer =>
      some ⟨top :: below, replies ++ [.count (kind.count top layer)]⟩
  | ⟨top :: below, replies⟩, .isEmpty =>
      some ⟨top :: below, replies ++ [.isEmpty (kind.isEmpty top)]⟩
  | _, _ => none

theorem isSome_step_iff (kind : DrawingKind Drawing) (session : Session Drawing)
    (operation : Operation) :
    (step kind session operation).isSome = true ↔
      operation.needs ≤ session.drawings.length := by
  obtain ⟨drawings, replies⟩ := session
  cases operation with
  | start => simp [step, Operation.needs]
  | merge =>
      cases drawings with
      | nil => simp [step, Operation.needs]
      | cons upper drawings => cases drawings <;> simp [step, Operation.needs]
  | add | render | count | isEmpty => cases drawings <;> simp [step, Operation.needs]

def run (kind : DrawingKind Drawing) (operations : List Operation) (session : Session Drawing) :
    Option (Session Drawing) :=
  operations.foldlM (step kind) session

theorem run_cons (kind : DrawingKind Drawing) (operation : Operation)
    (operations : List Operation) (session : Session Drawing) :
    run kind (operation :: operations) session =
      (step kind session operation).bind (run kind operations) :=
  rfl

section Views

variable {Source Target : Type} {source : DrawingKind Source} {target : DrawingKind Target}
  {view : Source → Target}

def map (view : Source → Target) (session : Session Source) : Session Target where
  drawings := session.drawings.map view
  replies := session.replies

/-- One operation commutes with a view, and stops on both sides or on none. -/
theorem step_map (views : source.Views target view) (session : Session Source)
    (operation : Operation) :
    step target (session.map view) operation = (step source session operation).map (map view) := by
  obtain ⟨drawings, replies⟩ := session
  cases operation with
  | start => simp [step, map, views.empty]
  | add layer element =>
      cases drawings with
      | nil => rfl
      | cons top below => simp [step, map, views.add]
  | merge =>
      cases drawings with
      | nil => rfl
      | cons upper drawings =>
          cases drawings with
          | nil => rfl
          | cons lower below => simp [step, map, views.merge]
  | render =>
      cases drawings with
      | nil => rfl
      | cons top below => simp [step, map, views.render]
  | count layer =>
      cases drawings with
      | nil => rfl
      | cons top below => simp [step, map, views.count]
  | isEmpty =>
      cases drawings with
      | nil => rfl
      | cons top below => simp [step, map, views.isEmpty]

theorem run_map (views : source.Views target view) (operations : List Operation)
    (session : Session Source) :
    run target operations (session.map view) = (run source operations session).map (map view) := by
  induction operations generalizing session with
  | nil => rfl
  | cons operation operations induction =>
      rw [run_cons, run_cons, step_map views]
      cases step source session operation with
      | none => rfl
      | some next => exact induction next

end Views

end Session

def Operation.addedOn (layer : Layer) : Operation → List Markup
  | .add place element => if place = layer then [element] else []
  | _ => []

def Reply.shownOn (layer : Layer) : Reply → List Markup
  | .groups shown => Layered.shownOn layer shown
  | _ => []

namespace Session

/-- The elements of a layer in a session, those that are shown and those on its drawings. -/
def elementsOn (layer : Layer) (session : Session Layered) : List Markup :=
  session.replies.flatMap (Reply.shownOn layer) ++ session.drawings.flatMap (Layered.on · layer)

/-- What one operation adds to a layer comes on top of what is there; everything else only moves
between the drawings and the groups that are shown. -/
theorem elementsOn_step {session next : Session Layered} {operation : Operation}
    (stepped : step Layered.kind session operation = some next) (layer : Layer) :
    (next.elementsOn layer).Perm (session.elementsOn layer ++ operation.addedOn layer) := by
  obtain ⟨drawings, replies⟩ := session
  cases operation with
  | start =>
      cases stepped
      simp [elementsOn, Operation.addedOn, Layered.kind]
  | add place element =>
      cases drawings with
      | nil => cases stepped
      | cons top below =>
          cases stepped
          simp only [elementsOn, Operation.addedOn, Layered.kind, List.flatMap_cons,
            Layered.on_add, List.append_assoc]
          exact ((List.perm_append_comm).append_left _).append_left _
  | merge =>
      cases drawings with
      | nil => cases stepped
      | cons upper drawings =>
          cases drawings with
          | nil => cases stepped
          | cons lower below =>
              cases stepped
              simp only [elementsOn, Operation.addedOn, Layered.kind, List.flatMap_cons,
                Layered.on_merge, List.append_nil, ← List.append_assoc]
              rw [List.append_assoc _ (lower.on layer), List.append_assoc _ (upper.on layer)]
              exact ((List.perm_append_comm).append_left _).append_right _
  | render =>
      cases drawings with
      | nil => cases stepped
      | cons top below =>
          cases stepped
          simp [elementsOn, Operation.addedOn, Layered.kind, Reply.shownOn, Layered.shownOn_render]
  | count place =>
      cases drawings with
      | nil => cases stepped
      | cons top below =>
          cases stepped
          simp [elementsOn, Operation.addedOn, Reply.shownOn]
  | isEmpty =>
      cases drawings with
      | nil => cases stepped
      | cons top below =>
          cases stepped
          simp [elementsOn, Operation.addedOn, Reply.shownOn]

theorem elementsOn_run {operations : List Operation} {session last : Session Layered}
    (ran : run Layered.kind operations session = some last) (layer : Layer) :
    (last.elementsOn layer).Perm
      (session.elementsOn layer ++ operations.flatMap (Operation.addedOn layer)) := by
  induction operations generalizing session with
  | nil =>
      cases ran
      rw [List.flatMap_nil, List.append_nil]
  | cons operation operations induction =>
      rw [run_cons, Option.bind_eq_some_iff] at ran
      obtain ⟨next, stepped, rest⟩ := ran
      calc
        (last.elementsOn layer).Perm
            (next.elementsOn layer ++ operations.flatMap (Operation.addedOn layer)) :=
          induction rest
        _ |>.Perm ((session.elementsOn layer ++ operation.addedOn layer)
              ++ operations.flatMap (Operation.addedOn layer)) :=
          (elementsOn_step stepped layer).append_right _
        _ = session.elementsOn layer ++ (operation :: operations).flatMap
              (Operation.addedOn layer) := by
          rw [List.flatMap_cons, List.append_assoc]

/-- Sessions cannot tell drawings from three lists, and lose, double or move no element.  They stop
only where the pile has too few drawings. -/
theorem layered_as_lists :
    Layered.kind.Views LayerLists.kind Layered.lists ∧
    (∀ operations, run LayerLists.kind operations new =
      (run Layered.kind operations new).map (map Layered.lists)) ∧
    (∀ (session : Session Layered) operation,
      (step Layered.kind session operation).isSome = true ↔
        operation.needs ≤ session.drawings.length) ∧
    (∀ operations last, run Layered.kind operations new = some last →
      ∀ layer, (last.elementsOn layer).Perm (operations.flatMap (Operation.addedOn layer))) ∧
    (∀ first second third : Layered,
      (first.merge second).merge third = first.merge (second.merge third)) ∧
    (∀ layered : Layered,
      Layered.empty.merge layered = layered ∧ layered.merge Layered.empty = layered) ∧
    ∀ (lower upper : Layered) (layer : Layer),
      Layered.shownOn layer (lower.merge upper).render =
        Layered.shownOn layer lower.render ++ Layered.shownOn layer upper.render := by
  refine ⟨Layered.views_lists, ?refinement, isSome_step_iff Layered.kind, ?conservation,
    Layered.merge_assoc, ?identity, ?order⟩
  case refinement =>
    intro operations
    exact run_map Layered.views_lists operations new
  case conservation =>
    intro operations last ran layer
    exact elementsOn_run ran layer
  case identity =>
    intro layered
    exact ⟨layered.empty_merge, layered.merge_empty⟩
  case order =>
    intro lower upper layer
    simp only [Layered.shownOn_render, Layered.on_merge]

/-- A knight under a rook and a square that is added last, on two drawings. -/
theorem layered_as_lists_merged :
    let knight : Markup := .node "use" [("href", "#knight")] []
    let rook : Markup := .node "use" [("href", "#rook")] []
    let square : Markup := .node "rect" [] []
    let operations : List Operation :=
      [.start, .add .pieces knight, .start, .add .pieces rook, .add .background square, .merge,
        .count .pieces, .isEmpty, .render]
    let last : Session Layered :=
      { drawings := []
        replies :=
          [.count 2, .isEmpty false,
            .groups
              [.node "g" [("data-layer", "background")] [square],
                .node "g" [("data-layer", "pieces")] [knight, rook]]] }
    run Layered.kind operations new = some last ∧
      ∀ layer, (last.elementsOn layer).Perm (operations.flatMap (Operation.addedOn layer)) :=
  ⟨rfl, layered_as_lists.2.2.2.1 _ _ rfl⟩

end Session

end ChessDiagram
