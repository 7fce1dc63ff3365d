import ChessDiagram.Markup

/-!
# The texts of markup

A tree is written from its names, keys, values and inline texts.  What holds of the texts that an
element is given with holds of the texts that it keeps: its attributes are put in order, and that
brings no other text in.
-/

namespace ChessDiagram.Markup

variable {named valued : Text → Prop}

/-- Keys of attributes have one property, and their values have another. -/
def PairsHave (named valued : Text → Prop) (attributes : List (Text × Text)) : Prop :=
  ∀ pair ∈ attributes, named pair.1 ∧ valued pair.2

@[simp] theorem pairsHave_nil : PairsHave named valued [] := by
  simp [PairsHave]

@[simp] theorem pairsHave_cons {key value : Text} {rest : List (Text × Text)} :
    PairsHave named valued ((key, value) :: rest) ↔
      (named key ∧ valued value) ∧ PairsHave named valued rest :=
  List.forall_mem_cons

@[simp] theorem pairsHave_append {front back : List (Text × Text)} :
    PairsHave named valued (front ++ back) ↔
      PairsHave named valued front ∧ PairsHave named valued back :=
  List.forall_mem_append

/-- Names, keys and inline texts of the markup have one property, and its values have another. -/
inductive TextsHave (named valued : Text → Prop) : Markup → Prop where
  | element {name : Text} {attributes : List (Text × Text)} {children : List Markup} :
      named name →
      PairsHave named valued attributes →
      (∀ child ∈ children, TextsHave named valued child) →
      TextsHave named valued (.element name attributes children)
  | inline {name : Text} {attributes : List (Text × Text)} {content : Text} :
      named name →
      PairsHave named valued attributes →
      named content →
      TextsHave named valued (.inline name attributes content)

theorem mem_of_mem_insertAttribute {pair : Text × Text} {key value : Text}
    {attributes : List (Text × Text)}
    (member : pair ∈ insertAttribute key value attributes) :
    pair = (key, value) ∨ pair ∈ attributes := by
  induction attributes with
  | nil => simpa [insertAttribute] using member
  | cons first rest induction =>
      obtain ⟨present, old⟩ := first
      simp only [insertAttribute] at member
      split at member
      · rcases List.mem_cons.mp member with new | later
        · exact .inl new
        · exact .inr (List.mem_cons_of_mem _ later)
      · split at member
        · rcases List.mem_cons.mp member with new | later
          · exact .inl new
          · exact .inr later
        · rcases List.mem_cons.mp member with same | later
          · exact .inr (same ▸ List.mem_cons_self)
          · rcases induction later with new | old
            · exact .inl new
            · exact .inr (List.mem_cons_of_mem _ old)

theorem mem_of_mem_orderAttributes {pair : Text × Text} {attributes : List (Text × Text)}
    (member : pair ∈ orderAttributes attributes) : pair ∈ attributes := by
  have folded (ordered : List (Text × Text))
      (among : pair ∈ attributes.foldl
        (fun ordered entry => insertAttribute entry.1 entry.2 ordered) ordered) :
      pair ∈ ordered ∨ pair ∈ attributes := by
    clear member
    induction attributes generalizing ordered with
    | nil => exact .inl among
    | cons first rest induction =>
        rcases induction _ among with early | late
        · rcases mem_of_mem_insertAttribute early with new | old
          · exact .inr (new ▸ List.mem_cons_self)
          · exact .inl old
        · exact .inr (List.mem_cons_of_mem _ late)
  rcases folded [] member with none | found
  · cases none
  · exact found

/-- An element with attributes given in any order. -/
theorem TextsHave.node {name : Text} {attributes : List (Text × Text)} {children : List Markup}
    (nameHas : named name)
    (pairsHave : PairsHave named valued attributes)
    (childrenHave : ∀ child ∈ children, TextsHave named valued child) :
    TextsHave named valued (.node name attributes children) :=
  .element nameHas (fun pair member => pairsHave pair (mem_of_mem_orderAttributes member))
    childrenHave

end ChessDiagram.Markup
