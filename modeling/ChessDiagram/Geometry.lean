/-!
# Points and sizes

Plane geometry over any numbers, so that a drawing computed with rounded numbers and its exact
reading are one definition.
-/

namespace ChessDiagram

structure Point (α : Type) where
  x : α
  y : α
deriving DecidableEq

structure Size (α : Type) where
  width : α
  height : α
deriving DecidableEq

namespace Point

instance [Add α] : Add (Point α) where
  add left right := { x := left.x + right.x, y := left.y + right.y }

end Point

namespace Size

def scale [Mul α] (size : Size α) (factor : α) : Size α :=
  { width := size.width * factor, height := size.height * factor }

end Size

end ChessDiagram
