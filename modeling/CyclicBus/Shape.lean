/-!
# Shapes of configuration trees

What is looked for in a tree. A text format whose scalars carry no types is read by a shape: the
same word may be a text in one place, a number in another, and in a third be skipped unread.
-/

namespace CyclicBus

/-- What is looked for at a place of a tree. -/
inductive Shape where
  | text
  | flag
  | natural
  | word
  | nullable (shape : Shape)
  | listOf (item : Shape)
  /-- A table with known fields. The values of other fields are skipped. -/
  | record (fields : List (String × Shape))
  /-- A table, or a list, in which one text says what the other parts mean: in a table the value of
  the field with this name, in a list the first item. -/
  | kinded (kindField : String)
  | any
  | key
  deriving Inhabited

namespace Shape

/-- The shape of what is not null. -/
def present : Shape → Shape
  | nullable shape => shape.present
  | shape => shape

end Shape

end CyclicBus
