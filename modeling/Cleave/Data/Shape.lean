import Cleave.Data.Value

/-!
# Shapes

A shape says of which type a value has to be. Formats that leave the type of a scalar open are read against a
shape: it decides what the scalar stands for.
-/

namespace Cleave

/-- The type of a value. -/
inductive Shape
  | string
  | bool
  | nat
  /-- One of several names. -/
  | choice
  /-- A value that may be absent. -/
  | optional (shape : Shape)
  | list (item : Shape)
  /-- Values of one shape under any keys. -/
  | dictionary (value : Shape)
  /-- Fields with their names. -/
  | record (fields : List (String × Shape))
  deriving Repr

end Cleave
