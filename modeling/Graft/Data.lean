set_option autoImplicit false

/-!
# Data

What notations for data have in common: scalars, lists, and records with named fields in the order
they are written in.
-/

namespace Graft

inductive Data where
  | null
  | bool (value : Bool)
  /-- A number as it is written. -/
  | number (digits : String)
  | text (value : String)
  /-- A date, a time or both, as it is written. -/
  | moment (written : String)
  | list (items : List Data)
  | record (fields : List (String × Data))
  deriving Inhabited, Repr

end Graft
