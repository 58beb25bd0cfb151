import Graft.Data

set_option autoImplicit false

/-!
# Tables of TOML

A document fills its tables piece by piece: a header opens a table, a dotted key reaches into one,
and a repeated header in double brackets adds to a list of tables. A table may be opened only once,
and what has a value cannot be reached into. This module keeps track of how each table came about.
-/

namespace Graft.Toml

/-- What a key stands for while the document is read. -/
inductive Entry where
  /-- A value, which is complete. -/
  | value (data : Data)
  /-- A table. It is implicit as long as it has only been passed through, and dotted if dotted keys
  made it. -/
  | table (implicit dotted : Bool) (fields : List (String × Entry))
  /-- A list of tables, the last of which is open. -/
  | tables (closed : List (List (String × Entry))) (last : List (String × Entry))
  deriving Inhabited

abbrev Fields := List (String × Entry)

namespace Fields

def replace (fields : Fields) (key : String) (e : Entry) : Fields :=
  fields.map fun (k, old) => if k == key then (k, e) else (k, old)

/-- Set a key, possibly a dotted one, of which `path` is all but the last part. -/
def put (data : Data) (key : String) : List String → Fields → Option Fields
  | [], fields => match fields.lookup key with
    | some _ => none
    | none => some (fields ++ [(key, .value data)])
  | k :: rest, fields => match fields.lookup k with
    | none => do return fields ++ [(k, .table true true (← put data key rest []))]
    | some (.table implicit dotted inner) =>
      if !implicit || (rest.isEmpty && !dotted) then none
      else do return replace fields k (.table implicit dotted (← put data key rest inner))
    | some (.tables closed last) =>
      if rest.isEmpty then none else do return replace fields k (.tables closed (← put data key rest last))
    | some (.value _) => none

/-- Change the table at a path; tables on the way that are missing are made. -/
def change (f : Fields → Option Fields) : List String → Fields → Option Fields
  | [], fields => f fields
  | k :: rest, fields => match fields.lookup k with
    | none => do return fields ++ [(k, .table true false (← change f rest []))]
    | some (.table implicit dotted inner) => do return replace fields k (.table implicit dotted (← change f rest inner))
    | some (.tables closed last) => do return replace fields k (.tables closed (← change f rest last))
    | some (.value _) => none

/-- Open a table. -/
def openTable (key : String) (fields : Fields) : Option Fields :=
  match fields.lookup key with
  | none => some (fields ++ [(key, .table false false [])])
  | some (.table true false inner) => some (replace fields key (.table false false inner))
  | some _ => none

/-- Add a table to a list of tables. -/
def openItem (key : String) (fields : Fields) : Option Fields :=
  match fields.lookup key with
  | none => some (fields ++ [(key, .tables [] [])])
  | some (.tables closed last) => some (replace fields key (.tables (closed ++ [last]) []))
  | some _ => none

end Fields

mutual

/-- The data that an entry holds. -/
def Entry.data : Entry → Data
  | .value d => d
  | .table _ _ fields => .record (fieldsData fields)
  | .tables closed last => .list (itemsData closed ++ [.record (fieldsData last)])

def fieldsData : List (String × Entry) → List (String × Data)
  | [] => []
  | (key, e) :: rest => (key, e.data) :: fieldsData rest

def itemsData : List (List (String × Entry)) → List Data
  | [] => []
  | fields :: rest => .record (fieldsData fields) :: itemsData rest

end

end Graft.Toml
