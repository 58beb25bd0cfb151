import Graft.Data

set_option autoImplicit false

/-!
# Writing JSON

Data in JSON without any blanks. The fields of records come in the order of their names.
-/

namespace Graft

namespace Json

def hexDigit (n : Nat) : Char := (Nat.toDigits 16 n).headD '0'

/-- A character inside a string: quotes, backslashes and control characters are escaped. -/
def escapeChar (c : Char) : List Char :=
  match c with
  | '"' => ['\\', '"']
  | '\\' => ['\\', '\\']
  | '\n' => ['\\', 'n']
  | '\r' => ['\\', 'r']
  | '\t' => ['\\', 't']
  | '\x08' => ['\\', 'b']
  | '\x0c' => ['\\', 'f']
  | c => if c < ' ' then ['\\', 'u', '0', '0', hexDigit (c.toNat / 16), hexDigit (c.toNat % 16)] else [c]

def quote (text : String) : String := String.ofList ('"' :: text.toList.flatMap escapeChar ++ ['"'])

end Json

namespace Data

mutual

def toJson : Data → String
  | null => "null"
  | bool true => "true"
  | bool false => "false"
  | number digits => digits
  | text value => Json.quote value
  | moment written => Json.quote written
  | list items => "[" ++ ",".intercalate (toJsonItems items) ++ "]"
  | record fields =>
    let written := (toJsonFields fields).mergeSort fun a b => a.1 ≤ b.1
    "\x7b" ++ ",".intercalate (written.map fun (name, value) => Json.quote name ++ ":" ++ value) ++ "\x7d"

def toJsonItems : List Data → List String
  | [] => []
  | d :: ds => d.toJson :: toJsonItems ds

def toJsonFields : List (String × Data) → List (String × String)
  | [] => []
  | (name, d) :: rest => (name, d.toJson) :: toJsonFields rest

end

end Data

end Graft
