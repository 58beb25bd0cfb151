import Graft.Toml.Scalar
import Graft.Toml.Table

set_option autoImplicit false

/-!
# Reading TOML

A document is a sequence of lines: a key with its value, the header of a table, or neither. Lists
and tables in braces may stretch over several lines.
-/

namespace Graft.Toml

/-! ## Blanks, comments and lines -/

def skipBlanks (cs : List Char) : List Char := cs.dropWhile Text.isSpaceOrTab

/-- Skip a comment up to the end of its line. -/
def skipComment : List Char → Option (List Char)
  | [] => some []
  | '\n' :: rest => some ('\n' :: rest)
  | '\r' :: '\n' :: rest => some ('\r' :: '\n' :: rest)
  | c :: rest => if isPlain c then skipComment rest else none

/-- Skip a line break, if there is one. -/
def lineBreak? : List Char → Option (List Char)
  | '\n' :: rest => some rest
  | '\r' :: '\n' :: rest => some rest
  | _ => none

/-- Skip blanks, comments and line breaks. -/
def skipVoid : Nat → List Char → Option (List Char)
  | 0, cs => some cs
  | fuel + 1, cs =>
    let cs := skipBlanks cs
    match cs with
    | '#' :: rest => (skipComment rest).bind (skipVoid fuel)
    | _ => match lineBreak? cs with
      | some rest => skipVoid fuel rest
      | none => some cs

/-- Nothing but a comment may follow on the line. -/
def endLine (cs : List Char) : Option (List Char) := do
  let cs ← match skipBlanks cs with
    | '#' :: rest => skipComment rest
    | cs => some cs
  if cs.isEmpty then some [] else lineBreak? cs

/-! ## Keys -/

def isKeyChar (c : Char) : Bool := c.isAlphanum || c == '_' || c == '-'

/-- One part of a key: a word, or a string on one line. -/
def readKey : Reader String
  | '"' :: rest => (readBasic rest).map fun (s, r) => (String.ofList s, r)
  | '\'' :: rest => (readLiteral rest).map fun (s, r) => (String.ofList s, r)
  | cs =>
    let word := cs.takeWhile isKeyChar
    if word.isEmpty then none else some (String.ofList word, cs.dropWhile isKeyChar)

/-- How deep lists and tables may be nested, be it by brackets or by the dots of a key. -/
def depthLimit : Nat := 80

/-- The parts of a key, with dots in between: all parts but the last, and the last. -/
def readParts : Nat → Reader (List String × String)
  | 0, _ => none
  | fuel + 1, cs => do
    let (key, rest) ← readKey (skipBlanks cs)
    let rest := skipBlanks rest
    match rest with
    | '.' :: rest =>
      let ((path, last), rest) ← readParts fuel rest
      return ((key :: path, last), rest)
    | _ => return (([], key), rest)

/-- A key, which may have several parts. -/
def readPath : Reader (List String × String) := fun cs =>
  (readParts cs.length cs).filter fun ((path, _), _) => path.length < depthLimit

/-! ## Values -/

mutual

/-- A value in which brackets may be nested to a depth. -/
def readValue (depth : Nat) : Nat → Reader Data
  | 0, _ => none
  | fuel + 1, cs => match cs, depth with
    | '"' :: _, _ | '\'' :: _, _ => (readString cs).map fun (s, r) => (.text s, r)
    | '[' :: rest, inner + 1 => (readItems inner fuel rest).map fun (items, r) => (.list items, r)
    | '{' :: rest, inner + 1 => (readFields inner fuel [] rest).map fun (fields, r) => (.record (fieldsData fields), r)
    | _, _ => readBare cs

/-- The rest of a list. A comma may stand behind the last item. -/
def readItems (depth : Nat) : Nat → Reader (List Data)
  | 0, _ => none
  | fuel + 1, cs => do
    let cs ← skipVoid cs.length cs
    match cs with
    | ']' :: rest => return ([], rest)
    | _ =>
      let (item, rest) ← readValue depth fuel cs
      let rest ← skipVoid rest.length rest
      match rest with
      | ']' :: rest => return ([item], rest)
      | ',' :: rest =>
        let (items, rest) ← readItems depth fuel rest
        return (item :: items, rest)
      | _ => none

/-- The rest of a table in braces. A comma may stand behind the last field, and lines may end anywhere but
inside a key. -/
def readFields (depth : Nat) : Nat → Fields → Reader Fields
  | 0, _, _ => none
  | fuel + 1, fields, cs => do
    let cs ← skipVoid cs.length cs
    match cs with
    | '}' :: rest => return (fields, rest)
    | _ =>
      let ((path, key), rest) ← readPath cs
      match ← skipVoid rest.length rest with
      | '=' :: rest =>
        let (data, rest) ← readValue depth fuel (← skipVoid rest.length rest)
        let fields ← Fields.put data key path fields
        let rest ← skipVoid rest.length rest
        match rest with
        | '}' :: rest => return (fields, rest)
        | ',' :: rest => readFields depth fuel fields rest
        | _ => none
      | _ => none

end

/-! ## Documents -/

/-- The document so far and the path of the open table. -/
structure Unfinished where
  root : Fields := []
  path : List String := []

/-- Read one line: what it does to the document, and the text behind it. -/
def readLine (d : Unfinished) (cs : List Char) : Option (Unfinished × List Char) :=
  match skipBlanks cs with
  | '[' :: '[' :: rest => do
    let ((path, key), rest) ← readPath rest
    match rest with
    | ']' :: ']' :: rest =>
      return ({ root := ← d.root.change (Fields.openItem key) path, path := path ++ [key] }, ← endLine rest)
    | _ => none
  | '[' :: rest => do
    let ((path, key), rest) ← readPath rest
    match rest with
    | ']' :: rest =>
      return ({ root := ← d.root.change (Fields.openTable key) path, path := path ++ [key] }, ← endLine rest)
    | _ => none
  | cs =>
    if cs.isEmpty || cs.head? == some '#' || (lineBreak? cs).isSome then (endLine cs).map fun rest => (d, rest)
    else do
      let ((path, key), rest) ← readPath cs
      match rest with
      | '=' :: rest =>
        let rest := skipBlanks rest
        let (data, rest) ← readValue depthLimit (rest.length + 1) rest
        return ({ d with root := ← d.root.change (Fields.put data key path) d.path }, ← endLine rest)
      | _ => none

/-- Read all lines. -/
def readLines : Nat → Unfinished → List Char → Option Unfinished
  | 0, d, cs => if cs.isEmpty then some d else none
  | fuel + 1, d, cs =>
    if cs.isEmpty then some d
    else (readLine d cs).bind fun (d, rest) => readLines fuel d rest

/-- Read a document. A byte order mark in front of it is passed over. -/
def read (source : String) : Option Data :=
  let cs := match source.toList with
    | '﻿' :: rest => rest
    | cs => cs
  (readLines cs.length {} cs).map fun d => .record (fieldsData d.root)

end Graft.Toml
