set_option autoImplicit false

/-!
# Source text

A text is read character by character, while places in it are told in bytes and lines. A source
keeps the characters with the byte offset and the line of each, so that a place is one number:
how many characters come before it.
-/

namespace Graft

/-- A text prepared for reading. -/
structure Source where
  text : String
  chars : Array Char
  /-- The byte offset of every character, and of the end. -/
  offsets : Array Nat
  /-- The line of every character, and of the end. -/
  rows : Array Nat
  deriving Inhabited

namespace Source

def ofString (text : String) : Source :=
  let chars := text.toList.toArray
  let (offsets, rows, offset, row) := chars.foldl (fun (offsets, rows, offset, row) c =>
      (offsets.push offset, rows.push row, offset + c.utf8Size, if c == '\n' then row + 1 else row))
    (Array.emptyWithCapacity (chars.size + 1), Array.emptyWithCapacity (chars.size + 1), 0, 0)
  { text, chars, offsets := offsets.push offset, rows := rows.push row }

def size (s : Source) : Nat := s.chars.size

/-- The character at a place; none at the end. -/
def get? (s : Source) (i : Nat) : Option Char := s.chars[i]?

/-- The byte offset of a place. -/
def offset (s : Source) (i : Nat) : Nat := s.offsets.getD i 0

/-- The line of a place. -/
def row (s : Source) (i : Nat) : Nat := s.rows.getD i 0

/-- The number of bytes between two places. -/
def bytes (s : Source) (start stop : Nat) : Nat := s.offset stop - s.offset start

/-- The number of line breaks between two places. -/
def breaks (s : Source) (start stop : Nat) : Nat := s.row stop - s.row start

end Source

end Graft
