import Graft.Text.CharSet

set_option autoImplicit false

/-!
# Blanks

The characters with the Unicode property White_Space, and cutting them off the ends of a text.
-/

namespace Graft.Text

def blanks : CharSet := ⟨[
    (0x9, 0xD), (0x20, 0x20), (0x85, 0x85), (0xA0, 0xA0), (0x1680, 0x1680), (0x2000, 0x200A),
    (0x2028, 0x2029), (0x202F, 0x202F), (0x205F, 0x205F), (0x3000, 0x3000)]⟩

def isBlank (c : Char) : Bool := blanks.contains c.toNat

def trimStart (cs : List Char) : List Char := cs.dropWhile isBlank

def trimEnd (cs : List Char) : List Char := (cs.reverse.dropWhile isBlank).reverse

def trim (cs : List Char) : List Char := trimEnd (trimStart cs)

/-- Whether a text has nothing but blanks. -/
def isAllBlank (text : String) : Bool := text.toList.all isBlank

end Graft.Text
