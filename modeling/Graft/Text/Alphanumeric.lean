import Graft.Text.Property

set_option autoImplicit false

/-!
# Letters and digits

What counts as a letter or as a number in names. Names follow edition 17 of the Unicode standard, which
has some characters more than the tables of properties.
-/

namespace Graft.Text

/-- Characters with the property Alphabetic. -/
def nameLetters : CharSet := alphabetic.union <| .unpack
    "dgHAblJAeWAcgrOBBAAAbBAbkwBZcbICbXBerZHwLbRbepFYBYkZEjcIHbxOVdSeKbhqIbEAVHBdawFFiwFLbgeZgjH"

/-- Characters of the general category Number. -/
def nameNumbers : CharSet := (inCategories ["Nd", "Nl", "No"]).union <| .unpack "eegUJbfbTC"

def isAlphabetic (c : Char) : Bool := if c.toNat < 0x80 then c.isAlpha else nameLetters.contains c.toNat

def isAlphanumeric (c : Char) : Bool :=
  if c.toNat < 0x80 then c.isAlphanum else nameLetters.contains c.toNat || nameNumbers.contains c.toNat

end Graft.Text
