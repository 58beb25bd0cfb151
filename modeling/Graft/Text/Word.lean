import Graft.Text.Property

set_option autoImplicit false

/-!
# Characters of words

Words are made of letters and what behaves like them, of decimal digits, and of the marks and connectors
that may stand between them.
-/

namespace Graft.Text

/-- All characters of words. -/
def wordChars : CharSet :=
  CharSet.unionAll [alphabetic, marks, decimals, inCategories ["Pc"], joinControls]

/-- The characters of words in ASCII. -/
def asciiWordChars : CharSet :=
  CharSet.unionAll [.between '0' '9', .between 'A' 'Z', .single '_', .between 'a' 'z']

end Graft.Text
