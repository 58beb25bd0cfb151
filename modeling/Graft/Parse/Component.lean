import Graft.Grammar.Tsx
import Graft.Parse.Tree

set_option autoImplicit false

/-!
# Parsing component files

The parser of the grammar of component files, prepared once.
-/

namespace Graft

/-- The parser of component files. -/
def componentParser : Parse.Parser := .ofGrammar Grammar.tsx

/-- A component file with its syntax tree. -/
def parseComponent (source : String) : Document := componentParser.document source

end Graft
