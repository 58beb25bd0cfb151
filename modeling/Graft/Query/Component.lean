import Graft.Parse.Component
import Graft.Query.Schema

set_option autoImplicit false

/-!
# The schema of component files
-/

namespace Graft

/-- What the trees of component files look like. -/
def componentSchema : Query.Schema := .ofSyntax componentParser.language.grammar

end Graft
