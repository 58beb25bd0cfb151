import Graft.CodePattern.Cache
import Graft.Parse.Component

set_option autoImplicit false

/-!
# The languages of patterns

A pattern is read with the grammar of its language: that of component files, or that of plain script
files.
-/

namespace Graft

/-- The parser of plain script files. -/
def scriptParser : Parse.Parser := .ofGrammar Grammar.typescript

namespace PatternLanguage

/-- Read a text in a language. -/
def parse (language : PatternLanguage) (text : String) : Document :=
  match language with
  | tsx => parseComponent text
  | typescript => scriptParser.document text

/-- Compile a pattern of a language. -/
def compile (language : PatternLanguage) (text : String) : Except PatternError CodePattern :=
  CodePattern.compile language.parse text

end PatternLanguage

end Graft
