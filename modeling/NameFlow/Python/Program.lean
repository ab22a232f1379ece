import NameFlow.Python.Grammar.Statement

/-!
# Programs

From a source text to its statements.
-/

namespace NameFlow.Python

set_option autoImplicit false

/-- The characters of a text; a byte order mark at its start is passed over. -/
def characters (text : String) : List Located :=
  match locate 0 text.toList with
  | c :: cs => if c.char = '\ufeff' then cs else c :: cs
  | [] => []

/-- Parses a text whose places are told by the given line starts. -/
def parseWith (lines : LineStarts) (text : String) : Except SyntaxError (List Stmt) := do
  let tokens ← tokenize (characters text) text.utf8ByteSize
  let (body, _) ← Grammar.program ⟨lines, text.length + 2⟩ tokens
  return body

def parse (text : String) : Except SyntaxError (List Stmt) := parseWith (.ofText text) text

end NameFlow.Python
