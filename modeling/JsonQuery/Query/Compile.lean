import JsonQuery.Parser
import JsonQuery.Token.Lexer

/-! # From text to queries -/

namespace JsonQuery.Query

/-- The query a text stands for, or the report on why it is none. -/
def compile (source : String) : Except Diagnostic Query :=
  match Token.ofQuery source with
  | .ok tokens => ofTokens source tokens
  | .error diagnostic => .error diagnostic

end JsonQuery.Query
