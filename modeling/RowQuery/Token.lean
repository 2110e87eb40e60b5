/-
Tokens: the words and marks of an expression.

* `Token`: a word, which remembers whether a part of it was quoted, or a mark;
* `marks`: the characters that are tokens on their own;
* `Token.bareWord?`: only a word without quotes can be a keyword.
-/

namespace RowQuery

/-- A token of an expression. -/
inductive Token
  | word (text : String) (quoted : Bool)
  | mark (c : Char)
deriving DecidableEq, Repr

/-- The characters that end a word and are tokens on their own. -/
def marks : List Char := ['(', ')', '=', '>', '<', '!', ',']

namespace Token

/-- The text of a word no part of which was quoted. -/
def bareWord? : Token → Option String
  | word text false => some text
  | _ => none

/-- Whether a token is the given mark. -/
def isMark : Token → Char → Bool
  | mark c, other => c == other
  | word .., _ => false

end Token

end RowQuery
