/-
Conditions from tokens.

Connectives combine from the left within one pair of parentheses; there is no precedence. A
parenthesis may be left open at the end, and one that closes nothing ends the condition.

* `Level`: the clauses of one pair of parentheses;
* `Level.read`: reads tokens with the levels around the innermost one on a stack;
* `Condition.ofTokens`: keeps operators that spell no relation;
* `Condition.ofTokensResolved`: refuses them.
-/
import RowQuery.Clause
import RowQuery.Token.Scan

namespace RowQuery

/-- What has been read between two parentheses: the clauses joined so far, and the one after
the last connective. -/
structure Level where
  joined : Clause
  current : Clause
deriving DecidableEq, Repr

namespace Level

/-- Nothing has been read after the parenthesis. -/
def start : Level := ⟨.new, .new⟩

/-- Neither clause is higher than the limit. -/
def checked (level : Level) : Except ParseError Level :=
  if level.joined.height > maxDepth || level.current.height > maxDepth then .error .tooDeep
  else .ok level

/-- All of a level as one clause. -/
def closed (level : Level) : Clause :=
  if level.current.isEmpty then level.joined else level.joined.push level.current.operand

/-- A level to which the one inside it has been added. -/
def add (level inner : Level) : Level :=
  { level with joined := level.joined.push inner.closed.operand }

/-- Reads a word that is not quoted, which may be a connective. -/
def readWord (level : Level) (text : String) (quoted : Bool) : Level :=
  match (if quoted then none else Connective.ofWord? text) with
  | some connective =>
    ⟨level.joined.pushConnective level.current.operand connective, .new⟩
  | none => { level with current := level.current.push (.text text) }

/-- Closes all levels at the end of the tokens. -/
def closeAll : Level → List Level → Except ParseError Clause
  | level, [] => .ok level.closed
  | level, outer :: rest => do closeAll (← (outer.add level).checked) rest

/-- Reads tokens into a level, inside the levels of a stack. -/
def read : Level → List Level → List Token → Except ParseError Clause
  | level, outer, [] => level.closeAll outer
  | level, outer, .mark '(' :: rest =>
    if outer.length ≥ maxDepth then .error .tooDeep else start.read (level :: outer) rest
  | level, [], .mark ')' :: _ => .ok level.closed
  | level, parent :: outer, .mark ')' :: rest => do
    (← (parent.add level).checked).read outer rest
  | level, outer, .mark c :: rest => do
    (← checked { level with current := level.current.appendOperator c }).read outer rest
  | level, outer, .word text quoted :: rest => do
    (← (level.readWord text quoted).checked).read outer rest

end Level

namespace Condition

/-- The condition that tokens spell, operators without a meaning included; none if there are no
tokens. -/
def ofTokens : List Token → Except ParseError (Option Condition)
  | [] => .ok none
  | tokens => do
    let clause ← Level.start.read [] tokens
    return some (← clause.condition)

/-- The condition that tokens spell, every operator having a meaning. -/
def ofTokensResolved (tokens : List Token) : Except ParseError (Option Condition) := do
  let condition ← ofTokens tokens
  match condition.bind unknownOperator? with
  | some operator => throw (.unknownOperator operator)
  | none => return condition

/-- The condition that a text spells, a quote left open being closed at its end. -/
def ofText (text : String) : Except ParseError (Option Condition) := ofTokens (tokenize text)

/-- The same, every operator having a meaning. -/
def ofTextResolved (text : String) : Except ParseError (Option Condition) :=
  ofTokensResolved (tokenize text)

end Condition

end RowQuery
