/-
The command line.

An argument is an option, the value of one, an operand, or a double dash, after which all others
are operands. The first operand is the name of a command, and the options after it are those of
the command. No option may be given twice.

* `OptionName`, `CommandName`: the options and commands;
* `ArgumentScan.step`: what one more argument does;
* `Invocation.ofArguments?`: the command that arguments spell; none if they are misused;
* `Invocation.run`, `Outcome`: what the command answers.
-/
import RowQuery.Query

namespace RowQuery

/-! ### Options and commands -/

/-- The options of all commands. -/
inductive OptionName
  | log
  | exactFilter
  | wildcardFilter
  | patternFilter
  | groupBy
  | sortBy
  | input
  | pretty
  | strip
  | strict
deriving DecidableEq, Repr

namespace OptionName

/-- The spelling of an option after two dashes. -/
def text : OptionName → String
  | log => "log"
  | exactFilter => "where"
  | wildcardFilter => "like"
  | patternFilter => "find"
  | groupBy => "group-by"
  | sortBy => "order-by"
  | input => "input"
  | pretty => "pretty"
  | strip => "strip-annotations"
  | strict => "strict"

/-- The letter of an option after one dash. -/
def letter? : OptionName → Option Char
  | input => some 'i'
  | pretty => some 'p'
  | _ => none

/-- Whether an option has a value. -/
def takesValue : OptionName → Bool
  | pretty | strip | strict => false
  | _ => true

end OptionName

/-- The commands. -/
inductive CommandName
  | query
  | check
deriving DecidableEq, Repr

namespace CommandName

/-- The command of a name. -/
def ofText? (text : String) : Option CommandName :=
  if text = "query" then some query else if text = "check" then some check else none

/-- The options that may come after a command. -/
def options : CommandName → List OptionName
  | query => [.log, .exactFilter, .wildcardFilter, .patternFilter, .groupBy, .sortBy, .input,
    .pretty, .strip, .strict]
  | check => [.log]

end CommandName

/-! ### Reading arguments -/

/-- The form of an argument. -/
inductive Argument
  | separator
  /-- Two dashes, a name, and a value after an equality sign, if there is one. -/
  | long (name : String) (value : Option String)
  /-- One dash and letters. -/
  | short (letters : List Char)
  | operand (text : String)
deriving DecidableEq, Repr

/-- The form of an argument. A single dash is an operand. -/
def Argument.ofText (text : String) : Argument :=
  match text.toList with
  | ['-', '-'] => .separator
  | '-' :: '-' :: rest =>
    let value := match rest.dropWhile (· != '=') with
      | [] => none
      | _ :: value => some (String.ofList value)
    .long (String.ofList (rest.takeWhile (· != '='))) value
  | '-' :: letter :: rest => .short (letter :: rest)
  | _ => .operand text

/-- Arguments read so far. -/
structure ArgumentScan where
  command : Option CommandName
  /-- The options given since the command, with their values. -/
  given : List (OptionName × String)
  /-- An option whose value is the next argument. -/
  waiting : Option OptionName
  operands : List String
  /-- A double dash has been read. -/
  separated : Bool
deriving DecidableEq, Repr

namespace ArgumentScan

/-- No argument has been read. -/
def start : ArgumentScan := ⟨none, [], none, [], false⟩

/-- The options that may come next. -/
def options (s : ArgumentScan) : List OptionName := s.command.elim [.log] CommandName.options

/-- Records an option and its value, unless it was given before. -/
def give? (s : ArgumentScan) (name : OptionName) (value : String) : Option ArgumentScan :=
  if s.given.any (·.1 == name) then none
  else some { s with given := s.given ++ [(name, value)], waiting := none }

/-- Reads an option by its name. -/
def readLong? (s : ArgumentScan) (text : String) (value : Option String) : Option ArgumentScan := do
  let name ← s.options.find? (·.text == text)
  match value with
  | none => if name.takesValue then some { s with waiting := some name } else s.give? name ""
  | some value => if name.takesValue then s.give? name value else none

/-- Reads options by their letters; a value takes the letters that are left. -/
def readShort? : ArgumentScan → List Char → Option ArgumentScan
  | s, [] => some s
  | s, letter :: rest => do
    let name ← s.options.find? (·.letter? == some letter)
    if name.takesValue then
      match rest with
      | [] => some { s with waiting := some name }
      | '=' :: value => s.give? name (String.ofList value)
      | value => s.give? name (String.ofList value)
    else (← s.give? name "").readShort? rest

/-- Reads an operand: a command, or an operand of one. -/
def readOperand? (s : ArgumentScan) (text : String) : Option ArgumentScan :=
  match s.command with
  | some _ => some { s with operands := s.operands ++ [text] }
  | none =>
    if s.separated then none
    else (CommandName.ofText? text).map fun c => { start with command := some c }

/-- Reads one argument. -/
def step (s : ArgumentScan) (text : String) : Option ArgumentScan :=
  if s.separated then s.readOperand? text
  else match s.waiting, Argument.ofText text with
    | some name, .operand value => s.give? name value
    | some _, _ => none
    | none, .separator => some { s with separated := true }
    | none, .long name value => s.readLong? name value
    | none, .short letters => s.readShort? letters
    | none, .operand text => s.readOperand? text

/-- The value of an option that was given. -/
def value? (s : ArgumentScan) (name : OptionName) : Option String :=
  (s.given.find? (·.1 == name)).map (·.2)

/-- Whether an option was given. -/
def has (s : ArgumentScan) (name : OptionName) : Bool := (s.value? name).isSome

end ArgumentScan

/-! ### Commands -/

/-- A command with what it needs. -/
inductive Invocation
  /-- A query, and all filters that were given for it. -/
  | query (filters : List Filter) (request : Query)
  | check (text : String)
deriving DecidableEq, Repr

namespace Invocation

/-- The filters that were given. -/
def filters (s : ArgumentScan) : List Filter :=
  [(OptionName.exactFilter, MatchMode.exact), (.wildcardFilter, .wildcard),
    (.patternFilter, .pattern)].filterMap fun (name, mode) => (s.value? name).map (⟨·, mode⟩)

/-- The query that was given, its filters aside. -/
def request (s : ArgumentScan) : Query :=
  { input := s.value? .input, groupBy := s.value? .groupBy, sortBy := s.value? .sortBy,
    strip := s.has .strip, strict := s.has .strict,
    layout := if s.has .pretty then .pretty else .compact }

/-- The command that has been read. -/
def ofScan? (s : ArgumentScan) : Option Invocation :=
  match s.command, s.waiting, s.operands with
  | some .query, none, [] => some (.query (filters s) (request s))
  | some .check, none, [text] => some (.check text)
  | _, _, _ => none

/-- The command that arguments spell. -/
def ofArguments? (arguments : List String) : Option Invocation := do
  ofScan? (← arguments.foldlM ArgumentScan.step .start)

/-- Whether a command reads its rows from the standard input. -/
def readsInput : Invocation → Bool
  | query filters request => filters.length ≤ 1 && request.input.isNone
  | check _ => false

/-- What is answered to a text without tokens. -/
def emptyAnswer : String := "Expression is empty; tables pass through unchanged"

/-- The answer of a command, given the standard input. -/
def run (standardInput : String) : Invocation → Except QueryError String
  | query filters request =>
    match filters with
    | _ :: _ :: _ => .error .conflictingFilters
    | _ =>
      { request with
        input := some (request.input.getD standardInput), filter := filters.head? }.run
  | check text => do return ((← RowQuery.check text).map Condition.text).getD emptyAnswer

end Invocation

/-- How a run of the program ends. -/
inductive Outcome
  | answered (text : String)
  | failed (e : QueryError)
  /-- The arguments spell no command. -/
  | misused
deriving DecidableEq, Repr

namespace Outcome

/-- The outcome of arguments, given the standard input. -/
def ofArguments (arguments : List String) (standardInput : String) : Outcome :=
  match Invocation.ofArguments? arguments with
  | none => misused
  | some invocation =>
    match invocation.run standardInput with
    | .ok text => answered text
    | .error e => failed e

/-- The exit code. -/
def exitCode : Outcome → UInt32
  | answered _ => 0
  | failed _ => 1
  | misused => 2

end Outcome

end RowQuery
