/-
The size of the machine that searches for a pattern.

A machine reads the bytes of a text, forward or backward. It is built state by state, and a
pattern whose machine would take too many bytes is refused. The states of a set of characters are
shared where the last bytes agree, as far as a small table remembers them.

* `Machine`: what has been built so far;
* `Machine.readSet?`, `Machine.readTexts?`: the states of a set, and of a choice between texts;
* `Machine.read?`: the states of a pattern;
* `Pattern.fits`: whether both machines of a pattern keep within the limit.
-/
import RowQuery.Pattern.Normal
import RowQuery.Text.ByteRange
import Std.Data.TreeMap

namespace RowQuery

open Text

/-- A machine that is being built. -/
structure Machine where
  /-- How many states it has; they are numbered from zero. -/
  states : Nat
  bytes : Nat
  /-- Whether the part that was built last ends in a fork. -/
  forked : Bool
deriving DecidableEq, Repr

namespace Machine

/-- The direction in which a machine reads a text. -/
inductive Direction
  | forward
  | backward
deriving DecidableEq, Repr

/-! ### Growing -/

/-- How many bytes a machine may take. -/
def limit : Nat := 10 * 1024 * 1024

/-- No states. -/
def empty : Machine := ⟨0, 0, false⟩

/-- More states, more ways out of forks, and more ways out of states with several byte ranges. -/
def grow (m : Machine) (states ways ranges : Nat) : Option Machine :=
  let bytes := m.bytes + 32 * states + 4 * ways + 8 * ranges
  if bytes ≤ limit then some ⟨m.states + states, bytes, false⟩ else none

/-- How many ways out of a fork it takes to go on from the last part. -/
def exits (m : Machine) : Nat := if m.forked then 1 else 0

/-- Goes on from the last part. -/
def link (m : Machine) : Option Machine := m.grow 0 m.exits 0

/-- The last part ends in a fork. -/
def fork (m : Machine) : Machine := { m with forked := true }

/-- A step repeated a number of times, as long as it succeeds. -/
def times (step : Machine → Option Machine) : Nat → Machine → Option Machine
  | 0, m => some m
  | count + 1, m =>
    match step m with
    | none => none
    | some m => times step count m

/-! ### Tables of states -/

/-- One number after others in a hash of 64 bits. -/
def mix (hash : UInt64) (n : Nat) : UInt64 := (hash ^^^ n.toUInt64) * 1099511628211

/-- The slot of some numbers in a table. -/
def slot (size : Nat) (numbers : List Nat) : Nat :=
  (numbers.foldl mix 14695981039346656037).toNat % size

/-- States by the slots of what they do; each slot remembers its last state alone. -/
structure StateTable where
  size : Nat
  slots : Std.TreeMap Nat (List Nat × Nat)

namespace StateTable

/-- A table that remembers nothing. -/
def empty (size : Nat) : StateTable := ⟨size, ∅⟩

/-- The state that does something, if it is remembered. -/
def get? (t : StateTable) (key : List Nat) : Option Nat :=
  match t.slots[slot t.size key]? with
  | some (known, state) => if known = key then some state else none
  | none => none

/-- Remembers a state. -/
def put (t : StateTable) (key : List Nat) (state : Nat) : StateTable :=
  { t with slots := t.slots.insert (slot t.size key) (key, state) }

end StateTable

/-- A machine with the table for the set that is being built. -/
structure Sharing where
  machine : Machine
  table : StateTable

/-- The state that does something: a remembered one, or a new one with some byte ranges. -/
def Sharing.state? (s : Sharing) (key : List Nat) (ranges : Nat) : Option (Nat × Sharing) :=
  match s.table.get? key with
  | some state => some (state, s)
  | none => do
    let state := s.machine.states
    return (state, ⟨← s.machine.grow 1 0 ranges, s.table.put key state⟩)

/-! ### Sets of characters -/

/-- The state that reads one of some ascending sequences forward and then goes to a target. What
follows sequences that begin alike is built before it. -/
def forwardState? (target : Nat) : Nat → List (List ByteRange) → Sharing → Option (Nat × Sharing)
  | 0, _, s => some (target, s)
  | depth + 1, sequences, s => do
    let groups := sequences.splitBy fun a b => a.head? == b.head?
    let (key, s) ← groups.foldlM (fun (key, s) group =>
      match group with
      | (range :: rest) :: _ => do
        let (next, s) ←
          if rest.isEmpty then some (target, s)
          else forwardState? target depth (group.map (·.drop 1)) s
        return (key ++ [range.first.toNat, range.last.toNat, next], s)
      | _ => some (key, s)) ([], s)
    s.state? key groups.length

/-- The states that read the bytes of a sequence one after the other, the last one first. -/
def backwardStates? (s : Sharing) : Nat → List ByteRange → Option Sharing
  | _, [] => some s
  | target, range :: rest => do
    let (state, s) ← s.state? [target, range.first.toNat, range.last.toNat] 0
    backwardStates? s state rest

/-- The states that read one character of a set. -/
def readSet? (d : Direction) (set : CharSet) (m : Machine) : Option Machine :=
  match set.single? with
  | some c => m.grow (String.utf8EncodeChar c).length 0 0
  | none =>
    if set.isAscii then m.grow 2 0 set.spans.length
    else match d with
      | .forward => do
        let start ← m.grow 1 0 0
        let (_, s) ← forwardState? m.states 4 set.byteRanges ⟨start, .empty 10000⟩
        return s.machine
      | .backward => do
        let start ← m.grow 2 0 0
        let s ← set.byteRanges.foldlM (fun (s : Sharing) sequence => do
          let s ← backwardStates? s (m.states + 1) sequence
          return { s with machine := ← s.machine.grow 0 1 0 }) ⟨start, .empty 1000⟩
        return s.machine

/-! ### Choices between texts -/

/-- The character sequence of a pattern that matches just one. -/
def text? : Pattern → Option (List Char)
  | .leaf (.oneOf set) => set.single?.map ([·])
  | .sequence first second => do return (← text? first) ++ (← text? second)
  | _ => none

/-- The character sequences of a choice of which each branch matches just one. -/
def texts? : Pattern → Option (List (List Char))
  | .choice first second => do return (← text? first) :: (← texts? second)
  | p => (text? p).map ([·])

/-- The bytes of characters in the order in which they are read. -/
def bytesOf (d : Direction) (text : List Char) : List UInt8 :=
  let bytes := text.flatMap String.utf8EncodeChar
  match d with
  | .forward => bytes
  | .backward => bytes.reverse

/-- The states at which some texts go apart, those that are shared built once. Where a text ends,
the texts after it are kept apart from those before it. -/
def readTree? : Nat → List (List UInt8) → Machine → Option Machine
  | 0, _, m => some m
  | fuel + 1, texts, m =>
    if texts.all (·.isEmpty) then some m
    else do
      let chunks := (texts.splitBy fun a b => !a.isEmpty && !b.isEmpty).filter fun chunk =>
        chunk.any (!·.isEmpty)
      let ends := (texts.take 1).countP (·.isEmpty)
        + (texts.dropWhile (·.isEmpty)).countP (·.isEmpty)
      let m ← chunks.foldlM (fun (m : Machine) chunk => do
        let firsts := (chunk.filterMap (·.head?)).eraseDups
        let m ← firsts.foldlM (fun (m : Machine) first =>
          readTree? fuel ((chunk.filter (·.head? == some first)).map (·.drop 1)) m) m
        m.grow 1 0 (if firsts.length ≤ 1 then 0 else firsts.length)) m
      m.grow 1 (chunks.length + ends) 0

/-- The states that read one of some texts. -/
def readTexts? (d : Direction) (texts : List (List Char)) (m : Machine) : Option Machine := do
  let bytes := texts.map (bytesOf d)
  readTree? (bytes.foldl (fun n b => max n b.length) 0 + 1) bytes (← m.grow 1 0 0)

/-! ### Patterns -/

/-- Where a part stands: by itself, or as a branch of a choice. -/
inductive Place
  | alone
  | firstBranch
  | secondBranch
  | laterBranch
deriving DecidableEq, Repr

/-- Joins a part with what stands around it. The fork before the branches of a choice, and the end
that they share, are built after the second of them. -/
def Place.join : Place → Machine → Option Machine
  | alone, m => some m
  | firstBranch, m => m.grow 0 (1 + m.exits) 0
  | secondBranch, m => m.grow 2 (1 + m.exits) 0
  | laterBranch, m => m.grow 0 (1 + m.exits) 0

/-- A part a number of times. -/
def readCopies? (body : Machine → Option Machine) (count : Nat) (m : Machine) : Option Machine :=
  match count with
  | 0 => m.grow 1 0 0
  | count + 1 => do times (fun m => m.link.bind body) count (← body m)

/-- A part repeated; `takes` tells that the part always takes a character. -/
def readRepeated? (body : Machine → Option Machine) (takes : Bool) (least : Nat)
    (greatest : Option Nat) (m : Machine) : Option Machine :=
  match greatest with
  | none =>
    if least = 0 then
      if takes then do
        let m ← body (← m.grow 1 0 0)
        return (← m.grow 0 (1 + m.exits) 0).fork
      else do
        let m ← body m
        m.grow 3 (4 + m.exits) 0
    else do
      let m ← readCopies? body least m
      return (← m.grow 1 (1 + m.exits) 0).fork
  | some greatest =>
    if least = 0 ∧ greatest = 1 then do
      let m ← body (← m.grow 1 0 0)
      m.grow 1 (2 + m.exits) 0
    else do
      let m ← readCopies? body least m
      if greatest ≤ least then return m
      times (fun m => do (← body (← m.grow 1 2 0)).link) (greatest - least)
        (← m.grow 1 m.exits 0)

/-- The states of a pattern. -/
def read? (d : Direction) : Place → Pattern → Machine → Option Machine
  | place, .empty, m => do place.join (← m.grow 1 0 0)
  | place, .leaf (.oneOf set), m => do place.join (← readSet? d set m)
  | place, .leaf (.assertion _), m => do place.join (← m.grow 1 0 0)
  | place, .sequence first second, m => do
    match d with
    | .forward => place.join (← read? d .alone second (← (← read? d .alone first m).link))
    | .backward => place.join (← read? d .alone first (← (← read? d .alone second m).link))
  | place, .choice first second, m => do
    match place with
    | .alone | .firstBranch =>
      match texts? (.choice first second) with
      | some texts => place.join (← readTexts? d texts m)
      | none => place.join (← read? d .secondBranch second (← read? d .firstBranch first m))
    | place => read? d .laterBranch second (← read? d place first m)
  | place, .repeated body least greatest _, m => do
    let takes := (Pattern.leastLength body).any (0 < ·)
    place.join (← readRepeated? (read? d .alone body) takes least greatest m)
  | place, .group _ body, m => do
    match d with
    | .forward =>
      let m ← read? d .alone body (← m.grow 1 0 0)
      place.join (← m.grow 1 m.exits 0)
    | .backward => place.join (← read? d .alone body m)

/-- The machine of a pattern. Unless the pattern can match at one end of the text only, the machine
first leaves out any bytes; reading forward, it notes where a match begins and ends. -/
def ofPattern? (d : Direction) (p : Pattern) : Option Machine := do
  let (bound, whole) := match d with
    | .forward => (Pattern.isAtStart p, Regular.group 0 p)
    | .backward => (Pattern.isAtEnd p, p)
  let m ← read? d .alone whole (← if bound then empty.grow 1 0 0 else empty.grow 3 2 1)
  m.grow 1 m.exits 0

end Machine

/-- Whether both machines of a pattern keep within the limit. -/
def Pattern.fits (p : Pattern) : Bool :=
  (Machine.ofPattern? .forward p).isSome && (Machine.ofPattern? .backward p).isSome

end RowQuery
