/-
Text from bytes.

* `decode`: reads bytes as UTF-8 from the left; `none` stands for a maximal part that begins
  no character;
* `readBytes?`: the text of bytes that are UTF-8 throughout;
* `readBytesLossy`: the same with a replacement character for every part that is not.
-/

namespace RowQuery.Text

/-- What the first byte of a character demands of the second: its range, and how many bytes of
the plain continuation range follow it. -/
structure Lead where
  /-- The bits that the first byte contributes. -/
  bits : Nat
  low : Nat
  high : Nat
  more : Nat
deriving DecidableEq, Repr

/-- The demand of a first byte beyond the ASCII range, if it begins a character. -/
def lead? (b : Nat) : Option Lead :=
  if 0xC2 ≤ b && b ≤ 0xDF then some ⟨b - 0xC0, 0x80, 0xBF, 0⟩
  else if b == 0xE0 then some ⟨0, 0xA0, 0xBF, 1⟩
  else if b == 0xED then some ⟨0xD, 0x80, 0x9F, 1⟩
  else if 0xE1 ≤ b && b ≤ 0xEF then some ⟨b - 0xE0, 0x80, 0xBF, 1⟩
  else if b == 0xF0 then some ⟨0, 0x90, 0xBF, 2⟩
  else if b == 0xF4 then some ⟨4, 0x80, 0x8F, 2⟩
  else if 0xF1 ≤ b && b ≤ 0xF3 then some ⟨b - 0xF0, 0x80, 0xBF, 2⟩
  else none

/-- What a reader of bytes has in hand: nothing, or a character that still wants bytes. -/
inductive Decoding
  | between
  | within (bits low high more : Nat)
deriving DecidableEq, Repr

/-- A byte read between two characters. -/
def Decoding.start (b : UInt8) : Decoding × List (Option Char) :=
  let n := b.toNat
  if n < 0x80 then (.between, [some (Char.ofNat n)])
  else match lead? n with
    | some lead => (.within lead.bits lead.low lead.high lead.more, [])
    | none => (.between, [none])

/-- One more byte: the state after it, and what it completes. A byte that the character in
hand does not admit ends that character as an invalid part and begins anew. -/
def Decoding.step : Decoding → UInt8 → Decoding × List (Option Char)
  | .between, b => Decoding.start b
  | .within bits low high more, b =>
    let n := b.toNat
    if low ≤ n && n ≤ high then
      let bits := bits * 64 + (n - 0x80)
      match more with
      | 0 => (.between, [some (Char.ofNat bits)])
      | more + 1 => (.within bits 0x80 0xBF more, [])
    else
      let (state, out) := Decoding.start b
      (state, none :: out)

/-- The characters that bytes hold from a given state on; an unfinished one is invalid. -/
def Decoding.run : Decoding → List UInt8 → List (Option Char)
  | .between, [] => []
  | .within .., [] => [none]
  | state, b :: rest =>
    let (next, out) := state.step b
    out ++ next.run rest

/-- The characters of a list of bytes; `none` is a maximal part that is no character. -/
def decode (bytes : List UInt8) : List (Option Char) :=
  Decoding.between.run bytes

/-- The text of bytes that are UTF-8 throughout. -/
def readBytes? (bytes : List UInt8) : Option String :=
  ((decode bytes).mapM id).map String.ofList

/-- The text of bytes, with U+FFFD for every maximal part that is no character. -/
def readBytesLossy (bytes : List UInt8) : String :=
  String.ofList ((decode bytes).map (·.getD '\ufffd'))

/-- Bytes that are UTF-8 throughout have one text, whichever way they are read. -/
theorem readBytesLossy_of_readBytes? {bytes : List UInt8} {text : String}
    (h : readBytes? bytes = some text) : readBytesLossy bytes = text := by
  have key : ∀ (cs : List (Option Char)) (out : List Char),
      cs.mapM id = some out → cs.map (·.getD '\ufffd') = out := by
    intro cs
    induction cs with
    | nil => intro out hout; simpa using hout
    | cons c cs ih =>
      intro out hout
      cases c with
      | none => simp [List.mapM_cons] at hout
      | some c =>
        cases hcs : cs.mapM id with
        | none => simp [List.mapM_cons, hcs] at hout
        | some rest =>
          simp only [List.mapM_cons, id_eq, hcs, Option.bind_eq_bind, Option.bind_some,
            Option.pure_def, Option.some.injEq] at hout
          subst hout
          simp [ih rest hcs]
  simp only [readBytes?, Option.map_eq_some_iff] at h
  obtain ⟨out, hout, rfl⟩ := h
  rw [readBytesLossy, key _ _ hout]

end RowQuery.Text
