/-
The bytes of the characters of a span.

In UTF-8 the characters of a span are written by sequences of bytes in which each byte runs
through a range of its own, once the span is cut where the bytes before the last ones change.

* `ByteRange`: the bytes from a first to a last one;
* `Span.blocks`: a span cut at the blocks of code points that share their first bytes;
* `Span.byteRanges`: the sequences of byte ranges of a span, in ascending order.
-/
import RowQuery.Text.CharSet

namespace RowQuery.Text

/-- The bytes from the first to the last. -/
structure ByteRange where
  first : UInt8
  last : UInt8
deriving DecidableEq, Repr

namespace Span

/-- The parts of a span on both sides of the surrogates. -/
def withoutSurrogates (s : Span) : List Span :=
  [⟨s.first, min s.last 0xD7FF⟩, ⟨max s.first 0xE000, s.last⟩].filter fun t => t.first ≤ t.last

/-- The parts of a span by the number of bytes of their characters. -/
def byLength (s : Span) : List Span :=
  ([⟨0, 0x7F⟩, ⟨0x80, 0x7FF⟩, ⟨0x800, 0xFFFF⟩, ⟨0x10000, greatest⟩].map fun (t : Span) =>
    ⟨max s.first t.first, min s.last t.last⟩).filter fun t => t.first ≤ t.last

/-- Cuts a span where blocks of given sizes begin, each size dividing the next. Within a block
nothing is cut. -/
def blocks : List Nat → Span → List Span
  | [], s => [s]
  | size :: sizes, s =>
    if s.first / size = s.last / size then [s]
    else
      let start := (s.first + size - 1) / size * size
      let front := if s.first < start then [⟨s.first, start - 1⟩] else []
      front ++
        if start / size = s.last / size then [⟨start, s.last⟩]
        else if (s.last + 1) % size = 0 then blocks sizes ⟨start, s.last⟩
        else
          let stop := s.last / size * size
          blocks sizes ⟨start, stop - 1⟩ ++ [⟨stop, s.last⟩]

/-- The sizes of the blocks of code points that share all bytes but the last one, the last two, or
the last three. -/
def blockSizes : List Nat := [0x40, 0x1000, 0x40000]

/-- The sequence of byte ranges of a span within one block. -/
def encoded (s : Span) : List ByteRange :=
  List.zipWith ByteRange.mk (String.utf8EncodeChar (Char.ofNat s.first))
    (String.utf8EncodeChar (Char.ofNat s.last))

/-- The sequences of byte ranges that write the characters of a span. -/
def byteRanges (s : Span) : List (List ByteRange) :=
  (s.withoutSurrogates.flatMap byLength).flatMap fun part =>
    if part.last < 0x80 then [part.encoded] else (blocks blockSizes part).map encoded

end Span

/-- The sequences of byte ranges that write the characters of a set. -/
def CharSet.byteRanges (a : CharSet) : List (List ByteRange) := a.spans.flatMap Span.byteRanges

end RowQuery.Text
