/-
Quoted text: an apostrophe before and after, a backslash before every apostrophe and backslash
inside.

* `escape`, `quote`: the written form of a text;
* `escape_append`: texts are escaped part by part.
-/

namespace RowQuery.Text

/-- The mark that opens and closes a quoted text. -/
def apostrophe : Char := '\''

/-- The written form of one character inside a quoted text. -/
def escapeChar (c : Char) : List Char :=
  if c == apostrophe || c == '\\' then ['\\', c] else [c]

/-- A text as it stands between the apostrophes. -/
def escape (text : List Char) : List Char := text.flatMap escapeChar

/-- A text in apostrophes. -/
def quote (text : String) : String :=
  String.ofList (apostrophe :: escape text.toList ++ [apostrophe])

@[simp] theorem escape_nil : escape [] = [] := rfl

@[simp] theorem escape_cons (c : Char) (text : List Char) :
    escape (c :: text) = escapeChar c ++ escape text := rfl

/-- Texts are escaped part by part. -/
theorem escape_append (a b : List Char) : escape (a ++ b) = escape a ++ escape b := by
  simp [escape]

end RowQuery.Text
