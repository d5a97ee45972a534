import PodPlacement.Text
import PodPlacement.Text.Character
import PodPlacement.Text.Printable

/-!
# Texts in messages

A name stands in a message between single quotes, or between double quotes when it holds a
single quote and no double one.  The quote in use and the backslash are escaped, and so are the
halves of pairs and every character that does not print.  Of a text that cannot be written as
bytes it is said which halves are in the way, and where the first of them stand.
-/

namespace PodPlacement.Text

/-! ## Quoted texts -/

def quoteFor (cs : List Char) : Char :=
  if cs.contains '\'' && !cs.contains '"' then '"' else '\''

/-- A character within a text that stands between `quote`s. -/
def escapeChar (quote c : Char) : List Char :=
  let n := c.toNat
  if c = quote ∨ c = '\\' then ['\\', c]
  else if c = '\n' then ['\\', 'n']
  else if c = '\r' then ['\\', 'r']
  else if c = '\t' then ['\\', 't']
  else if isPrintable c then [c]
  else if n < 0x100 then '\\' :: 'x' :: hexDigits 2 n
  else if n < 0x10000 then '\\' :: 'u' :: hexDigits 4 n
  else '\\' :: 'U' :: hexDigits 8 n

/-- A point within a text that stands between `quote`s. -/
def escapePoint (quote : Char) : Point → List Char
  | .char c => escapeChar quote c
  | .half h => '\\' :: 'u' :: hexDigits 4 h.val

def quoted (t : Text) : String :=
  let quote := quoteFor t.chars
  String.ofList (quote :: t.points.flatMap (escapePoint quote) ++ [quote])

/-! ## Texts without bytes -/

/-- The first halves of a text that follow one another, and how many characters are before
them. -/
def firstHalves (t : Text) : Nat × List Half :=
  let before := t.points.takeWhile fun p => p.char?.isSome
  let halves := (t.points.drop before.length).takeWhile fun p => p.half?.isSome
  (before.length, halves.filterMap Point.half?)

/-- What is said of a text with halves. -/
def unencodableText (t : Text) : String :=
  let what := match t.firstHalves with
    | (position, [h]) =>
      "character '\\u" ++ String.ofList (hexDigits 4 h.val) ++ s!"' in position {position}"
    | (position, halves) => s!"characters in position {position}-{position + halves.length - 1}"
  "'utf-8' codec can't encode " ++ what ++ ": surrogates not allowed"

end PodPlacement.Text
