import PodPlacement.Text.Character
import PodPlacement.Text.Utf8

/-!
# How addresses are written

An address is cut into pieces at separators, and there is one piece more than there are
separators.  In a piece a byte may be written as a percent sign and two hexadecimal digits; a
percent sign without such digits stands for itself.  The addresses of requests and of databases
are written so, and hosts and schemes are cut into pieces in the same way.
-/

namespace PodPlacement.Text

/-! ## Pieces -/

def pieces (separator : Char) : List Char → List (List Char)
  | [] => [[]]
  | c :: cs =>
    match pieces separator cs with
    | [] => [[c]]
    | piece :: rest => if c = separator then [] :: piece :: rest else (c :: piece) :: rest

def joined (separator : Char) : List (List Char) → List Char
  | [] => []
  | [piece] => piece
  | piece :: next :: rest => piece ++ separator :: joined separator (next :: rest)

/-- The part of a text before the first separator, and the part after it if there is one. -/
def cut (separator : Char) (cs : List Char) : List Char × Option (List Char) :=
  match cs.dropWhile (· != separator) with
  | [] => (cs, none)
  | _ :: rest => (cs.takeWhile (· != separator), some rest)

/-- The parts of a text before and after the last separator, if there is one. -/
def cutLast? (separator : Char) (cs : List Char) : Option (List Char × List Char) :=
  match cut separator cs.reverse with
  | (after, some before) => some (before.reverse, after.reverse)
  | (_, none) => none

/-! ## Percent signs -/

/-- The three characters for a byte, with upper-case digits. -/
def percentByte (b : Nat) : List Char :=
  ['%', (hexDigit (b / 16)).toUpper, (hexDigit (b % 16)).toUpper]

/-- A text with percent signs for the bytes of all characters but those of a class. -/
def percentEncode (keep : Char → Bool) (cs : List Char) : List Char :=
  cs.flatMap fun c => if keep c then [c] else (utf8Char c).flatMap percentByte

/-- The characters that need no percent signs anywhere. -/
def isUnreserved (c : Char) : Bool :=
  c.isAlphanum || c == '_' || c == '.' || c == '-' || c == '~'

def hexByte? (a b : Char) : Option Nat :=
  match hexValue? a, hexValue? b with
  | some x, some y => some (16 * x + y)
  | _, _ => none

/-- The bytes of a text with percent signs. -/
def percentBytes : List Char → List Nat
  | '%' :: a :: b :: cs =>
    match hexByte? a b with
    | some byte => byte :: percentBytes cs
    | none => utf8Char '%' ++ percentBytes (a :: b :: cs)
  | c :: cs => utf8Char c ++ percentBytes cs
  | [] => []

def percentDecode (cs : List Char) : List Char := decodeUtf8 (percentBytes cs)

end PodPlacement.Text
