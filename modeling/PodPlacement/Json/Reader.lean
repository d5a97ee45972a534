import PodPlacement.Decimal.Numeral
import PodPlacement.Json.Value
import PodPlacement.Text.Encoding
import PodPlacement.Text.Character

/-!
# Reading JSON text

`Json.parse room` reads one value and nothing after it but blanks.  What is wrong with a text is
one `Problem` at one position, counted in characters from the start.  Beyond the standard the
names of the infinite and undefined numbers are read.  Of two members with one key the later
value counts, at the place of the earlier.
-/

namespace PodPlacement.Json

open PodPlacement.Decimal PodPlacement.Text

/-! ## Problems -/

/-- What can be wrong with a JSON text. -/
inductive Problem where
  | valueExpected
  | nameExpected
  | colonExpected
  | commaExpected
  | extraData
  | unterminatedString
  | controlCharacter
  | unknownEscape
  | shortEscape
  | byteOrderMark
  deriving DecidableEq, Repr

def Problem.text : Problem → String
  | valueExpected => "Expecting value"
  | nameExpected => "Expecting property name enclosed in double quotes"
  | colonExpected => "Expecting ':' delimiter"
  | commaExpected => "Expecting ',' delimiter"
  | extraData => "Extra data"
  | unterminatedString => "Unterminated string starting at"
  | controlCharacter => "Invalid control character at"
  | unknownEscape => "Invalid \\escape"
  | shortEscape => "Invalid \\uXXXX escape"
  | byteOrderMark => "Unexpected UTF-8 BOM (decode using utf-8-sig)"

/-- What holds other values. -/
inductive Container where
  | list
  | object
  deriving DecidableEq, Repr

inductive ParseError where
  | malformed (problem : Problem) (position : Nat)
  | wholeTooLong (digits : Nat)
  /-- The text goes deeper than is read, and this is what is entered there. -/
  | tooDeep (container : Container)
  deriving DecidableEq, Repr

/-! ## Cursors -/

/-- A position within a text, and the text from there on. -/
structure Cursor where
  position : Nat
  rest : List Char

def Cursor.advance (c : Cursor) (n : Nat) : Cursor := ⟨c.position + n, c.rest.drop n⟩

/-- The cursor after the characters of a class. -/
def Cursor.dropWhile (c : Cursor) (p : Char → Bool) : Cursor :=
  c.advance (c.rest.takeWhile p).length

/-- The four blanks that may stand between the parts of a JSON text. -/
def isJsonBlank (c : Char) : Bool := c == ' ' || c == '\t' || c == '\n' || c == '\r'

def Cursor.skipBlanks (c : Cursor) : Cursor := c.dropWhile isJsonBlank

/-- A part of a text with the cursor after it. -/
abbrev Reading (α : Type) := Except ParseError (α × Cursor)

def Cursor.fail {α : Type} (c : Cursor) (problem : Problem) : Reading α :=
  .error (.malformed problem c.position)

/-! ## Strings -/

/-- The value of four hexadecimal digits. -/
def hexUnit? (a b c d : Char) : Option Nat := do
  let a ← hexValue? a
  let b ← hexValue? b
  let c ← hexValue? c
  let d ← hexValue? d
  return ((a * 16 + b) * 16 + c) * 16 + d

/-- The character of an escape of one letter. -/
def shortEscape? : Char → Option Char
  | '"' => some '"'
  | '\\' => some '\\'
  | '/' => some '/'
  | 'b' => some '\x08'
  | 'f' => some '\x0c'
  | 'n' => some '\n'
  | 'r' => some '\r'
  | 't' => some '\t'
  | _ => none

/-- The point that an escape with a unit stands for, and how many characters it takes after
the backslash and the letter.  `unit` is the cursor at the letter, and a character has to
follow the digits. -/
def readUnit (unit : Cursor) : Except ParseError (Point × Nat) :=
  match unit.rest with
  | _ :: a :: b :: c :: d :: next :: tail =>
    match hexUnit? a b c d with
    | none => .error (.malformed .shortEscape unit.position)
    | some high =>
      if !isHighUnit high then .ok (.ofCode high, 4)
      else
        match next :: tail with
        | '\\' :: 'u' :: e :: f :: g :: h :: _ :: _ =>
          match hexUnit? e f g h with
          | none => .error (.malformed .shortEscape (unit.position + 6))
          | some low =>
            if isLowUnit low then .ok (.ofCode (codeOfPair high low), 10)
            else .ok (.ofCode high, 4)
        | _ => .ok (.ofCode high, 4)
  | _ => .error (.malformed .shortEscape unit.position)

/-- The rest of a string that began at `start`, up to its closing quote.  The points so far
are in reverse. -/
def readStringFrom (start : Nat) : Nat → Cursor → List Point → Reading Text
  | 0, _, _ => .error (.malformed .unterminatedString start)
  | fuel + 1, cursor, done =>
    match cursor.rest with
    | [] => .error (.malformed .unterminatedString start)
    | '"' :: _ => .ok (.ofPoints done.reverse, cursor.advance 1)
    | '\\' :: rest =>
      match rest with
      | [] => .error (.malformed .unterminatedString start)
      | 'u' :: _ =>
        match readUnit (cursor.advance 1) with
        | .error e => .error e
        | .ok (p, taken) => readStringFrom start fuel (cursor.advance (2 + taken)) (p :: done)
      | letter :: _ =>
        match shortEscape? letter with
        | none => cursor.fail .unknownEscape
        | some c => readStringFrom start fuel (cursor.advance 2) (.char c :: done)
    | c :: _ =>
      if c.toNat < 0x20 then cursor.fail .controlCharacter
      else readStringFrom start fuel (cursor.advance 1) (.char c :: done)

/-- A string, with the cursor at its opening quote. -/
def readString (cursor : Cursor) : Reading Text :=
  readStringFrom cursor.position cursor.rest.length (cursor.advance 1) []

/-! ## Numbers -/

def Cursor.digits (c : Cursor) : List Char := c.rest.takeWhile fun d => (asciiDigit? d).isSome

/-- The whole part of a number: a zero alone, or digits that begin with another. -/
def Cursor.wholeDigits (c : Cursor) : List Char := leadingWhole c.rest

/-- The fraction of a number, without its point; empty when there is none. -/
def Cursor.fractionDigits (c : Cursor) : List Char :=
  match c.rest with
  | '.' :: _ => (c.advance 1).digits
  | _ => []

/-- The exponent of a number, and how many characters it takes; none when there is none. -/
def Cursor.exponent? (c : Cursor) : Option (Int × Nat) :=
  match c.rest with
  | e :: rest =>
    if e == 'e' || e == 'E' then
      let (negative, afterSign) := takeSign rest
      let signLength := rest.length - afterSign.length
      let digits := (⟨0, afterSign⟩ : Cursor).digits
      if digits.isEmpty then none
      else some (signedWhole negative (valueOfDigits (digits.filterMap asciiDigit?)),
        1 + signLength + digits.length)
    else none
  | [] => none

/-- A number, with the cursor at its first character. -/
def readNumber (start : Cursor) : Reading Json :=
  let negative := start.rest.head? == some '-'
  let cursor := if negative then start.advance 1 else start
  let whole := cursor.wholeDigits
  if whole.isEmpty then start.fail .valueExpected
  else
    let afterWhole := cursor.advance whole.length
    let fraction := afterWhole.fractionDigits
    let afterFraction :=
      if fraction.isEmpty then afterWhole else afterWhole.advance (1 + fraction.length)
    let value := valueOfDigits ((whole ++ fraction).filterMap asciiDigit?)
    match afterFraction.exponent? with
    | some (e, taken) =>
      .ok (.real (toReal negative value (e - fraction.length)), afterFraction.advance taken)
    | none =>
      if fraction.isEmpty then
        if digitLimit < whole.length then .error (.wholeTooLong whole.length)
        else .ok (.whole (signedWhole negative value), afterFraction)
      else .ok (.real (toReal negative value (-(fraction.length : Int))), afterFraction)

/-! ## Values -/

/-- The words that are values. -/
def words : List (String × Json) :=
  [("null", .null), ("true", .bool true), ("false", .bool false), ("NaN", .real (0.0 / 0.0)),
   ("Infinity", .real (1.0 / 0.0)), ("-Infinity", .real (-(1.0 / 0.0)))]

def readWord? (cursor : Cursor) : Option (Json × Cursor) :=
  (words.find? fun word => word.1.toList.isPrefixOf cursor.rest).map fun word =>
    (word.2, cursor.advance word.1.length)

mutual

/-- A value, with the cursor at its first character; `room` more lists and objects may be
entered. -/
def readValue : Nat → Nat → Cursor → Reading Json
  | 0, _, cursor => cursor.fail .valueExpected
  | fuel + 1, room, cursor =>
    match cursor.rest with
    | '"' :: _ =>
      match readString cursor with
      | .error e => .error e
      | .ok (t, next) => .ok (.string t, next)
    | '[' :: _ =>
      match room with
      | 0 => .error (.tooDeep .list)
      | room + 1 =>
        let first := (cursor.advance 1).skipBlanks
        match first.rest with
        | ']' :: _ => .ok (.array [], first.advance 1)
        | _ =>
          match readItems fuel room first with
          | .error e => .error e
          | .ok (items, next) => .ok (.array items, next)
    | '{' :: _ =>
      match room with
      | 0 => .error (.tooDeep .object)
      | room + 1 =>
        let first := (cursor.advance 1).skipBlanks
        match first.rest with
        | '}' :: _ => .ok (.object [], first.advance 1)
        | _ =>
          match readMembers fuel room first [] with
          | .error e => .error e
          | .ok (members, next) => .ok (.object members, next)
    | _ =>
      match readWord? cursor with
      | some reading => .ok reading
      | none => readNumber cursor

/-- The items of a list and its closing bracket, with the cursor at the first item. -/
def readItems : Nat → Nat → Cursor → Reading (List Json)
  | 0, _, cursor => cursor.fail .valueExpected
  | fuel + 1, room, cursor =>
    match readValue fuel room cursor with
    | .error e => .error e
    | .ok (item, afterItem) =>
      let next := afterItem.skipBlanks
      match next.rest with
      | ']' :: _ => .ok ([item], next.advance 1)
      | ',' :: _ =>
        match readItems fuel room (next.advance 1).skipBlanks with
        | .error e => .error e
        | .ok (items, finish) => .ok (item :: items, finish)
      | _ => next.fail .commaExpected

/-- The members of an object and its closing brace, with the cursor at the first key; `done`
are the members so far. -/
def readMembers : Nat → Nat → Cursor → Members → Reading Members
  | 0, _, cursor, _ => cursor.fail .valueExpected
  | fuel + 1, room, cursor, done =>
    match cursor.rest with
    | '"' :: _ =>
      match readString cursor with
      | .error e => .error e
      | .ok (key, afterKey) =>
        let colon := afterKey.skipBlanks
        match colon.rest with
        | ':' :: _ =>
          match readValue fuel room (colon.advance 1).skipBlanks with
          | .error e => .error e
          | .ok (value, afterValue) =>
            let members := put key value done
            let next := afterValue.skipBlanks
            match next.rest with
            | '}' :: _ => .ok (members, next.advance 1)
            | ',' :: _ => readMembers fuel room (next.advance 1).skipBlanks members
            | _ => next.fail .commaExpected
        | _ => colon.fail .colonExpected
    | _ => cursor.fail .nameExpected

end

/-! ## Whole texts -/

/-- The value that a text is, with no more than `room` lists and objects within one another.
Of two calls one within the other, one takes a character, so the calls allowed for are
enough. -/
def parse (room : Nat) (s : String) : Except ParseError Json :=
  let cs := s.toList
  match readValue (2 * cs.length + 2) room (Cursor.mk 0 cs).skipBlanks with
  | .error e => .error e
  | .ok (value, after) =>
    let finish := after.skipBlanks
    if finish.rest.isEmpty then .ok value else .error (.malformed .extraData finish.position)

/-- The value that a text is, if it does not begin with a byte order mark. -/
def parseUnmarked (room : Nat) (s : String) : Except ParseError Json :=
  if s.toList.head? = some mark then .error (.malformed .byteOrderMark 0) else parse room s

/-! ## Places -/

def lineOf (s : String) (position : Nat) : Nat :=
  ((s.toList.take position).filter (· == '\n')).length + 1

/-- The column of a position, the first column being 1. -/
def columnOf (s : String) (position : Nat) : Nat :=
  ((s.toList.take position).reverse.takeWhile (· != '\n')).length + 1

def ParseError.message (s : String) : ParseError → String
  | .malformed problem position =>
    s!"{problem.text}: line {lineOf s position} column {columnOf s position} (char {position})"
  | .wholeTooLong digits => tooLongText digits
  | .tooDeep .list =>
    "maximum recursion depth exceeded while decoding a JSON array from a unicode string"
  | .tooDeep .object =>
    "maximum recursion depth exceeded while decoding a JSON object from a unicode string"

end PodPlacement.Json
