import PodPlacement.Text.Utf8

/-!
# Texts

A text as documents hold it: characters, and among them halves of pairs of UTF-16 units that
stand alone.  A high and a low half, one after the other, make one character; a half that stands
alone is none and has no bytes, so a text with one can be read, kept and compared, and can
neither be stored nor sent.

    ofPoints t.points = t                             (ofPoints_points)
    (s ++ t).points = s.points ++ t.points            (points_append)
    s ++ t = s ++ t' ↔ t = t'                         (append_right_inj)
-/

namespace PodPlacement

/-! ## Halves of pairs -/

namespace Text

/-- Whether a unit is the first of a pair that stands for one character. -/
def isHighUnit (n : Nat) : Bool := 0xD800 ≤ n && n ≤ 0xDBFF

/-- Whether a unit is the second of a pair that stands for one character. -/
def isLowUnit (n : Nat) : Bool := 0xDC00 ≤ n && n ≤ 0xDFFF

def isHalf (n : Nat) : Bool := isHighUnit n || isLowUnit n

abbrev Half := { n : Nat // isHalf n = true }

def codeOfPair (high low : Nat) : Nat := 0x10000 + (high - 0xD800) * 0x400 + (low - 0xDC00)

end Text

/-! ## Texts -/

/-- A text: a string, or a string up to a half that stands alone, and a text after it. -/
inductive Text where
  | proper (s : String)
  | broken (s : String) (half : Text.Half) (rest : Text)
  deriving DecidableEq, Repr

namespace Text

instance : Inhabited Text := ⟨proper ""⟩

instance : Coe String Text := ⟨proper⟩

/-- The string that a text is, if no half is in it. -/
def string? : Text → Option String
  | proper s => some s
  | broken _ _ _ => none

/-- Whether no half is in a text. -/
def isProper (t : Text) : Bool := t.string?.isSome

def isEmpty : Text → Bool
  | proper s => s.isEmpty
  | broken _ _ _ => false

theorem isEmpty_iff (t : Text) : t.isEmpty = true ↔ t = proper "" := by
  cases t <;> simp [isEmpty]

def startsWith (front : String) : Text → Bool
  | proper s | broken s _ _ => s.startsWith front

/-- The text of one half that stands alone. -/
def loneHalf : Text := broken "" ⟨0xD800, by decide⟩ (proper "")

/-! ## Points -/

inductive Point where
  | char (c : Char)
  | half (h : Half)
  deriving DecidableEq, Repr

def Point.char? : Point → Option Char
  | char c => some c
  | half _ => none

def Point.half? : Point → Option Half
  | char _ => none
  | half h => some h

def Point.ofCode (n : Nat) : Point :=
  if h : isHalf n = true then half ⟨n, h⟩ else char (Char.ofNat n)

def points : Text → List Point
  | proper s => s.toList.map .char
  | broken s h rest => s.toList.map .char ++ .half h :: rest.points

/-- The text of points after characters, which are in reverse. -/
def ofPointsAfter : List Char → List Point → Text
  | done, [] => proper (String.ofList done.reverse)
  | done, .char c :: ps => ofPointsAfter (c :: done) ps
  | done, .half h :: ps => broken (String.ofList done.reverse) h (ofPointsAfter [] ps)

def ofPoints (ps : List Point) : Text := ofPointsAfter [] ps

def prepend (s : String) : Text → Text
  | proper t => proper (s ++ t)
  | broken t h rest => broken (s ++ t) h rest

def append : Text → Text → Text
  | proper s, t => t.prepend s
  | broken s h rest, t => broken s h (rest.append t)

instance : Append Text := ⟨append⟩

/-- The characters of a text, without the halves. -/
def chars (t : Text) : List Char := t.points.filterMap Point.char?

/-- A text with characters in the place of its halves: each counts as three bytes of which
none can be read. -/
def readable (t : Text) : String :=
  String.ofList (t.points.flatMap fun p =>
    match p with
    | .char c => [c]
    | .half _ => [replacement, replacement, replacement])

end Text

end PodPlacement
