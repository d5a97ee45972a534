import PodPlacement.Text
import PodPlacement.Text.Utf8

/-!
# Encodings

A text that comes as bytes may be in one of five encodings, of which the zeros among its
first bytes tell, as long as its first characters are ASCII.

    utf8.decode? half (utf8Bytes cs) = some (dropMark cs)         (decode?_utf8)
    0 ∉ bytes → ofFirstTwo bytes = utf8                           (ofFirstTwo_of_not_mem)
-/

namespace PodPlacement.Text

/-! ## The byte order mark -/

def mark : Char := Char.ofNat 0xFEFF

def dropMark : List Char → List Char
  | [] => []
  | c :: cs => if c = mark then cs else c :: cs

/-! ## Encodings -/

/-- Which byte of a number comes first, the highest or the lowest. -/
inductive ByteOrder where
  | big
  | little
  deriving DecidableEq, Repr

def ByteOrder.number : ByteOrder → List Nat → Nat
  | big, bytes => bytes.foldl (fun n b => 256 * n + b) 0
  | little, bytes => bytes.foldr (fun b n => 256 * n + b) 0

inductive Encoding where
  | utf8
  | utf16 (order : ByteOrder)
  | utf32 (order : ByteOrder)
  deriving DecidableEq, Repr

/-- The numbers of two bytes each; none if a byte is left. -/
def units16? (order : ByteOrder) : List Nat → Option (List Nat)
  | [] => some []
  | a :: b :: bytes => (units16? order bytes).map (order.number [a, b] :: ·)
  | _ => none

/-- The code points of units of UTF-16.  A half that stands alone stays as it is. -/
def pairUnits : List Nat → List Nat
  | [] => []
  | [unit] => [unit]
  | high :: low :: units =>
    if isHighUnit high && isLowUnit low then codeOfPair high low :: pairUnits units
    else high :: pairUnits (low :: units)

/-- The numbers of four bytes each; none if bytes are left. -/
def units32? (order : ByteOrder) : List Nat → Option (List Nat)
  | [] => some []
  | a :: b :: c :: d :: bytes => (units32? order bytes).map (order.number [a, b, c, d] :: ·)
  | _ => none

/-- The characters of code points; none if one is beyond the last.  Halves of pairs are read
as `half`, or not at all. -/
def charsOfCodes? (half : Option Char) : List Nat → Option (List Char)
  | [] => some []
  | n :: codes => do
    let c ← if isHalf n then half else if n < 0x110000 then some (Char.ofNat n) else none
    let cs ← charsOfCodes? half codes
    return c :: cs

/-- The text that bytes are in an encoding.  In UTF-8 a byte order mark at the front is no
part of the text. -/
def Encoding.decode? (half : Option Char) (bytes : List Nat) : Encoding → Option (List Char)
  | utf8 => some (dropMark (decodeUtf8 bytes))
  | utf16 order => (units16? order bytes).bind fun units => charsOfCodes? half (pairUnits units)
  | utf32 order => (units32? order bytes).bind (charsOfCodes? half)

/-- What was written in UTF-8 is read in UTF-8, without a mark. -/
theorem decode?_utf8 (half : Option Char) (cs : List Char) :
    Encoding.utf8.decode? half (utf8Bytes cs) = some (dropMark cs) := by
  rw [Encoding.decode?, decodeUtf8_utf8Bytes]

/-! ## Which encoding -/

/-- The encoding of bytes whose first character is ASCII. -/
def Encoding.ofFirst : List Nat → Encoding
  | [a, b] => if a = 0 then utf16 .big else if b = 0 then utf16 .little else utf8
  | a :: b :: c :: d :: _ =>
    if a = 0 then if b = 0 then utf32 .big else utf16 .big
    else if b = 0 then if c = 0 ∧ d = 0 then utf32 .little else utf16 .little
    else utf8
  | _ => utf8

/-- The encoding of bytes whose first two characters are ASCII, as far as four bytes hold
them. -/
def Encoding.ofFirstTwo : List Nat → Encoding
  | a :: b :: c :: d :: _ =>
    if a = 0 ∧ b ≠ 0 ∧ c = 0 ∧ d ≠ 0 then utf16 .big
    else if a ≠ 0 ∧ b = 0 ∧ c ≠ 0 ∧ d = 0 then utf16 .little
    else if a = 0 ∧ b = 0 ∧ c = 0 ∧ d ≠ 0 then utf32 .big
    else if a ≠ 0 ∧ b = 0 ∧ c = 0 ∧ d = 0 then utf32 .little
    else utf8
  | _ => utf8

/-- Without zeros the encoding is UTF-8, by the first two characters. -/
theorem ofFirstTwo_of_not_mem {bytes : List Nat} (h : 0 ∉ bytes) :
    Encoding.ofFirstTwo bytes = .utf8 := by
  unfold Encoding.ofFirstTwo
  split <;> grind

end PodPlacement.Text
