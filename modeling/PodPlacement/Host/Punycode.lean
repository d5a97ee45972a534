import PodPlacement.Text.Address

/-!
# Punycode

The ASCII form of a label of a host name.  The ASCII characters come first, and after a hyphen
come numbers that say where each other character goes, in the order of their code points.  The
digits of a number are weighed by a bias that follows the numbers before it.
-/

namespace PodPlacement.Host.Punycode

open Text

/-! ## Numbers -/

/-- How many digits there are. -/
def base : Nat := 36

/-- A digit: the letters from 0 on, and then the decimal digits. -/
def digit (n : Nat) : Char := if n < 26 then Char.ofNat (97 + n) else Char.ofNat (22 + n)

/-- From which value on a digit at a place is not the last; the places go up by the base. -/
def threshold (bias place : Nat) : Nat :=
  if place ≤ bias then 1 else min 26 (place - bias)

theorem threshold_pos (bias place : Nat) : 1 ≤ threshold bias place := by
  unfold threshold
  split <;> omega

/-- The digits of a number from a place on. -/
def digitsFrom (bias place n : Nat) : List Char :=
  let t := threshold bias place
  if n < t then [digit n]
  else digit (t + (n - t) % (base - t)) :: digitsFrom bias (place + base) ((n - t) / (base - t))
termination_by n
decreasing_by
  have h := threshold_pos bias place
  exact Nat.lt_of_le_of_lt (Nat.div_le_self _ _) (by omega)

/-- A number made small by division, with the place that it reaches. -/
def reduce (n place : Nat) : Nat × Nat :=
  if 455 < n then reduce (n / 35) (place + base) else (n, place)
termination_by n
decreasing_by exact Nat.div_lt_self (by omega) (by omega)

/-- The bias after a number, of which `count` have been written. -/
def adapt (n count : Nat) (isFirst : Bool) : Nat :=
  let damped := if isFirst then n / 700 else n / 2
  let (rest, place) := reduce (damped + damped / count) 0
  place + base * rest / (rest + 38)

/-! ## Writing -/

/-- What has been written: the digits in reverse, the number to be written next, the bias, how
many characters are in place, and whether no number was written yet. -/
structure State where
  written : List Char
  next : Nat
  bias : Nat
  placed : Nat
  isFirst : Bool

/-- The state after a look at a character, when those below a code point are in place. -/
def State.pass (code : Nat) (s : State) (c : Char) : State :=
  if c.toNat < code then { s with next := s.next + 1 }
  else if c.toNat = code then
    { written := (digitsFrom s.bias base s.next).reverse ++ s.written
      next := 0
      bias := adapt s.next (s.placed + 1) s.isFirst
      placed := s.placed + 1
      isFirst := false }
  else s

/-- The state after the characters of code points, which rise from `low`. -/
def State.run (cs : List Char) (low : Nat) (s : State) : List Nat → State
  | [] => s
  | code :: codes =>
    let ready := { s with next := s.next + (code - low) * (s.placed + 1) }
    let passed := cs.foldl (State.pass code) ready
    run cs (code + 1) { passed with next := passed.next + 1 } codes

/-- Puts a number into a list that rises, once. -/
def insertOnce (n : Nat) : List Nat → List Nat
  | [] => [n]
  | m :: ms => if n < m then n :: m :: ms else if n = m then m :: ms else m :: insertOnce n ms

/-- The code points of the characters beyond ASCII, rising. -/
def codesOf (cs : List Char) : List Nat :=
  (cs.filter fun c => 0x80 ≤ c.toNat).foldr (fun c codes => insertOnce c.toNat codes) []

/-- The ASCII form of a label. -/
def encode (cs : List Char) : List Char :=
  let ascii := cs.filter fun c => c.toNat < 0x80
  let start : State := ⟨[], 0, 72, ascii.length, true⟩
  (if ascii.isEmpty then [] else ascii ++ ['-']) ++
    (State.run cs 0x80 start (codesOf cs)).written.reverse

/-! ## Reading -/

/-- The value of a digit; small and capital letters are not told apart. -/
def digitValue? (c : Char) : Option Nat :=
  if c.isLower then some (c.toNat - 97)
  else if c.isUpper then some (c.toNat - 65)
  else if c.isDigit then some (c.toNat - 22)
  else none

/-- The number at the front of some digits, and what follows it, when digits before these made
`sum` and those at this place count `weight` times. -/
def readNumber? (bias place weight sum : Nat) : List Char → Option (Nat × List Char)
  | [] => none
  | c :: cs =>
    match digitValue? c with
    | none => none
    | some d =>
      let t := threshold bias place
      let total := sum + d * weight
      if d < t then some (total, cs)
      else readNumber? bias (place + base) (weight * (base - t)) total cs

theorem length_lt_of_readNumber? {bias place weight sum n : Nat} {cs rest : List Char}
    (h : readNumber? bias place weight sum cs = some (n, rest)) : rest.length < cs.length := by
  induction cs generalizing place weight sum with
  | nil => cases h
  | cons c cs ih =>
    unfold readNumber? at h
    split at h
    · cases h
    · simp only at h
      split at h
      · cases h
        exact Nat.lt_succ_self _
      · exact Nat.lt_succ_of_lt (ih h)

/-- Puts the characters that numbers tell of among others.  The last of them has the code point
`code`, and the next can first be put at `place`. -/
def insertAll? (isFirst : Bool) (bias code place : Nat) (done numbers : List Char) :
    Option (List Char) :=
  if numbers.isEmpty then some done
  else
    match h : readNumber? bias base 1 0 numbers with
    | none => none
    | some (n, rest) =>
      have : rest.length < numbers.length := length_lt_of_readNumber? h
      let size := done.length + 1
      let code := code + (place + n) / size
      let place := (place + n) % size
      if code.isValidChar then
        insertAll? false (adapt n size isFirst) code (place + 1)
          (done.take place ++ Char.ofNat code :: done.drop place) rest
      else none
termination_by numbers.length

/-- The label of an ASCII form; none if a text is no such form. -/
def decode? (cs : List Char) : Option (List Char) :=
  let (ascii, numbers) := (cutLast? '-' cs).getD ([], cs)
  insertAll? true 72 0x80 0 ascii numbers

end PodPlacement.Host.Punycode
