import PodPlacement.Host.Alphabet
import PodPlacement.Host.Composition
import PodPlacement.Host.Punycode
import PodPlacement.Text.LowerCase
import PodPlacement.Text.Address

/-!
# Names of hosts

Which names with characters beyond ASCII are names of hosts.  A name is a row of labels with
one of four points between any two, and may end in a point.  The letters of a label are small
and composed with their marks, and it is written in one direction.
-/

namespace PodPlacement.Host

open Text

/-! ## Characters in their context -/

def isArabicDigit (c : Char) : Bool := inRanges [(0x660, 0x669)] c

/-- The Arabic digits of the east. -/
def isEasternDigit (c : Char) : Bool := inRanges [(0x6F0, 0x6F9)] c

/-- Whether a test holds of the nearest of some characters, where marks without room are no
neighbours. -/
def nearest (test : Char → Bool) (cs : List Char) : Bool :=
  (cs.dropWhile isNonspacing).head?.any test

/-- Whether a character may stand in a label between others, of which those before it are in
reverse. -/
def fits (before : List Char) (c : Char) (after : List Char) : Bool :=
  let others := before ++ after
  if c = '·' then before.head? == some 'l' && after.head? == some 'l'
  else if c.toNat = 0x375 then after.head?.any (inRanges greekRanges)
  else if inRanges [(0x5F3, 0x5F4)] c then before.head?.any (inRanges [(0x591, 0x5F4)])
  else if c = '・' then others.any (inRanges japaneseRanges)
  else if isArabicDigit c then !others.any isEasternDigit
  else if isEasternDigit c then !others.any isArabicDigit
  else if c.toNat = 0x200D then before.head?.any isJoiner
  else if c.toNat = 0x200C then
    before.head?.any isJoiner || (nearest isJoinedAhead before && nearest isJoinedBack after)
  else isAllowed c

/-- Whether each of some characters may stand where it does; those before them are in
reverse. -/
def allFit (before : List Char) : List Char → Bool
  | [] => true
  | c :: cs => fits before c cs && allFit (c :: before) cs

/-! ## Direction -/

/-- Digits that go with letters from right to left only. -/
def isLeftwardDigit (c : Char) : Bool := inRanges [(0x660, 0x669), (0x10D30, 0x10D39)] c

/-- Digits that go with letters of both directions. -/
def isFreeDigit (c : Char) : Bool := inRanges [(0x30, 0x39), (0x6F0, 0x6F9)] c

/-- Signs without a direction. -/
def isNeutral (c : Char) : Bool :=
  inRanges [(0x2D, 0x2D), (0xB7, 0xB7), (0x2B9, 0x2BA), (0x2C6, 0x2CF), (0x2EC, 0x2EC),
    (0x375, 0x375), (0x200C, 0x200D), (0x2E2F, 0x2E2F), (0x30FB, 0x30FB), (0xA67F, 0xA67F),
    (0xA717, 0xA71F), (0xA788, 0xA788)] c

def hasOneDirection (cs : List Char) : Bool :=
  let ends (c : Char) : Bool := isLeftward c || isLeftwardDigit c || isFreeDigit c
  if cs.any fun c => isLeftward c || isLeftwardDigit c then
    cs.head?.any isLeftward && cs.all (fun c => ends c || isNeutral c || isNonspacing c) &&
      nearest ends cs.reverse &&
      !(cs.any isLeftwardDigit && cs.any isFreeDigit)
  else true

/-! ## Labels -/

def hasGoodHyphens (cs : List Char) : Bool :=
  cs.head? != some '-' && cs.getLast? != some '-' && (cs.drop 2).take 2 != ['-', '-']

def isLabel (cs : List Char) : Bool :=
  !cs.isEmpty && hasGoodHyphens cs && !cs.head?.any isMark && allFit [] cs && isComposed cs &&
    hasOneDirection cs

/-- What labels in their ASCII form begin with. -/
def asciiMark : List Char := "xn--".toList

def isAsciiForm (cs : List Char) : Bool :=
  let code := cs.drop asciiMark.length
  asciiMark.isPrefixOf cs && !code.isEmpty && code.getLast? != some '-' &&
    (Punycode.decode? code).any isLabel

/-- The ASCII form of a label; none if a text is no label. -/
def asciiLabel? (cs : List Char) : Option (List Char) :=
  let isAscii := cs.all fun c => c.toNat < 0x80
  let form := if isAscii then cs else asciiMark ++ Punycode.encode cs
  if (isLabel cs || (isAscii && isAsciiForm cs)) && form.length ≤ 63 then some form else none

/-! ## Names -/

def isPoint (c : Char) : Bool := c == '.' || c == '。' || c == '．' || c == '｡'

def labelsOf (cs : List Char) : List (List Char) :=
  let labels := pieces '.' (cs.map fun c => if isPoint c then '.' else c)
  if labels.getLast? = some [] then labels.dropLast else labels

/-- No name is longer, in its ASCII form and without a point at the end. -/
def nameLimit : Nat := 253

/-- Whether a text is the name of a host; small and capital letters are not told apart. -/
def isName (cs : List Char) : Bool :=
  let small := (lowerCase (String.ofList cs)).toList
  let labels := labelsOf small
  match labels.mapM asciiLabel? with
  | none => false
  | some forms =>
    !forms.isEmpty && small.length ≤ nameLimit + 1 && (joined '.' forms).length ≤ nameLimit

end PodPlacement.Host
