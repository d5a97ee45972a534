import PodPlacement.Decimal.Numeral
import PodPlacement.Text.LowerCase
import PodPlacement.Validation.Checked

/-!
# Decoders

How the parts of a document are read from JSON.  Reading is lenient where the meaning is
clear: a numeral in a text is a number, a whole real number is a whole number, and yes and no
have several spellings.

    text (.string t) = valid t     whole (.whole n) = valid n     flag (.bool b) = valid b
    list d (.array (xs.map e)) = valid xs   when d (e x) = valid x          (list_map)
    list d input = valid as ↔ input = .array (as.map e)
      when d x = valid a ↔ x = e a                                 (list_eq_valid_iff)
-/

namespace PodPlacement

open Decimal Text

/-- A way to read a value from JSON. -/
abbrev Decoder (α : Type) := Json → Checked α

namespace Decoder

variable {α : Type}

/-! ## Texts, numbers and flags -/

def text : Decoder Text
  | .string t => .valid t
  | input => .fail .textExpected input

/-- What a text says, if it has no halves. -/
def reading (t : Text) (read : String → Checked α) : Checked α :=
  match t with
  | .proper s => read s
  | .broken _ _ _ => .fail .textUnreadable (.string t)

/-- The real numbers from here on, and their opposites, are too large for a whole number. -/
def realBound : Int := 0x8000000000000000

def wholeOfReal (x : Float) : Checked Int :=
  if !isFinite x then .fail .notFinite (.real x)
  else
    match wholeOfReal? x with
    | none => .fail .wholeWithFraction (.real x)
    | some n => if n.natAbs < realBound.natAbs then .valid n else .fail .wholeTooLarge (.real x)

def whole : Decoder Int
  | .whole n => .valid n
  | .bool b => .valid (if b then 1 else 0)
  | .real x => wholeOfReal x
  | .string t => reading t fun s =>
    match readWhole s.toList with
    | .ok n => .valid n
    | .error .unreadable => .fail .wholeUnreadable (.string s)
    | .error (.tooLong _) => .fail .wholeTooLarge (.string s)
  | input => .fail .wholeExpected input

def yesWords : List String := ["1", "t", "true", "y", "yes", "on"]

def noWords : List String := ["0", "f", "false", "n", "no", "off"]

def flag : Decoder Bool
  | .bool b => .valid b
  | .whole n =>
    if n = 1 then .valid true
    else if n = 0 then .valid false
    else if -realBound ≤ n ∧ n < realBound then .fail .flagUnreadable (.whole n)
    else .fail .flagExpected (.whole n)
  | .real x =>
    match wholeOfReal x with
    | .valid n =>
      if n = 1 then .valid true
      else if n = 0 then .valid false
      else .fail .flagUnreadable (.real x)
    | .faulty _ => .fail .flagExpected (.real x)
  | .string t => reading t fun s =>
    if yesWords.contains (asciiLower s) then .valid true
    else if noWords.contains (asciiLower s) then .valid false
    else .fail .flagUnreadable (.string s)
  | input => .fail .flagExpected input

/-- One of several texts, each with its meaning. -/
def choice (choices : List (String × α)) : Decoder α
  | .string t => reading t fun s =>
    match choices.lookup s with
    | some a => .valid a
    | none => .fail (.notListed (choices.map (·.1))) (.string s)
  | input => .fail (.notListed (choices.map (·.1))) input

/-- One text and no other. -/
def fixed (word : String) : Decoder Unit
  | .string t => reading t fun s =>
    if s = word then .valid () else .fail (.notFixed word) (.string s)
  | input => .fail (.notFixed word) input

/-! ## Lists and objects -/

def nullable (d : Decoder α) : Decoder (Option α)
  | .null => .valid none
  | input => (d input).map some

/-- The items of a list from a position on. -/
def items (d : Decoder α) : Nat → List Json → Checked (List α)
  | _, [] => .valid []
  | i, x :: xs =>
    ((Checked.valid List.cons).apply ((d x).within (.index i))).apply (items d (i + 1) xs)

def list (d : Decoder α) : Decoder (List α)
  | .array xs => items d 0 xs
  | input => .fail .listExpected input

/-- An object with any members. -/
def mapping : Decoder Members
  | .object members => .valid members
  | input => .fail .mappingExpected input

def required (key : String) (d : Decoder α) (members : Members) : Checked α :=
  match members.lookup (.proper key) with
  | some value => (d value).within (.key key)
  | none => (Checked.fail .missing (.object members)).within (.key key)

def optional (key : String) (default : α) (d : Decoder α) (members : Members) : Checked α :=
  match members.lookup (.proper key) with
  | some value => (d value).within (.key key)
  | none => .valid default

/-- One of several variants, the one that a member names. -/
def tagged (discriminator : String) (variants : List (String × Decoder α)) : Decoder α
  | .object members =>
    match members.lookup (.proper discriminator) with
    | none => .fail (.tagMissing discriminator) (.object members)
    | some tag =>
      let variant := match tag with
        | .string (.proper s) => (variants.lookup s).map (s, ·)
        | _ => none
      match variant with
      | some (s, d) => (d (.object members)).within (.key s)
      | none =>
        .fail (.tagUnknown discriminator tag.display.readable (variants.map (·.1)))
          (.object members)
  | input => .fail .noMembers input

/-! ## Reading what is written -/

@[simp] theorem text_string (t : Text) : text (.string t) = .valid t := rfl

@[simp] theorem whole_whole (n : Int) : whole (.whole n) = .valid n := rfl

@[simp] theorem flag_bool (b : Bool) : flag (.bool b) = .valid b := rfl

@[simp] theorem mapping_object (members : Members) :
    mapping (.object members) = .valid members := rfl

/-- Items that are read one by one are read together. -/
theorem items_map (d : Decoder α) (e : α → Json) (h : ∀ a, d (e a) = .valid a) (i : Nat)
    (xs : List α) : items d i (xs.map e) = .valid xs := by
  induction xs generalizing i with
  | nil => rfl
  | cons x xs ih => simp [items, h, ih]

theorem list_map (d : Decoder α) (e : α → Json) (h : ∀ a, d (e a) = .valid a) (xs : List α) :
    list d (.array (xs.map e)) = .valid xs :=
  items_map d e h 0 xs

theorem text_eq_valid_iff (input : Json) (t : Text) :
    text input = .valid t ↔ input = .string t := by
  cases input with
  | string t' => rw [text_string, Checked.valid.injEq, Json.string.injEq]
  | null | bool | whole | real | array | object => exact ⟨nofun, nofun⟩

theorem required_eq_valid_iff (key : String) (d : Decoder α) (members : Members) (a : α) :
    required key d members = .valid a ↔
      ∃ value, members.lookup (.proper key) = some value ∧ d value = .valid a := by
  unfold required
  cases members.lookup (.proper key) with
  | none => exact ⟨nofun, nofun⟩
  | some value => simp [Checked.within_eq_valid_iff]

theorem required_text_eq_valid_iff (key : String) (members : Members) (t : Text) :
    required key text members = .valid t ↔
      members.lookup (.proper key) = some (.string t) := by
  rw [required_eq_valid_iff]
  simp only [text_eq_valid_iff, exists_eq_right]

/-- A member with a default is read, or it is not there and the default is taken. -/
theorem optional_eq_valid_iff (key : String) (default : α) (d : Decoder α) (members : Members)
    (a : α) : optional key default d members = .valid a ↔
      (∃ value, members.lookup (.proper key) = some value ∧ d value = .valid a) ∨
      members.lookup (.proper key) = none ∧ default = a := by
  unfold optional
  cases members.lookup (.proper key) with
  | none => simp
  | some value => simp [Checked.within_eq_valid_iff]

theorem mapping_eq_valid_iff (input : Json) (members : Members) :
    mapping input = .valid members ↔ input = .object members := by
  cases input with
  | object ms => rw [mapping_object, Checked.valid.injEq, Json.object.injEq]
  | null | bool | whole | real | string | array => exact ⟨nofun, nofun⟩

/-- If each item is read from its one written form alone, so are items together. -/
theorem items_eq_valid_iff {d : Decoder α} {e : α → Json} (h : ∀ x a, d x = .valid a ↔ x = e a)
    (i : Nat) (xs : List Json) (as : List α) : items d i xs = .valid as ↔ xs = as.map e := by
  constructor
  · intro hitems
    induction xs generalizing i as with
    | nil =>
      obtain rfl : [] = as := Checked.valid.inj hitems
      rfl
    | cons x xs ih =>
      obtain ⟨g, rest, hg, hrest, rfl⟩ := Checked.apply_eq_valid_iff.1 hitems
      obtain ⟨cons, a, hcons, ha, rfl⟩ := Checked.apply_eq_valid_iff.1 hg
      obtain rfl : List.cons = cons := Checked.valid.inj hcons
      rw [List.map_cons, (h x a).1 (Checked.within_eq_valid_iff.1 ha), ih (i + 1) rest hrest]
  · rintro rfl
    exact items_map d e (fun a => (h (e a) a).2 rfl) i as

/-- If each item is read from its one written form alone, so is a list. -/
theorem list_eq_valid_iff {d : Decoder α} {e : α → Json} (h : ∀ x a, d x = .valid a ↔ x = e a)
    (input : Json) (as : List α) : list d input = .valid as ↔ input = .array (as.map e) := by
  cases input with
  | array xs =>
    rw [Json.array.injEq]
    exact items_eq_valid_iff h 0 xs as
  | null | bool | whole | real | string | object => exact ⟨nofun, nofun⟩

end Decoder

/-! ## Documents -/

/-- A kind of document: the name it goes by in messages, how its members are read, and how
it is written. -/
class Document (α : Type) where
  /-- The name of the kind. -/
  kind : String
  /-- The document with given members. -/
  ofMembers : Members → Checked α
  /-- The members of a document, all of them and in order. -/
  toMembers : α → Members

namespace Document

variable {α : Type} [Document α]

def read : Decoder α
  | .object members => ofMembers members
  | input => .fail (.notDocument (kind α)) input

def write (a : α) : Json := .object (toMembers a)

/-- A document is read from the objects that have its members, and from nothing else. -/
theorem read_eq_valid_iff (input : Json) (a : α) :
    (read input : Checked α) = .valid a ↔
      ∃ members, input = .object members ∧ ofMembers members = Checked.valid a := by
  cases input with
  | object members => simp [read]
  | null | bool | whole | real | string | array =>
    exact ⟨nofun, fun ⟨_, h, _⟩ => nomatch h⟩

end Document

/-- The JSON form of a value that may be absent. -/
def Json.ofOption {α : Type} (e : α → Json) : Option α → Json
  | some a => e a
  | none => .null

/-- A text that may be null is read from its written form and from nothing else. -/
theorem Decoder.nullable_text_eq_valid_iff (input : Json) (t : Option Text) :
    nullable text input = .valid t ↔ input = .ofOption .string t := by
  cases input with
  | string t' => cases t <;> simp [nullable, Json.ofOption]
  | null => cases t <;> simp [nullable, Json.ofOption]
  | bool | whole | real | array | object => cases t <;> exact ⟨nofun, nofun⟩

end PodPlacement
