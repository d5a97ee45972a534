/-!
# UTF-8

The bytes of a text in UTF-8, and the text of bytes that need not be such a form.  A byte is
a number below 256.  Bytes that begin a character and do not end it stand for one
replacement character, and so does every byte that begins none.

    decodeUtf8 (utf8Bytes cs) = cs                        (decodeUtf8_utf8Bytes)
    cs.length ≤ (utf8Bytes cs).length                     (length_le_length_utf8Bytes)
-/

namespace PodPlacement.Text

/-! ## To bytes -/

def utf8Char (c : Char) : List Nat :=
  let n := c.toNat
  if n < 0x80 then [n]
  else if n < 0x800 then [0xC0 + n / 64, 0x80 + n % 64]
  else if n < 0x10000 then [0xE0 + n / 4096, 0x80 + n / 64 % 64, 0x80 + n % 64]
  else [0xF0 + n / 262144, 0x80 + n / 4096 % 64, 0x80 + n / 64 % 64, 0x80 + n % 64]

def utf8Bytes (cs : List Char) : List Nat := cs.flatMap utf8Char

/-! ## From bytes -/

/-- The character that stands for what cannot be read. -/
def replacement : Char := Char.ofNat 0xFFFD

/-- A character of which some bytes were read: the number that they make, how many bytes are
missing, and the least and the greatest that the next one may be. -/
structure Started where
  value : Nat
  missing : Nat
  low : Nat
  high : Nat

/-- The character that a byte begins; none for the byte of a whole character and for one that
begins no character.  The bounds leave out long forms, halves of pairs, and what is beyond
the last character. -/
def started? (b : Nat) : Option Started :=
  if b < 0xC2 then none
  else if b < 0xE0 then some ⟨b - 0xC0, 1, 0x80, 0xBF⟩
  else if b < 0xF0 then
    some ⟨b - 0xE0, 2, if b = 0xE0 then 0xA0 else 0x80, if b = 0xED then 0x9F else 0xBF⟩
  else if b < 0xF5 then
    some ⟨b - 0xF0, 3, if b = 0xF0 then 0x90 else 0x80, if b = 0xF4 then 0x8F else 0xBF⟩
  else none

/-- What a byte at the beginning of a character completes, and what it begins. -/
def openWith (b : Nat) : List Char × Option Started :=
  match started? b with
  | some s => ([], some s)
  | none => ([if b < 0x80 then Char.ofNat b else replacement], none)

/-- What a byte completes and begins after the bytes of a started character. -/
def Started.next (s : Started) (b : Nat) : List Char × Option Started :=
  if s.low ≤ b ∧ b ≤ s.high then
    let value := s.value * 64 + (b - 0x80)
    if s.missing ≤ 1 then ([Char.ofNat value], none)
    else ([], some ⟨value, s.missing - 1, 0x80, 0xBF⟩)
  else
    let opened := openWith b
    (replacement :: opened.1, opened.2)

/-- The text of bytes after those of a started character. -/
def decodeFrom : Option Started → List Nat → List Char
  | none, [] => []
  | some _, [] => [replacement]
  | state, b :: bs =>
    let reached := match state with
      | none => openWith b
      | some s => s.next b
    reached.1 ++ decodeFrom reached.2 bs

def decodeUtf8 (bytes : List Nat) : List Char := decodeFrom none bytes

/-! ## There and back -/

/-- A byte may begin a character. -/
theorem decodeFrom_cons_of_started {s : Started} {b : Nat} (h : started? b = some s)
    (bs : List Nat) : decodeFrom none (b :: bs) = decodeFrom (some s) bs := by
  simp [decodeFrom, openWith, h]

/-- A byte that may come next and is not the last adds its six bits. -/
theorem decodeFrom_cons_of_mem {low high b : Nat} (hl : low ≤ b) (hh : b ≤ high)
    (value missing : Nat) (bs : List Nat) :
    decodeFrom (some ⟨value, missing + 2, low, high⟩) (b :: bs) =
      decodeFrom (some ⟨value * 64 + (b - 0x80), missing + 1, 0x80, 0xBF⟩) bs := by
  simp [decodeFrom, Started.next, hl, hh]

/-- A byte that may come next and is the last completes the character. -/
theorem decodeFrom_cons_of_mem_last {low high b : Nat} (hl : low ≤ b) (hh : b ≤ high)
    (value : Nat) (bs : List Nat) :
    decodeFrom (some ⟨value, 1, low, high⟩) (b :: bs) =
      Char.ofNat (value * 64 + (b - 0x80)) :: decodeFrom none bs := by
  simp [decodeFrom, Started.next, hl, hh]

/-- The bytes of a character are read as the character. -/
theorem decodeFrom_utf8Char (c : Char) (bytes : List Nat) :
    decodeFrom none (utf8Char c ++ bytes) = c :: decodeFrom none bytes := by
  have hv : c.toNat < 0xD800 ∨ 0xDFFF < c.toNat ∧ c.toNat < 0x110000 := c.valid
  have hc : ∀ n, n = c.toNat → Char.ofNat n = c := fun n h => h ▸ Char.ofNat_toNat c
  unfold utf8Char
  generalize c.toNat = n at hv hc
  simp only
  split
  · next h =>
    have hs : started? n = none := by simp [started?, Nat.lt_trans h (by decide : 0x80 < 0xC2)]
    simp [decodeFrom, openWith, hs, h, hc n rfl]
  · next h1 =>
    split
    · next h2 =>
      have hs : started? (0xC0 + n / 64) = some ⟨n / 64, 1, 0x80, 0xBF⟩ := by
        unfold started?
        rw [if_neg (by omega), if_pos (by omega), Nat.add_sub_cancel_left]
      have hl : (0x80 : Nat) ≤ 0x80 + n % 64 := by omega
      have hh : 0x80 + n % 64 ≤ 0xBF := by omega
      have he : n / 64 * 64 + (0x80 + n % 64 - 0x80) = n := by omega
      rw [List.cons_append, decodeFrom_cons_of_started hs, List.cons_append,
        decodeFrom_cons_of_mem_last hl hh, hc _ he, List.nil_append]
    · next h2 =>
      have hl : (0x80 : Nat) ≤ 0x80 + n % 64 := by omega
      have hh : 0x80 + n % 64 ≤ 0xBF := by omega
      split
      · next h3 =>
        obtain ⟨low, high, hs, h4, h5⟩ : ∃ low high,
            started? (0xE0 + n / 4096) = some ⟨n / 4096, 2, low, high⟩ ∧
              low ≤ 0x80 + n / 64 % 64 ∧ 0x80 + n / 64 % 64 ≤ high := by
          unfold started?
          rw [if_neg (by omega), if_neg (by omega), if_pos (by omega), Nat.add_sub_cancel_left]
          exact ⟨_, _, rfl, by split <;> omega, by split <;> omega⟩
        have he : (n / 4096 * 64 + (0x80 + n / 64 % 64 - 0x80)) * 64
            + (0x80 + n % 64 - 0x80) = n := by
          omega
        rw [List.cons_append, decodeFrom_cons_of_started hs, List.cons_append,
          decodeFrom_cons_of_mem h4 h5, List.cons_append, decodeFrom_cons_of_mem_last hl hh,
          hc _ he, List.nil_append]
      · next h3 =>
        obtain ⟨low, high, hs, h4, h5⟩ : ∃ low high,
            started? (0xF0 + n / 262144) = some ⟨n / 262144, 3, low, high⟩ ∧
              low ≤ 0x80 + n / 4096 % 64 ∧ 0x80 + n / 4096 % 64 ≤ high := by
          unfold started?
          rw [if_neg (by omega), if_neg (by omega), if_neg (by omega), if_pos (by omega),
            Nat.add_sub_cancel_left]
          exact ⟨_, _, rfl, by split <;> omega, by split <;> omega⟩
        have h6 : (0x80 : Nat) ≤ 0x80 + n / 64 % 64 := by omega
        have h7 : 0x80 + n / 64 % 64 ≤ 0xBF := by omega
        have he : ((n / 262144 * 64 + (0x80 + n / 4096 % 64 - 0x80)) * 64 +
            (0x80 + n / 64 % 64 - 0x80)) * 64 + (0x80 + n % 64 - 0x80) = n := by
          omega
        rw [List.cons_append, decodeFrom_cons_of_started hs, List.cons_append,
          decodeFrom_cons_of_mem h4 h5, List.cons_append, decodeFrom_cons_of_mem h6 h7,
          List.cons_append, decodeFrom_cons_of_mem_last hl hh, hc _ he, List.nil_append]

/-- The bytes of a text are read as the text. -/
theorem decodeUtf8_utf8Bytes (cs : List Char) : decodeUtf8 (utf8Bytes cs) = cs := by
  unfold decodeUtf8 utf8Bytes
  induction cs with
  | nil => rfl
  | cons c cs ih => rw [List.flatMap_cons, decodeFrom_utf8Char, ih]

/-! ## How many bytes, and which -/

theorem zero_not_mem_utf8Char {c : Char} (h : c ≠ '\x00') : 0 ∉ utf8Char c := by
  have hcode : c.toNat ≠ 0 := fun hzero => h (by rw [← Char.ofNat_toNat c, hzero])
  unfold utf8Char
  dsimp only
  split
  · simpa using Ne.symm hcode
  · split
    · simp
      omega
    · split <;> simp <;> omega

theorem zero_not_mem_utf8Bytes {cs : List Char} (h : '\x00' ∉ cs) : 0 ∉ utf8Bytes cs := by
  intro hmem
  obtain ⟨c, hc, hzero⟩ := List.mem_flatMap.1 hmem
  exact zero_not_mem_utf8Char (fun heq => h (heq ▸ hc)) hzero

theorem length_le_length_utf8Bytes (cs : List Char) : cs.length ≤ (utf8Bytes cs).length := by
  induction cs with
  | nil => exact Nat.le_refl 0
  | cons c cs ih =>
    have hchar : 1 ≤ (utf8Char c).length := by
      unfold utf8Char
      dsimp only
      split
      · exact Nat.le_refl 1
      · split
        · exact Nat.le_add_left 1 1
        · split <;> exact Nat.le_add_left 1 _
    show _ ≤ (utf8Char c ++ utf8Bytes cs).length
    rw [List.length_append, List.length_cons]
    omega

end PodPlacement.Text
