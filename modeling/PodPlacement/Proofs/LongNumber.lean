import PodPlacement.Exchange

/-!
# Numbers that are too long

A whole number with more digits than the limit is not read, and neither is anything that it
stands in: an answer that has such a number in one place only is no answer.

    digitLimit < whole.length → readNumber ⟨position, whole ++ rest⟩ =
      .error (.wholeTooLong whole.length)                               (readNumber_of_digits)
    digitLimit < digits → readBody (room + 3) (numbered digits) =
      .error (.badValue (tooLongText digits))
                                                                           (readBody_numbered)
-/

namespace PodPlacement

open Decimal Json Text

/-! ## Numbers -/

/-- Whether no number goes on with a text. -/
def EndsNumber (rest : List Char) : Prop :=
  ∀ c, rest.head? = some c → asciiDigit? c = none ∧ c ≠ '.' ∧ c ≠ 'e' ∧ c ≠ 'E'

/-- Digits that begin with another than zero are a whole number, if it ends after them. -/
theorem leadingWhole_append {c : Char} {digits rest : List Char} (hzero : c ≠ '0')
    (hdigits : ∀ d ∈ c :: digits, (asciiDigit? d).isSome = true) (hrest : EndsNumber rest) :
    leadingWhole (c :: digits ++ rest) = c :: digits := by
  have hnone : rest.takeWhile (fun d => (asciiDigit? d).isSome) = [] := by
    cases rest with
    | nil => rfl
    | cons d rest => simp [(hrest d rfl).1]
  have htake : leadingWhole (c :: digits ++ rest) =
      (c :: digits ++ rest).takeWhile fun d => (asciiDigit? d).isSome := by
    rw [List.cons_append]
    unfold leadingWhole
    split
    · next heq => exact absurd (List.cons.inj heq).1 hzero
    · rfl
  rw [htake, List.takeWhile_append_of_pos hdigits, hnone, List.append_nil]

/-- No whole number of more digits than are read is read. -/
theorem readNumber_of_digits (position : Nat) {whole rest : List Char}
    (hwhole : leadingWhole (whole ++ rest) = whole) (hsign : (whole ++ rest).head? ≠ some '-')
    (hrest : EndsNumber rest) (hlong : digitLimit < whole.length) :
    readNumber ⟨position, whole ++ rest⟩ = .error (.wholeTooLong whole.length) := by
  have hfilled : whole.isEmpty = false := by
    cases whole with
    | nil => cases hlong
    | cons => rfl
  have hafter : (Cursor.mk position (whole ++ rest)).advance whole.length =
      ⟨position + whole.length, rest⟩ := by
    unfold Cursor.advance
    rw [List.drop_left]
  have hfraction (p : Nat) : (Cursor.mk p rest).fractionDigits = [] := by
    unfold Cursor.fractionDigits
    split
    · next heq =>
      change rest = _ at heq
      exact absurd rfl (hrest '.' (by rw [heq]; rfl)).2.1
    · rfl
  have hexponent (p : Nat) : (Cursor.mk p rest).exponent? = none := by
    unfold Cursor.exponent?
    split
    · next e tail heq =>
      change rest = _ at heq
      obtain ⟨-, -, he, hE⟩ := hrest e (by rw [heq]; rfl)
      simp [he, hE]
    · rfl
  unfold readNumber
  simp only [Cursor.wholeDigits, beq_false_of_ne hsign, Bool.false_eq_true, if_false, hwhole,
    hfilled, hafter, hfraction, hexponent, List.isEmpty_nil, if_true, hlong]

/-! ## Answers -/

/-- The front of a body that lists two recommendations, up to a number in the second. -/
def beforeNumber : String := "\x7b\"recommendations\":[\x7b\x7d,\x7b\"x\":"

/-- Such a body, with a number of so many digits. -/
def numbered (digits : Nat) : String :=
  beforeNumber ++ String.ofList (List.replicate digits '1') ++ "\x7d]\x7d"

theorem toList_numbered (digits : Nat) : (numbered digits).toList =
    beforeNumber.toList ++ (List.replicate digits '1' ++ ['}', ']', '}']) := by
  have hend : "\x7d]\x7d".toList = ['}', ']', '}'] := by decide +kernel
  have hones : (String.ofList (List.replicate digits '1')).toList = List.replicate digits '1' :=
    String.toList_ofList
  unfold numbered
  rw [String.append_assoc, String.toList_append, String.toList_append, hones, hend]

/-- The values around the number are entered one by one, and its error is theirs. -/
theorem readValue_numbered (fuel room : Nat) {digits : Nat} (hlong : digitLimit < digits) :
    readValue (fuel + 20) (room + 3)
        ⟨0, beforeNumber.toList ++ (List.replicate digits '1' ++ ['}', ']', '}'])⟩ =
      .error (.wholeTooLong digits) := by
  obtain ⟨n, rfl⟩ : ∃ n, digits = n + 1 := ⟨digits - 1, by omega⟩
  have hrest : EndsNumber ['}', ']', '}'] := by
    intro c hc
    obtain rfl := Option.some.inj hc
    decide
  have hwhole : leadingWhole (List.replicate (n + 1) '1' ++ ['}', ']', '}']) =
      List.replicate (n + 1) '1' := by
    refine leadingWhole_append (by decide) (fun d hd => ?_) hrest
    rw [← List.replicate_succ] at hd
    rw [List.eq_of_mem_replicate hd]
    decide
  have hnumber := readNumber_of_digits 28 hwhole nofun hrest (by simpa using hlong)
  rw [List.length_replicate] at hnumber
  rw [List.replicate_succ, List.cons_append] at hnumber ⊢
  simp [beforeNumber, readValue, readMembers, readItems, readString, readStringFrom,
    readWord?, words, Cursor.skipBlanks, Cursor.dropWhile, Cursor.advance, isJsonBlank, hnumber]

/-- Such a body is not read at all if its number is too long. -/
theorem readBody_numbered (room : Nat) {digits : Nat} (hlong : digitLimit < digits) :
    readBody (room + 3) (numbered digits) = .error (.badValue (tooLongText digits)) := by
  have hlist := toList_numbered digits
  have hhead : (numbered digits).toList.head? ≠ some mark := by
    have hfront : beforeNumber.toList.head? = some '{' := by decide +kernel
    rw [hlist, List.head?_append, hfront]
    show some '{' ≠ some mark
    decide
  have hplain : decodeAnswer (numbered digits) = numbered digits := by
    refine decodeAnswer_of_plain ?_ ?_ hhead
    · rw [hlist, List.length_append]
      exact Nat.lt_of_lt_of_le (by decide +kernel) (Nat.le_add_right _ _)
    · rw [hlist, List.mem_append, List.mem_append]
      rintro (hfront | hdigit | hback)
      · exact absurd hfront (by decide +kernel)
      · exact absurd (List.eq_of_mem_replicate hdigit) (by decide)
      · exact absurd hback (by decide)
  have hstart : (Cursor.mk 0 (numbered digits).toList).skipBlanks =
      ⟨0, beforeNumber.toList ++ (List.replicate digits '1' ++ ['}', ']', '}'])⟩ := by
    rw [hlist]
    simp [beforeNumber, Cursor.skipBlanks, Cursor.dropWhile, Cursor.advance, isJsonBlank]
  obtain ⟨fuel, hfuel⟩ : ∃ fuel, 2 * (numbered digits).toList.length + 2 = fuel + 20 := by
    have hlength : beforeNumber.toList.length = 28 := by decide +kernel
    rw [hlist, List.length_append, hlength]
    exact ⟨_, Nat.eq_add_of_sub_eq (by omega) rfl⟩
  have hparse : parse (room + 3) (numbered digits) = .error (.wholeTooLong digits) := by
    unfold parse
    dsimp only
    rw [hstart, hfuel, readValue_numbered fuel room hlong]
  unfold readBody parseUnmarked
  dsimp only
  rw [hplain, if_neg hhead, hparse]
  rfl

end PodPlacement
