import ChunkRelay.Command.Capacity
import ChunkRelay.Proofs.Text.Numerals

/-! Which texts are capacities. A text that writes a number is read as it if the
number is one at least and fits in 64 bits. Every other text is refused, for the
reason that applies to it. -/

set_option autoImplicit false

namespace ChunkRelay

/-- A text writes a number in decimal, or in hexadecimal behind `0x`. -/
inductive CapacityNumeral : String → Nat → Prop where
  | decimal {text : String} {value : Nat} :
      Text.Numeral 10 text.toList value → CapacityNumeral text value
  | hexadecimal {digits : String} {value : Nat} :
      Text.Numeral 16 digits.toList value → CapacityNumeral ("0x" ++ digits) value

section Capacities

variable {text reason : String} {value : Nat}

/-- What follows `0x` is no part of a decimal numeral. -/
theorem capacityNumeral_iff_of_marked {digits : List Char}
    (marked : text.toList = '0' :: 'x' :: digits) :
    CapacityNumeral text value ↔ Text.Numeral 16 digits value := by
  constructor
  · intro numeral
    cases numeral with
    | decimal written =>
      rw [marked] at written
      cases written with
      | bare _ denotes =>
        exact absurd (denotes.subset (List.mem_cons_of_mem _ List.mem_cons_self)) (by decide)
    | hexadecimal written =>
      rw [String.toList_append] at marked
      cases marked
      exact written
  · intro written
    have whole : text = "0x" ++ String.ofList digits := by
      apply String.toList_injective
      simp [marked]
    rw [whole]
    exact .hexadecimal (by rwa [String.toList_ofList])

theorem capacityNumeral_iff_of_unmarked
    (unmarked : ∀ digits, text.toList ≠ '0' :: 'x' :: digits) :
    CapacityNumeral text value ↔ Text.Numeral 10 text.toList value := by
  constructor
  · intro numeral
    cases numeral with
    | decimal written => exact written
    | hexadecimal _ => exact absurd String.toList_append (unmarked _)
  · exact .decimal

/-- A text writes one number at most. -/
theorem CapacityNumeral.unique {other : Nat} (numeral : CapacityNumeral text value)
    (also : CapacityNumeral text other) : value = other := by
  by_cases marked : ∃ digits, text.toList = '0' :: 'x' :: digits
  · obtain ⟨digits, marked⟩ := marked
    rw [capacityNumeral_iff_of_marked marked] at numeral also
    exact numeral.unique also
  · rw [not_exists] at marked
    rw [capacityNumeral_iff_of_unmarked marked] at numeral also
    exact numeral.unique also

/-- A numeral whose number fits in 64 bits is read as that number. -/
theorem readCapacityDigits_eq_ok_iff :
    readCapacityDigits text = .ok value ↔ CapacityNumeral text value ∧ value ≤ maxUnsigned := by
  unfold readCapacityDigits
  split
  · next digits marked =>
    rw [capacityNumeral_iff_of_marked marked, ← Text.readNatural_eq_ok_iff]
    cases Text.readNatural 16 maxUnsigned digits <;> simp [Except.mapError]
  · next unmarked =>
    rw [capacityNumeral_iff_of_unmarked unmarked, ← Text.readNatural_eq_ok_iff]
    cases Text.readNatural 10 maxUnsigned text.toList <;> simp [Except.mapError]

/-- The words in which a text is refused quote it whole. -/
def capacityRefusal (text : String) : String :=
  (if text.startsWith "0x" then "invalid hex value '" else "invalid number '") ++ text ++ "'"

theorem eq_of_mapError {ε α : Type} {result : Except ε α} {words : String}
    (refused : (result.mapError fun _ => words) = .error reason) : reason = words := by
  cases result with
  | error cause =>
    cases refused
    rfl
  | ok value => cases refused

theorem eq_capacityRefusal (refused : readCapacityDigits text = .error reason) :
    reason = capacityRefusal text := by
  have starts : text.startsWith "0x" = true ↔ ∃ digits, text.toList = '0' :: 'x' :: digits := by
    rw [String.startsWith_string_iff]
    exact exists_congr fun _ => eq_comm
  unfold readCapacityDigits at refused
  unfold capacityRefusal
  split at refused
  · next digits marked =>
    rw [if_pos (starts.mpr ⟨digits, marked⟩)]
    exact eq_of_mapError refused
  · next unmarked =>
    rw [if_neg fun marked => (starts.mp marked).elim unmarked]
    exact eq_of_mapError refused

/-- A text is refused in those words if it is no numeral or that of too large a number. -/
theorem readCapacityDigits_eq_error_iff : readCapacityDigits text = .error reason ↔
    (∀ value, CapacityNumeral text value → maxUnsigned < value) ∧
      reason = capacityRefusal text := by
  constructor
  · intro refused
    refine ⟨fun value numeral => ?_, eq_capacityRefusal refused⟩
    by_contra fits
    have read := readCapacityDigits_eq_ok_iff.mpr ⟨numeral, Nat.le_of_not_lt fits⟩
    cases refused.symm.trans read
  · rintro ⟨large, rfl⟩
    cases outcome : readCapacityDigits text with
    | ok value =>
      obtain ⟨numeral, fits⟩ := readCapacityDigits_eq_ok_iff.mp outcome
      exact absurd (large value numeral) (Nat.not_lt.mpr fits)
    | error words => rw [eq_capacityRefusal outcome]

/-- Of the numbers that are read, zero alone is no capacity. -/
theorem readCapacity_eq : readCapacity text =
    (readCapacityDigits text).bind fun value =>
      if value = 0 then .error "capacity must be at least one byte" else .ok value := by
  unfold readCapacity
  apply congrArg (readCapacityDigits text).bind
  funext value
  by_cases zero : value = 0
  · rw [if_pos zero, if_pos zero]
    rfl
  · rw [if_neg zero, if_neg zero]
    rfl

theorem readCapacity_eq_ok_iff : readCapacity text = .ok value ↔
    CapacityNumeral text value ∧ 1 ≤ value ∧ value ≤ maxUnsigned := by
  rw [and_left_comm, ← readCapacityDigits_eq_ok_iff, readCapacity_eq]
  cases readCapacityDigits text with
  | error words => simp [Except.bind]
  | ok number =>
    rw [Except.bind]
    split
    · next zero =>
      subst zero
      constructor
      · intro accepted
        cases accepted
      · rintro ⟨positive, ⟨⟩⟩
        exact absurd positive (by decide)
    · next positive =>
      constructor
      · rintro ⟨⟩
        exact ⟨Nat.one_le_iff_ne_zero.mpr positive, rfl⟩
      · rintro ⟨_, same⟩
        exact same

theorem readCapacity_eq_error_iff : readCapacity text = .error reason ↔
    CapacityNumeral text 0 ∧ reason = "capacity must be at least one byte" ∨
      (∀ value, CapacityNumeral text value → maxUnsigned < value) ∧
        reason = capacityRefusal text := by
  have zero : CapacityNumeral text 0 ↔ readCapacityDigits text = .ok 0 := by
    rw [readCapacityDigits_eq_ok_iff, and_iff_left (Nat.zero_le _)]
  rw [zero, ← readCapacityDigits_eq_error_iff, readCapacity_eq]
  cases readCapacityDigits text with
  | error words => simp [Except.bind]
  | ok number => by_cases none : number = 0 <;> simp [Except.bind, none, eq_comm]

end Capacities

/-- A text writes one number at most, in decimal, or in hexadecimal behind `0x`, with any leading
zeros and perhaps a plus sign. It is read as a capacity if it does and the number is one at least
and fits in 64 bits. Every other text is refused: a numeral of zero for being too small, and all
else in words that quote it. -/
theorem capacities_read_exactly (text : String) :
    (∀ one other, CapacityNumeral text one → CapacityNumeral text other → one = other) ∧
    (∀ capacity, readCapacity text = .ok capacity ↔
      CapacityNumeral text capacity ∧ 1 ≤ capacity ∧ capacity ≤ 2 ^ 64 - 1) ∧
    ((∃ reason, readCapacity text = .error reason) ↔
      ¬ ∃ capacity, CapacityNumeral text capacity ∧ 1 ≤ capacity ∧ capacity ≤ 2 ^ 64 - 1) ∧
    ∀ reason, readCapacity text = .error reason ↔
      CapacityNumeral text 0 ∧ reason = "capacity must be at least one byte" ∨
        (∀ value, CapacityNumeral text value → 2 ^ 64 - 1 < value) ∧
          reason = capacityRefusal text := by
  refine ⟨fun _ _ => CapacityNumeral.unique, fun _ => readCapacity_eq_ok_iff, ?refused,
    fun _ => readCapacity_eq_error_iff⟩
  case refused =>
    constructor
    · rintro ⟨reason, refused⟩ ⟨capacity, within⟩
      cases refused.symm.trans (readCapacity_eq_ok_iff.mpr within)
    · intro unwritten
      cases outcome : readCapacity text with
      | error reason => exact ⟨reason, rfl⟩
      | ok capacity => exact absurd ⟨capacity, readCapacity_eq_ok_iff.mp outcome⟩ unwritten

/-- A number with a sign, leading zeros and figures of both cases, and the first one that does not
fit. -/
theorem capacities_read_exactly_small :
    readCapacity "0x+00fF" = .ok 255 ∧ CapacityNumeral "0x+00fF" 255 ∧
      CapacityNumeral "18446744073709551616" (2 ^ 64) ∧
      readCapacity "18446744073709551616" = .error "invalid number '18446744073709551616'" := by
  obtain ⟨_, accepted, _⟩ := capacities_read_exactly "0x+00fF"
  obtain ⟨unique, _, _, refused⟩ := capacities_read_exactly "18446744073709551616"
  have read : readCapacity "0x+00fF" = .ok 255 := by decide +kernel
  have digits : Text.readNatural 10 (2 ^ 64) "18446744073709551616".toList = .ok (2 ^ 64) := by
    decide +kernel
  have written : CapacityNumeral "18446744073709551616" (2 ^ 64) :=
    .decimal (Text.readNatural_eq_ok_iff.mp digits).1
  refine ⟨read, ((accepted 255).mp read).1, written, (refused _).mpr (.inr ⟨?_, by decide +kernel⟩)⟩
  intro value also
  rw [unique value _ also written]
  decide

end ChunkRelay
