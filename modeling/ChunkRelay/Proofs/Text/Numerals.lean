import Mathlib.Data.List.Forall2
import Mathlib.Data.List.Induction
import Mathlib.Data.Nat.Digits.Defs
import ChunkRelay.Text.Hex
import ChunkRelay.Text.Numeral

/-! What numerals denote. A figure stands for a digit by its place in the row of
small or of capital figures, and a text of figures denotes the number that its
digits are written for. Reading finds that number if it is within the bound, and
it undoes hexadecimal writing. -/

set_option autoImplicit false

namespace ChunkRelay.Text

/-!
## Figures
-/

/-- Each figure with its digit, in small and in capital letters. -/
def figureRows : List (Char × Nat) :=
  "0123456789abcdef".toList.zipIdx ++ "0123456789ABCDEF".toList.zipIdx

/-- A character stands for a digit of a base at its place in either row of figures. -/
def StandsFor (base : Nat) (figure : Char) (digit : Nat) : Prop :=
  digit < base ∧ (figure, digit) ∈ figureRows

/-- Figures, the most significant one first, denote the number that has their digits. -/
def Denotes (base : Nat) (figures : List Char) (value : Nat) : Prop :=
  ∃ digits, List.Forall₂ (StandsFor base) figures.reverse digits ∧ value = Nat.ofDigits base digits

/-- One figure or more, alone or behind a plus sign. -/
inductive Numeral (base : Nat) : List Char → Nat → Prop where
  | bare {figures : List Char} {value : Nat} :
      figures ≠ [] → Denotes base figures value → Numeral base figures value
  | signed {figures : List Char} {value : Nat} :
      figures ≠ [] → Denotes base figures value → Numeral base ('+' :: figures) value

section Figures

variable {base digit value limit : Nat} {figure : Char} {figures text : List Char}

/-- A character is read as the digit that it stands for. -/
theorem digitValue?_eq_some_iff :
    digitValue? base figure = some digit ↔ StandsFor base figure digit := by
  have numbers : ∀ digit < 10, (Char.ofNat (48 + digit), digit) ∈ figureRows := by decide
  have small : ∀ digit < 6, (Char.ofNat (97 + digit), 10 + digit) ∈ figureRows := by decide
  have capital : ∀ digit < 6, (Char.ofNat (65 + digit), 10 + digit) ∈ figureRows := by decide
  have rows : ∀ place ∈ figureRows, digitValue? 16 place.1 = some place.2 := by decide
  unfold digitValue?
  dsimp only
  rw [Option.filter_eq_some_iff, decide_eq_true_iff]
  constructor
  · rintro ⟨read, below⟩
    refine ⟨below, ?_⟩
    have code := figure.ofNat_toNat
    split at read
    · next range =>
      have bounds : 48 ≤ figure.toNat ∧ figure.toNat ≤ 57 := range
      cases read
      have place := numbers (figure.toNat - 48) (by omega)
      rwa [Nat.add_sub_cancel' bounds.1, code] at place
    · split at read
      · next range =>
        have bounds : 97 ≤ figure.toNat ∧ figure.toNat ≤ 102 := range
        cases read
        have place := small (figure.toNat - 97) (by omega)
        rwa [Nat.add_sub_cancel' bounds.1, code,
          show 10 + (figure.toNat - 97) = figure.toNat - 87 by omega] at place
      · split at read
        · next range =>
          have bounds : 65 ≤ figure.toNat ∧ figure.toNat ≤ 70 := range
          cases read
          have place := capital (figure.toNat - 65) (by omega)
          rwa [Nat.add_sub_cancel' bounds.1, code,
            show 10 + (figure.toNat - 65) = figure.toNat - 55 by omega] at place
        · cases read
  · rintro ⟨below, placed⟩
    exact ⟨(Option.filter_eq_some_iff.mp (rows _ placed)).1, below⟩

theorem denotes_nil : Denotes base [] value ↔ value = 0 := by
  simp [Denotes]

/-- One more figure makes room for its digit. -/
theorem denotes_concat :
    Denotes base (figures ++ [figure]) value ↔ ∃ rest digit, Denotes base figures rest ∧
      StandsFor base figure digit ∧ value = rest * base + digit := by
  simp only [Denotes, List.reverse_append, List.reverse_singleton, List.singleton_append,
    List.forall₂_cons_left_iff]
  constructor
  · rintro ⟨_, ⟨digit, digits, stands, all, rfl⟩, rfl⟩
    refine ⟨_, digit, ⟨digits, all, rfl⟩, stands, ?_⟩
    rw [Nat.ofDigits_cons, Nat.add_comm, Nat.mul_comm]
  · rintro ⟨_, digit, ⟨digits, all, rfl⟩, stands, rfl⟩
    refine ⟨_, ⟨digit, digits, stands, all, rfl⟩, ?_⟩
    rw [Nat.ofDigits_cons, Nat.add_comm, Nat.mul_comm]

/-- Nothing but figures denotes a number. -/
theorem Denotes.subset (denotes : Denotes base figures value) :
    figures ⊆ figureRows.map Prod.fst := by
  induction figures using List.reverseRecOn generalizing value with
  | nil => exact List.nil_subset _
  | append_singleton figures figure ih =>
    obtain ⟨rest, digit, first, stands, _⟩ := denotes_concat.mp denotes
    have known : figure ∈ figureRows.map Prod.fst := List.mem_map_of_mem stands.2
    exact List.append_subset.mpr ⟨ih first, List.cons_subset.mpr ⟨known, List.nil_subset _⟩⟩

theorem Denotes.plus_notMem (denotes : Denotes base figures value) : '+' ∉ figures :=
  fun member => absurd (denotes.subset member) (by decide)

/-!
## Reading
-/

theorem readDigits_append (overflow : NumeralError) (more : List Char) :
    readDigits base limit overflow value (text ++ more) =
      (readDigits base limit overflow value text).bind
        (readDigits base limit overflow · more) := by
  induction text generalizing value with
  | nil => rfl
  | cons figure text ih =>
    rw [List.cons_append, readDigits, readDigits]
    cases digitValue? base figure with
    | none => rfl
    | some digit =>
      dsimp only
      split
      · rfl
      · exact ih

/-- One more figure is read onto the value so far if the result is within the limit. -/
theorem readDigits_singleton {overflow : NumeralError} {result : Nat} :
    readDigits base limit overflow value [figure] = .ok result ↔
      ∃ digit, StandsFor base figure digit ∧ result = value * base + digit ∧ result ≤ limit := by
  rw [readDigits]
  cases found : digitValue? base figure with
  | none =>
    constructor
    · intro read
      cases read
    · rintro ⟨digit, stands, _⟩
      cases found.symm.trans (digitValue?_eq_some_iff.mpr stands)
  | some digit =>
    dsimp only
    constructor
    · intro read
      split at read
      · cases read
      · next within =>
        cases read
        exact ⟨digit, digitValue?_eq_some_iff.mp found, rfl, Nat.le_of_not_lt within⟩
    · rintro ⟨other, stands, rfl, within⟩
      cases found.symm.trans (digitValue?_eq_some_iff.mpr stands)
      rw [if_neg (Nat.not_lt.mpr within), readDigits]

/-- Figures are read if the number that they denote is within the limit, since what the first ones
denote is no larger. -/
theorem readDigits_eq_ok_iff {overflow : NumeralError} :
    readDigits base limit overflow 0 figures = .ok value ↔
      Denotes base figures value ∧ value ≤ limit := by
  -- The induction takes figures off the end, where the value so far is that of the others.
  induction figures using List.reverseRecOn generalizing value with
  | nil =>
    rw [readDigits, denotes_nil]
    constructor
    · rintro ⟨⟩
      exact ⟨rfl, Nat.zero_le _⟩
    · rintro ⟨rfl, _⟩
      rfl
  | append_singleton figures figure ih =>
    rw [readDigits_append, denotes_concat]
    constructor
    · intro read
      cases first : readDigits base limit overflow 0 figures with
      | error error =>
        rw [first] at read
        cases read
      | ok rest =>
        rw [first] at read
        obtain ⟨digit, stands, rfl, within⟩ := readDigits_singleton.mp read
        exact ⟨⟨rest, digit, (ih.mp first).1, stands, rfl⟩, within⟩
    · rintro ⟨⟨rest, digit, denotes, stands, rfl⟩, within⟩
      have room : rest * 1 ≤ rest * base :=
        Nat.mul_le_mul_left rest (Nat.lt_of_le_of_lt (Nat.zero_le _) stands.1)
      have first := ih.mpr ⟨denotes, by omega⟩
      rw [first]
      exact readDigits_singleton.mpr ⟨digit, stands, rfl, within⟩

/-- Exactly the numerals of numbers within the limit are read, and read as those numbers. -/
theorem readNatural_eq_ok_iff :
    readNatural base limit text = .ok value ↔ Numeral base text value ∧ value ≤ limit := by
  unfold readNatural
  -- The text is empty, a plus sign alone, a plus sign and more, or without one.
  split
  · constructor
    · intro read
      cases read
    · rintro ⟨⟨some_figures, _⟩, _⟩
      exact absurd rfl some_figures
  · constructor
    · intro read
      cases read
    · rintro ⟨⟨_, denotes⟩ | ⟨some_figures, _⟩, _⟩
      · exact absurd List.mem_cons_self denotes.plus_notMem
      · exact absurd rfl some_figures
  · next figures alone =>
    rw [readDigits_eq_ok_iff, and_congr_left_iff]
    intro _
    constructor
    · exact .signed fun none => alone (by rw [none])
    · rintro (⟨_, denotes⟩ | ⟨_, denotes⟩)
      · exact absurd List.mem_cons_self denotes.plus_notMem
      · exact denotes
  · next some_figures _ unsigned =>
    rw [readDigits_eq_ok_iff, and_congr_left_iff]
    intro _
    constructor
    · exact .bare some_figures
    · rintro (⟨_, denotes⟩ | ⟨_, _⟩)
      · exact denotes
      · exact absurd rfl (unsigned _)

/-- A numeral denotes one number only. -/
theorem Numeral.unique {other : Nat} (numeral : Numeral base text value)
    (also : Numeral base text other) : value = other := by
  have read := readNatural_eq_ok_iff.mpr ⟨numeral, Nat.le_max_left value other⟩
  have again := readNatural_eq_ok_iff.mpr ⟨also, Nat.le_max_right value other⟩
  exact Except.ok.inj (read.symm.trans again)

/-!
## Hexadecimal text
-/

/-- A number in so many hexadecimal digits is read back, less what is beyond them. -/
theorem denotes_hexDigits (width number : Nat) :
    Denotes 16 (hexDigits width number) (number % 16 ^ width) := by
  have digits : ∀ digit < 16, (hexDigit digit, digit) ∈ figureRows := by decide
  induction width generalizing number with
  | zero =>
    rw [hexDigits, denotes_nil, Nat.pow_zero, Nat.mod_one]
  | succ width ih =>
    have small : number % 16 < 16 := Nat.mod_lt _ (by decide)
    refine denotes_concat.mpr ⟨_, _, ih (number / 16), ⟨small, digits _ small⟩, ?_⟩
    rw [Nat.pow_succ, Nat.mul_comm (16 ^ width), Nat.mod_mul, Nat.add_comm, Nat.mul_comm]

/-- Hexadecimal figures without capitals are what is written for the number that they denote. -/
theorem Denotes.eq_hexDigits (denotes : Denotes 16 figures value)
    (small : ∀ figure ∈ figures, figure ∉ "ABCDEF".toList) :
    figures = hexDigits figures.length value := by
  have rows : ∀ place ∈ figureRows, place.1 ∉ "ABCDEF".toList → hexDigit place.2 = place.1 := by
    decide
  induction figures using List.reverseRecOn generalizing value with
  | nil => rfl
  | append_singleton figures figure ih =>
    obtain ⟨rest, digit, first, stands, rfl⟩ := denotes_concat.mp denotes
    have below := stands.1
    have last : hexDigit digit = figure :=
      rows _ stands.2 (small figure (List.mem_append_right _ List.mem_cons_self))
    have front : figures = hexDigits figures.length rest :=
      ih first fun earlier member => small earlier (List.mem_append_left _ member)
    rw [List.length_append, List.length_singleton, hexDigits,
      show (rest * 16 + digit) / 16 = rest by omega,
      show (rest * 16 + digit) % 16 = digit by omega, last, ← front]

end Figures

end ChunkRelay.Text
