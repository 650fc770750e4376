/-!
# Reading numerals

A numeral is an optional sign and one or more digits of its base. Reading goes from left to right
with a running value, so a character that is no digit is reported only if the digits before it
stayed within the bound.
-/

set_option autoImplicit false

namespace ChunkRelay.Text

/-- Why a text is not a numeral of the wanted range. -/
inductive NumeralError where
  | empty
  | invalidDigit
  | tooLarge
  | tooSmall
deriving DecidableEq, Repr

def NumeralError.message : NumeralError → String
  | .empty => "cannot parse integer from empty string"
  | .invalidDigit => "invalid digit found in string"
  | .tooLarge => "number too large to fit in target type"
  | .tooSmall => "number too small to fit in target type"

/-- The value of a character as a digit, of either case, in a base up to sixteen. -/
def digitValue? (base : Nat) (c : Char) : Option Nat :=
  let value? :=
    if '0' ≤ c ∧ c ≤ '9' then some (c.toNat - 48)
    else if 'a' ≤ c ∧ c ≤ 'f' then some (c.toNat - 87)
    else if 'A' ≤ c ∧ c ≤ 'F' then some (c.toNat - 55)
    else none
  value?.filter (· < base)

/-- Reads digits onto a running value and fails with `overflow` once it passes `limit`. -/
def readDigits (base limit : Nat) (overflow : NumeralError) :
    Nat → List Char → Except NumeralError Nat
  | value, [] => .ok value
  | value, c :: rest =>
    match digitValue? base c with
    | none => .error .invalidDigit
    | some digit =>
      let next := value * base + digit
      if limit < next then .error overflow
      else readDigits base limit overflow next rest

/-- Reads an unsigned numeral of at most `limit`; one leading plus sign is allowed. -/
def readNatural (base limit : Nat) (text : List Char) : Except NumeralError Nat :=
  match text with
  | [] => .error .empty
  | ['+'] => .error .invalidDigit
  | '+' :: digits => readDigits base limit .tooLarge 0 digits
  | digits => readDigits base limit .tooLarge 0 digits

/-- Reads a decimal numeral between `-(limit + 1)` and `limit`; one leading sign is allowed. -/
def readInteger (limit : Nat) (text : List Char) : Except NumeralError Int :=
  match text with
  | [] => .error .empty
  | ['-'] => .error .invalidDigit
  | '-' :: digits => (readDigits 10 (limit + 1) .tooSmall 0 digits).map fun value => -(value : Int)
  | digits => (readNatural 10 limit digits).map Int.ofNat

end ChunkRelay.Text
