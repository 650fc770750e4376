/-!
# Hexadecimal text

Lower-case digits, either as few as the number needs or padded with zeros to a fixed width.
-/

set_option autoImplicit false

namespace ChunkRelay.Text

def hexDigit (value : Nat) : Char :=
  if value < 10 then Char.ofNat (48 + value) else Char.ofNat (87 + value)

/-- Exactly `width` digits, the last ones of the number's expansion. -/
def hexDigits : Nat → Nat → List Char
  | 0, _ => []
  | width + 1, value => hexDigits width (value / 16) ++ [hexDigit (value % 16)]

def hexWidth (value : Nat) : Nat :=
  Nat.log2 value / 4 + 1

/-- A number in hexadecimal, padded with zeros to at least `width` digits. -/
def paddedHex (width value : Nat) : String :=
  String.ofList (hexDigits (max width (hexWidth value)) value)

def hex (value : Nat) : String :=
  "0x" ++ paddedHex 1 value

def bytesHex (bytes : ByteArray) : String :=
  String.ofList (bytes.data.toList.flatMap fun byte => hexDigits 2 byte.toNat)

theorem length_hexDigits (width value : Nat) : (hexDigits width value).length = width := by
  induction width generalizing value with
  | zero => rfl
  | succ width ih => simp [hexDigits, ih]

theorem mem_hexDigits {width value : Nat} {figure : Char} (member : figure ∈ hexDigits width value) :
    ∃ digit < 16, figure = hexDigit digit := by
  induction width generalizing value with
  | zero => cases member
  | succ width ih =>
    rcases List.mem_append.mp member with earlier | last
    · exact ih earlier
    · exact ⟨_, Nat.mod_lt value (by decide), List.mem_singleton.mp last⟩

end ChunkRelay.Text
