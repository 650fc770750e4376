import ChunkRelay.Text.Numeral

/-!
# Capacities on the command line

A capacity is a decimal numeral or, after `0x`, a hexadecimal one, of one byte at least and at most of
what 64 bits hold.
-/

set_option autoImplicit false

namespace ChunkRelay

def maxUnsigned : Nat := 0xFFFFFFFFFFFFFFFF

def readCapacityDigits (text : String) : Except String Nat :=
  match text.toList with
  | '0' :: 'x' :: digits =>
    (Text.readNatural 16 maxUnsigned digits).mapError fun _ =>
      "invalid hex value '" ++ text ++ "'"
  | digits =>
    (Text.readNatural 10 maxUnsigned digits).mapError fun _ => "invalid number '" ++ text ++ "'"

def readCapacity (text : String) : Except String Nat := do
  let capacity ← readCapacityDigits text
  if capacity = 0 then throw "capacity must be at least one byte"
  return capacity

end ChunkRelay
