import ChunkRelay.Message.Frame
import Mathlib.Algebra.Ring.Nat
import Mathlib.Data.List.Basic

/-! Frames and messages. A frame that is accepted is the frame of its message,
except for the bytes that nobody looks at. So what a frame says is told by the
other bytes, and no two messages share a frame. -/

set_option autoImplicit false

namespace ChunkRelay

/-!
## Little-endian numbers
-/

@[simp] theorem length_littleEndian (count value : Nat) :
    (littleEndian count value).length = count := by
  induction count generalizing value with
  | zero => rfl
  | succ count ih => simp only [littleEndian, List.length_cons, ih]

theorem ofLittleEndian_littleEndian {count value : Nat} (fits : value < 256 ^ count) :
    ofLittleEndian (littleEndian count value) = value := by
  induction count generalizing value with
  | zero =>
    rw [Nat.pow_zero] at fits
    exact (Nat.lt_one_iff.mp fits).symm
  | succ count ih =>
    have rest : value / 256 < 256 ^ count := by
      apply Nat.div_lt_of_lt_mul
      rwa [Nat.pow_succ'] at fits
    rw [littleEndian, ofLittleEndian, ih rest, UInt8.toNat_ofNat']
    exact Nat.mod_add_div value 256

theorem ofLittleEndian_lt (bytes : List UInt8) : ofLittleEndian bytes < 256 ^ bytes.length := by
  induction bytes with
  | nil => exact Nat.one_pos
  | cons byte rest ih =>
    have small := byte.toNat_lt
    rw [ofLittleEndian, List.length_cons, Nat.pow_succ']
    omega

theorem littleEndian_ofLittleEndian (bytes : List UInt8) :
    littleEndian bytes.length (ofLittleEndian bytes) = bytes := by
  induction bytes with
  | nil => rfl
  | cons byte rest ih =>
    have small := byte.toNat_lt
    have low : UInt8.ofNat (byte.toNat + 256 * ofLittleEndian rest) = byte := by
      apply UInt8.toNat_inj.mp
      rw [UInt8.toNat_ofNat']
      omega
    have high : (byte.toNat + 256 * ofLittleEndian rest) / 256 = ofLittleEndian rest := by
      omega
    rw [List.length_cons, ofLittleEndian, littleEndian, low, high, ih]

theorem ofNat_littleEndian_32 (value : UInt32) :
    UInt32.ofNat (ofLittleEndian (littleEndian 4 value.toNat)) = value := by
  rw [ofLittleEndian_littleEndian value.toNat_lt, UInt32.ofNat_toNat]

theorem ofNat_littleEndian_64 (value : UInt64) :
    UInt64.ofNat (ofLittleEndian (littleEndian 8 value.toNat)) = value := by
  rw [ofLittleEndian_littleEndian value.toNat_lt, UInt64.ofNat_toNat]

theorem littleEndian_ofNat_32 {bytes : List UInt8} (four : bytes.length = 4) :
    littleEndian 4 (UInt32.ofNat (ofLittleEndian bytes)).toNat = bytes := by
  have small := ofLittleEndian_lt bytes
  rw [four] at small
  rw [UInt32.toNat_ofNat_of_lt' small, ← four, littleEndian_ofLittleEndian]

theorem littleEndian_ofNat_64 {bytes : List UInt8} (eight : bytes.length = 8) :
    littleEndian 8 (UInt64.ofNat (ofLittleEndian bytes)).toNat = bytes := by
  have small := ofLittleEndian_lt bytes
  rw [eight] at small
  rw [UInt64.toNat_ofNat_of_lt' small, ← eight, littleEndian_ofLittleEndian]

/-!
## Bytes that nobody looks at
-/

/-- A list with so many bytes from a place on set to zero. -/
def blanked (start count : Nat) (bytes : List UInt8) : List UInt8 :=
  bytes.take start ++ List.replicate count 0 ++ bytes.drop (start + count)

theorem getElem?_blanked {start count : Nat} {bytes : List UInt8}
    (inside : start + count ≤ bytes.length) (place : Nat) :
    (blanked start count bytes)[place]? =
      if start ≤ place ∧ place < start + count then some 0 else bytes[place]? := by
  have front : (bytes.take start).length = start := by
    rw [List.length_take]
    omega
  rw [blanked, List.append_assoc, List.getElem?_append, front, List.getElem?_append,
    List.length_replicate, List.getElem?_replicate, List.getElem?_take, List.getElem?_drop]
  by_cases early : place < start
  · rw [if_pos early, if_pos early, if_neg (by omega)]
  · rw [if_neg early]
    by_cases late : place < start + count
    · rw [if_pos (by omega), if_pos (by omega), if_pos ⟨by omega, late⟩]
    · rw [if_neg (by omega), if_neg (by omega)]
      congr 1
      omega

namespace Message

/-- A message with one operand, whose frame has no use for the second one. -/
def isSingle : Message → Bool
  | .readDone _ | .baseAddress _ => true
  | .dataReady _ _ | .writeDone _ _ => false

/-- The places of a message's frame that nobody looks at: the flags, and an operand without use. -/
def Ignores (message : Message) (place : Nat) : Prop :=
  2 ≤ place ∧ place < 4 ∨ message.isSingle = true ∧ 16 ≤ place ∧ place < 24

/-- A frame of a message with all bytes that nobody looks at set to zero. -/
def cleaned (message : Message) (frame : List UInt8) : List UInt8 :=
  if message.isSingle then blanked 16 8 (blanked 2 2 frame) else blanked 2 2 frame

theorem getElem?_cleaned (message : Message) {frame : List UInt8}
    (whole : frame.length = frameLength) (place : Nat) :
    (message.Ignores place → (message.cleaned frame)[place]? = some 0) ∧
      (¬ message.Ignores place → (message.cleaned frame)[place]? = frame[place]?) := by
  have short : 2 + 2 ≤ frame.length := by
    rw [whole]
    decide
  have flags := getElem?_blanked short
  have long : 16 + 8 ≤ (blanked 2 2 frame).length := by
    rw [frameLength] at whole
    simp only [blanked, List.length_append, List.length_take, List.length_replicate,
      List.length_drop, whole]
    decide
  unfold Ignores cleaned
  cases message.isSingle with
  | false =>
    rw [if_neg Bool.false_ne_true, flags]
    constructor
    · rintro (flag | ⟨single, _⟩)
      · exact if_pos flag
      · cases single
    · intro seen
      exact if_neg fun flag => seen (.inl flag)
  | true =>
    rw [if_pos rfl, getElem?_blanked long, flags]
    constructor
    · rintro (flag | ⟨_, operand⟩)
      · rw [if_pos flag, ite_self]
      · exact if_pos operand
    · intro seen
      rw [if_neg fun operand => seen (.inr ⟨rfl, operand⟩), if_neg fun flag => seen (.inl flag)]

/-- Cleaned frames are the same if the frames agree wherever somebody looks. -/
theorem cleaned_eq_iff (message : Message) {frame other : List UInt8}
    (whole : frame.length = frameLength) (full : other.length = frameLength) :
    message.cleaned other = message.cleaned frame ↔
      ∀ place, ¬ message.Ignores place → other[place]? = frame[place]? := by
  constructor
  · intro same place seen
    rw [← (message.getElem?_cleaned full place).2 seen, same,
      (message.getElem?_cleaned whole place).2 seen]
  · intro agree
    apply List.ext_getElem?
    intro place
    by_cases unseen : message.Ignores place
    · rw [(message.getElem?_cleaned full place).1 unseen,
        (message.getElem?_cleaned whole place).1 unseen]
    · rw [(message.getElem?_cleaned full place).2 unseen,
        (message.getElem?_cleaned whole place).2 unseen, agree place unseen]

/-!
## Tags
-/

theorem ofOperands?_tag (message : Message) :
    ofOperands? message.tag message.operands.1 message.operands.2 = some message := by
  cases message <;> rfl

theorem tag_cases (message : Message) :
    message.tag = 1 ∨ message.tag = 2 ∨ message.tag = 3 ∨ message.tag = 4 := by
  cases message with
  | dataReady address length => exact .inl rfl
  | readDone length => exact .inr (.inl rfl)
  | writeDone address length => exact .inr (.inr (.inl rfl))
  | baseAddress address => exact .inr (.inr (.inr rfl))

/-- What a tag makes of two operands has that tag and keeps the operands it has a use for. -/
theorem ofOperands?_inv {tag : UInt8} {first second : UInt64} {message : Message}
    (known : ofOperands? tag first second = some message) :
    message.tag = tag ∧ message.operands = (first, if message.isSingle then 0 else second) := by
  unfold ofOperands? at known
  split at known
  · next same =>
    cases known
    exact ⟨same.symm, rfl⟩
  split at known
  · next same =>
    cases known
    exact ⟨same.symm, rfl⟩
  split at known
  · next same =>
    cases known
    exact ⟨same.symm, rfl⟩
  split at known
  · next same =>
    cases known
    exact ⟨same.symm, rfl⟩
  · cases known

/-- There are four known tags. -/
theorem ofOperands?_isSome_iff (tag : UInt8) (first second : UInt64) :
    (ofOperands? tag first second).isSome = true ↔ 1 ≤ tag ∧ tag ≤ 4 := by
  constructor
  · intro known
    obtain ⟨message, made⟩ := Option.isSome_iff_exists.mp known
    rcases message.tag_cases with same | same | same | same <;>
      rw [← (ofOperands?_inv made).1, same] <;> decide
  · rintro ⟨low, high⟩
    have known : tag = 1 ∨ tag = 2 ∨ tag = 3 ∨ tag = 4 := by
      rw [UInt8.le_iff_toNat_le] at low high
      simp only [← UInt8.toNat_inj]
      have one : (1 : UInt8).toNat = 1 := rfl
      have two : (2 : UInt8).toNat = 2 := rfl
      have three : (3 : UInt8).toNat = 3 := rfl
      have four : (4 : UInt8).toNat = 4 := rfl
      omega
    rcases known with rfl | rfl | rfl | rfl <;> rfl

theorem isSingle_iff (message : Message) :
    message.isSingle = true ↔ message.tag = 2 ∨ message.tag = 4 := by
  cases message with
  | dataReady address length | writeDone address length => simp [isSingle, tag]
  | readDone length | baseAddress address => simp [isSingle, tag]

/-- The tag tells whether a message has one operand. -/
theorem isSingle_of_tag {message other : Message} (same : message.tag = other.tag) :
    message.isSingle = other.isSingle := by
  rw [Bool.eq_iff_iff, isSingle_iff, isSingle_iff, same]

/-!
## The parts of a frame
-/

section Parts

variable {tag version low high : UInt8} {portBytes first second frame : List UInt8}

theorem exists_parts (whole : frame.length = frameLength) :
    ∃ tag version low high portBytes first second,
      portBytes.length = 4 ∧ first.length = 8 ∧ second.length = 8 ∧
        frame = [tag, version, low, high] ++ portBytes ++ first ++ second := by
  obtain _ | ⟨tag, _ | ⟨version, _ | ⟨low, _ | ⟨high, rest⟩⟩⟩⟩ := frame
  · cases whole
  · cases whole
  · cases whole
  · cases whole
  · have left : rest.length = 20 := by simpa [frameLength] using whole
    refine ⟨tag, version, low, high, rest.take 4, (rest.drop 4).take 8, rest.drop 12,
      ?_, ?_, ?_, ?_⟩
    · simp [left]
    · simp [left]
    · simp [left]
    · have split : (rest.drop 4).take 8 ++ rest.drop 12 = rest.drop 4 := by
        have := List.take_append_drop 8 (rest.drop 4)
        rwa [List.drop_drop] at this
      simp [split]

theorem encode_eq (port : UInt32) (message : Message) :
    encode port message = [message.tag, frameVersion, 0, 0] ++ littleEndian 4 port.toNat ++
      littleEndian 8 message.operands.1.toNat ++ littleEndian 8 message.operands.2.toNat := rfl

variable (four : portBytes.length = 4) (eight : first.length = 8) (last : second.length = 8)
include four eight last

theorem decode_parts :
    decode ([tag, version, low, high] ++ portBytes ++ first ++ second) =
      if version ≠ frameVersion then
        .error (.malformed ("unsupported frame version " ++ toString version.toNat))
      else match ofOperands? tag (.ofNat (ofLittleEndian first))
          (.ofNat (ofLittleEndian second)) with
        | none => .error (.malformed ("unknown tag 0x" ++ Text.paddedHex 2 tag.toNat))
        | some message => .ok (.ofNat (ofLittleEndian portBytes), message) := by
  have whole :
      ([tag, version, low, high] ++ portBytes ++ first ++ second).length = frameLength := by
    simp [four, eight, last, frameLength]
  have port : (([tag, version, low, high] ++ portBytes ++ first ++ second).drop 4).take 4 =
      portBytes := by simp [four]
  have one : (([tag, version, low, high] ++ portBytes ++ first ++ second).drop 8).take 8 =
      first := by simp [four, eight]
  have two : (([tag, version, low, high] ++ portBytes ++ first ++ second).drop 16).take 8 =
      second := by
    rw [List.drop_left' (by simp [four, eight]), ← last, List.take_length]
  rw [decode, if_neg (not_not.mpr whole)]
  dsimp only
  rw [port, one, two]
  rfl

theorem cleaned_parts (message : Message) :
    message.cleaned ([tag, version, low, high] ++ portBytes ++ first ++ second) =
      [tag, version, 0, 0] ++ portBytes ++ first ++
        (if message.isSingle then littleEndian 8 0 else second) := by
  have flags : blanked 2 2 ([tag, version, low, high] ++ portBytes ++ first ++ second) =
      [tag, version, 0, 0] ++ portBytes ++ first ++ second := by
    simp [blanked]
  rw [cleaned, flags]
  cases message.isSingle with
  | false => rfl
  | true =>
    have front : ([tag, version, 0, 0] ++ portBytes ++ first).length = 16 := by
      simp [four, eight]
    rw [if_pos rfl, if_pos rfl, blanked, List.take_left' front,
      List.drop_of_length_le (by simp [four, eight, last]), List.append_nil]
    rfl

end Parts

/-!
## Both directions
-/

section Frames

variable {frame other : List UInt8} {port : UInt32} {message : Message}

theorem decode_encode (port : UInt32) (message : Message) :
    decode (encode port message) = .ok (port, message) := by
  rw [encode, decode_parts (length_littleEndian _ _) (length_littleEndian _ _)
    (length_littleEndian _ _), if_neg (not_not.mpr rfl), ofNat_littleEndian_64,
    ofNat_littleEndian_64, ofOperands?_tag, ofNat_littleEndian_32]

theorem encode_injective :
    Function.Injective fun sent : UInt32 × Message => encode sent.1 sent.2 := by
  intro one two same
  have decoded := congrArg decode same
  dsimp only at decoded
  rw [decode_encode, decode_encode] at decoded
  exact Except.ok.inj decoded

/-- An accepted frame is the frame of what it says, once it is cleaned. -/
theorem encode_of_decode (accepted : decode frame = .ok (port, message)) :
    frame.length = frameLength ∧ encode port message = message.cleaned frame := by
  have whole : frame.length = frameLength := by
    by_contra short
    rw [decode, if_pos short] at accepted
    cases accepted
  refine ⟨whole, ?_⟩
  obtain ⟨tag, version, low, high, portBytes, first, second, four, eight, last, rfl⟩ :=
    exists_parts whole
  rw [decode_parts four eight last] at accepted
  split at accepted
  · cases accepted
  next current =>
  split at accepted
  · cases accepted
  next made known =>
  cases accepted
  obtain ⟨same, operands⟩ := ofOperands?_inv known
  rw [cleaned_parts four eight last, encode_eq, same, operands, littleEndian_ofNat_32 four,
    littleEndian_ofNat_64 eight, ← not_not.mp current]
  cases message.isSingle with
  | false => exact congrArg _ (littleEndian_ofNat_64 last)
  | true => rfl

theorem not_ignores_zero (message : Message) : ¬ message.Ignores 0 := by
  rintro (⟨flag, _⟩ | ⟨_, operand, _⟩)
  · cases flag
  · cases operand

/-- The first byte of an accepted frame is the tag of its message. -/
theorem tag_of_decode (accepted : decode frame = .ok (port, message)) :
    frame[0]? = some message.tag := by
  obtain ⟨whole, same⟩ := encode_of_decode accepted
  rw [← (message.getElem?_cleaned whole 0).2 message.not_ignores_zero, ← same]
  rfl

/-- Two frames say the same if they agree wherever somebody looks. -/
theorem decode_eq_decode_iff {sent : UInt32 × Message}
    (accepted : decode frame = .ok (port, message)) (also : decode other = .ok sent) :
    sent = (port, message) ↔ ∀ place, ¬ message.Ignores place → other[place]? = frame[place]? := by
  obtain ⟨otherPort, otherMessage⟩ := sent
  obtain ⟨whole, clean⟩ := encode_of_decode accepted
  obtain ⟨full, pure⟩ := encode_of_decode also
  constructor
  · intro same
    cases same
    exact (cleaned_eq_iff message whole full).mp (pure.symm.trans clean)
  · intro agree
    have first := agree 0 message.not_ignores_zero
    rw [tag_of_decode accepted, tag_of_decode also] at first
    have single : otherMessage.cleaned other = message.cleaned other := by
      rw [cleaned, cleaned, isSingle_of_tag (Option.some.inj first)]
    rw [single, (cleaned_eq_iff message whole full).mpr agree, ← clean] at pure
    exact encode_injective pure

/-!
## What is refused
-/

theorem decode_of_length (other : frame.length ≠ frameLength) :
    decode frame = .error (.malformed ("frame is " ++ toString frame.length ++
      " bytes, expected " ++ toString frameLength)) := by
  rw [decode, if_pos other]

theorem decode_of_version {version : UInt8} (whole : frame.length = frameLength)
    (given : frame[1]? = some version) (foreign : version ≠ frameVersion) :
    decode frame =
      .error (.malformed ("unsupported frame version " ++ toString version.toNat)) := by
  obtain ⟨tag, _, low, high, portBytes, first, second, four, eight, last, rfl⟩ :=
    exists_parts whole
  cases given
  rw [decode_parts four eight last, if_pos foreign]

theorem decode_of_tag {tag : UInt8} (whole : frame.length = frameLength)
    (current : frame[1]? = some frameVersion) (given : frame[0]? = some tag)
    (unknown : ¬ (1 ≤ tag ∧ tag ≤ 4)) :
    decode frame = .error (.malformed ("unknown tag 0x" ++ Text.paddedHex 2 tag.toNat)) := by
  obtain ⟨_, _, low, high, portBytes, first, second, four, eight, last, rfl⟩ :=
    exists_parts whole
  cases current
  cases given
  rw [decode_parts four eight last, if_neg (not_not.mpr rfl)]
  cases known : ofOperands? tag (.ofNat (ofLittleEndian first))
      (.ofNat (ofLittleEndian second)) with
  | none => rfl
  | some message =>
    exact absurd ((ofOperands?_isSome_iff _ _ _).mp (Option.isSome_of_eq_some known)) unknown

theorem exists_decode_iff :
    (∃ sent, decode frame = .ok sent) ↔ frame.length = frameLength ∧
      frame[1]? = some frameVersion ∧ ∃ tag, frame[0]? = some tag ∧ 1 ≤ tag ∧ tag ≤ 4 := by
  constructor
  · rintro ⟨⟨port, message⟩, accepted⟩
    obtain ⟨whole, same⟩ := encode_of_decode accepted
    refine ⟨whole, ?_, message.tag, tag_of_decode accepted, ?_⟩
    · have seen : ¬ message.Ignores 1 := by
        rintro (⟨flag, _⟩ | ⟨_, operand, _⟩)
        · exact absurd flag (by decide)
        · exact absurd operand (by decide)
      rw [← (message.getElem?_cleaned whole 1).2 seen, ← same]
      rfl
    · rcases message.tag_cases with known | known | known | known <;> rw [known] <;> decide
  · rintro ⟨whole, current, tag, given, known⟩
    obtain ⟨_, _, low, high, portBytes, first, second, four, eight, last, rfl⟩ :=
      exists_parts whole
    cases current
    cases given
    obtain ⟨message, made⟩ := Option.isSome_iff_exists.mp ((ofOperands?_isSome_iff tag
      (.ofNat (ofLittleEndian first)) (.ofNat (ofLittleEndian second))).mpr known)
    refine ⟨(.ofNat (ofLittleEndian portBytes), message), ?_⟩
    rw [decode_parts four eight last, if_neg (not_not.mpr rfl), made]

end Frames

end Message

open Message in
/-- Every message comes back from its frame, so no two share one. A frame is accepted if its length,
its version and its tag are right, and refused for the first of them that is not. An accepted frame
is that of its message but for the flags and an operand without use, and it says the same as another
one exactly if they agree in all other bytes. -/
theorem frames_decode :
    (∀ port message, decode (encode port message) = .ok (port, message)) ∧
      (Function.Injective fun sent : UInt32 × Message => encode sent.1 sent.2) ∧
      ∀ frame,
        ((∃ sent, decode frame = .ok sent) ↔ frame.length = 24 ∧ frame[1]? = some 1 ∧
          ∃ tag, frame[0]? = some tag ∧ 1 ≤ tag ∧ tag ≤ 4) ∧
        (frame.length ≠ 24 →
          decode frame = .error (.malformed
            ("frame is " ++ toString frame.length ++ " bytes, expected " ++ toString 24))) ∧
        (∀ version, frame.length = 24 → frame[1]? = some version → version ≠ 1 →
          decode frame = .error (.malformed
            ("unsupported frame version " ++ toString version.toNat))) ∧
        (∀ tag, frame.length = 24 → frame[1]? = some 1 → frame[0]? = some tag →
          ¬ (1 ≤ tag ∧ tag ≤ 4) →
          decode frame = .error (.malformed ("unknown tag 0x" ++ Text.paddedHex 2 tag.toNat))) ∧
        ∀ port message, decode frame = .ok (port, message) →
          encode port message = message.cleaned frame ∧
          ∀ other sent, decode other = .ok sent →
            (sent = (port, message) ↔
              ∀ place, ¬ message.Ignores place → other[place]? = frame[place]?) := by
  refine ⟨decode_encode, encode_injective, ?_⟩
  intro frame
  refine ⟨exists_decode_iff, decode_of_length, ?version, ?tag, ?accepted⟩
  case version =>
    intro version whole given foreign
    exact decode_of_version whole given foreign
  case tag =>
    intro tag whole current given unknown
    exact decode_of_tag whole current given unknown
  case accepted =>
    intro port message accepted
    refine ⟨(encode_of_decode accepted).2, ?_⟩
    intro other sent also
    exact decode_eq_decode_iff accepted also

/-- A reply with flags and a second operand says the same as one without them. -/
theorem frames_decode_small :
    let plain : List UInt8 :=
      [2, 1, 0, 0, 7, 0, 0, 0, 42, 0, 0, 0, 0, 0, 0, 0, 0, 0, 0, 0, 0, 0, 0, 0]
    let marked : List UInt8 :=
      [2, 1, 9, 8, 7, 0, 0, 0, 42, 0, 0, 0, 0, 0, 0, 0, 1, 2, 3, 4, 5, 6, 7, 8]
    Message.decode marked = .ok (7, .readDone 42) ∧
      Message.encode 7 (.readDone 42) = plain ∧
      ∀ place, ¬ (Message.readDone 42).Ignores place → plain[place]? = marked[place]? := by
  intro plain marked
  have said : Message.decode marked = .ok (7, .readDone 42) := by decide +kernel
  have same : Message.decode plain = .ok (7, .readDone 42) := by decide +kernel
  obtain ⟨encoded, agree⟩ := (frames_decode.2.2 marked).2.2.2.2 7 (.readDone 42) said
  exact ⟨said, encoded.trans (by decide), (agree plain _ same).mp rfl⟩

end ChunkRelay
