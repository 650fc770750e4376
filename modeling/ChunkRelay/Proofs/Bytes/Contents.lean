import Mathlib.Algebra.Ring.Nat
import Mathlib.Data.List.Basic
import ChunkRelay.Bytes.Extent

/-! What extents hold, byte by byte. Reading lays the pieces of an extent over
zeros one after the other, so the byte at an offset is that of the last piece
that reaches there. With this view writing and clearing have exact laws that
ask nothing of how the pieces lie. -/

set_option autoImplicit false

namespace ChunkRelay

/-- Laying a piece over a byte that stands for an offset. -/
def Piece.cover (offset : Nat) (byte : UInt8) (piece : Piece) : UInt8 :=
  (piece.get? offset).getD byte

/-- The byte that reading an extent finds at an offset. -/
def Extent.byteAt (extent : Extent) (offset : Nat) : UInt8 :=
  extent.pieces.foldl (Piece.cover offset) 0

def Extent.window (extent : Extent) (start length : Nat) : List UInt8 :=
  (List.range' start length).map extent.byteAt

@[simp] theorem Extent.length_window (extent : Extent) (start length : Nat) :
    (extent.window start length).length = length := by
  simp [window]

theorem Extent.window_congr {left right : Extent} {start length : Nat}
    (same : ∀ offset, start ≤ offset → offset < start + length →
      left.byteAt offset = right.byteAt offset) :
    left.window start length = right.window start length := by
  refine List.map_congr_left fun offset member => ?_
  rw [List.mem_range'_1] at member
  exact same offset member.1 member.2

/-- A range that starts where another one stops goes on with its bytes. -/
theorem Extent.window_add (extent : Extent) (start first second : Nat) :
    extent.window start (first + second) =
      extent.window start first ++ extent.window (start + first) second := by
  simp only [window, ← List.map_append, List.range'_append_1]

/-!
## Pieces
-/

theorem Piece.get?_eq_none {piece : Piece} {offset : Nat}
    (away : offset < piece.start ∨ piece.stop ≤ offset) : piece.get? offset = none := by
  unfold Piece.get?
  split
  · refine Array.getElem?_eq_none ?_
    rw [ByteArray.size_data]
    rw [Piece.stop] at away
    omega
  · rfl

private theorem get?_before (piece : Piece) (first offset : Nat) :
    Piece.get? ⟨piece.start, piece.bytes.extract 0 (first - piece.start)⟩ offset =
      if offset < first then piece.get? offset else none := by
  simp only [Piece.get?, ByteArray.data_extract, Array.getElem?_extract, ByteArray.size_data]
  by_cases reaches : piece.start ≤ offset
  · by_cases inside : offset < first
    · simp only [reaches, inside, ↓reduceIte, Nat.zero_add]
      by_cases present : offset - piece.start < piece.bytes.size
      · rw [if_pos (by omega)]
      · rw [if_neg (by omega), Array.getElem?_eq_none (by rw [ByteArray.size_data]; omega)]
    · simp only [reaches, inside, ↓reduceIte]
      rw [if_neg (by omega)]
  · simp [reaches]

private theorem get?_after (piece : Piece) {last : Nat} (offset : Nat)
    (later : piece.start ≤ last) :
    Piece.get? ⟨last, piece.bytes.extract (last - piece.start) piece.bytes.size⟩ offset =
      if last ≤ offset then piece.get? offset else none := by
  simp only [Piece.get?, ByteArray.data_extract, Array.getElem?_extract, ByteArray.size_data,
    Nat.min_self]
  by_cases inside : last ≤ offset
  · have shifted : last - piece.start + (offset - last) = offset - piece.start := by omega
    simp only [inside, Nat.le_trans later inside, ↓reduceIte, shifted]
    by_cases present : offset - piece.start < piece.bytes.size
    · rw [if_pos (by omega)]
    · rw [if_neg (by omega), Array.getElem?_eq_none (by rw [ByteArray.size_data]; omega)]
  · simp [inside]

/-- No part that is left of a piece reaches into the range cut out of it. -/
theorem Piece.get?_outside {first last offset : Nat} {piece part : Piece}
    (within : first ≤ offset ∧ offset < last) (left : part ∈ piece.outside first last) :
    part.get? offset = none := by
  unfold Piece.outside at left
  split at left
  · next apart =>
    rw [List.mem_singleton] at left
    subst part
    exact Piece.get?_eq_none (by omega)
  · next overlapping =>
    obtain ⟨_, starting⟩ := not_or.mp overlapping
    rcases List.mem_append.mp left with front | back
    · split at front
      · rw [List.mem_singleton] at front
        rw [front, get?_before, if_neg (by omega)]
      · cases front
    · split at back
      · rw [List.mem_singleton] at back
        rw [back, get?_after _ _ (Nat.le_of_not_le starting), if_neg (by omega)]
      · cases back

/-- Cutting a range out of a piece uncovers that range and nothing else. -/
theorem Piece.foldl_cover_outside (first last offset : Nat) (byte : UInt8) (piece : Piece) :
    (piece.outside first last).foldl (Piece.cover offset) byte =
      if first ≤ offset ∧ offset < last then byte else Piece.cover offset byte piece := by
  by_cases apart : piece.stop ≤ first ∨ last ≤ piece.start
  · rw [Piece.outside, if_pos apart]
    split
    · have missed : piece.get? offset = none := Piece.get?_eq_none (by omega)
      simp [Piece.cover, missed]
    · rfl
  · rw [Piece.outside, if_neg apart]
    dsimp only
    obtain ⟨reaching, starting⟩ := not_or.mp apart
    have before := get?_before piece first offset
    have after := get?_after piece offset (Nat.le_of_not_le starting)
    cases found : piece.get? offset with
    | none =>
      rw [found, ite_self] at before after
      by_cases front : piece.start < first <;> by_cases back : last < piece.stop <;>
        simp [front, back, Piece.cover, before, after, found]
    | some value =>
      have starts : piece.start ≤ offset := by
        by_contra early
        cases found.symm.trans (Piece.get?_eq_none (.inl (Nat.lt_of_not_le early)))
      have stops : offset < piece.stop := by
        by_contra late
        cases found.symm.trans (Piece.get?_eq_none (.inr (Nat.le_of_not_lt late)))
      rw [found] at before after
      by_cases low : offset < first <;> by_cases high : last ≤ offset
      · rw [if_pos low] at before
        rw [if_pos high] at after
        rw [if_pos (show piece.start < first by omega), if_pos (show last < piece.stop by omega),
          if_neg (by omega)]
        simp [Piece.cover, before, after, found]
      · rw [if_pos low] at before
        rw [if_neg high] at after
        rw [if_pos (show piece.start < first by omega),
          if_neg (show ¬ (first ≤ offset ∧ offset < last) by omega)]
        split <;> simp [Piece.cover, before, after, found]
      · rw [if_neg low] at before
        rw [if_pos high] at after
        rw [if_pos (show last < piece.stop by omega),
          if_neg (show ¬ (first ≤ offset ∧ offset < last) by omega)]
        split <;> simp [Piece.cover, before, after, found]
      · rw [if_neg low] at before
        rw [if_neg high] at after
        rw [if_pos (show first ≤ offset ∧ offset < last by omega)]
        split <;> split <;> simp [Piece.cover, before, after]

/-!
## Changing an extent
-/

namespace Extent

@[simp] theorem size_clear (extent : Extent) (first last : Nat) :
    (extent.clear first last).size = extent.size := rfl

@[simp] theorem size_write (extent : Extent) (start : Nat) (bytes : ByteArray) :
    (extent.write start bytes).size = extent.size := by
  unfold write
  split <;> rfl

@[simp] theorem byteAt_zeroed (size offset : Nat) : (zeroed size).byteAt offset = 0 := rfl

theorem byteAt_clear (extent : Extent) (first last offset : Nat) :
    (extent.clear first last).byteAt offset =
      if first ≤ offset ∧ offset < last then 0 else extent.byteAt offset := by
  have cleared : ∀ (pieces : List Piece) (byte : UInt8),
      (pieces.flatMap (Piece.outside first last)).foldl (Piece.cover offset) byte =
        if first ≤ offset ∧ offset < last then byte
        else pieces.foldl (Piece.cover offset) byte := by
    intro pieces
    induction pieces with
    | nil => intro byte; split <;> rfl
    | cons piece rest ih =>
      intro byte
      rw [List.flatMap_cons, List.foldl_append, Piece.foldl_cover_outside, ih]
      split <;> rfl
  exact cleared extent.pieces 0

private theorem cover_joined {otherStart start : Nat} {otherBytes bytes : ByteArray}
    (joined : otherStart + otherBytes.size = start) (offset : Nat) (byte : UInt8) :
    Piece.cover offset byte ⟨otherStart, otherBytes ++ bytes⟩ =
      Piece.cover offset (Piece.cover offset byte ⟨otherStart, otherBytes⟩) ⟨start, bytes⟩ := by
  simp only [Piece.cover, Piece.get?, ByteArray.data_append, Array.getElem?_append,
    ByteArray.size_data]
  by_cases reaches : otherStart ≤ offset
  · by_cases later : start ≤ offset
    · have shifted : offset - otherStart - otherBytes.size = offset - start := by omega
      have past : otherBytes.data[offset - otherStart]? = none :=
        Array.getElem?_eq_none (by rw [ByteArray.size_data]; omega)
      rw [if_pos reaches, if_neg (by omega), if_pos later, shifted, past, ite_self,
        Option.getD_none]
    · rw [if_pos reaches, if_pos (by omega), if_neg later, if_pos reaches, Option.getD_none]
  · rw [if_neg reaches, if_neg (by omega), if_neg reaches]
    rfl

private theorem foldl_cover_missed {offset : Nat} {pieces : List Piece} (byte : UInt8)
    (missed : ∀ piece ∈ pieces, piece.get? offset = none) :
    pieces.foldl (Piece.cover offset) byte = byte := by
  induction pieces with
  | nil => rfl
  | cons piece rest ih =>
    rw [List.foldl_cons, Piece.cover, missed piece List.mem_cons_self, Option.getD_none]
    exact ih fun other member => missed other (List.mem_cons_of_mem _ member)

/-- A new piece covers its own range, as long as no other piece reaches there. -/
private theorem foldl_insertPiece {start : Nat} {bytes : ByteArray} {pieces : List Piece}
    {offset : Nat} (byte : UInt8)
    (missed : (Piece.get? ⟨start, bytes⟩ offset).isSome →
      ∀ piece ∈ pieces, piece.get? offset = none) :
    (insertPiece start bytes pieces).foldl (Piece.cover offset) byte =
      (Piece.get? ⟨start, bytes⟩ offset).getD (pieces.foldl (Piece.cover offset) byte) := by
  cases found : Piece.get? ⟨start, bytes⟩ offset with
  | none =>
    have same : ∀ byte, Piece.cover offset byte ⟨start, bytes⟩ = byte := by
      intro byte
      rw [Piece.cover, found, Option.getD_none]
    rw [Option.getD_none]
    unfold insertPiece
    split
    · rw [List.foldl_cons, same]
    · split
      · next joined =>
        rw [List.foldl_cons, List.foldl_cons, cover_joined joined, same]
      · rw [List.foldl_cons, same]
  | some value =>
    rw [found] at missed
    have hit : ∀ byte, Piece.cover offset byte ⟨start, bytes⟩ = value := by
      intro byte
      rw [Piece.cover, found, Option.getD_some]
    rw [Option.getD_some]
    unfold insertPiece
    split
    · rw [List.foldl_cons, hit, List.foldl_nil]
    · split
      · next joined =>
        rw [List.foldl_cons, cover_joined joined, hit]
        exact foldl_cover_missed value fun piece member =>
          missed rfl piece (List.mem_cons_of_mem _ member)
      · rw [List.foldl_cons, hit]
        exact foldl_cover_missed value (missed rfl)

theorem byteAt_write (extent : Extent) (start : Nat) (bytes : ByteArray) (offset : Nat) :
    (extent.write start bytes).byteAt offset =
      (Piece.get? ⟨start, bytes⟩ offset).getD (extent.byteAt offset) := by
  unfold write
  split
  · next nothing =>
    have missed : Piece.get? ⟨start, bytes⟩ offset = none := by
      refine Piece.get?_eq_none ?_
      simp only [Piece.stop]
      omega
    rw [missed, Option.getD_none]
  · have reach : (Piece.get? ⟨start, bytes⟩ offset).isSome →
        start ≤ offset ∧ offset < start + bytes.size := by
      intro found
      by_contra away
      have missed : Piece.get? ⟨start, bytes⟩ offset = none :=
        Piece.get?_eq_none (by simp only [Piece.stop]; omega)
      rw [missed] at found
      cases found
    have missed : (Piece.get? ⟨start, bytes⟩ offset).isSome →
        ∀ piece ∈ (extent.clear start (start + bytes.size)).pieces, piece.get? offset = none := by
      intro found piece member
      obtain ⟨whole, _, left⟩ := List.mem_flatMap.mp member
      exact Piece.get?_outside (reach found) left
    have cut := foldl_insertPiece 0 missed
    have cleared := extent.byteAt_clear start (start + bytes.size) offset
    simp only [byteAt] at cleared ⊢
    rw [cut]
    cases found : Piece.get? ⟨start, bytes⟩ offset with
    | some value => rfl
    | none =>
      rw [Option.getD_none, Option.getD_none, cleared, if_neg]
      intro within
      have bounded : offset - start < bytes.data.size := by
        rw [ByteArray.size_data]
        omega
      have present : Piece.get? ⟨start, bytes⟩ offset = some bytes.data[offset - start] := by
        rw [Piece.get?, if_pos within.1, Array.getElem?_eq_getElem]
      cases found.symm.trans present

theorem byteAt_write_outside (extent : Extent) {start : Nat} {bytes : ByteArray} {offset : Nat}
    (away : offset < start ∨ start + bytes.size ≤ offset) :
    (extent.write start bytes).byteAt offset = extent.byteAt offset := by
  have missed : Piece.get? ⟨start, bytes⟩ offset = none := Piece.get?_eq_none away
  rw [byteAt_write, missed, Option.getD_none]

/-- What was written is found where it was written. -/
theorem window_write (extent : Extent) (start : Nat) (bytes : ByteArray) :
    (extent.write start bytes).window start bytes.size = bytes.data.toList := by
  refine List.ext_getElem (by rw [length_window, Array.length_toList, ByteArray.size_data]) ?_
  intro index inside present
  have bounded : start ≤ start + index := Nat.le_add_right start index
  have found : Piece.get? ⟨start, bytes⟩ (start + index) = some (bytes.data[index]) := by
    rw [Piece.get?, if_pos bounded, Nat.add_sub_cancel_left, Array.getElem?_eq_getElem]
  simp only [window, List.getElem_map, List.getElem_range', Nat.one_mul, byteAt_write, found,
    Option.getD_some, Array.getElem_toList]

/-- Bytes written after a range leave it as it is. -/
theorem window_write_before (extent : Extent) {first length start : Nat} (bytes : ByteArray)
    (before : first + length ≤ start) :
    (extent.write start bytes).window first length = extent.window first length :=
  window_congr fun _ _ stops => extent.byteAt_write_outside (.inl (Nat.lt_of_lt_of_le stops before))

theorem window_writeGrowing (extent : Extent) (start : Nat) (bytes : ByteArray)
    (first length : Nat) :
    (extent.writeGrowing start bytes).window first length =
      (extent.write start bytes).window first length := rfl

/-!
## Reading
-/

@[simp] theorem data_zeros (count : Nat) : (zeros count).data = Array.replicate count 0 := by
  induction count using Nat.strongRecOn with
  | _ count ih =>
    unfold zeros
    split
    · next nothing => rw [nothing]; rfl
    · next some =>
      have half := ih (count / 2) (by omega)
      dsimp only
      split
      · rw [ByteArray.data_append, half, Array.replicate_append_replicate]
        congr 1
        omega
      · rw [ByteArray.data_push, ByteArray.data_append, half, Array.replicate_append_replicate,
          ← Array.replicate_succ]
        congr 1
        omega

/-- Laying a piece over a range covers the offsets that it reaches. -/
private theorem getElem?_overlay (start : Nat) (target : ByteArray) (piece : Piece) (index : Nat) :
    (Piece.overlay start target piece).data[index]? =
      target.data[index]?.map fun byte => Piece.cover (start + index) byte piece := by
  unfold Piece.overlay
  dsimp only
  by_cases inside : index < target.size
  · have present : target.data[index]? = some target.data[index] := Array.getElem?_eq_getElem _
    rw [present, Option.map_some]
    split
    · next meets =>
      simp only [ByteArray.copySlice, Array.getElem?_append, Array.getElem?_extract,
        Array.size_append, Array.size_extract, ByteArray.size_data, Piece.stop] at meets ⊢
      by_cases low : start + index < piece.start
      · have missed : piece.get? (start + index) = none := Piece.get?_eq_none (.inl low)
        rw [if_pos (by omega), if_pos (by omega), if_pos (by omega), Nat.zero_add, present,
          Piece.cover, missed, Option.getD_none]
      · by_cases high : piece.start + piece.bytes.size ≤ start + index
        · have missed : piece.get? (start + index) = none := Piece.get?_eq_none (.inr high)
          rw [if_neg (by omega), if_pos (by omega), Piece.cover, missed, Option.getD_none]
          rw [← present]
          congr 1
          omega
        · rw [if_pos (by omega), if_neg (by omega), if_pos (by omega), Piece.cover, Piece.get?,
            if_pos (by omega)]
          have place : max start piece.start - piece.start +
              (index - (min (max start piece.start - start) target.size - 0)) =
                start + index - piece.start := by omega
          rw [place, Array.getElem?_eq_getElem (by rw [ByteArray.size_data]; omega),
            Option.getD_some]
    · next apart =>
      have missed : piece.get? (start + index) = none := Piece.get?_eq_none (by omega)
      rw [present, Piece.cover, missed, Option.getD_none]
  · have absent : target.data[index]? = none :=
      Array.getElem?_eq_none (by rw [ByteArray.size_data]; omega)
    rw [absent, Option.map_none]
    split
    · next meets =>
      refine Array.getElem?_eq_none ?_
      simp only [ByteArray.copySlice, Array.size_append, Array.size_extract, ByteArray.size_data,
        Piece.stop] at meets ⊢
      omega
    · exact absent

/-- Reading a range gives the byte at each of its offsets. -/
theorem toList_read (extent : Extent) (start length : Nat) :
    (extent.read start length).data.toList = extent.window start length := by
  have laid : ∀ (pieces : List Piece) (target : ByteArray) (index : Nat),
      (pieces.foldl (Piece.overlay start) target).data[index]? =
        target.data[index]?.map fun byte =>
          pieces.foldl (Piece.cover (start + index)) byte := by
    intro pieces
    induction pieces with
    | nil => intro target index; simp
    | cons piece rest ih =>
      intro target index
      rw [List.foldl_cons, ih, getElem?_overlay, Option.map_map]
      rfl
  refine List.ext_getElem? fun index => ?_
  rw [Array.getElem?_toList, read, laid, data_zeros, Array.getElem?_replicate, window,
    List.getElem?_map]
  split
  · next inside => rw [List.getElem?_range' inside, Nat.one_mul]; rfl
  · next outside =>
    rw [List.getElem?_eq_none (by rw [List.length_range']; omega)]
    rfl

@[simp] theorem size_read (extent : Extent) (start length : Nat) :
    (extent.read start length).size = length := by
  rw [← ByteArray.size_data, ← Array.length_toList, toList_read, length_window]

theorem read_write (extent : Extent) (start : Nat) (bytes : ByteArray) :
    (extent.write start bytes).read start bytes.size = bytes := by
  ext1
  rw [← Array.toList_inj, toList_read, window_write]

end Extent

end ChunkRelay
