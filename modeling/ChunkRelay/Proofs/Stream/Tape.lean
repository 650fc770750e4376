import Mathlib.Data.Stream.Init
import ChunkRelay.Proofs.Memory.View
import ChunkRelay.Proofs.Stream.Supply
import ChunkRelay.Transfer.Station

/-! What a reader has in store, whatever the reads: bytes, reads of nothing and
failures, one after the other and without end. Interruptions leave no trace on
it. Filling a room takes what comes next off this tape, so that readers with
the same tape fill the same rooms alike, however they cut their data. -/

set_option autoImplicit false

namespace ChunkRelay

/-- One place on the tape of a reader: a byte, or what a read that comes to it ends with. -/
inductive Cell where
  | byte (value : UInt8)
  | nothing
  | failure (cause : IoError)

/-- What the events of a reader lead to. After the last of them every read gives nothing. -/
def ReadEvent.tape (most : Option Nat) : List ReadEvent → Stream' Cell
  | [] => .const .nothing
  | .pause :: rest => .cons .nothing (tape most rest)
  | .failure cause :: rest =>
    if cause.isInterrupted then tape most rest else .cons (.failure cause) (tape most rest)
  | .data bytes :: rest =>
    if most = some 0 ∧ bytes.size ≠ 0 then .const .nothing
    else bytes.data.toList.map .byte ++ₛ tape most rest

/-- Reads go on after such an event: it hands out bytes, or is an interruption. -/
def ReadEvent.passes : ReadEvent → Bool
  | .data _ => true
  | .failure cause => cause.isInterrupted
  | .pause => false

/-- However data are cut and interrupted, they stand on the tape byte by byte. -/
theorem ReadEvent.tape_append {most : Option Nat} (gives : most ≠ some 0)
    {events : List ReadEvent} (passing : ∀ event ∈ events, event.passes = true)
    (rest : List ReadEvent) :
    tape most (events ++ rest) = (content events).map .byte ++ₛ tape most rest := by
  induction events with
  | nil => rfl
  | cons event events ih =>
    have later := ih fun other member => passing other (List.mem_cons_of_mem _ member)
    have passes := passing event List.mem_cons_self
    cases event with
    | data bytes =>
      rw [List.cons_append, tape, if_neg fun both => gives both.1, later, content, List.map_append,
        Stream'.append_append_stream]
    | failure cause =>
      have retried : cause.isInterrupted = true := passes
      rw [List.cons_append, tape, content, if_pos retried, if_pos retried, later]
    | pause => cases passes

def Reader.tape (files : FileTree) : Reader → Stream' Cell
  | .script events most => ReadEvent.tape most events
  | .file contents offset =>
    ((files.extent contents).window offset ((files.extent contents).size - offset)).map .byte ++ₛ
      .const .nothing
  | .directory => .const (.failure .foundDirectory)
  | .zeros => .const (.byte 0)
  | .empty => .const .nothing

/-- Takes bytes off a tape until there are enough of them or something else comes, which is taken
off as well: the bytes, how it ended and the rest of the tape. -/
def Cell.cut : Nat → Stream' Cell → List UInt8 × Except IoError Unit × Stream' Cell
  | 0, tape => ([], .ok (), tape)
  | room + 1, tape =>
    match tape.head with
    | .byte value => ((cut room tape.tail).1.cons value, (cut room tape.tail).2)
    | .nothing => ([], .ok (), tape.tail)
    | .failure cause => ([], .error cause, tape.tail)

/-- Fills one room after the other: the bytes in each, and how filling it ended. -/
def Reader.fills (files : FileTree) (reader : Reader) :
    List Nat → List (List UInt8 × Except IoError Unit)
  | [] => []
  | room :: rooms =>
    let filled := reader.fill files room
    (filled.bytes.data.toList, filled.outcome) :: filled.reader.fills files rooms

/-!
## Cutting a tape
-/

namespace Cell

variable {room : Nat} {data : List UInt8} {rest : Stream' Cell}

/-- Bytes for which there is room come off a tape one after the other. -/
theorem cut_append (fits : data.length ≤ room) :
    cut room (data.map .byte ++ₛ rest) =
      (data ++ (cut (room - data.length) rest).1, (cut (room - data.length) rest).2) := by
  induction data generalizing room with
  | nil => rfl
  | cons value data ih =>
    cases room with
    | zero => exact absurd fits (Nat.not_succ_le_zero _)
    | succ room =>
      have later := ih (Nat.le_of_succ_le_succ fits)
      rw [List.map_cons, Stream'.cons_append_stream, cut, Stream'.head_cons, Stream'.tail_cons]
      dsimp only
      rw [later, List.length_cons, Nat.add_sub_add_right]
      rfl

theorem cut_of_le (enough : room ≤ data.length) :
    cut room (data.map .byte ++ₛ rest) =
      (data.take room, .ok (), (data.drop room).map .byte ++ₛ rest) := by
  have fits : (data.take room).length = room := List.length_take_of_le enough
  have split : data.map .byte ++ₛ rest =
      (data.take room).map .byte ++ₛ ((data.drop room).map .byte ++ₛ rest) := by
    rw [← Stream'.append_append_stream, ← List.map_append, List.take_append_drop]
  rw [split, cut_append (Nat.le_of_eq fits), fits, Nat.sub_self, cut, List.append_nil]

theorem cut_of_lt_of_nothing (short : data.length < room) (ended : rest.head = .nothing) :
    cut room (data.map .byte ++ₛ rest) = (data, .ok (), rest.tail) := by
  obtain ⟨left, rfl⟩ := Nat.exists_eq_add_of_lt short
  have more : data.length + left + 1 - data.length = left + 1 := by omega
  rw [cut_append (Nat.le_of_lt short), more, cut, ended]
  simp only [List.append_nil]

theorem cut_of_lt_of_failure {cause : IoError} (short : data.length < room)
    (failed : rest.head = .failure cause) :
    cut room (data.map .byte ++ₛ rest) = (data, .error cause, rest.tail) := by
  obtain ⟨left, rfl⟩ := Nat.exists_eq_add_of_lt short
  have more : data.length + left + 1 - data.length = left + 1 := by omega
  rw [cut_append (Nat.le_of_lt short), more, cut, failed]
  simp only [List.append_nil]

end Cell

theorem replicate_append_const {α : Type} (count : Nat) (value : α) :
    List.replicate count value ++ₛ Stream'.const value = Stream'.const value := by
  induction count with
  | zero => rfl
  | succ count ih =>
    rw [List.replicate_succ, Stream'.cons_append_stream, ih]
    exact (Stream'.const_eq value).symm

/-!
## One read
-/

namespace Reader

/-- One read takes bytes off the tape, or a read of nothing, or a failure. -/
def Winds (files : FileTree) (room : Nat) (tape : Stream' Cell) :
    Except IoError ByteArray × Reader → Prop
  | (.ok bytes, next) =>
    if bytes.size = 0 then tape = .cons .nothing (next.tape files)
    else bytes.size ≤ room ∧ tape = bytes.data.toList.map .byte ++ₛ next.tape files
  | (.error cause, next) =>
    if cause.isInterrupted then tape = next.tape files
    else tape = .cons (.failure cause) (next.tape files)

theorem winds_nothing {files : FileTree} {room : Nat} {next : Reader}
    {tape : Stream' Cell} (ended : tape = .cons .nothing (next.tape files)) :
    Winds files room tape (.ok .empty, next) := by
  rw [Winds, if_pos ByteArray.size_empty]
  exact ended

private theorem readEvents_winds (files : FileTree) {most : Option Nat} {room : Nat}
    (some_room : room ≠ 0) (events : List ReadEvent) :
    Winds files room (ReadEvent.tape most events)
      ((readEvents most room events).1, .script (readEvents most room events).2 most) := by
  induction events with
  | nil => exact winds_nothing (Stream'.const_eq _)
  | cons event rest ih =>
    cases event with
    | pause => exact winds_nothing rfl
    | failure cause =>
      rw [readEvents, ReadEvent.tape, Winds]
      split
      · rfl
      · rfl
    | data bytes =>
      rw [readEvents, ReadEvent.tape]
      by_cases empty : bytes.size = 0
      · rw [if_pos empty, if_neg (by simp [empty])]
        have none : bytes.data.toList = [] := by
          rw [ByteArray.size_eq_zero_iff.mp empty]
          rfl
        rw [none]
        exact ih
      rw [if_neg empty]
      rcases eq_or_ne most (some 0) with rfl | dry
      · simp only [Option.getD_some, Nat.min_zero, if_neg (Ne.symm empty)]
        rw [if_pos ⟨trivial, empty⟩, Winds, if_pos (by simp)]
        simp only [tape, ReadEvent.tape]
        rw [if_pos ⟨trivial, by simpa using empty⟩]
        exact Stream'.const_eq _
      · have given := given_ne_zero some_room dry empty
        generalize counted : min (min room bytes.size) (most.getD room) = count at given
        have smaller : count ≤ min room bytes.size := counted ▸ Nat.min_le_left _ _
        have fits : count ≤ room := Nat.le_trans smaller (Nat.min_le_left _ _)
        have inside : count ≤ bytes.size := Nat.le_trans smaller (Nat.min_le_right _ _)
        have size : (bytes.extract 0 count).size = count := by
          rw [ByteArray.size_extract, Nat.sub_zero, Nat.min_eq_left inside]
        rw [if_neg fun both => dry both.1, Winds, size, if_neg given]
        refine ⟨fits, ?_⟩
        rw [← toList_extract_append bytes inside, List.map_append,
          Stream'.append_append_stream]
        congr 1
        simp only [tape]
        split
        · next all =>
          rw [all, ByteArray.extract_same]
          rfl
        · rw [ReadEvent.tape, if_neg fun both => dry both.1]

/-- One read of any reader winds its tape on. -/
theorem read_winds (files : FileTree) (reader : Reader) {room : Nat} (some_room : room ≠ 0) :
    Winds files room (reader.tape files) (reader.read files room) := by
  cases reader with
  | script events most => exact readEvents_winds files some_room events
  | file contents offset =>
    simp only [read, tape, Winds, Extent.size_read, Extent.toList_read]
    generalize files.extent contents = extent
    split
    · next nothing =>
      have ended : extent.size - offset = 0 := by omega
      rw [nothing, Nat.add_zero, ended]
      exact Stream'.const_eq _
    · generalize counted : min room (extent.size - offset) = count
      refine ⟨by omega, ?_⟩
      rw [← Stream'.append_append_stream, ← List.map_append, ← Extent.window_add]
      congr 3
      omega
  | directory =>
    have final : IoError.foundDirectory.isInterrupted = false := rfl
    simp only [read, tape, Winds, final, Bool.false_eq_true, ↓reduceIte]
    exact Stream'.const_eq _
  | zeros =>
    have bytes : (ChunkRelay.zeros room).data.toList = List.replicate room 0 := by
      rw [Extent.data_zeros, Array.toList_replicate]
    have size : (ChunkRelay.zeros room).size = room := by
      rw [← ByteArray.size_data, Extent.data_zeros, Array.size_replicate]
    simp only [read, tape, Winds, bytes, size, if_neg some_room, List.map_replicate]
    exact ⟨Nat.le_refl room, (replicate_append_const room _).symm⟩
  | empty => exact winds_nothing (Stream'.const_eq _)

/-!
## Filling
-/

/-- Filling cuts the tape: what was taken grows by the bytes that come off it. -/
theorem fillAfter_cut (files : FileTree) (reader : Reader) (room : Nat) (taken : ByteArray) :
    let filled := reader.fillAfter files room taken
    filled.bytes.data.toList = taken.data.toList ++ (Cell.cut room (reader.tape files)).1 ∧
      (filled.outcome, filled.reader.tape files) = (Cell.cut room (reader.tape files)).2 := by
  fun_induction Reader.fillAfter files reader room taken with
  | case1 reader taken => exact ⟨(List.append_nil _).symm, rfl⟩
  | case2 reader room taken some_room bytes next answer nothing =>
    have winds := reader.read_winds files some_room
    rw [answer, Winds, if_pos nothing] at winds
    obtain ⟨room, rfl⟩ := Nat.exists_eq_succ_of_ne_zero some_room
    rw [winds]
    exact ⟨(List.append_nil _).symm, rfl⟩
  | case3 reader room taken some_room bytes next answer something ih =>
    have winds := reader.read_winds files some_room
    rw [answer, Winds, if_neg something] at winds
    obtain ⟨fits, further⟩ := winds
    have length : bytes.data.toList.length = bytes.size := by
      rw [Array.length_toList, ByteArray.size_data]
    rw [further, Cell.cut_append (by rw [length]; exact fits), length]
    obtain ⟨grown, ended⟩ := ih
    refine ⟨?_, ended⟩
    rw [grown, ByteArray.data_append, Array.toList_append, List.append_assoc]
  | case4 reader room taken some_room cause next answer retried ih =>
    have winds := reader.read_winds files some_room
    rw [answer, Winds, if_pos retried] at winds
    rw [winds]
    exact ih
  | case5 reader room taken some_room cause next answer final =>
    have winds := reader.read_winds files some_room
    rw [answer, Winds, if_neg final] at winds
    obtain ⟨room, rfl⟩ := Nat.exists_eq_succ_of_ne_zero some_room
    rw [winds]
    exact ⟨(List.append_nil _).symm, rfl⟩

theorem fill_cut (files : FileTree) (reader : Reader) (room : Nat) :
    ((reader.fill files room).bytes.data.toList, (reader.fill files room).outcome,
      (reader.fill files room).reader.tape files) = Cell.cut room (reader.tape files) := by
  obtain ⟨grown, ended⟩ := reader.fillAfter_cut files room .empty
  exact Prod.ext grown ended

/-- What fills rooms is the tape alone. -/
theorem fills_congr {files others : FileTree} {reader other : Reader}
    (same : other.tape others = reader.tape files) (rooms : List Nat) :
    other.fills others rooms = reader.fills files rooms := by
  induction rooms generalizing reader other with
  | nil => rfl
  | cons room rooms ih =>
    have alike := (other.fill_cut others room).trans
      ((congrArg (Cell.cut room) same).trans (reader.fill_cut files room).symm)
    simp only [Prod.mk.injEq] at alike
    obtain ⟨bytes, outcome, left⟩ := alike
    rw [fills, fills, bytes, outcome, ih left]

end Reader

/-!
## Filling a stage
-/

namespace Stage

/-- All bytes of a stage. -/
def contents (stage : Stage) (host : Host) : List UInt8 :=
  (stage.front stage.capacity host).data.toList

/-- The bytes of a stage exist. -/
def Backed (host : Host) : Stage → Prop
  | .relay buffer =>
    ∃ holding, buffer.holding = some holding ∧ holding.region.Present host
  | .scratch _ => True

theorem length_contents {stage : Stage} {host : Host} (backed : stage.Backed host) :
    (stage.contents host).length = stage.capacity := by
  rw [contents, Array.length_toList, ByteArray.size_data]
  cases stage with
  | relay buffer =>
    obtain ⟨holding, held, _⟩ := backed
    exact RelayBuffer.size_toBytes held host
  | scratch extent => exact extent.size_read 0 extent.size

/-- What is put on a stage stands at its front, and the rest stays as it was. -/
theorem contents_setFront {stage next : Stage} {host after : Host} (backed : stage.Backed host)
    {bytes : ByteArray} (fits : bytes.size ≤ stage.capacity)
    (ran : (stage.setFront bytes).run host = (next, after)) :
    next.contents after = bytes.data.toList ++ (stage.contents host).drop bytes.size := by
  rw [← Nat.zero_add bytes.size] at fits
  cases stage with
  | relay buffer =>
    obtain ⟨holding, held, present⟩ := backed
    have wrote := RelayBuffer.toBytes_write held present fits
    rw [List.take_zero, List.nil_append, Nat.zero_add] at wrote
    cases ran
    exact wrote
  | scratch extent =>
    cases ran
    have wrote := extent.window_write_within fits
    rw [List.take_zero, List.nil_append, Nat.zero_add] at wrote
    simp only [contents, front, capacity, Extent.size_write, Extent.toList_read]
    exact wrote

end Stage

/-- What filling a stage does, told by what came off the tape of its reader. -/
theorem Station.answer_fill_cut {station : Station} {host : Host}
    (backed : station.stage.Backed host) {bytes : List UInt8} {outcome : Except IoError Unit}
    {left : Stream' Cell}
    (cut : Cell.cut station.stage.capacity (station.reader.tape host.files) =
      (bytes, outcome, left)) :
    ∃ next after, (station.answer .fill).run host =
        ((some (outcome.map fun _ => bytes.length), next), after) ∧
      next.stage.contents after = bytes ++ (station.stage.contents host).drop bytes.length ∧
      next.reader.tape host.files = left := by
  have fits := Reader.size_fill_le host.files station.reader station.stage.capacity
  have same := (station.reader.fill_cut host.files station.stage.capacity).trans cut
  generalize given : station.reader.fill host.files station.stage.capacity = filled at fits same
  simp only [Prod.mk.injEq] at same
  obtain ⟨rfl, rfl, rfl⟩ := same
  rcases set : (station.stage.setFront filled.bytes).run host with ⟨stage, after⟩
  have stands := Stage.contents_setFront backed fits set
  have answered : station.answerFill.run host = ((filled.outcome.map fun _ => filled.bytes.size,
      { station with stage, reader := filled.reader }), after) := by
    rw [Station.answerFill, HostM.run_get_bind]
    dsimp only
    rw [given, HostM.run_bind_eq set]
    rfl
  rw [Array.length_toList, ByteArray.size_data]
  exact ⟨_, after, HostM.run_bind_eq answered, stands, rfl⟩

/-- Filling a stage always comes to an end and takes the bytes that its reader has in store next: as
many as the stage has room for, and nothing beyond them, or all there are before a read gives
nothing or fails. They stand at the front, and the rest of the stage is as it was. Readers with the
same in store fill any rooms alike, whatever the reads. -/
theorem stage_filled_from_store {station : Station} {host : Host}
    (backed : station.stage.Backed host) :
    (∃ result next after, (station.answer .fill).run host = ((some result, next), after) ∧
      ∀ data rest, station.reader.tape host.files = data.map .byte ++ₛ rest →
        (station.stage.capacity ≤ data.length →
          result = .ok station.stage.capacity ∧
            next.stage.contents after = data.take station.stage.capacity ∧
            next.reader.tape host.files =
              (data.drop station.stage.capacity).map .byte ++ₛ rest) ∧
        (data.length < station.stage.capacity → rest.head = .nothing →
          result = .ok data.length ∧
            next.stage.contents after =
              data ++ (station.stage.contents host).drop data.length ∧
            next.reader.tape host.files = rest.tail) ∧
        ∀ cause, data.length < station.stage.capacity → rest.head = .failure cause →
          result = .error cause ∧
            next.stage.contents after =
              data ++ (station.stage.contents host).drop data.length ∧
            next.reader.tape host.files = rest.tail) ∧
      ∀ (other : Reader) (others : FileTree),
        other.tape others = station.reader.tape host.files →
        ∀ rooms, other.fills others rooms = station.reader.fills host.files rooms := by
  refine ⟨?filled, fun other others same => Reader.fills_congr same⟩
  rcases cut : Cell.cut station.stage.capacity (station.reader.tape host.files) with
    ⟨bytes, outcome, left⟩
  obtain ⟨next, after, answered, stands, rest⟩ := Station.answer_fill_cut backed cut
  refine ⟨_, next, after, answered, fun data further tape =>
    ⟨fun enough => ?_, fun short ended => ?_, fun cause short failed => ?_⟩⟩
  · rw [tape, Cell.cut_of_le enough] at cut
    cases cut
    have all : (data.take station.stage.capacity).length = station.stage.capacity :=
      List.length_take_of_le enough
    refine ⟨congrArg Except.ok all, ?_, rest⟩
    rw [stands, all, ← Stage.length_contents backed, List.drop_length, List.append_nil]
  · rw [tape, Cell.cut_of_lt_of_nothing short ended] at cut
    cases cut
    exact ⟨rfl, stands, rest⟩
  · rw [tape, Cell.cut_of_lt_of_failure short failed] at cut
    cases cut
    exact ⟨rfl, stands, rest⟩

/-- Three bytes for a room of four, cut by an interruption, and the same bytes one at a time. -/
theorem stage_filled_from_store_small :
    let station : Station := .ofPeer 4 (.link 0 .far) .unbounded .throughBus
      (.script [.data ⟨#[1]⟩, .failure (.bare .interrupted), .data ⟨#[2, 3]⟩] none) .discard
    let host : Host := .fresh 0 Bus.defaultBase .empty
    let other : Reader := .script [.data ⟨#[1, 2, 3]⟩] (some 1)
    station.stage.Backed host ∧
      (∃ next after, (station.answer .fill).run host = ((some (.ok 3), next), after) ∧
        next.stage.contents after = [1, 2, 3, 0]) ∧
      other.fills .empty [2, 2] = station.reader.fills .empty [2, 2] := by
  intro station host other
  have backed : station.stage.Backed host := trivial
  have cut : ∀ event ∈ [.data ⟨#[1]⟩, .failure (.bare .interrupted), .data ⟨#[2, 3]⟩],
      ReadEvent.passes event = true := by decide
  have whole : ∀ event ∈ [.data ⟨#[1, 2, 3]⟩], ReadEvent.passes event = true := by decide
  have unbounded : (none : Option Nat) ≠ some 0 := nofun
  have single : (some 1 : Option Nat) ≠ some 0 := by decide
  have tape : station.reader.tape host.files =
      ([1, 2, 3] : List UInt8).map .byte ++ₛ .const .nothing :=
    ReadEvent.tape_append unbounded cut []
  have same : other.tape .empty = station.reader.tape host.files :=
    (ReadEvent.tape_append single whole []).trans tape.symm
  obtain ⟨⟨result, next, after, answered, filled⟩, alike⟩ := stage_filled_from_store backed
  obtain ⟨rfl, stands, _⟩ := (filled [1, 2, 3] _ tape).2.1 (by decide) rfl
  have rest : (station.stage.contents host).drop 3 = [0] := by decide +kernel
  rw [show ([1, 2, 3] : List UInt8).length = 3 from rfl, rest] at stands
  exact ⟨backed, ⟨next, after, answered, stands⟩, alike other .empty same [2, 2]⟩

end ChunkRelay
