import ChunkRelay.Files.Tree

/-!
# Readers

A reader hands out local data piece by piece. How it cuts the data is its own affair: filling goes on
until the room is used up or a read gives nothing, and an interrupted read is tried again. Readers are
idealised: one puts down the bytes that it counts and leaves the rest of the room as it was.
-/

set_option autoImplicit false

namespace ChunkRelay

inductive ReadEvent where
  /-- Bytes, over as many reads as it takes to hand them out. -/
  | data (bytes : ByteArray)
  | failure (cause : IoError)
  | pause

inductive Reader where
  /-- Events in order and then nothing; one read gives `most` bytes at most. -/
  | script (events : List ReadEvent) (most : Option Nat)
  /-- The contents of a file from an offset on. -/
  | file (contents offset : Nat)
  | directory
  | zeros
  | empty

namespace Reader

/-- One read from a list of events: the bytes or the failure, and the events left. -/
def readEvents (most : Option Nat) (room : Nat) :
    List ReadEvent → Except IoError ByteArray × List ReadEvent
  | [] => (.ok .empty, [])
  | .pause :: rest => (.ok .empty, rest)
  | .failure cause :: rest => (.error cause, rest)
  | .data bytes :: rest =>
    if bytes.size = 0 then readEvents most room rest
    else
      let count := min (min room bytes.size) (most.getD room)
      let left :=
        if count = bytes.size then rest else .data (bytes.extract count bytes.size) :: rest
      (.ok (bytes.extract 0 count), left)

/-- One read into so much room: the bytes or the failure, and the reader after it. -/
def read (files : FileTree) (reader : Reader) (room : Nat) :
    Except IoError ByteArray × Reader :=
  match reader with
  | .script events most =>
    let (result, events) := readEvents most room events
    (result, .script events most)
  | .file contents offset =>
    let extent := files.extent contents
    let bytes := extent.read offset (min room (extent.size - offset))
    (.ok bytes, .file contents (offset + bytes.size))
  | .directory => (.error .foundDirectory, .directory)
  | .zeros => (.ok (ChunkRelay.zeros room), .zeros)
  | .empty => (.ok .empty, .empty)

def pending : Reader → Nat
  | .script events _ => events.length
  | _ => 0

def unread : Reader → ByteArray
  | .script events _ => events.foldl (fun bytes event =>
      match event with
      | .data more => bytes ++ more
      | _ => bytes) .empty
  | _ => .empty

/-- The number of bytes a reader will hand out at most; one without end counts for nothing. -/
def supply (files : FileTree) : Reader → Nat
  | .file contents offset => (files.extent contents).size - offset
  | reader => reader.unread.size

theorem length_readEvents_le (most : Option Nat) (room : Nat) (events : List ReadEvent) :
    (readEvents most room events).2.length ≤ events.length := by
  induction events with
  | nil => simp [readEvents]
  | cons event rest ih =>
    cases event with
    | pause => simp [readEvents]
    | failure cause => simp [readEvents]
    | data bytes =>
      rw [readEvents]
      split
      · exact Nat.le_succ_of_le ih
      · dsimp only
        split <;> simp

theorem length_readEvents_lt {most : Option Nat} {room : Nat} {events left : List ReadEvent}
    {cause : IoError} (failed : readEvents most room events = (.error cause, left)) :
    left.length < events.length := by
  induction events with
  | nil => simp [readEvents] at failed
  | cons event rest ih =>
    cases event with
    | pause => simp [readEvents] at failed
    | failure other => simp_all [readEvents]
    | data bytes =>
      rw [readEvents] at failed
      split at failed
      · exact Nat.lt_succ_of_lt (ih failed)
      · simp at failed

theorem pending_read_le (files : FileTree) (reader : Reader) (room : Nat) :
    (reader.read files room).2.pending ≤ reader.pending := by
  cases reader with
  | script events most => exact length_readEvents_le most room events
  | _ => simp [read, pending]

theorem pending_read_lt {files : FileTree} {reader next : Reader} {room : Nat} {cause : IoError}
    (failed : reader.read files room = (.error cause, next)) (retried : cause.isInterrupted = true) :
    next.pending < reader.pending := by
  cases reader with
  | script events most =>
    simp only [read, Prod.mk.injEq] at failed
    obtain ⟨error, rfl⟩ := failed
    exact length_readEvents_lt (Prod.ext error rfl)
  | directory =>
    simp only [read, Prod.mk.injEq, Except.error.injEq] at failed
    rw [← failed.1] at retried
    simp [IoError.isInterrupted, IoError.foundDirectory, IoError.kind, osErrorKind] at retried
  | _ => simp [read] at failed

/-- What filling a room gave: the bytes, whether it ended well, and the reader after it. -/
structure Filled where
  bytes : ByteArray
  outcome : Except IoError Unit
  reader : Reader

/-- Reads on top of `taken` until the room is used up, a read gives nothing or one fails. -/
def fillAfter (files : FileTree) (reader : Reader) (room : Nat) (taken : ByteArray) : Filled :=
  if room = 0 then ⟨taken, .ok (), reader⟩
  else
    match _answer : reader.read files room with
    | (.ok bytes, next) =>
      if bytes.size = 0 then ⟨taken, .ok (), next⟩
      else fillAfter files next (room - bytes.size) (taken ++ bytes)
    | (.error cause, next) =>
      if cause.isInterrupted then fillAfter files next room taken
      else ⟨taken, .error cause, next⟩
termination_by room + reader.pending
decreasing_by
  · have := pending_read_le files reader room
    rw [_answer] at this
    dsimp only at this
    omega
  · have := pending_read_lt _answer ‹_›
    omega

def fill (files : FileTree) (reader : Reader) (room : Nat) : Filled :=
  reader.fillAfter files room .empty

end Reader

end ChunkRelay
