import ChunkRelay.Files.Tree

/-!
# Writers

A writer takes local data piece by piece. Putting a chunk goes on until every byte is taken, offering
what is left each time; a write that takes nothing stalls it, and an interrupted write is tried again.
-/

set_option autoImplicit false

namespace ChunkRelay

inductive WriteEvent where
  | take (most : Nat)
  | failure (cause : IoError)

inductive Writer where
  /-- One event for each write, and after them everything is taken. -/
  | script (events : List WriteEvent) (flushFailure : Option IoError) (taken : ByteArray)
  | file (contents offset : Nat)
  | discard
  | full

inductive WriteFailure where
  /-- A write took nothing after so many bytes. -/
  | stalled (written : Nat)
  | failed (cause : IoError)
deriving DecidableEq, Repr

namespace Writer

/-- One write of the bytes from `start` on: how many were taken, or the failure. -/
def write (files : FileTree) (writer : Writer) (bytes : ByteArray) (start : Nat) :
    Except IoError Nat × Writer × FileTree :=
  let offered := bytes.size - start
  match writer with
  | .script [] flushFailure taken =>
    (.ok offered, .script [] flushFailure (taken ++ bytes.extract start bytes.size), files)
  | .script (.failure cause :: rest) flushFailure taken =>
    (.error cause, .script rest flushFailure taken, files)
  | .script (.take most :: rest) flushFailure taken =>
    let count := min most offered
    (.ok count, .script rest flushFailure (taken ++ bytes.extract start (start + count)), files)
  | .file contents offset =>
    (.ok offered, .file contents (offset + offered),
      files.modify contents (Extent.writeGrowing · offset (bytes.extract start bytes.size)))
  | .discard => (.ok offered, .discard, files)
  | .full => (.error (.os 28), .full, files)

def flush : Writer → Except IoError Unit
  | .script _ (some cause) _ => .error cause
  | _ => .ok ()

def pending : Writer → Nat
  | .script events _ _ => events.length
  | _ => 0

def taken : Writer → ByteArray
  | .script _ _ taken => taken
  | _ => .empty

theorem pending_write_le (files : FileTree) (writer : Writer) (bytes : ByteArray) (start : Nat) :
    (writer.write files bytes start).2.1.pending ≤ writer.pending := by
  cases writer with
  | script events flushFailure taken =>
    cases events with
    | nil => simp [write, pending]
    | cons event rest => cases event <;> simp [write, pending]
  | _ => simp [write, pending]

theorem pending_write_lt {files after : FileTree} {writer next : Writer} {bytes : ByteArray}
    {start : Nat} {cause : IoError}
    (failed : writer.write files bytes start = (.error cause, next, after))
    (retried : cause.isInterrupted = true) : next.pending < writer.pending := by
  cases writer with
  | script events flushFailure taken =>
    cases events with
    | nil => simp [write] at failed
    | cons event rest =>
      cases event with
      | take most => simp [write] at failed
      | failure other =>
        simp only [write, Prod.mk.injEq] at failed
        obtain ⟨_, rfl, _⟩ := failed
        simp [pending]
  | full =>
    simp only [write, Prod.mk.injEq, Except.error.injEq] at failed
    rw [← failed.1] at retried
    simp [IoError.isInterrupted, IoError.kind, osErrorKind] at retried
  | _ => simp [write] at failed

/-- What putting a chunk did: whether it was taken whole, the writer and the files after it. -/
structure Put where
  outcome : Except WriteFailure Unit
  writer : Writer
  files : FileTree

def putFrom (files : FileTree) (writer : Writer) (bytes : ByteArray) (start : Nat) : Put :=
  if bytes.size ≤ start then ⟨.ok (), writer, files⟩
  else
    match _answer : writer.write files bytes start with
    | (.ok count, next, after) =>
      if count = 0 then ⟨.error (.stalled start), next, after⟩
      else putFrom after next bytes (start + count)
    | (.error cause, next, after) =>
      if cause.isInterrupted then putFrom after next bytes start
      else ⟨.error (.failed cause), next, after⟩
termination_by (bytes.size - start) + writer.pending
decreasing_by
  · have := pending_write_le files writer bytes start
    rw [_answer] at this
    dsimp only at this
    omega
  · have := pending_write_lt _answer ‹_›
    omega

def put (files : FileTree) (writer : Writer) (bytes : ByteArray) : Put :=
  writer.putFrom files bytes 0

end Writer

end ChunkRelay
