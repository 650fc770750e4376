import ChunkRelay.Proofs.Stream.Intake
import ChunkRelay.Proofs.Transfer.Encounter
import ChunkRelay.Proofs.Transfer.Residue

/-! What the requests of a party do to its files and to its writer. Of all that
does not place anything, only putting a chunk changes either; so as long as
nobody else changes the file it writes, what a writer holds grows by what is
put. -/

set_option autoImplicit false

namespace ChunkRelay

/-- A file of this number, if any is meant, is there on both trees and is the same. -/
def FileTree.SameAt (target? : Option Nat) (files after : FileTree) : Prop :=
  ∀ contents, target? = some contents → contents < files.contents.size →
    contents < after.contents.size ∧ after.extent contents = files.extent contents

namespace Entry

/-- The files as an answer leaves them: of all that does not place anything, only the putting of a
chunk changes any. -/
def filesAfter : Entry → FileTree
  | ⟨host, station, .drain length, _⟩ =>
    (station.writer.put host.files (station.stage.front length host)).files
  | ⟨host, _, _, _⟩ => host.files

def writerAfter : Entry → Writer
  | ⟨host, station, .drain length, _⟩ =>
    (station.writer.put host.files (station.stage.front length host)).writer
  | ⟨_, station, _, _⟩ => station.writer

theorem Permits.writer {entry : Entry} {next : Station} (permits : entry.Permits next) :
    next.writer = entry.writerAfter := by
  obtain ⟨host, station, request, answer⟩ := entry
  cases request with
  | send | receive | place =>
    cases permits
    rfl
  | fetch address length =>
    obtain ⟨after, answered⟩ := permits
    have kept : ((station.answer (.fetch address length)).run host).1.2.writer =
        station.writer := by
      simp only [Station.answer, Station.answerFetch, StateT.run_bind, StateT.run_get, pure_bind]
      cases station.memory.read address length host <;> rfl
    rw [answered] at kept
    exact kept
  | _ =>
    obtain ⟨after, answered⟩ := permits
    exact (congrArg (fun ran => ran.1.2.writer) answered).symm

end Entry

/-- The files as a log leaves them. -/
def filesAfter (files : FileTree) (log : List Entry) : FileTree :=
  log.foldl (fun _ entry => entry.filesAfter) files

/-- Nobody else changes the file of this number: each request finds it as the one before left it. -/
def Alone (target? : Option Nat) : FileTree → List Entry → Prop
  | _, [] => True
  | files, entry :: log =>
    FileTree.SameAt target? files entry.host.files ∧ Alone target? entry.filesAfter log

theorem filesAfter_append (files : FileTree) (log later : List Entry) :
    filesAfter files (log ++ later) = filesAfter (filesAfter files log) later :=
  List.foldl_append

theorem alone_append {target? : Option Nat} {files : FileTree} {log later : List Entry} :
    Alone target? files (log ++ later) ↔
      Alone target? files log ∧ Alone target? (filesAfter files log) later := by
  induction log generalizing files with
  | nil => simp [Alone, filesAfter]
  | cons entry log ih =>
    rw [List.cons_append, Alone, Alone, ih, and_assoc]
    rfl

/-- A writer that writes to no file is never disturbed. -/
theorem Alone.of_none (files : FileTree) (log : List Entry) : Alone none files log := by
  induction log generalizing files with
  | nil => trivial
  | cons entry log ih => exact ⟨nofun, ih _⟩

/-- A writer, with the file that it may write to, holds these bytes. -/
structure Writer.Holds (target? : Option Nat) (files : FileTree) (data : List UInt8)
    (writer : Writer) : Prop where
  target : writer.target? = target?
  keeps : writer.Keeps files
  kept : writer.kept files = data

namespace Writer.Holds

variable {target? : Option Nat} {files after : FileTree} {data : List UInt8} {writer : Writer}

theorem elsewhere (holds : writer.Holds target? files data)
    (same : FileTree.SameAt target? files after) : writer.Holds target? after data := by
  obtain ⟨target, keeps, kept⟩ := holds
  cases writer with
  | file contents offset =>
    obtain ⟨present, unchanged⟩ := same contents target.symm keeps
    refine ⟨target, present, ?_⟩
    rw [← kept, Writer.kept, Writer.kept, unchanged]
  | discard => cases keeps
  | _ => exact ⟨target, trivial, kept⟩

/-- What is put is held from its beginning on, and all of it if putting succeeds. -/
theorem put (holds : writer.Holds target? files data) (bytes : ByteArray) :
    ∃ part, part <+: bytes.data.toList ∧
      (writer.put files bytes).writer.Holds target? (writer.put files bytes).files (data ++ part) ∧
      ((writer.put files bytes).outcome = .ok () → part = bytes.data.toList) := by
  obtain ⟨keeps, count, kept, whole⟩ := holds.keeps.put bytes
  refine ⟨_, List.take_prefix count _, ⟨?_, keeps, ?_⟩, fun succeeded => ?_⟩
  · rw [target?_put, holds.target]
  · rw [kept, holds.kept]
  · rw [List.take_of_length_le]
    exact whole succeeded

end Writer.Holds

/-- At a station with a scratch of its own, the files are really left as the log tells. -/
theorem Station.files_of_answer {station next : Station} {host after : Host} {contents : Extent}
    {request : Request} {answer : request.Answer} (stage : station.stage = .scratch contents)
    (elsewhere : ∀ address length, request ≠ .place address length)
    (answered : (station.answer request).run host = ((some answer, next), after)) :
    after.files = Entry.filesAfter ⟨host, station, request, answer⟩ := by
  have left : ((station.answer request).run host).2.files =
      Entry.filesAfter ⟨host, station, request, answer⟩ := by
    cases request with
    | place address length => exact absurd rfl (elsewhere address length)
    | send message =>
      rw [answered]
      exact (Station.answer_untouched answered (.inl ⟨message, rfl⟩)).files
    | receive =>
      rw [answered]
      exact (Station.answer_untouched answered (.inr rfl)).files
    | fetch address length =>
      obtain ⟨_, transport, wait, memory, reader, writer⟩ := station
      subst stage
      simp only [Station.answer, Station.answerFetch, StateT.run_bind, StateT.run_get, pure_bind]
      cases memory.read address length host <;> rfl
    | _ =>
      obtain ⟨_, transport, wait, memory, reader, writer⟩ := station
      subst stage
      rfl
  rw [answered] at left
  exact left

end ChunkRelay
