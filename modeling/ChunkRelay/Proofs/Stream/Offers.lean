import ChunkRelay.Proofs.Stream.Intake
import ChunkRelay.Remote.Sink
import ChunkRelay.Transfer.Receiver

/-! How a writer answers to the writes of one chunk. Each write offers what no
write before it took, so that what is taken is a first part of the chunk, each
byte once. All answers but the last let the writing go on; the last one alone
tells how it ends. -/

set_option autoImplicit false

namespace ChunkRelay

namespace Writer

/-- How many bytes were taken over some answers. -/
def takenOver (answers : List (Except IoError Nat)) : Nat :=
  (answers.map fun answer => answer.toOption.getD 0).sum

/-- After such an answer the writing of a chunk goes on, unless the chunk is used up. -/
def GoesOn : Except IoError Nat → Prop
  | .ok count => count ≠ 0
  | .error cause => cause.isInterrupted = true

/-- The answers of a writer to the writes of a chunk, and what has become of it and of the files. -/
inductive Answers (bytes : ByteArray) (files : FileTree) (writer : Writer) :
    List (Except IoError Nat) → FileTree → Writer → Prop
  | unasked : Answers bytes files writer [] files writer
  | asked {answers : List (Except IoError Nat)} {before after : FileTree} {asked next : Writer}
      {answer : Except IoError Nat} :
      Answers bytes files writer answers before asked →
      takenOver answers < bytes.size →
      asked.write before bytes (takenOver answers) = (answer, next, after) →
      Answers bytes files writer (answers ++ [answer]) after next

/-- How the writing of so many bytes ends, told by the answers to it. -/
inductive Settles (size : Nat) : List (Except IoError Nat) → Except LocalIOError Unit → Prop
  | whole {answers : List (Except IoError Nat)} :
      (∀ answer ∈ answers, GoesOn answer) → takenOver answers = size →
      Settles size answers (.ok ())
  | stalled {earlier : List (Except IoError Nat)} :
      (∀ answer ∈ earlier, GoesOn answer) → takenOver earlier < size →
      Settles size (earlier ++ [.ok 0]) (.error (.shortWrite size (takenOver earlier)))
  | failed {earlier : List (Except IoError Nat)} {cause : IoError} :
      (∀ answer ∈ earlier, GoesOn answer) → takenOver earlier < size →
      cause.isInterrupted = false →
      Settles size (earlier ++ [.error cause]) (.error (.write cause))

/-- Writes all of some bytes: what is left after a write is offered alone to the next one. -/
def writeAll (files : FileTree) (writer : Writer) (bytes : ByteArray) :
    Except IoError Unit × Writer × FileTree :=
  if bytes.size = 0 then (.ok (), writer, files)
  else
    match _answer : writer.write files bytes 0 with
    | (.ok count, next, after) =>
      if count = 0 then (.error (.custom .writeZero "failed to write whole buffer"), next, after)
      else writeAll after next (bytes.extract count bytes.size)
    | (.error cause, next, after) =>
      if cause.isInterrupted then writeAll after next bytes
      else (.error cause, next, after)
termination_by bytes.size + writer.pending
decreasing_by
  · have := pending_write_le files writer bytes 0
    rw [_answer] at this
    rw [ByteArray.size_extract]
    dsimp only at this
    omega
  · have := pending_write_lt _answer ‹_›
    omega

/-!
## One write
-/

section Write

variable {files after : FileTree} {writer next : Writer} {bytes : ByteArray} {start count : Nat}

/-- A write takes no more than it is offered. -/
theorem count_write_le (answer : writer.write files bytes start = (.ok count, next, after)) :
    count ≤ bytes.size - start := by
  cases writer with
  | script events flushFailure taken =>
    cases events with
    | nil =>
      cases answer
      exact Nat.le_refl _
    | cons event rest =>
      cases event with
      | failure cause => cases answer
      | take most =>
        cases answer
        exact Nat.min_le_right _ _
  | full => cases answer
  | _ =>
    cases answer
    exact Nat.le_refl _

/-- Offering the rest of some bytes alone is offering them from there on. -/
theorem write_extract (files : FileTree) (writer : Writer) (bytes : ByteArray) (start : Nat) :
    writer.write files (bytes.extract start bytes.size) 0 = writer.write files bytes start := by
  have offered : (bytes.extract start bytes.size).size - 0 = bytes.size - start := by
    rw [ByteArray.size_extract, Nat.min_self, Nat.sub_zero]
  have part (stop : Nat) :
      (bytes.extract start bytes.size).extract 0 stop = bytes.extract start (start + stop) := by
    ext1
    rw [ByteArray.extract_extract, Nat.add_zero, ByteArray.data_extract, ByteArray.data_extract,
      Array.extract_eq_extract_right, ByteArray.size_data]
    omega
  have all : (bytes.extract start bytes.size).extract 0 (bytes.extract start bytes.size).size =
      bytes.extract start bytes.size := ByteArray.extract_zero_size
  cases writer with
  | script events flushFailure taken =>
    cases events with
    | nil => simp only [write, offered, all]
    | cons event rest =>
      cases event with
      | failure cause => rfl
      | take most => simp only [write, offered, Nat.zero_add, part]
  | file contents offset => simp only [write, offered, all]
  | discard => simp only [write, offered]
  | full => rfl

end Write

/-!
## Answers
-/

@[simp] theorem takenOver_concat (answers : List (Except IoError Nat))
    (answer : Except IoError Nat) :
    takenOver (answers ++ [answer]) = takenOver answers + answer.toOption.getD 0 := by
  simp [takenOver]

section Answers

variable {bytes : ByteArray} {files after : FileTree} {writer next : Writer}
  {answers : List (Except IoError Nat)}

/-- No more is taken than there is. -/
theorem Answers.takenOver_le (answered : Answers bytes files writer answers after next) :
    takenOver answers ≤ bytes.size := by
  induction answered with
  | unasked => exact Nat.zero_le _
  | @asked answers _ _ _ _ answer _ unfinished wrote _ =>
    rw [takenOver_concat]
    cases answer with
    | error cause => exact Nat.le_of_lt unfinished
    | ok count =>
      have fits := count_write_le wrote
      change takenOver answers + count ≤ bytes.size
      omega

/-- Nobody asks a writer to take nothing. -/
theorem Answers.of_empty (empty : bytes.size = 0)
    (answered : Answers bytes files writer answers after next) : answers = [] := by
  cases answered with
  | unasked => rfl
  | asked _ unfinished _ =>
    rw [empty] at unfinished
    exact absurd unfinished (Nat.not_lt_zero _)

/-- Each answer after which the writing goes on uses up a byte or an interruption. -/
theorem Answers.length_le (answered : Answers bytes files writer answers after next)
    (going : ∀ answer ∈ answers, GoesOn answer) :
    answers.length + next.pending ≤ takenOver answers + writer.pending := by
  induction answered with
  | unasked => exact Nat.le_refl _
  | @asked answers before _ asked _ answer _ _ wrote ih =>
    have earlier := ih fun other member => going other (List.mem_append_left _ member)
    have goes := going answer (List.mem_append_right _ (List.mem_singleton_self _))
    rw [takenOver_concat, List.length_append, List.length_singleton]
    cases answer with
    | error cause =>
      have fewer := pending_write_lt wrote goes
      change _ ≤ takenOver answers + 0 + writer.pending
      omega
    | ok count =>
      have no_more := pending_write_le before asked bytes (takenOver answers)
      rw [wrote] at no_more
      have some_bytes : count ≠ 0 := goes
      change _ ≤ takenOver answers + count + writer.pending
      dsimp only at no_more
      omega

/-- What a writer keeps over its answers is the first part of the bytes that it took. -/
theorem Answers.kept (answered : Answers bytes files writer answers after next)
    (keeps : writer.Keeps files) :
    next.Keeps after ∧
      next.kept after = writer.kept files ++ bytes.data.toList.take (takenOver answers) := by
  induction answered with
  | unasked => exact ⟨keeps, (List.append_nil _).symm⟩
  | @asked answers _ _ _ _ answer _ _ wrote ih =>
    obtain ⟨before, held⟩ := ih
    obtain ⟨later, count, _, grown, told⟩ := before.write wrote
    refine ⟨later, ?_⟩
    have counted : answer.toOption.getD 0 = count := by
      cases answer with
      | ok => exact told
      | error => exact told.symm
    rw [grown, held, takenOver_concat, counted, List.take_add, List.append_assoc]

end Answers

/-!
## Putting a chunk
-/

section Put

variable {bytes : ByteArray} {first files : FileTree} {begun writer : Writer}
  {answers : List (Except IoError Nat)}

/-- Putting goes on from the answers so far until they settle it. -/
theorem Answers.putFrom (answered : Answers bytes first begun answers files writer)
    (going : ∀ answer ∈ answers, GoesOn answer) {start : Nat}
    (reached : takenOver answers = start) :
    ∃ later, Answers bytes first begun later (writer.putFrom files bytes start).files
        (writer.putFrom files bytes start).writer ∧
      later.length ≤ bytes.size + begun.pending ∧
      Settles bytes.size later
        ((writer.putFrom files bytes start).outcome.mapError (Receiver.drainError bytes.size)) := by
  have few := answered.length_le going
  fun_induction Writer.putFrom files writer bytes start generalizing answers with
  | case1 files writer start done =>
    subst reached
    have exactly := Nat.le_antisymm answered.takenOver_le done
    exact ⟨answers, answered, by omega, .whole going exactly⟩
  | case2 files writer start left next after answer =>
    subst reached
    have unfinished := Nat.lt_of_not_le left
    refine ⟨_, answered.asked unfinished answer, ?_, .stalled going unfinished⟩
    rw [List.length_append, List.length_singleton]
    omega
  | case3 files writer start left count next after answer something ih =>
    subst reached
    have unfinished := Nat.lt_of_not_le left
    have further := answered.asked unfinished answer
    have still : ∀ other ∈ answers ++ [.ok count], GoesOn other :=
      List.forall_mem_append.mpr ⟨going, List.forall_mem_singleton.mpr something⟩
    exact ih further still (takenOver_concat _ _) (further.length_le still)
  | case4 files writer start left cause next after answer retried ih =>
    subst reached
    have unfinished := Nat.lt_of_not_le left
    have further := answered.asked unfinished answer
    have still : ∀ other ∈ answers ++ [.error cause], GoesOn other :=
      List.forall_mem_append.mpr ⟨going, List.forall_mem_singleton.mpr retried⟩
    exact ih further still (takenOver_concat _ _) (further.length_le still)
  | case5 files writer start left cause next after answer final =>
    subst reached
    have unfinished := Nat.lt_of_not_le left
    refine ⟨_, answered.asked unfinished answer, ?_,
      .failed going unfinished (Bool.eq_false_iff.mpr final)⟩
    rw [List.length_append, List.length_singleton]
    omega

theorem put_answers (files : FileTree) (writer : Writer) (bytes : ByteArray) :
    ∃ answers, Answers bytes files writer answers (writer.put files bytes).files
        (writer.put files bytes).writer ∧
      answers.length ≤ bytes.size + writer.pending ∧
      Settles bytes.size answers
        ((writer.put files bytes).outcome.mapError (Receiver.drainError bytes.size)) :=
  Answers.unasked.putFrom (List.forall_mem_nil _) rfl

/-- Counting what is taken and cutting it off come to the same. -/
theorem writeAll_extract (files : FileTree) (writer : Writer) (bytes : ByteArray) (start : Nat) :
    let put := writer.putFrom files bytes start
    ∃ result, writer.writeAll files (bytes.extract start bytes.size) =
        (result, put.writer, put.files) ∧
      result.mapError .write = put.outcome.mapError Sink.drainError := by
  have size (offset : Nat) :
      (bytes.extract offset bytes.size).size = bytes.size - offset := by
    rw [ByteArray.size_extract, Nat.min_self]
  fun_induction Writer.putFrom files writer bytes start with
  | case1 files writer start done =>
    refine ⟨.ok (), ?_, rfl⟩
    rw [writeAll, if_pos (by rw [size]; omega)]
  | case2 files writer start left next after answer =>
    have asked := (write_extract files writer bytes start).trans answer
    rw [writeAll, if_neg (by rw [size]; omega)]
    split
    · next given =>
      cases asked.symm.trans given
      exact ⟨_, rfl, rfl⟩
    · next given => cases asked.symm.trans given
  | case3 files writer start left count next after answer something ih =>
    have asked := (write_extract files writer bytes start).trans answer
    have rest : (bytes.extract start bytes.size).extract count
        (bytes.extract start bytes.size).size = bytes.extract (start + count) bytes.size := by
      rw [ByteArray.extract_extract, size]
      congr 1
      omega
    rw [writeAll, if_neg (by rw [size]; omega)]
    split
    · next given =>
      cases asked.symm.trans given
      rw [if_neg something, rest]
      exact ih
    · next given => cases asked.symm.trans given
  | case4 files writer start left cause next after answer retried ih =>
    have asked := (write_extract files writer bytes start).trans answer
    rw [writeAll, if_neg (by rw [size]; omega)]
    split
    · next given => cases asked.symm.trans given
    · next given =>
      cases asked.symm.trans given
      rw [if_pos retried]
      exact ih
  | case5 files writer start left cause next after answer final =>
    have asked := (write_extract files writer bytes start).trans answer
    rw [writeAll, if_neg (by rw [size]; omega)]
    split
    · next given => cases asked.symm.trans given
    · next given =>
      cases asked.symm.trans given
      rw [if_neg final]
      exact ⟨_, rfl, rfl⟩

/-- Putting ends well just when every byte is taken. -/
theorem Settles.takenOver_eq_iff {size : Nat} {result : Except LocalIOError Unit}
    (settles : Settles size answers result) :
    takenOver answers = size ↔ result = .ok () := by
  cases settles with
  | whole going all => exact ⟨fun _ => rfl, fun _ => all⟩
  | stalled going unfinished =>
    rw [takenOver_concat]
    exact ⟨fun same => absurd same (Nat.ne_of_lt unfinished), nofun⟩
  | failed going unfinished final =>
    rw [takenOver_concat]
    exact ⟨fun same => absurd same (Nat.ne_of_lt unfinished), nofun⟩

/-- What a short write tells is how much was taken. -/
theorem Settles.of_short {size whole written : Nat}
    (settles : Settles size answers (.error (.shortWrite whole written))) :
    whole = size ∧ takenOver answers = written ∧ written < size := by
  generalize short : Except.error (LocalIOError.shortWrite whole written) = result at settles
  cases settles with
  | whole => cases short
  | stalled _ unfinished =>
    cases short
    exact ⟨rfl, takenOver_concat _ _, unfinished⟩
  | failed => cases short

end Put

end Writer

theorem mapError_eq_ok_iff {ε δ α : Type} (change : ε → δ) {result : Except ε α}
    {value : α} : result.mapError change = .ok value ↔ result = .ok value := by
  cases result <;> simp [Except.mapError]

/-- Putting a chunk asks a writer for what is left of it until all of it is taken, a write takes
nothing or one fails for good, and the last answer tells which. The bytes taken are the first ones of
the chunk, each once, and all of them just when putting ends well. Nobody is asked to take an empty
chunk. Writing all of it by cutting off what is taken leaves the same and ends well just as often. -/
theorem chunks_put_once (files : FileTree) (writer : Writer) (bytes : ByteArray) :
    let put := writer.put files bytes
    ∃ answers, Writer.Answers bytes files writer answers put.files put.writer ∧
      answers.length ≤ bytes.size + writer.pending ∧
      Writer.Settles bytes.size answers
        (put.outcome.mapError (Receiver.drainError bytes.size)) ∧
      (put.outcome = .ok () ↔ Writer.takenOver answers = bytes.size) ∧
      (∀ written, put.outcome = .error (.stalled written) →
        Writer.takenOver answers = written ∧ written < bytes.size) ∧
      (writer.Keeps files → put.writer.Keeps put.files ∧
        put.writer.kept put.files =
          writer.kept files ++ bytes.data.toList.take (Writer.takenOver answers)) ∧
      (bytes.size = 0 → answers = [] ∧ put = ⟨.ok (), writer, files⟩) ∧
      ∃ result, writer.writeAll files bytes = (result, put.writer, put.files) ∧
        result.mapError .write = put.outcome.mapError Sink.drainError ∧
        (result = .ok () ↔ put.outcome = .ok ()) := by
  intro put
  obtain ⟨answers, answered, few, settles⟩ := writer.put_answers files bytes
  obtain ⟨result, wrote, same⟩ := Writer.writeAll_extract files writer bytes 0
  rw [ByteArray.extract_zero_size] at wrote
  refine ⟨answers, answered, few, settles, ?whole, ?short, answered.kept, ?empty, result, wrote,
    same, ?alike⟩
  case whole =>
    rw [settles.takenOver_eq_iff]
    exact (mapError_eq_ok_iff _).symm
  case short =>
    intro written stalled
    rw [show (writer.put files bytes).outcome = .error (.stalled written) from stalled] at settles
    exact settles.of_short.2
  case empty =>
    intro empty
    refine ⟨answered.of_empty empty, ?_⟩
    rw [show put = writer.putFrom files bytes 0 from rfl, Writer.putFrom, if_pos (by omega)]
  case alike =>
    rw [← mapError_eq_ok_iff LocalIOError.write, same]
    exact mapError_eq_ok_iff _

/-- A writer that takes two bytes of five, is interrupted, takes one more and then nothing. -/
theorem chunks_put_once_small :
    let writer : Writer :=
      .script [.take 2, .failure (.bare .interrupted), .take 1, .take 0] none .empty
    let put := writer.put .empty ⟨#[1, 2, 3, 4, 5]⟩
    writer.Keeps .empty ∧
      put.outcome = .error (.stalled 3) ∧
      put.writer.kept put.files = [1, 2, 3] := by
  intro writer put
  have keeps : writer.Keeps .empty := trivial
  have stalled : put.outcome = .error (.stalled 3) := by decide +kernel
  obtain ⟨answers, _, _, _, _, short, kept, _⟩ :=
    chunks_put_once .empty writer ⟨#[1, 2, 3, 4, 5]⟩
  refine ⟨keeps, stalled, (kept keeps).2.trans ?_⟩
  rw [(short 3 stalled).1]
  rfl

end ChunkRelay
