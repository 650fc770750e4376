import ChunkRelay.Proofs.Bytes.Contents
import ChunkRelay.Stream.Writer

/-! What a writer keeps, however it cuts what it is offered and however often
it is interrupted. Putting a chunk adds the chunk in full, or a first part of
it and a failure. -/

set_option autoImplicit false

namespace ChunkRelay

theorem FileTree.extent_modify (tree : FileTree) (index other : Nat) (change : Extent → Extent)
    (present : other < tree.contents.size) :
    (tree.modify index change).extent other =
      if index = other then change (tree.extent other) else tree.extent other := by
  simp only [FileTree.modify, FileTree.extent, Array.getD_eq_getD_getElem?, Array.getElem?_modify,
    Array.getElem?_eq_getElem present]
  split <;> rfl

theorem FileTree.extent_modify_ne (tree : FileTree) {index other : Nat} (change : Extent → Extent)
    (differ : index ≠ other) : (tree.modify index change).extent other = tree.extent other := by
  simp only [FileTree.modify, FileTree.extent, Array.getD_eq_getD_getElem?, Array.getElem?_modify,
    if_neg differ]

namespace Writer

/-- The contents of the file that a writer writes. -/
def target? : Writer → Option Nat
  | .file contents _ => some contents
  | _ => none

/-- What a writer holds so far. -/
def kept (files : FileTree) : Writer → List UInt8
  | .script _ _ taken => taken.data.toList
  | .file contents offset => (files.extent contents).window 0 offset
  | .discard | .full => []

/-- A writer that can show what it was given. -/
def Keeps (files : FileTree) : Writer → Prop
  | .file contents _ => contents < files.contents.size
  | .discard => False
  | .script _ _ _ | .full => True

/-- Every write takes something or is interrupted, and flushing succeeds. -/
def Accepting : Writer → Prop
  | .script events flushFailure _ =>
    flushFailure = none ∧ (∀ most, WriteEvent.take most ∈ events → most ≠ 0) ∧
      ∀ cause, WriteEvent.failure cause ∈ events → cause.isInterrupted = true
  | .full => False
  | .file _ _ | .discard => True

/-- One write keeps as many of the offered bytes as it says. -/
theorem Keeps.write {files after : FileTree} {writer next : Writer} (keeps : writer.Keeps files)
    {bytes : ByteArray} {start : Nat} {result : Except IoError Nat}
    (answer : writer.write files bytes start = (result, next, after)) :
    next.Keeps after ∧ ∃ count ≤ bytes.size - start,
      next.kept after = writer.kept files ++ (bytes.data.toList.drop start).take count ∧
      match result with
      | .ok told => told = count
      | .error _ => count = 0 := by
  have extracted : ∀ stop, (bytes.extract start stop).data.toList =
      (bytes.data.toList.drop start).take (stop - start) := by
    intro stop
    rw [ByteArray.data_extract, Array.toList_extract, List.extract_eq_take_drop]
  cases writer with
  | script events flushFailure taken =>
    cases events with
    | nil =>
      cases answer
      refine ⟨trivial, bytes.size - start, Nat.le_refl _, ?_, rfl⟩
      simp only [kept, ByteArray.data_append, Array.toList_append, extracted]
    | cons event rest =>
      cases event with
      | failure cause =>
        cases answer
        exact ⟨trivial, 0, Nat.zero_le _, by simp [kept], rfl⟩
      | take most =>
        cases answer
        refine ⟨trivial, min most (bytes.size - start), Nat.min_le_right _ _, ?_, rfl⟩
        simp only [kept, ByteArray.data_append, Array.toList_append, extracted,
          Nat.add_sub_cancel_left]
  | file contents offset =>
    cases answer
    have present : contents < files.contents.size := keeps
    refine ⟨?_, bytes.size - start, Nat.le_refl _, ?_, rfl⟩
    · simpa only [Keeps, FileTree.modify, Array.size_modify] using present
    · have offered : (bytes.extract start bytes.size).size = bytes.size - start := by
        rw [ByteArray.size_extract, Nat.min_self]
      simp only [kept, FileTree.extent_modify _ _ _ _ present, ↓reduceIte,
        Extent.window_writeGrowing]
      rw [Extent.window_add, Extent.window_write_before _ _ (Nat.le_of_eq (Nat.zero_add offset)),
        Nat.zero_add, ← offered, Extent.window_write, extracted, offered]
  | discard => cases keeps
  | full =>
    cases answer
    exact ⟨trivial, 0, Nat.zero_le _, by simp [kept], rfl⟩

theorem target?_write (files : FileTree) (writer : Writer) (bytes : ByteArray) (start : Nat) :
    (writer.write files bytes start).2.1.target? = writer.target? := by
  cases writer with
  | script events flushFailure taken =>
    cases events with
    | nil => rfl
    | cons event rest => cases event <;> rfl
  | _ => rfl

theorem extent_write (files : FileTree) (writer : Writer) (bytes : ByteArray) (start : Nat)
    {other : Nat} (apart : writer.target? ≠ some other) :
    (writer.write files bytes start).2.2.extent other = files.extent other := by
  cases writer with
  | script events flushFailure taken =>
    cases events with
    | nil => rfl
    | cons event rest => cases event <;> rfl
  | file contents offset =>
    exact FileTree.extent_modify_ne _ _ fun same => apart (congrArg some same)
  | _ => rfl

theorem size_contents_write (files : FileTree) (writer : Writer) (bytes : ByteArray)
    (start : Nat) :
    (writer.write files bytes start).2.2.contents.size = files.contents.size := by
  cases writer with
  | script events flushFailure taken =>
    cases events with
    | nil => rfl
    | cons event rest => cases event <;> rfl
  | file contents offset => exact Array.size_modify ..
  | _ => rfl

theorem Accepting.write {files after : FileTree} {writer next : Writer}
    (accepting : writer.Accepting) {bytes : ByteArray} {start : Nat}
    {result : Except IoError Nat} (answer : writer.write files bytes start = (result, next, after)) :
    next.Accepting ∧ match result with
      | .ok count => start < bytes.size → count ≠ 0
      | .error cause => cause.isInterrupted = true := by
  cases writer with
  | script events flushFailure taken =>
    obtain ⟨flushes, takes, retries⟩ := accepting
    cases events with
    | nil =>
      cases answer
      exact ⟨⟨flushes, takes, retries⟩, fun offered => by omega⟩
    | cons event rest =>
      have later : (Writer.script rest flushFailure taken).Accepting :=
        ⟨flushes, fun most member => takes most (List.mem_cons_of_mem _ member),
          fun cause member => retries cause (List.mem_cons_of_mem _ member)⟩
      cases event with
      | failure cause =>
        cases answer
        exact ⟨later, retries cause List.mem_cons_self⟩
      | take most =>
        cases answer
        have taking := takes most List.mem_cons_self
        exact ⟨later, fun offered => by omega⟩
  | file contents offset =>
    cases answer
    exact ⟨trivial, fun offered => by omega⟩
  | discard =>
    cases answer
    exact ⟨trivial, fun offered => by omega⟩
  | full => cases accepting

theorem Accepting.flush {writer : Writer} (accepting : writer.Accepting) :
    writer.flush = .ok () := by
  cases writer with
  | script events flushFailure taken => rw [accepting.1]; rfl
  | full => cases accepting
  | _ => rfl

/-!
## Putting a chunk
-/

theorem Keeps.putFrom {files : FileTree} {writer : Writer} (keeps : writer.Keeps files)
    (bytes : ByteArray) (start : Nat) :
    (writer.putFrom files bytes start).writer.Keeps (writer.putFrom files bytes start).files ∧
      ∃ count,
        (writer.putFrom files bytes start).writer.kept (writer.putFrom files bytes start).files =
          writer.kept files ++ (bytes.data.toList.drop start).take count ∧
        ((writer.putFrom files bytes start).outcome = .ok () → bytes.size ≤ start + count) := by
  fun_induction Writer.putFrom files writer bytes start with
  | case1 files writer start done =>
    exact ⟨keeps, 0, by simp, fun _ => done⟩
  | case2 files writer start left next after answer =>
    obtain ⟨kept, count, _, holds, told⟩ := keeps.write answer
    subst told
    exact ⟨kept, 0, holds, fun succeeded => by cases succeeded⟩
  | case3 files writer start left count next after answer something ih =>
    obtain ⟨kept, taken, _, holds, told⟩ := keeps.write answer
    subst told
    obtain ⟨later, more, grown, whole⟩ := ih kept
    refine ⟨later, count + more, ?_, fun succeeded => ?_⟩
    · rw [grown, holds, List.append_assoc, List.take_add, List.drop_drop]
    · have reached := whole succeeded
      omega
  | case4 files writer start left cause next after answer retried ih =>
    obtain ⟨kept, count, _, holds, none⟩ := keeps.write answer
    subst none
    rw [List.take_zero, List.append_nil] at holds
    rw [← holds]
    exact ih kept
  | case5 files writer start left cause next after answer final =>
    obtain ⟨kept, count, _, holds, told⟩ := keeps.write answer
    exact ⟨kept, count, holds, fun succeeded => by cases succeeded⟩

theorem target?_putFrom (files : FileTree) (writer : Writer) (bytes : ByteArray) (start : Nat) :
    (writer.putFrom files bytes start).writer.target? = writer.target? := by
  fun_induction Writer.putFrom files writer bytes start with
  | case1 => rfl
  | case2 files writer start left next after answer =>
    rw [← target?_write files writer bytes start, answer]
  | case3 files writer start left count next after answer something ih =>
    rw [ih, ← target?_write files writer bytes start, answer]
  | case4 files writer start left cause next after answer retried ih =>
    rw [ih, ← target?_write files writer bytes start, answer]
  | case5 files writer start left cause next after answer final =>
    rw [← target?_write files writer bytes start, answer]

/-- Putting changes no file but the writer's own. -/
theorem extent_putFrom (files : FileTree) (writer : Writer) (bytes : ByteArray) (start : Nat)
    {other : Nat} (apart : writer.target? ≠ some other) :
    (writer.putFrom files bytes start).files.extent other = files.extent other := by
  fun_induction Writer.putFrom files writer bytes start with
  | case1 => rfl
  | case2 files writer start left next after answer =>
    rw [← extent_write files writer bytes start apart, answer]
  | case3 files writer start left count next after answer something ih =>
    have later := target?_write files writer bytes start
    rw [answer] at later
    rw [ih (by rw [later]; exact apart), ← extent_write files writer bytes start apart, answer]
  | case4 files writer start left cause next after answer retried ih =>
    have later := target?_write files writer bytes start
    rw [answer] at later
    rw [ih (by rw [later]; exact apart), ← extent_write files writer bytes start apart, answer]
  | case5 files writer start left cause next after answer final =>
    rw [← extent_write files writer bytes start apart, answer]

/-- Putting makes no file and removes none. -/
theorem size_contents_putFrom (files : FileTree) (writer : Writer) (bytes : ByteArray)
    (start : Nat) :
    (writer.putFrom files bytes start).files.contents.size = files.contents.size := by
  fun_induction Writer.putFrom files writer bytes start with
  | case1 => rfl
  | case2 files writer start left next after answer =>
    rw [← size_contents_write files writer bytes start, answer]
  | case3 files writer start left count next after answer something ih =>
    rw [ih, ← size_contents_write files writer bytes start, answer]
  | case4 files writer start left cause next after answer retried ih =>
    rw [ih, ← size_contents_write files writer bytes start, answer]
  | case5 files writer start left cause next after answer final =>
    rw [← size_contents_write files writer bytes start, answer]

theorem Accepting.putFrom {writer : Writer} (accepting : writer.Accepting) (files : FileTree)
    (bytes : ByteArray) (start : Nat) :
    (writer.putFrom files bytes start).outcome = .ok () ∧
      (writer.putFrom files bytes start).writer.Accepting := by
  fun_induction Writer.putFrom files writer bytes start with
  | case1 => exact ⟨rfl, accepting⟩
  | case2 files writer start left next after answer =>
    exact absurd rfl ((accepting.write answer).2 (Nat.lt_of_not_le left))
  | case3 files writer start left count next after answer something ih =>
    exact ih (accepting.write answer).1
  | case4 files writer start left cause next after answer retried ih =>
    exact ih (accepting.write answer).1
  | case5 files writer start left cause next after answer final =>
    exact absurd (accepting.write answer).2 final

/-- What is put is kept from its beginning on, and all of it if putting succeeds. -/
theorem Keeps.put {files : FileTree} {writer : Writer} (keeps : writer.Keeps files)
    (bytes : ByteArray) :
    (writer.put files bytes).writer.Keeps (writer.put files bytes).files ∧
      ∃ count,
        (writer.put files bytes).writer.kept (writer.put files bytes).files =
          writer.kept files ++ bytes.data.toList.take count ∧
        ((writer.put files bytes).outcome = .ok () → bytes.size ≤ count) := by
  obtain ⟨kept, count, holds, whole⟩ := keeps.putFrom bytes 0
  refine ⟨kept, count, holds, fun succeeded => ?_⟩
  have reached := whole succeeded
  omega

theorem target?_put (files : FileTree) (writer : Writer) (bytes : ByteArray) :
    (writer.put files bytes).writer.target? = writer.target? :=
  target?_putFrom files writer bytes 0

theorem extent_put (files : FileTree) (writer : Writer) (bytes : ByteArray) {other : Nat}
    (apart : writer.target? ≠ some other) :
    (writer.put files bytes).files.extent other = files.extent other :=
  extent_putFrom files writer bytes 0 apart

theorem size_contents_put (files : FileTree) (writer : Writer) (bytes : ByteArray) :
    (writer.put files bytes).files.contents.size = files.contents.size :=
  size_contents_putFrom files writer bytes 0

theorem Accepting.put {writer : Writer} (accepting : writer.Accepting) (files : FileTree)
    (bytes : ByteArray) :
    (writer.put files bytes).outcome = .ok () ∧ (writer.put files bytes).writer.Accepting :=
  accepting.putFrom files bytes 0

end Writer

end ChunkRelay
