import ChunkRelay.Proofs.Bytes.Contents
import ChunkRelay.Stream.Reader

/-! What a reader delivers, however it cuts its data and however often it is
interrupted. Filling room after room hands out the data in order, and each
room is filled as far as the data go. -/

set_option autoImplicit false

namespace ChunkRelay

/-- The bytes that events hand out before the first real failure. -/
def ReadEvent.content : List ReadEvent → List UInt8
  | [] => []
  | .data bytes :: rest => bytes.data.toList ++ content rest
  | .failure cause :: rest => if cause.isInterrupted then content rest else []
  | .pause :: rest => content rest

/-- A read of nothing is the end: after it only failures may follow. -/
def ReadEvent.Settled : List ReadEvent → Prop
  | [] => True
  | .data _ :: rest => Settled rest
  | .failure cause :: rest => cause.isInterrupted = true → Settled rest
  | .pause :: rest => content rest = [] ∧ Settled rest

namespace Reader

/-- The contents of the file that a reader reads. -/
def source? : Reader → Option Nat
  | .file contents _ => some contents
  | _ => none

/-- What a reader hands out before its end or its first real failure. One that
gives no byte at a time has nothing, one without end has no such data. -/
def Delivers (files : FileTree) : Reader → List UInt8 → Prop
  | .script events most, data =>
    if most = some 0 then data = [] else ReadEvent.Settled events ∧ data = ReadEvent.content events
  | .file contents offset, data =>
    data = (files.extent contents).window offset ((files.extent contents).size - offset)
  | .directory, data | .empty, data => data = []
  | .zeros, _ => False

/-- No read fails for good. -/
def Unfailing : Reader → Prop
  | .script events _ => ∀ cause, ReadEvent.failure cause ∈ events → cause.isInterrupted = true
  | .directory => False
  | .file _ _ | .zeros | .empty => True

theorem Delivers.congr {files others : FileTree} {reader : Reader} {data : List UInt8}
    (delivers : reader.Delivers files data)
    (same : ∀ contents, reader.source? = some contents →
      others.extent contents = files.extent contents) : reader.Delivers others data := by
  cases reader with
  | file contents offset => simpa only [Delivers, same contents rfl] using delivers
  | _ => exact delivers

/-- One read hands out the first of the data, or is interrupted, or fails for
good once all data are out. A read of nothing is the end. -/
def Continues (files : FileTree) (room : Nat) (data : List UInt8) :
    Except IoError ByteArray × Reader → Prop
  | (.ok bytes, next) => bytes.size ≤ room ∧ ∃ rest, data = bytes.data.toList ++ rest ∧
      next.Delivers files rest ∧ (bytes.size = 0 → rest = [])
  | (.error cause, next) =>
    if cause.isInterrupted then next.Delivers files data else data = []

/-- A reader that gives something at a time gives some of the bytes for which there is room. -/
theorem given_ne_zero {most : Option Nat} {room size : Nat} (some_room : room ≠ 0)
    (gives : most ≠ some 0) (some_bytes : size ≠ 0) :
    min (min room size) (most.getD room) ≠ 0 := by
  cases most with
  | none => simp only [Option.getD_none]; omega
  | some limit =>
    have positive : limit ≠ 0 := fun zero => gives (congrArg some zero)
    simp only [Option.getD_some]
    omega

theorem toList_extract_append (bytes : ByteArray) {count : Nat} (within : count ≤ bytes.size) :
    (bytes.extract 0 count).data.toList ++ (bytes.extract count bytes.size).data.toList =
      bytes.data.toList := by
  rw [← Array.toList_append, ← ByteArray.data_append, ByteArray.extract_append_extract,
    Nat.min_eq_left (Nat.zero_le _), Nat.max_eq_right within, ByteArray.extract_zero_size]

private theorem readEvents_continues (files : FileTree) {most : Option Nat} {room : Nat}
    (some_room : room ≠ 0) (gives : most ≠ some 0) {events : List ReadEvent}
    (settled : ReadEvent.Settled events) :
    Continues files room (ReadEvent.content events)
      ((readEvents most room events).1, .script (readEvents most room events).2 most) := by
  induction events with
  | nil => exact ⟨Nat.zero_le _, [], rfl, by simp [readEvents, Delivers, gives, settled,
      ReadEvent.content], fun _ => rfl⟩
  | cons event rest ih =>
    cases event with
    | pause =>
      refine ⟨Nat.zero_le _, [], ?_, ?_, fun _ => rfl⟩
      · exact settled.1
      · simp only [readEvents, Delivers, if_neg gives]
        exact ⟨settled.2, settled.1.symm⟩
    | failure cause =>
      simp only [readEvents, Continues, ReadEvent.content]
      split
      · next retried =>
        simp only [Delivers, if_neg gives, and_true]
        exact settled retried
      · rfl
    | data bytes =>
      rw [readEvents, ReadEvent.content]
      split
      · next nothing =>
        have empty : bytes.data.toList = [] := by
          rw [ByteArray.size_eq_zero_iff.mp nothing]; rfl
        rw [empty, List.nil_append]
        exact ih settled
      · next something =>
        have given := given_ne_zero some_room gives something
        generalize counted : min (min room bytes.size) (most.getD room) = count at given
        have cut := (toList_extract_append bytes (show count ≤ bytes.size by omega)).symm
        refine ⟨?_, (bytes.extract count bytes.size).data.toList ++ ReadEvent.content rest, ?_,
          ?_, ?_⟩
        · rw [ByteArray.size_extract]
          omega
        · rw [cut, List.append_assoc]
        · simp only [Delivers, if_neg gives]
          split
          · next all =>
            refine ⟨settled, ?_⟩
            rw [all, ByteArray.extract_same, ByteArray.data_empty, List.nil_append]
          · exact ⟨settled, rfl⟩
        · intro nothing
          rw [ByteArray.size_extract] at nothing
          omega

private theorem readEvents_dry (files : FileTree) (room : Nat) (events : List ReadEvent) :
    Continues files room []
      ((readEvents (some 0) room events).1, .script (readEvents (some 0) room events).2 (some 0)) := by
  induction events with
  | nil => exact ⟨Nat.zero_le _, [], rfl, rfl, fun _ => rfl⟩
  | cons event rest ih =>
    cases event with
    | pause => exact ⟨Nat.zero_le _, [], rfl, rfl, fun _ => rfl⟩
    | failure cause =>
      simp only [readEvents, Continues]
      split
      · simp only [Delivers, ↓reduceIte]
      · trivial
    | data bytes =>
      rw [readEvents]
      split
      · exact ih
      · have nothing : min (min room bytes.size) ((some 0).getD room) = 0 := by simp
        simp only [nothing]
        exact ⟨by simp, [], by simp, by simp [Delivers], fun _ => rfl⟩

/-- One read of a reader goes on with the data that it delivers. -/
theorem Delivers.read {files : FileTree} {reader : Reader} {data : List UInt8}
    (delivers : reader.Delivers files data) {room : Nat} (some_room : room ≠ 0) :
    Continues files room data (reader.read files room) := by
  cases reader with
  | script events most =>
    by_cases gives : most = some 0
    · subst gives
      simp only [Delivers, if_pos] at delivers
      subst data
      exact readEvents_dry files room events
    · simp only [Delivers, if_neg gives] at delivers
      obtain ⟨settled, rfl⟩ := delivers
      exact readEvents_continues files some_room gives settled
  | file contents offset =>
    simp only [Delivers] at delivers
    subst data
    simp only [Reader.read, Continues, Delivers, Extent.size_read, Extent.toList_read]
    generalize files.extent contents = extent
    refine ⟨Nat.min_le_left _ _, _, ?_, rfl, ?_⟩
    · rw [← Extent.window_add]
      congr 1
      omega
    · intro nothing
      refine List.eq_nil_of_length_eq_zero ?_
      rw [Extent.length_window]
      omega
  | directory =>
    simp only [Delivers] at delivers
    subst data
    exact rfl
  | zeros => cases delivers
  | empty =>
    simp only [Delivers] at delivers
    subst data
    exact ⟨Nat.zero_le _, [], rfl, rfl, fun _ => rfl⟩

/-- Filling takes as many of the data as there is room for. It fails only if
all data are out before the room is used up. -/
theorem Delivers.fillAfter {files : FileTree} {reader : Reader} {data : List UInt8}
    (delivers : reader.Delivers files data) (room : Nat) (taken : ByteArray) :
    (reader.fillAfter files room taken).bytes.data.toList = taken.data.toList ++ data.take room ∧
      ((reader.fillAfter files room taken).outcome = .ok () →
        (reader.fillAfter files room taken).reader.Delivers files (data.drop room)) := by
  fun_induction Reader.fillAfter files reader room taken generalizing data with
  | case1 reader taken => exact ⟨by simp, fun _ => by simpa using delivers⟩
  | case2 reader room taken some_room bytes next answer nothing =>
    have continued := delivers.read some_room
    rw [answer] at continued
    obtain ⟨_, rest, rfl, ended, last⟩ := continued
    have empty : bytes.data.toList = [] := by
      rw [ByteArray.size_eq_zero_iff.mp nothing]
      rfl
    rw [last nothing] at ended ⊢
    rw [empty]
    exact ⟨by simp, fun _ => by simpa using ended⟩
  | case3 reader room taken some_room bytes next answer something ih =>
    have continued := delivers.read some_room
    rw [answer] at continued
    obtain ⟨fits, rest, rfl, later, _⟩ := continued
    obtain ⟨filled, left⟩ := ih later
    have size : bytes.data.toList.length = bytes.size := by
      rw [Array.length_toList, ByteArray.size_data]
    refine ⟨?_, fun succeeded => ?_⟩
    · rw [filled, ByteArray.data_append, Array.toList_append, List.append_assoc,
        List.take_append, size,
        List.take_of_length_le (show bytes.data.toList.length ≤ room by omega)]
    · rw [List.drop_append, size,
        List.drop_of_length_le (show bytes.data.toList.length ≤ room by omega), List.nil_append]
      exact left succeeded
  | case4 reader room taken some_room cause next answer retried ih =>
    have continued := delivers.read some_room
    rw [answer] at continued
    simp only [Continues, if_pos retried] at continued
    exact ih continued
  | case5 reader room taken some_room cause next answer final =>
    have continued := delivers.read some_room
    rw [answer] at continued
    simp only [Continues, if_neg final] at continued
    subst data
    exact ⟨by simp, fun succeeded => by cases succeeded⟩

theorem Delivers.fill {files : FileTree} {reader : Reader} {data : List UInt8}
    (delivers : reader.Delivers files data) (room : Nat) :
    (reader.fill files room).bytes.data.toList = data.take room ∧
      ((reader.fill files room).outcome = .ok () →
        (reader.fill files room).reader.Delivers files (data.drop room)) := by
  have filled := delivers.fillAfter room .empty
  rw [ByteArray.data_empty, List.nil_append] at filled
  exact filled

/-!
## How much there is
-/

private theorem size_foldl_unread (events : List ReadEvent) (bytes : ByteArray) :
    bytes.size + (ReadEvent.content events).length ≤ (events.foldl (fun bytes event =>
      match event with
      | .data more => bytes ++ more
      | _ => bytes) bytes).size := by
  induction events generalizing bytes with
  | nil => exact Nat.le_refl _
  | cons event rest ih =>
    cases event with
    | data more =>
      have later := ih (bytes ++ more)
      rw [ByteArray.size_append] at later
      simp only [ReadEvent.content, List.foldl_cons, List.length_append, Array.length_toList,
        ByteArray.size_data]
      omega
    | failure cause =>
      refine Nat.le_trans (Nat.add_le_add_left ?_ _) (ih bytes)
      simp only [ReadEvent.content]
      split
      · exact Nat.le_refl _
      · exact Nat.zero_le _
    | pause => exact ih bytes

/-- A reader delivers no more bytes than it has to hand out at most. -/
theorem Delivers.length_le {files : FileTree} {reader : Reader} {data : List UInt8}
    (delivers : reader.Delivers files data) : data.length ≤ reader.supply files := by
  cases reader with
  | script events most =>
    simp only [Delivers] at delivers
    split at delivers
    · subst data
      exact Nat.zero_le _
    · obtain ⟨_, rfl⟩ := delivers
      have bound := size_foldl_unread events .empty
      rw [ByteArray.size_empty, Nat.zero_add] at bound
      exact bound
  | file contents offset =>
    simp only [Delivers] at delivers
    subst data
    rw [Extent.length_window]
    exact Nat.le_refl _
  | directory | empty =>
    simp only [Delivers] at delivers
    subst data
    exact Nat.zero_le _
  | zeros => cases delivers

/-!
## What reading keeps
-/

theorem source?_read (files : FileTree) (reader : Reader) (room : Nat) :
    (reader.read files room).2.source? = reader.source? := by
  cases reader <;> rfl

private theorem readEvents_subset (most : Option Nat) (room : Nat) (events : List ReadEvent)
    (cause : IoError) (left : ReadEvent.failure cause ∈ (readEvents most room events).2) :
    ReadEvent.failure cause ∈ events := by
  induction events with
  | nil => exact left
  | cons event rest ih =>
    refine List.mem_cons_of_mem _ ?_
    cases event with
    | pause => exact left
    | failure other => exact left
    | data bytes =>
      rw [readEvents] at left
      split at left
      · exact ih left
      · dsimp only at left
        split at left
        · exact left
        · exact (List.mem_cons.mp left).resolve_left (by simp)

private theorem readEvents_error {most : Option Nat} {room : Nat} {events : List ReadEvent}
    {cause : IoError} (failed : (readEvents most room events).1 = .error cause) :
    ReadEvent.failure cause ∈ events := by
  induction events with
  | nil => cases failed
  | cons event rest ih =>
    cases event with
    | pause => cases failed
    | failure other => cases failed; exact List.mem_cons_self
    | data bytes =>
      rw [readEvents] at failed
      split at failed
      · exact List.mem_cons_of_mem _ (ih failed)
      · cases failed

theorem Unfailing.read {reader : Reader} (unfailing : reader.Unfailing) (files : FileTree)
    (room : Nat) : (reader.read files room).2.Unfailing := by
  cases reader with
  | script events most =>
    exact fun cause left => unfailing cause (readEvents_subset most room events cause left)
  | _ => exact unfailing

theorem Unfailing.isInterrupted {reader next : Reader} (unfailing : reader.Unfailing)
    {files : FileTree} {room : Nat} {cause : IoError}
    (failed : reader.read files room = (.error cause, next)) : cause.isInterrupted = true := by
  cases reader with
  | script events most =>
    simp only [Reader.read, Prod.mk.injEq] at failed
    exact unfailing cause (readEvents_error failed.1)
  | directory => cases unfailing
  | _ => cases congrArg Prod.fst failed

theorem source?_fillAfter (files : FileTree) (reader : Reader) (room : Nat) (taken : ByteArray) :
    (reader.fillAfter files room taken).reader.source? = reader.source? := by
  fun_induction Reader.fillAfter files reader room taken with
  | case1 => rfl
  | case2 reader room taken some_room bytes next answer nothing =>
    rw [← source?_read files reader room, answer]
  | case3 reader room taken some_room bytes next answer something ih =>
    rw [ih, ← source?_read files reader room, answer]
  | case4 reader room taken some_room cause next answer retried ih =>
    rw [ih, ← source?_read files reader room, answer]
  | case5 reader room taken some_room cause next answer final =>
    rw [← source?_read files reader room, answer]

/-- A reader that never fails for good fills every room well. -/
theorem Unfailing.fillAfter {reader : Reader} (unfailing : reader.Unfailing) (files : FileTree)
    (room : Nat) (taken : ByteArray) :
    (reader.fillAfter files room taken).outcome = .ok () ∧
      (reader.fillAfter files room taken).reader.Unfailing := by
  fun_induction Reader.fillAfter files reader room taken with
  | case1 => exact ⟨rfl, unfailing⟩
  | case2 reader room taken some_room bytes next answer nothing =>
    have kept := unfailing.read files room
    rw [answer] at kept
    exact ⟨rfl, kept⟩
  | case3 reader room taken some_room bytes next answer something ih =>
    have kept := unfailing.read files room
    rw [answer] at kept
    exact ih kept
  | case4 reader room taken some_room cause next answer retried ih =>
    have kept := unfailing.read files room
    rw [answer] at kept
    exact ih kept
  | case5 reader room taken some_room cause next answer final =>
    exact absurd (unfailing.isInterrupted answer) final

theorem source?_fill (files : FileTree) (reader : Reader) (room : Nat) :
    (reader.fill files room).reader.source? = reader.source? :=
  source?_fillAfter files reader room .empty

theorem Unfailing.fill {reader : Reader} (unfailing : reader.Unfailing) (files : FileTree)
    (room : Nat) :
    (reader.fill files room).outcome = .ok () ∧ (reader.fill files room).reader.Unfailing :=
  unfailing.fillAfter files room .empty

/-!
## Any reader
-/

/-- The next read that is not interrupted gives nothing. -/
inductive AtEnd (files : FileTree) (room : Nat) : Reader → Prop
  | nothing {reader next : Reader} {bytes : ByteArray} :
      reader.read files room = (.ok bytes, next) → bytes.size = 0 → AtEnd files room reader
  | again {reader next : Reader} {cause : IoError} :
      reader.read files room = (.error cause, next) → cause.isInterrupted = true →
        AtEnd files room next → AtEnd files room reader

private theorem size_readEvents_le {most : Option Nat} {room : Nat} {events left : List ReadEvent}
    {bytes : ByteArray} (answer : readEvents most room events = (.ok bytes, left)) :
    bytes.size ≤ room := by
  induction events with
  | nil =>
    cases answer
    exact Nat.zero_le _
  | cons event rest ih =>
    cases event with
    | pause =>
      cases answer
      exact Nat.zero_le _
    | failure cause => cases answer
    | data given =>
      rw [readEvents] at answer
      split at answer
      · exact ih answer
      · cases answer
        rw [ByteArray.size_extract]
        omega

theorem size_read_le {files : FileTree} {reader next : Reader} {room : Nat} {bytes : ByteArray}
    (answer : reader.read files room = (.ok bytes, next)) : bytes.size ≤ room := by
  cases reader with
  | script events most =>
    simp only [read, Prod.mk.injEq] at answer
    exact size_readEvents_le (Prod.ext answer.1 rfl)
  | file contents offset =>
    cases answer
    rw [Extent.size_read]
    exact Nat.min_le_left _ _
  | directory => cases answer
  | zeros =>
    cases answer
    have same : (ChunkRelay.zeros room).size = room := by
      rw [← ByteArray.size_data, Extent.data_zeros, Array.size_replicate]
    exact Nat.le_of_eq same
  | empty =>
    cases answer
    exact Nat.zero_le _

theorem size_fillAfter_le (files : FileTree) (reader : Reader) (room : Nat) (taken : ByteArray) :
    (reader.fillAfter files room taken).bytes.size ≤ taken.size + room := by
  fun_induction Reader.fillAfter files reader room taken with
  | case1 => exact Nat.le_add_right _ _
  | case2 => exact Nat.le_add_right _ _
  | case3 reader room taken some_room bytes next answer something ih =>
    have bounded := size_read_le answer
    rw [ByteArray.size_append] at ih
    omega
  | case4 reader room taken some_room cause next answer retried ih => exact ih
  | case5 => exact Nat.le_add_right _ _

theorem size_le_fillAfter (files : FileTree) (reader : Reader) (room : Nat) (taken : ByteArray) :
    taken.size ≤ (reader.fillAfter files room taken).bytes.size := by
  fun_induction Reader.fillAfter files reader room taken with
  | case3 reader room taken some_room bytes next answer something ih =>
    rw [ByteArray.size_append] at ih
    omega
  | case4 reader room taken some_room cause next answer retried ih => exact ih
  | _ => exact Nat.le_refl _

/-- A room that stays empty was filled at the end. -/
theorem atEnd_of_fillAfter {files : FileTree} {reader : Reader} {room : Nat} {taken : ByteArray}
    (some_room : room ≠ 0) (ended : (reader.fillAfter files room taken).outcome = .ok ())
    (nothing : (reader.fillAfter files room taken).bytes.size = taken.size) :
    reader.AtEnd files room := by
  fun_induction Reader.fillAfter files reader room taken with
  | case1 => exact absurd rfl some_room
  | case2 reader room taken _ bytes next answer empty => exact .nothing answer empty
  | case3 reader room taken _ bytes next answer something ih =>
    have grown := size_le_fillAfter files next (room - bytes.size) (taken ++ bytes)
    rw [ByteArray.size_append] at grown
    omega
  | case4 reader room taken _ cause next answer retried ih =>
    exact .again answer retried (ih some_room ended nothing)
  | case5 => cases ended

theorem size_fill_le (files : FileTree) (reader : Reader) (room : Nat) :
    (reader.fill files room).bytes.size ≤ room :=
  Nat.le_trans (size_fillAfter_le files reader room .empty) (Nat.le_of_eq (Nat.zero_add room))

theorem atEnd_of_fill {files : FileTree} {reader : Reader} {room : Nat} (some_room : room ≠ 0)
    (ended : (reader.fill files room).outcome = .ok ())
    (nothing : (reader.fill files room).bytes.size = 0) : reader.AtEnd files room :=
  atEnd_of_fillAfter some_room ended nothing

end Reader

end ChunkRelay
