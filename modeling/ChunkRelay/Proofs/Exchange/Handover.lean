import Mathlib.Algebra.Ring.Nat
import Mathlib.Data.List.Basic
import ChunkRelay.Link

/-! Handing data over in slices. A giver offers one slice at a time and waits
for its answer; a taker takes the slice into its destination and answers. An
empty offer ends the exchange. One relation ties both parties, the messages on
their way and what is written; every act of either party keeps it, and so do
failures of either party, wherever failures are possible at all. -/

set_option autoImplicit false

namespace ChunkRelay

/-- What is handed over, by which side, and how an offer is put. -/
structure Terms where
  data : List UInt8
  size : Nat
  side : Side
  offer : Nat → Message

namespace Terms

variable (terms : Terms)

def slice (number : Nat) : List UInt8 :=
  (terms.data.drop (number * terms.size)).take terms.size

def before (number : Nat) : List UInt8 :=
  terms.data.take (number * terms.size)

/-- The number of slices that are not empty. -/
def count : Nat :=
  (terms.data.length + terms.size - 1) / terms.size

theorem length_slice (number : Nat) :
    (terms.slice number).length = min terms.size (terms.data.length - number * terms.size) := by
  rw [slice, List.length_take, List.length_drop]

theorem length_slice_le (number : Nat) :
    (terms.slice number).length ≤ (terms.slice 0).length := by
  rw [length_slice, length_slice]
  omega

theorem before_succ (number : Nat) :
    terms.before (number + 1) = terms.before number ++ terms.slice number := by
  rw [before, before, slice, Nat.add_mul, Nat.one_mul, List.take_add]

theorem before_prefix (number : Nat) : terms.before number <+: terms.data :=
  List.take_prefix _ _

theorem before_append_take_prefix (number part : Nat) :
    terms.before number ++ (terms.slice number).take part <+: terms.data := by
  refine List.IsPrefix.trans ?_ (terms.before_prefix (number + 1))
  rw [before_succ, List.prefix_append_right_inj]
  exact List.take_prefix _ _

section Positive

variable {terms} (positive : terms.size ≠ 0)
include positive

theorem slice_eq_nil_iff {number : Nat} :
    terms.slice number = [] ↔ terms.data.length ≤ number * terms.size := by
  rw [← List.length_eq_zero_iff, length_slice]
  omega

theorem slice_ne_nil_iff {number : Nat} : terms.slice number ≠ [] ↔ number < terms.count := by
  rw [Ne, slice_eq_nil_iff positive, Nat.not_le, count,
    Nat.lt_div_iff_mul_lt (Nat.pos_of_ne_zero positive)]
  omega

/-- There are as many slices as bytes at most. -/
theorem count_le : terms.count ≤ terms.data.length := by
  rw [count, ← Nat.lt_succ_iff, Nat.div_lt_iff_lt_mul (Nat.pos_of_ne_zero positive), Nat.succ_mul]
  have bytes := Nat.le_mul_of_pos_right terms.data.length (Nat.pos_of_ne_zero positive)
  omega

theorem before_eq_data {number : Nat} (nothing : terms.slice number = []) :
    terms.before number = terms.data :=
  List.take_of_length_le ((slice_eq_nil_iff positive).mp nothing)

theorem length_slice_of_lt {number : Nat} (later : number + 1 < terms.count) :
    (terms.slice number).length = terms.size := by
  have more := mt (slice_eq_nil_iff positive).mpr ((slice_ne_nil_iff positive).mpr later)
  rw [length_slice]
  rw [Nat.add_mul, Nat.one_mul] at more
  omega

end Positive

end Terms

/-!
## Where an exchange stands
-/

/-- The course of one slice from the giver to the taker and back, and of the end. -/
inductive Course where
  | preparing
  | offered
  | holding
  | taken
  | answered
  | ended
  | closing
  | finished
deriving DecidableEq, Repr

/-- What a giver is about. -/
inductive Giver where
  | preparing
  | waiting
  | done
  | failed
deriving DecidableEq, Repr

/-- What a taker is about. -/
inductive Taker where
  | listening
  | holding
  | taken
  | closing
  | finished
  | failed
deriving DecidableEq, Repr

def Giver.Stopped (giver : Giver) : Prop :=
  giver = .done ∨ giver = .failed

def Taker.Stopped (taker : Taker) : Prop :=
  taker = .finished ∨ taker = .failed

namespace Course

def isOver : Course → Bool
  | .ended | .closing | .finished => true
  | .preparing | .offered | .holding | .taken | .answered => false

def giver : Course → Giver
  | .preparing => .preparing
  | .offered | .holding | .taken | .answered => .waiting
  | .ended | .closing | .finished => .done

def taker : Course → Taker
  | .preparing | .offered | .answered | .ended => .listening
  | .holding => .holding
  | .taken => .taken
  | .closing => .closing
  | .finished => .finished

/-- The number of slices the taker has counted, if the giver has counted so many. -/
def counted (count : Nat) : Course → Nat
  | .answered => count + 1
  | _ => count

end Course

namespace Terms

variable (terms : Terms)

def offerOf (number : Nat) : Message :=
  terms.offer (terms.slice number).length

/-- The answer to the offer of the slice with a number. -/
def answerOf (number : Nat) : Message :=
  .readDone (.ofNat (terms.slice number).length)

def offers (number : Nat) : Course → List Message
  | .offered => [terms.offerOf number]
  | .ended => [terms.offer 0]
  | _ => []

def answers (number : Nat) : Course → List Message
  | .answered => [terms.answerOf number]
  | _ => []

def written (number : Nat) : Course → List UInt8
  | .taken | .answered => terms.before (number + 1)
  | _ => terms.before number

def exchanged (slice : List UInt8) : List (Side × Message) :=
  [(terms.side, terms.offer slice.length), (terms.side.other, .readDone (.ofNat slice.length))]

def round (number : Nat) : List (Side × Message) :=
  terms.exchanged (terms.slice number)

/-- The messages about the slices before the one with a number. -/
def rounds (number : Nat) : List (Side × Message) :=
  (List.range number).flatMap terms.round

/-- The messages that were sent since the last answer was heard. -/
def said (number : Nat) : Course → List (Side × Message)
  | .preparing => []
  | .offered | .holding | .taken => [(terms.side, terms.offerOf number)]
  | .answered => terms.round number
  | .ended | .closing | .finished => [(terms.side, terms.offer 0)]

/-- The slices that are not empty. -/
def slices : List (List UInt8) :=
  (List.range terms.count).map terms.slice

/-- All messages of an exchange that comes to its end. -/
def conversation : List (Side × Message) :=
  terms.slices.flatMap terms.exchanged ++ [(terms.side, terms.offer 0)]

theorem rounds_succ (number : Nat) :
    terms.rounds (number + 1) = terms.rounds number ++ terms.round number := by
  rw [rounds, List.range_succ, List.flatMap_append]
  simp [rounds]

theorem rounds_count : terms.rounds terms.count = terms.slices.flatMap terms.exchanged := by
  rw [slices, List.flatMap_map]
  rfl

end Terms

/-- Consecutive slices of some data: none is empty, and all but the last have the whole size. -/
structure Sliced (size : Nat) (data : List UInt8) (slices : List (List UInt8)) : Prop where
  joined : slices.flatten = data
  bounded : ∀ slice ∈ slices, slice ≠ [] ∧ slice.length ≤ size
  whole : ∀ slice ∈ slices.dropLast, slice.length = size

namespace Terms

variable (terms : Terms)

theorem before_eq_flatten (number : Nat) :
    terms.before number = ((List.range number).map terms.slice).flatten := by
  induction number with
  | zero => simp [before]
  | succ number ih => simp [List.range_succ, before_succ, ih]

theorem sliced (positive : terms.size ≠ 0) : Sliced terms.size terms.data terms.slices where
  joined := by
    rw [slices, ← before_eq_flatten]
    refine before_eq_data positive ?_
    by_contra more
    exact Nat.lt_irrefl _ ((slice_ne_nil_iff positive).mp more)
  bounded := by
    intro slice member
    obtain ⟨number, below, rfl⟩ := List.mem_map.mp member
    exact ⟨(slice_ne_nil_iff positive).mpr (List.mem_range.mp below), List.length_take_le _ _⟩
  whole := by
    intro slice member
    rw [slices, ← List.map_dropLast, List.dropLast_eq_take, List.take_range, List.length_range]
      at member
    obtain ⟨number, below, rfl⟩ := List.mem_map.mp member
    have bound := List.mem_range.mp below
    exact length_slice_of_lt positive (by omega)

end Terms

/-!
## The relation
-/

/-- What an exchange shows: both parties, the messages on their way to the taker and to the giver,
what is written and what was said. -/
structure Exchange where
  giver : Giver
  taker : Taker
  offers : List Message
  answers : List Message
  written : List UInt8
  talk : List (Side × Message)

/-- An exchange in the course of the slice with a number. A party that is not about what the course
says has failed, which it only does if something went wrong. -/
structure Handover (terms : Terms) (upset : Prop) (course : Course) (number : Nat)
    (exchange : Exchange) : Prop where
  reached : number ≤ terms.count
  slice : if course.isOver then terms.slice number = []
    else course ≠ .preparing → terms.slice number ≠ [] ∧ (terms.slice number).length < 2 ^ 64
  giver : exchange.giver = course.giver ∨ upset ∧ exchange.giver = .failed ∧ course.isOver = false
  taker : exchange.taker = course.taker ∨ upset ∧ exchange.taker = .failed ∧ course ≠ .finished
  offers : exchange.taker ≠ .failed → exchange.offers = terms.offers number course
  answers : exchange.giver ≠ .failed → exchange.answers = terms.answers number course
  written : exchange.written = terms.written number course ∨
    upset ∧ exchange.taker = .failed ∧ course = .holding ∧
      ∃ part, exchange.written = terms.before number ++ (terms.slice number).take part
  talk : exchange.talk = terms.rounds number ++ terms.said number course

namespace Handover

variable {terms : Terms} {upset : Prop} {course : Course} {number : Nat} {exchange : Exchange}

theorem fresh (terms : Terms) (upset : Prop) :
    Handover terms upset .preparing 0 ⟨.preparing, .listening, [], [], [], []⟩ where
  reached := Nat.zero_le _
  slice := fun differs => absurd rfl differs
  giver := .inl rfl
  taker := .inl rfl
  offers := fun _ => rfl
  answers := fun _ => rfl
  written := .inl (by simp [Terms.written, Terms.before])
  talk := rfl

theorem upset_of_giver (handover : Handover terms upset course number exchange)
    (failed : exchange.giver = .failed) : upset := by
  rcases handover.giver with agreed | broken
  · rw [failed] at agreed
    cases course <;> cases agreed
  · exact broken.1

theorem upset_of_taker (handover : Handover terms upset course number exchange)
    (failed : exchange.taker = .failed) : upset := by
  rcases handover.taker with agreed | broken
  · rw [failed] at agreed
    cases course <;> cases agreed
  · exact broken.1

/-!
### Acts of the giver
-/

/-- A giver that prepares a slice finds the exchange between two slices. -/
theorem course_preparing (handover : Handover terms upset course number exchange)
    (prepares : exchange.giver = .preparing) : course = .preparing := by
  have giver := handover.giver
  rw [prepares] at giver
  cases course <;> simp [Course.giver] at giver ⊢

theorem offer (handover : Handover terms upset .preparing number exchange)
    (prepares : exchange.giver = .preparing) (some_slice : terms.slice number ≠ [])
    (short : (terms.slice number).length < 2 ^ 64) :
    Handover terms upset .offered number
      { exchange with
        giver := .waiting
        offers := exchange.offers ++ [terms.offerOf number]
        talk := exchange.talk ++ [(terms.side, terms.offerOf number)] } where
  reached := handover.reached
  slice := fun _ => ⟨some_slice, short⟩
  giver := .inl rfl
  taker := by simpa [Course.taker] using handover.taker
  offers := fun listens => by
    rw [handover.offers listens]
    rfl
  answers := fun _ => handover.answers (by simp [prepares])
  written := .inl (by simpa [Terms.written] using handover.written)
  talk := by
    rw [handover.talk, List.append_assoc]
    rfl

theorem offerEnd (handover : Handover terms upset .preparing number exchange)
    (prepares : exchange.giver = .preparing) (nothing : terms.slice number = []) :
    Handover terms upset .ended number
      { exchange with
        giver := .done
        offers := exchange.offers ++ [terms.offer 0]
        talk := exchange.talk ++ [(terms.side, terms.offer 0)] } where
  reached := handover.reached
  slice := nothing
  giver := .inl rfl
  taker := by simpa [Course.taker] using handover.taker
  offers := fun listens => by
    rw [handover.offers listens]
    rfl
  answers := fun _ => handover.answers (by simp [prepares])
  written := .inl (by simpa [Terms.written] using handover.written)
  talk := by
    rw [handover.talk, List.append_assoc]
    rfl

/-- The only message a waiting giver finds is the answer to its offer. -/
theorem hearAnswer (positive : terms.size ≠ 0)
    (handover : Handover terms upset course number exchange)
    (waits : exchange.giver = .waiting) {message : Message} {rest : List Message}
    (found : exchange.answers = message :: rest) :
    course = .answered ∧ message = terms.answerOf number ∧ terms.slice number ≠ [] ∧
      (terms.slice number).length < 2 ^ 64 ∧
      Handover terms upset .preparing (number + 1)
        { exchange with giver := .preparing, answers := rest } := by
  have heard := handover.answers (by simp [waits])
  rw [found] at heard
  cases course with
  | answered =>
    obtain ⟨rfl, rfl⟩ := List.cons.inj heard
    obtain ⟨some_slice, short⟩ := handover.slice Course.noConfusion
    refine ⟨rfl, rfl, some_slice, short, ?_⟩
    exact
      { reached := (Terms.slice_ne_nil_iff positive).mp some_slice
        slice := fun differs => absurd rfl differs
        giver := .inl rfl
        taker := by simpa [Course.taker] using handover.taker
        offers := fun listens => handover.offers listens
        answers := fun _ => rfl
        written := .inl (by simpa [Terms.written] using handover.written)
        talk := by
          rw [handover.talk, Terms.rounds_succ]
          simp [Terms.said] }
  | _ => cases heard

theorem giverFails (handover : Handover terms upset course number exchange) (wrong : upset)
    (acts : exchange.giver = .preparing ∨ exchange.giver = .waiting) (answers : List Message) :
    Handover terms upset course number { exchange with giver := .failed, answers } where
  reached := handover.reached
  slice := handover.slice
  giver := by
    refine .inr ⟨wrong, rfl, ?_⟩
    rcases handover.giver with agreed | failed
    · rw [agreed] at acts
      cases course <;> simp [Course.giver, Course.isOver] at acts ⊢
    · simp [failed.2.1] at acts
  taker := handover.taker
  offers := handover.offers
  answers := fun fine => absurd rfl fine
  written := handover.written
  talk := handover.talk

/-- What is on its way to a giver that has failed is of no importance. -/
theorem withAnswers (handover : Handover terms upset course number exchange)
    {answers : List Message} (same : exchange.giver ≠ .failed → answers = exchange.answers) :
    Handover terms upset course number { exchange with answers } where
  reached := handover.reached
  slice := handover.slice
  giver := handover.giver
  taker := handover.taker
  offers := handover.offers
  answers := fun fine => (same fine).trans (handover.answers fine)
  written := handover.written
  talk := handover.talk

/-- A giver that has stopped takes away what is on its way to it. -/
theorem giverLeaves (handover : Handover terms upset course number exchange)
    (stopped : exchange.giver.Stopped) :
    Handover terms upset course number { exchange with answers := [] } where
  reached := handover.reached
  slice := handover.slice
  giver := handover.giver
  taker := handover.taker
  offers := handover.offers
  answers := fun fine => by
    have agreed := handover.giver.resolve_right fun failed => fine failed.2.1
    rw [agreed] at stopped
    cases course <;> simp [Course.giver, Giver.Stopped] at stopped <;> rfl
  written := handover.written
  talk := handover.talk

/-!
### Acts of the taker
-/

/-- The only message a listening taker finds is the offer of the next slice or of the end. -/
theorem hearOffer (handover : Handover terms upset course number exchange)
    (listens : exchange.taker = .listening) {message : Message} {rest : List Message}
    (found : exchange.offers = message :: rest) :
    (course = .offered ∧ message = terms.offerOf number ∧ terms.slice number ≠ [] ∧
        (terms.slice number).length < 2 ^ 64 ∧
        Handover terms upset .holding number
          { exchange with taker := .holding, offers := rest }) ∨
      course = .ended ∧ message = terms.offer 0 ∧
        Handover terms upset .closing number
          { exchange with taker := .closing, offers := rest } := by
  have heard := handover.offers (by simp [listens])
  rw [found] at heard
  have written := handover.written.resolve_right fun broken => by
    rw [listens] at broken
    cases broken.2.1
  cases course with
  | offered =>
    obtain ⟨rfl, rfl⟩ := List.cons.inj heard
    obtain ⟨some_slice, short⟩ := handover.slice Course.noConfusion
    exact .inl ⟨rfl, rfl, some_slice, short,
      { reached := handover.reached
        slice := fun _ => handover.slice Course.noConfusion
        giver := handover.giver
        taker := .inl rfl
        offers := fun _ => rfl
        answers := handover.answers
        written := .inl written
        talk := handover.talk }⟩
  | ended =>
    obtain ⟨rfl, rfl⟩ := List.cons.inj heard
    exact .inr ⟨rfl, rfl,
      { reached := handover.reached
        slice := handover.slice
        giver := handover.giver
        taker := .inl rfl
        offers := fun _ => rfl
        answers := handover.answers
        written := .inl written
        talk := handover.talk }⟩
  | _ => cases heard

/-- A taker that listens in vain has not missed the end. -/
theorem goes_on (handover : Handover terms upset course number exchange)
    (listens : exchange.taker = .listening) (nothing : exchange.offers = []) :
    course.isOver = false := by
  have offers := handover.offers (by simp [listens])
  have taker := handover.taker
  rw [nothing] at offers
  rw [listens] at taker
  cases course <;> simp [Terms.offers, Course.taker] at offers taker <;> rfl

theorem course_holding (handover : Handover terms upset course number exchange)
    (holds : exchange.taker = .holding) : course = .holding := by
  have taker := handover.taker
  rw [holds] at taker
  cases course <;> simp [Course.taker] at taker ⊢

theorem take (handover : Handover terms upset .holding number exchange)
    (holds : exchange.taker = .holding) :
    Handover terms upset .taken number
      { exchange with
        taker := .taken
        written := exchange.written ++ terms.slice number } where
  reached := handover.reached
  slice := fun _ => handover.slice Course.noConfusion
  giver := handover.giver
  taker := .inl rfl
  offers := fun _ => handover.offers (by simp [holds])
  answers := handover.answers
  written := .inl (by
    have written := handover.written.resolve_right fun broken => by
      rw [holds] at broken
      cases broken.2.1
    rw [written]
    exact (terms.before_succ number).symm)
  talk := handover.talk

/-- A taker may fail with a first part of its slice written. -/
theorem breakOff (handover : Handover terms upset .holding number exchange)
    (holds : exchange.taker = .holding) (wrong : upset) (part : Nat) :
    Handover terms upset .holding number
      { exchange with
        taker := .failed
        written := exchange.written ++ (terms.slice number).take part } where
  reached := handover.reached
  slice := handover.slice
  giver := handover.giver
  taker := .inr ⟨wrong, rfl, Course.noConfusion⟩
  offers := fun fine => absurd rfl fine
  answers := handover.answers
  written := by
    have written := handover.written.resolve_right fun broken => by
      rw [holds] at broken
      cases broken.2.1
    refine .inr ⟨wrong, rfl, rfl, part, ?_⟩
    rw [written]
    rfl
  talk := handover.talk

theorem course_taken (handover : Handover terms upset course number exchange)
    (taken : exchange.taker = .taken) : course = .taken := by
  have taker := handover.taker
  rw [taken] at taker
  cases course <;> simp [Course.taker] at taker ⊢

theorem answer (handover : Handover terms upset .taken number exchange)
    (taken : exchange.taker = .taken) :
    Handover terms upset .answered number
      { exchange with
        taker := .listening
        answers := exchange.answers ++ [terms.answerOf number]
        talk := exchange.talk ++ [(terms.side.other, terms.answerOf number)] } where
  reached := handover.reached
  slice := fun _ => handover.slice Course.noConfusion
  giver := handover.giver
  taker := .inl rfl
  offers := fun _ => handover.offers (by simp [taken])
  answers := fun fine => by
    rw [handover.answers fine]
    rfl
  written := .inl (handover.written.resolve_right fun broken => by
    rw [taken] at broken
    cases broken.2.1)
  talk := by
    rw [handover.talk, List.append_assoc]
    rfl

theorem course_closing (handover : Handover terms upset course number exchange)
    (closes : exchange.taker = .closing) : course = .closing := by
  have taker := handover.taker
  rw [closes] at taker
  cases course <;> simp [Course.taker] at taker ⊢

theorem finish (handover : Handover terms upset .closing number exchange)
    (closes : exchange.taker = .closing) :
    Handover terms upset .finished number { exchange with taker := .finished } where
  reached := handover.reached
  slice := handover.slice
  giver := handover.giver
  taker := .inl rfl
  offers := fun _ => handover.offers (by simp [closes])
  answers := handover.answers
  written := .inl (handover.written.resolve_right fun broken => by
    rw [closes] at broken
    cases broken.2.1)
  talk := handover.talk

theorem takerFails (handover : Handover terms upset course number exchange) (wrong : upset)
    (acts : exchange.taker ≠ .finished) (offers : List Message) :
    Handover terms upset course number { exchange with taker := .failed, offers } where
  reached := handover.reached
  slice := handover.slice
  giver := handover.giver
  taker := by
    refine .inr ⟨wrong, rfl, ?_⟩
    rintro rfl
    rcases handover.taker with agreed | failed
    · exact acts agreed
    · exact failed.2.2 rfl
  offers := fun fine => absurd rfl fine
  answers := handover.answers
  written := handover.written.imp_right fun broken => ⟨broken.1, rfl, broken.2.2⟩
  talk := handover.talk

/-- A taker that has stopped takes away what is on its way to it. -/
theorem takerLeaves (handover : Handover terms upset course number exchange)
    (stopped : exchange.taker.Stopped) :
    Handover terms upset course number { exchange with offers := [] } where
  reached := handover.reached
  slice := handover.slice
  giver := handover.giver
  taker := handover.taker
  offers := fun fine => by
    have agreed := handover.taker.resolve_right fun failed => fine failed.2.1
    rw [agreed] at stopped
    cases course <;> simp [Course.taker, Taker.Stopped] at stopped
    rfl
  answers := handover.answers
  written := handover.written
  talk := handover.talk

/-!
### What an exchange shows
-/

theorem written_prefix (handover : Handover terms upset course number exchange) :
    exchange.written <+: terms.data := by
  rcases handover.written with whole | ⟨_, _, _, part, broken⟩
  · rw [whole]
    cases course <;> exact terms.before_prefix _
  · rw [broken]
    exact terms.before_append_take_prefix number part

/-- What is written covers the slices that the giver has counted, and at most one more. -/
theorem length_written (handover : Handover terms upset course number exchange) :
    (terms.before number).length ≤ exchange.written.length ∧
      exchange.written.length ≤ (terms.before number).length + (terms.slice number).length := by
  rcases handover.written with whole | ⟨_, _, _, part, broken⟩
  · rw [whole]
    cases course <;> simp [Terms.written, Terms.before_succ]
  · rw [broken, List.length_append, List.length_take]
    omega

/-- What is written covers the slices that the taker has counted, and at most one more. -/
theorem length_written_counted (handover : Handover terms upset course number exchange) :
    (terms.before (course.counted number)).length ≤ exchange.written.length ∧
      exchange.written.length ≤ (terms.before (course.counted number)).length + terms.size := by
  have bound : (terms.slice number).length ≤ terms.size := List.length_take_le _ _
  by_cases counted : course = .answered
  · subst course
    rw [handover.written.resolve_right fun broken => by cases broken.2.2.1]
    simp [Terms.written, Course.counted]
  · have same : course.counted number = number := by
      cases course <;> first | rfl | exact absurd rfl counted
    rw [same]
    have covered := handover.length_written
    omega

/-- Once the giver is done, everything is written. -/
theorem written_of_done (positive : terms.size ≠ 0)
    (handover : Handover terms upset course number exchange) (done : exchange.giver = .done) :
    exchange.written = terms.data ∧ terms.slice number = [] := by
  have agreed := handover.giver
  rw [done] at agreed
  cases course with
  | ended | closing | finished =>
    have nothing : terms.slice number = [] := handover.slice
    rw [handover.written.resolve_right fun broken => by cases broken.2.2.1]
    exact ⟨Terms.before_eq_data positive nothing, nothing⟩
  | _ => simp [Course.giver] at agreed

theorem course_finished (handover : Handover terms upset course number exchange)
    (finished : exchange.taker = .finished) : course = .finished := by
  have taker := handover.taker
  rw [finished] at taker
  cases course <;> simp [Course.taker] at taker ⊢

/-- A taker only finishes after the giver is done. -/
theorem done_of_finished (handover : Handover terms upset course number exchange)
    (finished : exchange.taker = .finished) : exchange.giver = .done := by
  obtain rfl := handover.course_finished finished
  exact handover.giver.resolve_right fun failed => by cases failed.2.2

theorem number_of_nil (positive : terms.size ≠ 0)
    (handover : Handover terms upset course number exchange) (nothing : terms.slice number = []) :
    number = terms.count := by
  have reached := handover.reached
  have stopped := mt (Terms.slice_ne_nil_iff positive).mpr (not_not.mpr nothing)
  omega

/-- The taker counts no more slices than there are. -/
theorem counted_le (positive : terms.size ≠ 0)
    (handover : Handover terms upset course number exchange) :
    course.counted number ≤ terms.count := by
  cases course with
  | answered =>
    have some_slice : terms.slice number ≠ [] := (handover.slice Course.noConfusion).1
    exact (Terms.slice_ne_nil_iff positive).mp some_slice
  | _ => exact handover.reached

/-- Two parties that are both through have said everything there is to say. -/
theorem talk_of_finished (positive : terms.size ≠ 0)
    (handover : Handover terms upset course number exchange)
    (finished : exchange.taker = .finished) : exchange.talk = terms.conversation := by
  obtain rfl := handover.course_finished finished
  have nothing : terms.slice number = [] := handover.slice
  rw [handover.talk, handover.number_of_nil positive nothing, Terms.rounds_count]
  rfl

/-- As long as nothing goes wrong, one of the parties finds a message when both look for one. -/
theorem some_message (handover : Handover terms upset course number exchange) (fine : ¬ upset)
    (waits : exchange.giver = .waiting ∨ exchange.giver = .done)
    (listens : exchange.taker = .listening) :
    exchange.offers ≠ [] ∨ exchange.giver = .waiting ∧ exchange.answers ≠ [] := by
  have giver := handover.giver.resolve_right fun failed => fine failed.1
  have taker := handover.taker.resolve_right fun failed => fine failed.1
  rw [handover.offers (by simp [listens])]
  rw [giver] at waits ⊢
  rw [handover.answers (by rw [giver]; rcases waits with same | same <;> simp [same])]
  rw [taker] at listens
  cases course <;> simp [Course.giver, Course.taker, Terms.offers, Terms.answers] at waits listens ⊢

end Handover

end ChunkRelay
