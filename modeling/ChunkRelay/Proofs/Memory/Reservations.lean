import ChunkRelay.Proofs.Memory.Segments

/-! The arithmetic of the address window. Its counter stays a page boundary
inside the window, so that every address reserved is one of the process and
every sum on the way is a machine word. As long as the window does not start
over, each reservation lies behind all earlier ones. -/

set_option autoImplicit false

namespace ChunkRelay

namespace Window

/-- The window after reserving room, which stays as it was if that is refused. -/
def after (processId : UInt32) (window : Window) (size : Nat) : Window :=
  match window.reserve processId size with
  | .ok (_, next) => next
  | .error _ => window

/-- The window after reserving room for one size after the other. -/
def afterAll (processId : UInt32) (window : Window) (sizes : List UInt64) : Window :=
  sizes.foldl (fun window size => window.after processId size.toNat) window

/-- Room for so many bytes is there only at the beginning of the window. -/
def StartsOver (window : Window) (size : Nat) : Prop :=
  roundToPage size ≤ last - first ∧ window.startFor (roundToPage size) ≠ window.next

/-- The counter is a page boundary inside the window, or at its end. -/
structure Inside (window : Window) : Prop where
  aligned : window.next % pageSize = 0
  lower : first ≤ window.next
  upper : window.next ≤ last

/-!
## In machine words
-/

/-- A size in whole pages, if that is a word still. -/
def wholePages? (size : UInt64) : Option UInt64 :=
  let page : UInt64 := .ofNat pageSize
  let excess := size % page
  if excess = 0 then some size
  else if size + (page - excess) < size then none
  else some (size + (page - excess))

def startWord (counter span : UInt64) : UInt64 :=
  if .ofNat last < counter + span then .ofNat first else counter

/-- Reserves room by a counter that is a word: it is advanced from where the room starts, and where
that was is found out once more from what the counter was before. -/
def reserveWord (processId : UInt32) (counter size : UInt64) :
    Except AllocationError UInt64 × UInt64 :=
  match (wholePages? size).filter (· ≤ .ofNat last - .ofNat first) with
  | none => (.error (.invalidCapacity size.toNat), counter)
  | some span =>
    let advanced := startWord counter span + span
    (.ok ((processId.toUInt64 <<< 32) ||| startWord counter span), advanced)

/-- Rounding a word up gives the whole pages, or nothing if their size is no word. -/
theorem toNat_wholePages? (size : UInt64) :
    (wholePages? size).map UInt64.toNat =
      if roundToPage size.toNat < 2 ^ 64 then some (roundToPage size.toNat) else none := by
  have page : (UInt64.ofNat pageSize).toNat = 4096 := rfl
  have excess : (size % .ofNat pageSize).toNat = size.toNat % 4096 := by
    rw [UInt64.toNat_mod, page]
  have below := size.toNat_lt
  have pages : roundToPage size.toNat = (size.toNat + 4095) / 4096 * 4096 := rfl
  unfold wholePages?
  dsimp only
  by_cases aligned : size % .ofNat pageSize = 0
  · have multiple : size.toNat % 4096 = 0 := by
      rw [← excess, aligned]
      rfl
    have same : roundToPage size.toNat = size.toNat := by omega
    rw [if_pos aligned, Option.map_some, same, if_pos below]
  have rest : size.toNat % 4096 ≠ 0 := by
    rw [← excess]
    exact fun zero => aligned (UInt64.toNat_inj.mp zero)
  have gap : (UInt64.ofNat pageSize - size % .ofNat pageSize).toNat =
      4096 - size.toNat % 4096 := by
    rw [UInt64.toNat_sub_of_le, page, excess]
    rw [UInt64.le_iff_toNat_le, page, excess]
    omega
  have sum : (size + (.ofNat pageSize - size % .ofNat pageSize)).toNat =
      (size.toNat + (4096 - size.toNat % 4096)) % 2 ^ 64 := by
    rw [UInt64.toNat_add, gap]
  rw [if_neg aligned]
  by_cases large : size + (.ofNat pageSize - size % .ofNat pageSize) < size
  · have wrapped := UInt64.lt_iff_toNat_lt.mp large
    rw [if_pos large, Option.map_none, if_neg (by omega)]
  · have held := mt UInt64.lt_iff_toNat_lt.mpr large
    have same : roundToPage size.toNat = size.toNat + (4096 - size.toNat % 4096) := by omega
    rw [if_neg large, Option.map_some, sum, same, Nat.mod_eq_of_lt (by omega), if_pos (by omega)]

/-- The greatest word has no whole pages. -/
example : Window.wholePages? 0xFFFFFFFFFFFFFFFF = none := by decide

/-- At a counter inside the window words and numbers find the same start, since no sum is too
large for a word. -/
theorem startWord_eq {window : Window} (inside : window.Inside) {span : UInt64}
    (fits : span.toNat ≤ last - first) :
    startWord (.ofNat window.next) span = .ofNat (window.startFor span.toNat) := by
  have upper := inside.upper
  have bounds : last = 0x100000000 ∧ first = 0x10000000 := ⟨rfl, rfl⟩
  have counter : (UInt64.ofNat window.next).toNat = window.next :=
    UInt64.toNat_ofNat_of_lt' (by simp only [UInt64.size]; omega)
  have sum : (UInt64.ofNat window.next + span).toNat = window.next + span.toNat := by
    rw [UInt64.toNat_add, counter, Nat.mod_eq_of_lt (by omega)]
  have same : UInt64.ofNat last < .ofNat window.next + span ↔ last < window.next + span.toNat := by
    rw [UInt64.lt_iff_toNat_lt, sum]
    exact Iff.rfl
  unfold startWord startFor
  by_cases beyond : last < window.next + span.toNat
  · rw [if_pos beyond, if_pos (same.mpr beyond)]
  · rw [if_neg beyond, if_neg (mt same.mp beyond)]

/-!
## One reservation
-/

section Reserve

variable {processId : UInt32} {window next : Window} {size : Nat} {address : UInt64}
  {error : AllocationError}

theorem reserve_of_le (fits : roundToPage size ≤ last - first) :
    window.reserve processId size =
      .ok ((processId.toUInt64 <<< 32) ||| .ofNat (window.startFor (roundToPage size)),
        ⟨window.startFor (roundToPage size) + roundToPage size⟩) := by
  unfold reserve
  exact if_neg (Nat.not_lt.mpr fits)

theorem reserve_of_lt (large : last - first < roundToPage size) :
    window.reserve processId size = .error (.invalidCapacity size) := by
  unfold reserve
  exact if_pos large

theorem after_of_le (fits : roundToPage size ≤ last - first) :
    window.after processId size =
      ⟨window.startFor (roundToPage size) + roundToPage size⟩ := by
  rw [after, reserve_of_le fits]

theorem after_of_lt (large : last - first < roundToPage size) :
    window.after processId size = window := by
  rw [after, reserve_of_lt large]

theorem roundToPage_mod (size : Nat) : roundToPage size % pageSize = 0 :=
  Nat.mul_mod_left _ _

theorem Inside.startFor (inside : window.Inside) (span : Nat) :
    window.startFor span % pageSize = 0 ∧ first ≤ window.startFor span := by
  unfold Window.startFor
  split
  · exact ⟨rfl, Nat.le_refl _⟩
  · exact ⟨inside.aligned, inside.lower⟩

theorem Inside.fresh : Inside .fresh :=
  ⟨rfl, Nat.le_refl _, by decide⟩

theorem Inside.after (inside : window.Inside) (size : Nat) :
    (window.after processId size).Inside := by
  by_cases fits : roundToPage size ≤ last - first
  · obtain ⟨aligned, lower⟩ := inside.startFor (roundToPage size)
    rw [after_of_le fits]
    refine ⟨?_, Nat.le_add_right_of_le lower, startFor_add_le fits⟩
    rw [Nat.add_mod, aligned, roundToPage_mod, Nat.add_zero, Nat.zero_mod]
  · rw [after_of_lt (Nat.lt_of_not_le fits)]
    exact inside

theorem Inside.afterAll (inside : window.Inside) (sizes : List UInt64) :
    (window.afterAll processId sizes).Inside := by
  induction sizes generalizing window with
  | nil => exact inside
  | cons size sizes ih => exact ih (inside.after size.toNat)

/-- Words and numbers reserve alike. -/
theorem reserveWord_eq (inside : window.Inside) (size : UInt64) :
    reserveWord processId (.ofNat window.next) size =
      ((window.reserve processId size.toNat).map Prod.fst,
        .ofNat (window.after processId size.toNat).next) := by
  have pages := toNat_wholePages? size
  have room : (UInt64.ofNat last - .ofNat first).toNat = last - first := rfl
  unfold reserveWord
  cases rounded : wholePages? size with
  | none =>
    rw [rounded, Option.map_none] at pages
    have large : last - first < roundToPage size.toNat := by
      by_contra small
      have bounds : last - first < 2 ^ 64 := by decide
      rw [if_pos (by omega)] at pages
      cases pages
    rw [Option.filter_none, reserve_of_lt large, after_of_lt large]
    rfl
  | some span =>
    rw [rounded, Option.map_some] at pages
    have span_eq : span.toNat = roundToPage size.toNat := by
      split at pages
      · exact Option.some.inj pages
      · cases pages
    by_cases fits : roundToPage size.toNat ≤ last - first
    · have within : span ≤ UInt64.ofNat last - .ofNat first := by
        rw [UInt64.le_iff_toNat_le, room, span_eq]
        exact fits
      have advanced : UInt64.ofNat (window.startFor span.toNat + span.toNat) =
          startWord (.ofNat window.next) span + span := by
        rw [UInt64.ofNat_add, UInt64.ofNat_toNat, startWord_eq inside (span_eq ▸ fits)]
      rw [Option.filter_some, if_pos (decide_eq_true within), reserve_of_le fits,
        after_of_le fits, ← span_eq, advanced, ← startWord_eq inside (span_eq ▸ fits)]
      rfl
    · have beyond : ¬ span ≤ UInt64.ofNat last - .ofNat first := by
        rw [UInt64.le_iff_toNat_le, room, span_eq]
        exact fits
      rw [Option.filter_some, if_neg (mt of_decide_eq_true beyond),
        reserve_of_lt (Nat.lt_of_not_le fits), after_of_lt (Nat.lt_of_not_le fits)]
      rfl

/-- Where a reservation of so many bytes lies, and what it makes of the window. -/
structure Placed (processId : UInt32) (window : Window) (span : Nat) (address : UInt64)
    (next : Window) : Prop where
  process : address.toNat / 2 ^ 32 = processId.toNat
  start : address.toNat % 2 ^ 32 = window.startFor span
  advanced : next.next = address.toNat % 2 ^ 32 + span
  aligned : address.toNat % 2 ^ 32 % pageSize = 0
  lower : first ≤ address.toNat % 2 ^ 32
  upper : address.toNat % 2 ^ 32 + span ≤ last

/-- A reservation of some bytes is placed in the process's own part of the addresses. -/
theorem Inside.placed (inside : window.Inside) (some_bytes : size ≠ 0)
    (reserved : window.reserve processId size = .ok (address, next)) :
    Placed processId window (roundToPage size) address next := by
  by_cases fits : roundToPage size ≤ last - first
  · rw [reserve_of_le fits] at reserved
    cases reserved
    obtain ⟨aligned, lower⟩ := inside.startFor (roundToPage size)
    have upper : window.startFor (roundToPage size) + roundToPage size ≤ last :=
      startFor_add_le fits
    have whole := Bus.le_roundToPage size
    -- Some bytes take a page at least, so that the start is below the end of the window.
    have small : window.startFor (roundToPage size) < 2 ^ 32 := by
      simp only [last] at upper
      omega
    have placed := toNat_segmentAddress processId small
    have low : ((processId.toUInt64 <<< 32) |||
        .ofNat (window.startFor (roundToPage size))).toNat % 2 ^ 32 =
          window.startFor (roundToPage size) := by omega
    exact ⟨by omega, low, by rw [low], by rw [low]; exact aligned, by rw [low]; exact lower,
      by rw [low]; exact upper⟩
  · rw [reserve_of_lt (Nat.lt_of_not_le fits)] at reserved
    cases reserved

/-- An address of a process with a positive number that fits in 31 bits is positive when it is read
as a signed number. -/
theorem Placed.valid {span : Nat} (placed : Placed processId window span address next)
    (small : processId.toNat < 2 ^ 31) :
    0 < address.toNat ∧ address.toNat < 2 ^ 63 ∧ validateAddress address = .ok address := by
  have process := placed.process
  have lower := placed.lower
  have some_start : 0 < first := by decide
  have positive : 0 < address.toNat := by omega
  have below : address.toNat < 2 ^ 63 := by omega
  refine ⟨positive, below, ?_⟩
  unfold validateAddress
  rw [if_neg]
  rintro (zero | large)
  · rw [zero] at positive
    exact absurd positive (by decide)
  · simp only [maxSigned] at large
    omega

/-!
## One after the other
-/

/-- While the window does not start over, its counter only goes up. -/
theorem next_le_afterAll {sizes : List UInt64}
    (steady : ∀ prior size, prior ++ [size] <+: sizes →
      ¬ (window.afterAll processId prior).StartsOver size.toNat) :
    window.next ≤ (window.afterAll processId sizes).next := by
  induction sizes generalizing window with
  | nil => exact Nat.le_refl _
  | cons size sizes ih =>
    have here := steady [] size (by simp)
    have later : (window.after processId size.toNat).next ≤
        (window.afterAll processId (size :: sizes)).next :=
      ih fun prior other before =>
        steady (size :: prior) other (List.cons_prefix_cons.mpr ⟨rfl, before⟩)
    refine Nat.le_trans ?_ later
    by_cases fits : roundToPage size.toNat ≤ last - first
    · have start : window.startFor (roundToPage size.toNat) = window.next :=
        not_ne_iff.mp fun moved => here ⟨fits, moved⟩
      rw [after_of_le fits, start]
      exact Nat.le_add_right _ _
    · rw [after_of_lt (Nat.lt_of_not_le fits)]

theorem afterAll_append_cons (earlier between : List UInt64) (one : UInt64) :
    window.afterAll processId (earlier ++ one :: between) =
      ((window.afterAll processId earlier).after processId one.toNat).afterAll processId
        between := by
  rw [afterAll, List.foldl_append, List.foldl_cons]
  rfl

/-- Room that is reserved before the window starts over lies behind all that was reserved since it
started over last. -/
theorem Placed.behind {first : Window} {one size : UInt64} {between : List UInt64}
    {past : Window} {other : UInt64}
    (earlier : Placed processId first (roundToPage one.toNat) other past)
    (placed : Placed processId (past.afterAll processId between) (roundToPage size.toNat)
      address next)
    (fits : roundToPage size.toNat ≤ last - Window.first)
    (steady : ∀ prior latest, prior ++ [latest] <+: between ++ [size] →
      ¬ (past.afterAll processId prior).StartsOver latest.toNat) :
    other.toNat + roundToPage one.toNat ≤ address.toNat := by
  have grown := next_le_afterAll fun prior latest before =>
    steady prior latest (before.trans (List.prefix_append between [size]))
  have start : (past.afterAll processId between).startFor (roundToPage size.toNat) =
      (past.afterAll processId between).next :=
    not_ne_iff.mp fun moved => steady between size List.prefix_rfl ⟨fits, moved⟩
  have below := earlier.advanced
  have above := placed.start
  have same := earlier.process.trans placed.process.symm
  omega

end Reserve

end Window

/-- A handle moves the window by one reservation, made for a handle that is open and holds nothing,
or leaves it as it is. -/
theorem SegmentHandle.window_alloc (handle : SegmentHandle) (tree : FileTree) (window : Window)
    (processId : UInt32) (sizing : Option IoError) {size : Nat} (some_bytes : size ≠ 0) :
    (handle.alloc tree window processId sizing size).2.2.2 =
      if handle.closed = false ∧ handle.segment = none then window.after processId size
      else window := by
  have allotted := handle.alloc_allotted tree window processId sizing size
  generalize handle.alloc tree window processId sizing size = outcome at allotted ⊢
  obtain ⟨result, next, later, moved⟩ := outcome
  dsimp only at allotted ⊢
  have reserved (reserves : handle.Reserves size) :
      (if handle.closed = false ∧ handle.segment = none then window.after processId size
        else window) = ⟨window.startFor (roundToPage size) + roundToPage size⟩ := by
    rw [if_pos ⟨reserves.1, reserves.2.1⟩, Window.after_of_le reserves.2.2.2]
  cases allotted with
  | refused refuses =>
    split
    · next bare =>
      have large : Window.last - Window.first < roundToPage size :=
        Nat.lt_of_not_le fun fits => refuses ⟨bare.1, bare.2, some_bytes, fits⟩
      rw [Window.after_of_lt large]
    · rfl
  | moved reserves => exact (reserved reserves).symm
  | withdrawn reserves => exact (reserved reserves).symm
  | made reserves => exact (reserved reserves).symm

/-- After any reservations the counter of a window is a page boundary inside it. Room for some bytes
is refused just when their pages are more than a word or than the window, and then nothing changes.
Otherwise it starts where the counter was or at the beginning of the window, the counter goes to its
end, and its address names the process above and that start below, positive when it is read as a
signed number. All sums are words. Rooms share no address unless the window has started over between
them. -/
theorem reservations_stay_in_window {processId : UInt32} (small : processId.toNat < 2 ^ 31)
    {sizes : List UInt64} (some_bytes : ∀ size ∈ sizes, size ≠ 0) {size : UInt64}
    (something : size ≠ 0) :
    let window := Window.afterAll processId .fresh sizes
    let span := roundToPage size.toNat
    window.Inside ∧
      ((∃ error, window.reserve processId size.toNat = .error error) ↔
        2 ^ 64 ≤ span ∨ Window.last - Window.first < span) ∧
      (∀ error, window.reserve processId size.toNat = .error error →
        error = .invalidCapacity size.toNat ∧ window.after processId size.toNat = window) ∧
      (∀ address next, window.reserve processId size.toNat = .ok (address, next) →
        window.after processId size.toNat = next ∧
        window.Placed processId span address next ∧
        0 < address.toNat ∧ address.toNat < 2 ^ 63 ∧ validateAddress address = .ok address ∧
        window.next + span < 2 ^ 64 ∧
        ∀ earlier one between other past, sizes = earlier ++ one :: between →
          (Window.afterAll processId .fresh earlier).reserve processId one.toNat =
            .ok (other, past) →
          (∀ prior latest, prior ++ [latest] <+: between ++ [size] →
            ¬ (Window.afterAll processId .fresh (earlier ++ one :: prior)).StartsOver
              latest.toNat) →
          other.toNat + roundToPage one.toNat ≤ address.toNat) ∧
      Window.reserveWord processId (.ofNat window.next) size =
        ((window.reserve processId size.toNat).map Prod.fst,
          .ofNat (window.after processId size.toNat).next) ∧
      ∀ (handle : SegmentHandle) (tree : FileTree) (sizing : Option IoError),
        (handle.alloc tree window processId sizing size.toNat).2.2.2 =
          if handle.closed = false ∧ handle.segment = none then
            window.after processId size.toNat
          else window := by
  intro window span
  have inside : window.Inside := Window.Inside.fresh.afterAll sizes
  have nonzero : size.toNat ≠ 0 := fun zero => something (UInt64.toNat_inj.mp zero)
  refine ⟨inside, ?refused, ?unchanged, ?reserved, Window.reserveWord_eq inside size,
    fun handle tree sizing => handle.window_alloc tree window processId sizing nonzero⟩
  case refused =>
    have bounds : Window.last - Window.first < 2 ^ 64 := by decide
    constructor
    · rintro ⟨error, refused⟩
      by_contra neither
      rw [Window.reserve_of_le (by omega)] at refused
      cases refused
    · intro large
      exact ⟨_, Window.reserve_of_lt (by omega)⟩
  case unchanged =>
    intro error refused
    by_cases fits : span ≤ Window.last - Window.first
    · rw [Window.reserve_of_le fits] at refused
      cases refused
    · have large := Nat.lt_of_not_le fits
      rw [Window.reserve_of_lt large] at refused
      cases refused
      exact ⟨rfl, Window.after_of_lt large⟩
  case reserved =>
    intro address next reserved
    have fits : span ≤ Window.last - Window.first := by
      by_contra large
      rw [Window.reserve_of_lt (Nat.lt_of_not_le large)] at reserved
      cases reserved
    have placed := inside.placed nonzero reserved
    obtain ⟨positive, below, valid⟩ := placed.valid small
    refine ⟨by rw [Window.after, reserved], placed, positive, below, valid, ?sum, ?behind⟩
    case sum =>
      have upper := inside.upper
      have bounds : Window.last = 2 ^ 32 := rfl
      omega
    case behind =>
      rintro earlier one between other past rfl before steady
      have first := some_bytes one (List.mem_append_right _ List.mem_cons_self)
      have placed_before := (Window.Inside.fresh.afterAll earlier).placed
        (fun zero => first (UInt64.toNat_inj.mp zero)) before
      have moved (prior : List UInt64) :
          Window.afterAll processId .fresh (earlier ++ one :: prior) =
            past.afterAll processId prior := by
        rw [Window.afterAll_append_cons, Window.after, before]
      rw [show window = past.afterAll processId between from moved between] at placed
      exact placed_before.behind placed fits fun prior latest prefixed wraps =>
        steady prior latest prefixed (moved prior ▸ wraps)

/-- A page, and then all the rest of the window at once. -/
theorem reservations_stay_in_window_small :
    (7 : UInt32).toNat < 2 ^ 31 ∧ (∀ size ∈ [(1 : UInt64)], size ≠ 0) ∧
      (0xEFFFF000 : UInt64) ≠ 0 ∧
      ∃ address next other past,
        Window.fresh.reserve 7 (1 : UInt64).toNat = .ok (other, past) ∧
        (Window.afterAll 7 .fresh [1]).reserve 7 (0xEFFFF000 : UInt64).toNat =
          .ok (address, next) ∧
        address.toNat / 2 ^ 32 = 7 ∧ next.next = Window.last ∧
        other.toNat + roundToPage 1 ≤ address.toNat := by
  have some_bytes : ∀ size ∈ [(1 : UInt64)], size ≠ 0 :=
    List.forall_mem_singleton.mpr (by decide)
  have something : (0xEFFFF000 : UInt64) ≠ 0 := by decide
  have small : (7 : UInt32).toNat < 2 ^ 31 := by decide
  obtain ⟨_, _, _, reserved, _⟩ := reservations_stay_in_window small some_bytes something
  have first : Window.fresh.reserve 7 (1 : UInt64).toNat =
      .ok (0x710000000, ⟨Window.first + 4096⟩) := by decide +kernel
  have second : (Window.afterAll 7 .fresh [1]).reserve 7 (0xEFFFF000 : UInt64).toNat =
      .ok (0x710001000, ⟨Window.last⟩) := by decide +kernel
  obtain ⟨_, placed, _, _, _, _, behind⟩ := reserved _ _ second
  refine ⟨small, some_bytes, something, _, _, _, _, first, second, placed.process, rfl,
    behind [] 1 [] _ _ rfl first fun prior latest before => ?_⟩
  obtain ⟨rfl, rfl⟩ : prior = [] ∧ latest = 0xEFFFF000 := by
    rcases List.prefix_concat_iff.mp before with same | earlier
    · exact List.append_singleton_inj.mp same
    · simp at earlier
  exact fun wraps => wraps.2 (by decide +kernel)

end ChunkRelay
