import ChunkRelay.Proofs.Memory.Lookup

/-! The stages of acquiring a relay buffer, as relations with one rule for each
way it can go: the first stage that fails has the word. -/

set_option autoImplicit false

namespace ChunkRelay

/-- An address is accepted if it is positive as a signed number. -/
theorem validateAddress_eq (address : UInt64) : validateAddress address =
    if 0 < address.toInt64.toInt then .ok address else .error (.invalidAddress address) := by
  have signed : 0 < address.toInt64.toInt ↔ ¬ (address = 0 ∨ maxSigned < address.toNat) := by
    rw [← UInt64.toNat_inj]
    change 0 < address.toBitVec.toInt ↔ ¬ (address.toBitVec.toNat = 0 ∨ _ < address.toBitVec.toNat)
    have bounded := address.toBitVec.isLt
    rw [BitVec.toInt_eq_toNat_cond, maxSigned]
    split <;> omega
  unfold validateAddress
  by_cases positive : 0 < address.toInt64.toInt
  · rw [if_pos positive, if_neg (signed.mp positive)]
  · rw [if_neg positive, if_pos (not_not.mp (mt signed.mpr positive))]

namespace RelayBuffer

/-- How it goes on a handle: the first stage that fails has the word. -/
inductive Establishes (handle : Handle) (capacity : Nat) (host : Host) :
    Except AllocationError (UInt64 × Region) → Handle → Host → Prop
  | unallotted {error : AllocationError} {next : Handle} {after : Host} :
      (handle.alloc capacity).run host = ((.error error, next), after) →
      Establishes handle capacity host (.error error) next after
  | unlocated {number : UInt64} {error : AllocationError} {next : Handle} {after : Host} :
      (handle.alloc capacity).run host = ((.ok number, next), after) →
      next.physicalAddress after = .error error →
      Establishes handle capacity host (.error error) next after
  | misplaced {number address : UInt64} {next : Handle} {after : Host} :
      (handle.alloc capacity).run host = ((.ok number, next), after) →
      next.physicalAddress after = .ok address → ¬ 0 < address.toInt64.toInt →
      Establishes handle capacity host (.error (.invalidAddress address)) next after
  | unmapped {number address : UInt64} {error : AllocationError} {next : Handle}
      {middle after : Host} :
      (handle.alloc capacity).run host = ((.ok number, next), middle) →
      next.physicalAddress middle = .ok address → 0 < address.toInt64.toInt →
      (next.map capacity).run middle = (.error error, after) →
      Establishes handle capacity host (.error error) next after
  | short {number address : UInt64} {region : Region} {next : Handle} {middle after : Host} :
      (handle.alloc capacity).run host = ((.ok number, next), middle) →
      next.physicalAddress middle = .ok address → 0 < address.toInt64.toInt →
      (next.map capacity).run middle = (.ok region, after) → region.length < capacity →
      Establishes handle capacity host (.error (.mapFailed capacity (.bare .unexpectedEof))) next
        after
  | established {number address : UInt64} {region : Region} {next : Handle} {middle after : Host} :
      (handle.alloc capacity).run host = ((.ok number, next), middle) →
      next.physicalAddress middle = .ok address → 0 < address.toInt64.toInt →
      (next.map capacity).run middle = (.ok region, after) → capacity ≤ region.length →
      Establishes handle capacity host (.ok (address, region)) next after

/-- How it goes from the opening of a handle on: what fails later closes the handle. -/
inductive Acquires (allocator : Allocator) (capacity : Nat) (before : Host) :
    Except AllocationError RelayBuffer → Host → Prop
  | unopened {error : AllocationError} {after : Host} :
      (Handle.openOn allocator).run before = (.error error, after) →
      Acquires allocator capacity before (.error error) after
  | abandoned {error : AllocationError} {handle next : Handle} {opened middle : Host} :
      (Handle.openOn allocator).run before = (.ok handle, opened) →
      Establishes handle capacity opened (.error error) next middle →
      Acquires allocator capacity before (.error error) (next.close.run middle).2
  | acquired {address : UInt64} {region : Region} {handle next : Handle}
      {opened middle : Host} {notices : Array Notice} :
      (Handle.openOn allocator).run before = (.ok handle, opened) →
      Establishes handle capacity opened (.ok (address, region)) next middle →
      Acquires allocator capacity before
        (.ok { holding := some { region, handle := next }, address, capacity })
        { middle with notices }

theorem establishes_of_run {handle next : Handle} {capacity : Nat} {host after : Host}
    {result : Except AllocationError (UInt64 × Region)}
    (ran : (establish handle capacity).run host = ((result, next), after)) :
    Establishes handle capacity host result next after := by
  rcases allots : (handle.alloc capacity).run host with ⟨⟨given, left⟩, middle⟩
  rw [establish, HostM.run_bind_eq allots, HostM.run_get_bind] at ran
  cases given with
  | error error =>
    cases ran
    exact .unallotted allots
  | ok number =>
    have located : (.ok number >>= fun _ => left.physicalAddress middle >>= validateAddress) =
        left.physicalAddress middle >>= validateAddress := rfl
    dsimp only at ran
    rw [located] at ran
    cases told : left.physicalAddress middle with
    | error error =>
      rw [told] at ran
      cases ran
      exact .unlocated allots told
    | ok address =>
      have valid : (.ok address >>= validateAddress) = validateAddress address := rfl
      rw [told, valid, validateAddress_eq] at ran
      by_cases positive : 0 < address.toInt64.toInt
      · rw [if_pos positive] at ran
        rcases maps : (left.map capacity).run middle with ⟨mapped, late⟩
        dsimp only at ran
        rw [HostM.run_bind_eq maps] at ran
        cases mapped with
        | error error =>
          cases ran
          exact .unmapped allots told positive maps
        | ok region =>
          by_cases short : region.length < capacity
          · simp only [bind, Except.bind, if_pos short] at ran
            cases ran
            exact .short allots told positive maps short
          · simp only [bind, Except.bind, if_neg short] at ran
            cases ran
            exact .established allots told positive maps (Nat.le_of_not_lt short)
      · rw [if_neg positive] at ran
        cases ran
        exact .misplaced allots told positive

theorem acquires_of_run {allocator : Allocator} {capacity : Nat} {before after : Host}
    {result : Except AllocationError RelayBuffer} (some_capacity : capacity ≠ 0)
    (fits : capacity ≤ maxSigned)
    (ran : (acquire allocator capacity).run before = (result, after)) :
    Acquires allocator capacity before result after := by
  have proper : ¬ (capacity = 0 ∨ maxSigned < capacity) := by omega
  rw [acquire, if_neg proper] at ran
  rcases opens : (Handle.openOn allocator).run before with ⟨opened, middle⟩
  rw [HostM.run_bind_eq opens] at ran
  cases opened with
  | error error =>
    cases ran
    exact .unopened opens
  | ok handle =>
    dsimp only at ran
    rcases establishes : (establish handle capacity).run middle with ⟨⟨located, next⟩, late⟩
    rw [HostM.run_bind_eq establishes] at ran
    cases located with
    | error error =>
      cases ran
      exact .abandoned opens (establishes_of_run establishes)
    | ok located =>
      cases ran
      exact .acquired opens (establishes_of_run establishes)

end RelayBuffer

end ChunkRelay
