import ChunkRelay.Proofs.Memory.Housekeeping
import ChunkRelay.Proofs.Memory.SegmentLookup
import ChunkRelay.Proofs.Text.Numerals

/-! Which names stand for which addresses. A segment is found again by the name
that was made for its address. Other names stand for an address only with a plus
sign or a capital figure, which are read but never written. -/

set_option autoImplicit false

namespace ChunkRelay

/-- A name with a character that is read in numerals and that no segment is named with. -/
def StrayName (name : String) : Prop :=
  ∃ figure ∈ name.toList, figure ∈ "+ABCDEF".toList

instance (name : String) : Decidable (StrayName name) :=
  decidable_of_iff (name.toList.any (· ∈ "+ABCDEF".toList) = true) (by simp [StrayName])

section Names

variable {name : String} {address : UInt64}

/-- A name stands for an address if a numeral of it in sixteen characters follows the mark. -/
theorem segmentBase?_eq_some_iff : segmentBase? name = some address ↔
    ∃ text, name.toList = segmentMark.toList ++ text ∧ text.length = 16 ∧
      Text.Numeral 16 text address.toNat := by
  have word := address.toNat_lt
  unfold segmentBase?
  by_cases marked : name.startsWith segmentMark = true
  · obtain ⟨text, whole⟩ := String.startsWith_string_iff.mp marked
    have rest : name.toList.drop segmentMark.length = text := by
      rw [← whole, ← String.length_toList, List.drop_left]
    have same : (∃ other, name.toList = segmentMark.toList ++ other ∧ other.length = 16 ∧
        Text.Numeral 16 other address.toNat) ↔
          text.length = 16 ∧ Text.Numeral 16 text address.toNat := by
      rw [← whole]
      constructor
      · rintro ⟨other, again, numeral⟩
        rw [List.append_cancel_left again]
        exact numeral
      · intro numeral
        exact ⟨text, rfl, numeral⟩
    dsimp only
    rw [if_pos marked, rest, same]
    by_cases sized : text.length = 16
    · rw [if_neg (not_not.mpr sized), and_iff_right sized]
      constructor
      · intro read
        split at read
        · next value found =>
          obtain ⟨numeral, within⟩ := Text.readNatural_eq_ok_iff.mp found
          cases read
          rwa [UInt64.toNat_ofNat_of_lt' (by simp only [UInt64.size]; omega)]
        · cases read
      · intro numeral
        rw [Text.readNatural_eq_ok_iff.mpr ⟨numeral, by omega⟩]
        dsimp only
        rw [UInt64.ofNat_toNat]
    · rw [if_pos sized]
      constructor
      · intro read
        cases read
      · exact fun numeral => absurd numeral.1 sized
  · rw [if_neg marked]
    constructor
    · intro read
      cases read
    · rintro ⟨text, whole, _⟩
      exact absurd (String.startsWith_string_iff.mpr ⟨text, whole.symm⟩) marked

theorem segmentBase?_segmentName (address : UInt64) :
    segmentBase? (segmentName address) = some address := by
  have denotes := Text.denotes_hexDigits 16 address.toNat
  rw [Nat.mod_eq_of_lt (show address.toNat < 16 ^ 16 from address.toNat_lt)] at denotes
  refine segmentBase?_eq_some_iff.mpr ⟨_, toList_segmentName address,
    Text.length_hexDigits _ _, .bare ?_ denotes⟩
  exact List.ne_nil_of_length_pos (by rw [Text.length_hexDigits]; decide)

theorem not_strayName_segmentName (address : UInt64) : ¬ StrayName (segmentName address) := by
  have digits : ∀ digit < 16, Text.hexDigit digit ∉ "+ABCDEF".toList := by decide
  have mark : segmentMark.toList.all (· ∉ "+ABCDEF".toList) = true := by decide
  rintro ⟨figure, member, stray⟩
  rw [toList_segmentName, List.mem_append] at member
  rcases member with marked | written
  · exact of_decide_eq_true (List.all_eq_true.mp mark figure marked) stray
  · obtain ⟨digit, small, rfl⟩ := Text.mem_hexDigits written
    exact digits digit small stray

/-- Without a plus sign and capital figures, a name stands only for the address it was made for. -/
theorem eq_segmentName (parsed : segmentBase? name = some address) (plain : ¬ StrayName name) :
    name = segmentName address := by
  obtain ⟨text, whole, sized, numeral⟩ := segmentBase?_eq_some_iff.mp parsed
  have kept : ∀ figure ∈ text, figure ∉ "+ABCDEF".toList := fun figure member stray =>
    plain ⟨figure, whole ▸ List.mem_append_right _ member, stray⟩
  cases numeral with
  | bare _ denotes =>
    have small : ∀ figure ∈ text, figure ∉ "ABCDEF".toList := fun figure member capital =>
      kept figure member (List.mem_cons_of_mem '+' capital)
    apply String.toList_injective
    rw [whole, toList_segmentName, ← sized, ← denotes.eq_hexDigits small]
  | signed _ _ => exact absurd (by decide) (kept '+' List.mem_cons_self)

end Names

/-- The last name of a segment's path is the segment's own, also without a directory before it. -/
theorem namesOf_segmentPath (directory : String) (address : UInt64) :
    FileTree.namesOf (joinPath directory (segmentName address)) =
      FileTree.namesOf directory ++ [segmentName address] := by
  have plain := plainName_segmentName address
  by_cases named : directory = ""
  · have relative : (segmentName address).startsWith "/" = false := by
      rw [String.startsWith_string_eq_false_iff]
      exact fun starts => plain.1 (starts.subset List.mem_cons_self)
    have kept : (segmentName address).toList ≠ [] := by simpa using plain.2.1
    rw [named, joinPath, relative, if_neg (by decide), if_pos (by decide), String.empty_append]
    unfold FileTree.namesOf
    rw [List.splitOn_eq_singleton plain.1]
    simp [kept]
  · exact namesOf_joinPath plain named

/-- The name that is made for an address stands for it, and so does the file name of a segment's
path. No other name stands for the address, unless a plus sign or capital figures stray into it and
it is a numeral of the address apart from them. In a directory where no such name stands for an
address, the segments are the files with the names made for their bases, and no two names stand for
one base. -/
theorem segments_found_by_name (address : UInt64) (name : String) :
    (∀ directory, (FileTree.namesOf (joinPath directory (segmentName address))).getLast?.bind
      segmentBase? = some address) ∧
    segmentBase? (segmentName address) = some address ∧ ¬ StrayName (segmentName address) ∧
    (segmentBase? name = some address ↔ name = segmentName address ∨
      StrayName name ∧ ∃ text, name = segmentMark ++ String.ofList text ∧ text.length = 16 ∧
        Text.Numeral 16 text address.toNat) ∧
    ∀ (tree : FileTree) directory entries, tree.list directory = .ok entries →
      (∀ entry ∈ entries, StrayName entry.1 → segmentBase? entry.1 = none) →
      (∀ file, file ∈ tree.segments directory ↔
        (segmentName file.base, Node.file file.contents) ∈ entries ∧
          file.size = (tree.extent file.contents).size) ∧
      ∀ one ∈ entries, ∀ other ∈ entries, ∀ base, segmentBase? one.1 = some base →
        segmentBase? other.1 = some base → one.1 = other.1 := by
  refine ⟨?path, segmentBase?_segmentName address, not_strayName_segmentName address, ?spelled,
    ?directory⟩
  case path =>
    intro directory
    rw [namesOf_segmentPath, List.getLast?_concat]
    exact segmentBase?_segmentName address
  case spelled =>
    constructor
    · intro parsed
      by_cases stray : StrayName name
      · obtain ⟨text, whole, numeral⟩ := segmentBase?_eq_some_iff.mp parsed
        refine .inr ⟨stray, text, String.toList_injective ?_, numeral⟩
        rw [whole, String.toList_append, String.toList_ofList]
      · exact .inl (eq_segmentName parsed stray)
    · rintro (rfl | ⟨_, text, rfl, numeral⟩)
      · exact segmentBase?_segmentName address
      · refine segmentBase?_eq_some_iff.mpr ⟨text, ?_, numeral⟩
        rw [String.toList_append, String.toList_ofList]
  case directory =>
    intro tree directory entries listed plain
    have made : ∀ entry ∈ entries, ∀ base, segmentBase? entry.1 = some base →
        entry.1 = segmentName base := by
      intro entry member base parsed
      refine eq_segmentName parsed fun stray => ?_
      cases parsed.symm.trans (plain entry member stray)
    constructor
    · intro file
      rw [FileTree.mem_segments_iff listed]
      constructor
      · rintro ⟨name, member, parsed, sized⟩
        obtain rfl : name = segmentName file.base := made _ member _ parsed
        exact ⟨member, sized⟩
      · rintro ⟨member, sized⟩
        exact ⟨_, member, segmentBase?_segmentName file.base, sized⟩
    · intro one member other also base parsed read
      rw [made one member base parsed, made other also base read]

/-- A segment's file beside a file of another kind of name. -/
theorem segments_found_by_name_small :
    ∃ (tree : FileTree) (entries : List (String × Node)), tree.list "/shm" = .ok entries ∧
      (∀ entry ∈ entries, StrayName entry.1 → segmentBase? entry.1 = none) ∧
      ("Notes+", Node.file 1) ∈ entries ∧ StrayName "Notes+" ∧
      segmentBase? "relay-0000000000001000" = some 0x1000 ∧
      ⟨0x1000, 0, 8⟩ ∈ tree.segments "/shm" := by
  let tree : FileTree := ⟨[(["shm"], .directory), (["shm", "relay-0000000000001000"], .file 0),
    (["shm", "Notes+"], .file 1)], #[.zeroed 8, .zeroed 5], []⟩
  have named : segmentName 0x1000 = "relay-0000000000001000" := by decide +kernel
  have listed : tree.list "/shm" =
      .ok [("relay-0000000000001000", .file 0), ("Notes+", .file 1)] := by
    decide +kernel
  have plain : ∀ entry ∈ [("relay-0000000000001000", Node.file 0), ("Notes+", .file 1)],
      StrayName entry.1 → segmentBase? entry.1 = none := by
    decide +kernel
  obtain ⟨_, _, _, spelled, directories⟩ :=
    segments_found_by_name 0x1000 "relay-0000000000001000"
  obtain ⟨members, _⟩ := directories tree "/shm" _ listed plain
  refine ⟨tree, _, listed, plain, List.mem_cons_of_mem _ List.mem_cons_self, by decide,
    spelled.mpr (.inl named.symm), (members ⟨0x1000, 0, 8⟩).mpr ⟨?_, rfl⟩⟩
  rw [named]
  exact List.mem_cons_self

/-- A plus sign in place of a zero, or a capital letter in place of a small one, makes another name
of an address, and a file of that name is taken for a segment. -/
theorem stray_names_taken_for_segments :
    let tree : FileTree := ⟨[(["shm"], .directory), (["shm", "relay-+000000000001000"], .file 0)],
      #[.zeroed 4], []⟩
    tree.resolveSegment "/shm" 0x1000 4 = .ok (0, 0) ∧
      segmentBase? "relay-+000000000001000" = segmentBase? (segmentName 0x1000) ∧
      segmentBase? "relay-000000000000ABCD" = segmentBase? (segmentName 0xABCD) ∧
      ¬ ∀ name address, segmentBase? name = some address → name = segmentName address := by
  have signed : segmentBase? "relay-+000000000001000" = some 0x1000 := by decide +kernel
  have capital : segmentBase? "relay-000000000000ABCD" = some 0xABCD := by decide +kernel
  refine ⟨by decide +kernel, ?_, ?_, ?_⟩
  · rw [signed, segmentBase?_segmentName]
  · rw [capital, segmentBase?_segmentName]
  · intro only_made
    have same := only_made _ _ signed
    exact absurd same (by decide +kernel)

end ChunkRelay
