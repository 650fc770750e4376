import ChunkRelay.Endpoint
import ChunkRelay.Proofs.Files.Lookup

/-! Names in a directory. A plain name joined to the path of a directory leads to
the entry of that name in it, wherever the directory's own path goes. The lock
files and sockets of all endpoints and ports have names of their own. -/

set_option autoImplicit false

namespace ChunkRelay

/-!
## Names of endpoints and ports
-/

/-- A name that stands for an entry of the directory it is looked up in. -/
def PlainName (name : String) : Prop :=
  '/' ∉ name.toList ∧ name ≠ "" ∧ name ≠ "." ∧ name ≠ ".."

/-- A numeral ends where the digits do. -/
theorem toDigits_append_inj {one other : Nat} {left right : Char} {first second : List Char}
    (left_end : left.isDigit = false) (right_end : right.isDigit = false)
    (same : Nat.toDigits 10 one ++ left :: first = Nat.toDigits 10 other ++ right :: second) :
    one = other ∧ left :: first = right :: second := by
  have digits : ∀ {value : Nat}, ∀ digit ∈ Nat.toDigits 10 value, digit.isDigit = true :=
    fun _ => Nat.isDigit_of_mem_toDigits (by decide) (by decide)
  have numerals := congrArg (List.takeWhile Char.isDigit) same
  rw [List.takeWhile_append_of_pos digits, List.takeWhile_append_of_pos digits,
    List.takeWhile_cons_of_neg (by simp [left_end]),
    List.takeWhile_cons_of_neg (by simp [right_end]), List.append_nil, List.append_nil] at numerals
  rw [numerals] at same
  refine ⟨?_, List.append_cancel_left same⟩
  simpa using congrArg (Nat.ofDigitChars 10 · 0) numerals

theorem toList_lockName (id : ChannelId) :
    (lockName id).toList = "relay-ep".toList ++ (Nat.toDigits 10 id.endpoint.toNat ++
      '-' :: 'p' :: (Nat.toDigits 10 id.port.toNat ++ '.' :: "lock".toList)) := by
  simp [lockName]

theorem toList_socketName (endpoint : UInt32) :
    (socketName endpoint).toList =
      "relay-ep".toList ++ (Nat.toDigits 10 endpoint.toNat ++ '.' :: "sock".toList) := by
  simp [socketName]

theorem lockName_injective : Function.Injective lockName := by
  intro one other same
  have chars := congrArg String.toList same
  rw [toList_lockName, toList_lockName] at chars
  obtain ⟨endpoint, rest⟩ :=
    toDigits_append_inj (by decide) (by decide) (List.append_cancel_left chars)
  obtain ⟨port, _⟩ := toDigits_append_inj (by decide) (by decide)
    (List.cons.inj (List.cons.inj rest).2).2
  cases one
  cases other
  exact congr (congrArg ChannelId.mk (UInt32.toNat.inj endpoint)) (UInt32.toNat.inj port)

theorem lockName_ne_socketName (id : ChannelId) (endpoint : UInt32) :
    lockName id ≠ socketName endpoint := by
  intro same
  have chars := congrArg String.toList same
  rw [toList_lockName, toList_socketName] at chars
  obtain ⟨_, rest⟩ := toDigits_append_inj (by decide) (by decide) (List.append_cancel_left chars)
  exact absurd (List.cons.inj rest).1 (by decide)

theorem slash_notMem_toDigits (value : Nat) : '/' ∉ Nat.toDigits 10 value := fun member =>
  absurd (Nat.isDigit_of_mem_toDigits (by decide) (by decide) member) (by decide)

theorem plainName_of_toList {name : String} {rest : List Char}
    (starts : name.toList = "relay-ep".toList ++ rest) (slashless : '/' ∉ rest) :
    PlainName name := by
  refine ⟨?_, ?_, ?_, ?_⟩
  · rw [starts, List.mem_append]
    exact fun member => member.elim (by decide) slashless
  all_goals
    rintro rfl
    cases starts

theorem plainName_lockName (id : ChannelId) : PlainName (lockName id) := by
  refine plainName_of_toList (toList_lockName id) ?_
  simp [slash_notMem_toDigits]

theorem plainName_socketName (endpoint : UInt32) : PlainName (socketName endpoint) := by
  refine plainName_of_toList (toList_socketName endpoint) ?_
  simp [slash_notMem_toDigits]

/-!
## Joined paths
-/

section Joined

variable {directory name : String}

/-- A separator is added unless the directory ends in one. -/
theorem toList_joinPath (plain : PlainName name) (named : directory ≠ "") :
    (∃ above, directory.toList = above ++ ['/'] ∧
        (joinPath directory name).toList = directory.toList ++ name.toList) ∨
      (joinPath directory name).toList = directory.toList ++ '/' :: name.toList := by
  have relative : name.startsWith "/" = false := by
    rw [String.startsWith_string_eq_false_iff]
    exact fun starts => plain.1 (starts.subset (by simp))
  unfold joinPath
  rw [relative, if_neg (by decide)]
  split
  · next ended =>
    have ends : directory.endsWith "/" = true := by simpa [named] using ended
    rw [← String.endsWith_toSlice, String.Slice.endsWith_string_iff] at ends
    obtain ⟨above, whole⟩ := ends
    exact .inl ⟨above, by simpa using whole.symm, String.toList_append⟩
  · exact .inr (by simp)

theorem namesOf_joinPath (plain : PlainName name) (named : directory ≠ "") :
    FileTree.namesOf (joinPath directory name) = FileTree.namesOf directory ++ [name] := by
  have last : name.toList.splitOn '/' = [name.toList] := List.splitOn_eq_singleton plain.1
  have kept : name.toList ≠ [] := by simpa using plain.2.1
  unfold FileTree.namesOf
  rcases toList_joinPath plain named with ⟨above, ended, joined⟩ | joined
  · rw [joined, ended, List.append_assoc, List.singleton_append, List.splitOn_append_cons_self,
      List.splitOn_append_cons_self, last]
    simp [kept]
  · rw [joined, List.splitOn_append_cons_self, last]
    simp [kept]

theorem origin_joinPath (tree : FileTree) (plain : PlainName name) (named : directory ≠ "") :
    tree.origin (joinPath directory name) = tree.origin directory := by
  have chars : directory.toList ≠ [] := by simpa using named
  have same : (joinPath directory name).startsWith "/" = directory.startsWith "/" := by
    rw [Bool.eq_iff_iff, String.startsWith_string_iff, String.startsWith_string_iff]
    obtain ⟨first, rest, whole⟩ := List.exists_cons_of_ne_nil chars
    rcases toList_joinPath plain named with ⟨_, _, joined⟩ | joined
    · simp [joined, whole]
    · simp [joined, whole]
  unfold FileTree.origin
  rw [same]

theorem endsWith_joinPath (plain : PlainName name) (named : directory ≠ "") :
    (joinPath directory name).endsWith "/" = false := by
  rw [← String.endsWith_toSlice, String.Slice.endsWith_string_eq_false_iff]
  have joined : ∃ above, (joinPath directory name).toList = above ++ name.toList := by
    rcases toList_joinPath plain named with ⟨_, _, joined⟩ | joined
    · exact ⟨_, joined⟩
    · exact ⟨directory.toList ++ ['/'], by simp [joined]⟩
  obtain ⟨above, joined⟩ := joined
  rintro ⟨before, whole⟩
  have last := congrArg List.getLast? whole
  have kept : name.toList ≠ [] := by simpa using plain.2.1
  rw [String.copy_toSlice, joined, List.getLast?_append_of_ne_nil _ kept] at last
  exact plain.1 (List.mem_of_getLast? (by simpa using last.symm))

theorem joinPath_injective (named : directory ≠ "") {other : String} (plain : PlainName name)
    (also : PlainName other) (same : joinPath directory name = joinPath directory other) :
    name = other := by
  have names := congrArg FileTree.namesOf same
  rw [namesOf_joinPath plain named, namesOf_joinPath also named] at names
  exact List.singleton_injective (List.append_cancel_left names)

end Joined

namespace FileTree

/-!
## Entries of a directory
-/

section Entries

variable {tree later : FileTree} {place location : Location} {directory path name : String}

/-- More names are followed from where the first ones led. -/
theorem follow_append {names : List String} {start : Location} {led : Location × Option String}
    (leads : tree.follow start names = .ok led) (more : List String) :
    tree.follow start (names ++ more) = tree.follow led.1 (led.2.toList ++ more) := by
  fun_induction FileTree.follow tree start names with
  | case1 start =>
    cases leads
    rfl
  | case2 start rest ih =>
    rw [List.cons_append, FileTree.follow.eq_def]
    exact ih leads
  | case3 start rest other ih =>
    rw [List.cons_append, FileTree.follow.eq_def]
    exact ih leads
  | case4 start last here above =>
    cases leads
    rfl
  | case5 start first here above next rest ih =>
    rw [List.cons_append, List.cons_append, FileTree.follow.eq_def]
    dsimp only
    rw [if_neg here, if_neg above]
    cases short : checkName first with
    | error cause =>
      rw [short] at leads
      cases leads
    | ok =>
      rw [short] at leads
      dsimp only [bind, Except.bind] at leads ⊢
      split at leads
      · cases leads
      · exact ih leads
      · cases leads

theorem walk_eq_ok_iff {target : Target} :
    tree.walk path = .ok target ↔ checkPath path = .ok () ∧
      tree.follow (tree.origin path) (namesOf path) = .ok (target.parent, target.name) ∧
        target.trailing = path.endsWith "/" := by
  unfold FileTree.walk
  cases checkPath path with
  | error cause => simp [bind, Except.bind]
  | ok =>
    cases tree.follow (tree.origin path) (namesOf path) with
    | error cause => simp [bind, Except.bind]
    | ok led =>
      obtain ⟨parent, name⟩ := led
      obtain ⟨place, last, trailing⟩ := target
      simp [bind, Except.bind, pure, Except.pure, and_assoc, eq_comm]

/-- A path to a directory leads right to it or to its name in the directory above. -/
theorem find_directory_iff :
    tree.find path = .ok (place, .directory) ↔ ∃ target, tree.walk path = .ok target ∧
      (target.name = none ∧ place = target.parent ∨
        ∃ name, target.name = some name ∧ checkName name = .ok () ∧
          tree.node? (target.parent ++ [name]) = some .directory ∧
          place = target.parent ++ [name]) := by
  unfold find
  cases tree.walk path with
  | error cause => simp [bind, Except.bind]
  | ok target =>
    obtain ⟨parent, last?, trailing⟩ := target
    cases last? with
    | none => simp [bind, Except.bind, pure, Except.pure, eq_comm]
    | some last =>
      cases short : checkName last with
      | error cause => simp [bind, Except.bind, short]
      | ok =>
        cases stands : tree.node? (parent ++ [last]) with
        | none => simp [bind, Except.bind, short, stands, throw, throwThe, MonadExceptOf.throw]
        | some node =>
          by_cases directory : node = .directory
          · subst directory
            simp [bind, Except.bind, short, stands, pure, Except.pure, eq_comm]
          · simp only [bind, Except.bind, short, stands, pure, Except.pure]
            split <;> simp [throw, throwThe, MonadExceptOf.throw, directory, short, stands]

theorem Extends.find_directory (grown : tree.Extends later)
    (found : tree.find path = .ok (place, .directory)) :
    later.find path = .ok (place, .directory) := by
  rw [find_directory_iff] at found ⊢
  obtain ⟨target, walks, here | ⟨name, last, short, stands, same⟩⟩ := found
  · exact ⟨target, grown.walk walks, .inl here⟩
  · exact ⟨target, grown.walk walks, .inr ⟨name, last, short, grown.directories stands, same⟩⟩

theorem follow_plain (plain : PlainName name) : tree.follow place [name] = .ok (place, some name) := by
  rw [FileTree.follow.eq_def]
  dsimp only
  rw [if_neg plain.2.2.1, if_neg plain.2.2.2]

/-- A name that a path leads to is an entry and no way to go. -/
theorem follow_last {names : List String} {start : Location}
    (leads : tree.follow start names = .ok (place, some name)) : name ≠ "." ∧ name ≠ ".." := by
  have again := follow_append leads []
  rw [List.append_nil, leads] at again
  constructor
  · rintro rfl
    simp [FileTree.follow] at again
  · rintro rfl
    simp [FileTree.follow] at again

/-- Where a path leads to a directory, a further name is looked up right in it. -/
theorem follow_find (found : tree.find directory = .ok (place, .directory))
    (plain : PlainName name) :
    tree.follow (tree.origin directory) (namesOf directory ++ [name]) = .ok (place, some name) := by
  obtain ⟨target, walks, here⟩ := find_directory_iff.mp found
  obtain ⟨_, leads, _⟩ := walk_eq_ok_iff.mp walks
  rw [follow_append leads]
  obtain ⟨parent, last?, trailing⟩ := target
  rcases here with ⟨rfl, rfl⟩ | ⟨last, rfl, short, stands, rfl⟩
  · exact follow_plain plain
  · obtain ⟨other, another⟩ := follow_last leads
    change tree.follow parent [last, name] = _
    dsimp only at stands ⊢
    rw [FileTree.follow.eq_def]
    dsimp only
    rw [if_neg other, if_neg another, short, stands]
    exact follow_plain plain

/-- A name joined to the path of a directory is looked up right in it. -/
theorem walk_joinPath (found : tree.find directory = .ok (place, .directory))
    (plain : PlainName name) :
    tree.walk (joinPath directory name) =
      (checkPath (joinPath directory name)).map fun _ => ⟨place, some name, false⟩ := by
  have named : directory ≠ "" := by
    rintro rfl
    cases found
  unfold FileTree.walk
  rw [origin_joinPath tree plain named, namesOf_joinPath plain named, follow_find found plain,
    endsWith_joinPath plain named]
  cases checkPath (joinPath directory name) <;> rfl

theorem Leads.joined (found : tree.find directory = .ok (place, .directory))
    (plain : PlainName name) (leads : tree.Leads (joinPath directory name) location) :
    location = place ++ [name] := by
  obtain ⟨parent, last, walks, _, same⟩ := leads
  rw [walk_joinPath found plain] at walks
  cases checked : checkPath (joinPath directory name) with
  | error cause =>
    rw [checked] at walks
    cases walks
  | ok =>
    rw [checked] at walks
    cases walks
    exact same

/-- A name in a directory is found as long as its own entry is what it was. -/
theorem find_joinPath_congr (found : tree.find directory = .ok (place, .directory))
    (grown : tree.Extends later) (plain : PlainName name)
    (same : later.node? (place ++ [name]) = tree.node? (place ++ [name])) :
    later.find (joinPath directory name) = tree.find (joinPath directory name) := by
  unfold find
  rw [walk_joinPath found plain, walk_joinPath (grown.find_directory found) plain]
  cases checkPath (joinPath directory name) with
  | error cause => rfl
  | ok =>
    dsimp only [bind, Except.bind, Except.map]
    rw [same]

end Entries

end FileTree

end ChunkRelay
