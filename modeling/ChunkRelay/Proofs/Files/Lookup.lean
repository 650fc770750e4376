import ChunkRelay.Files.Tree
import Mathlib.Data.List.Basic

/-! Finding a file by its path. Directories that stay where they are keep every
path leading to where it led, so making or removing one file neither hides nor
moves any other. -/

set_option autoImplicit false

namespace ChunkRelay

namespace FileTree

/-- A later tree has all directories where they were, and the same place to start from. -/
structure Extends (tree later : FileTree) : Prop where
  current : later.current = tree.current
  directories {location : Location} :
    tree.node? location = some .directory → later.node? location = some .directory

section Extends

variable {tree later : FileTree} {location : Location} {node : Node} {path : String}

theorem Extends.follow (grown : tree.Extends later) {names : List String} {place : Location}
    {led : Location × Option String} (leads : tree.follow place names = .ok led) :
    later.follow place names = .ok led := by
  fun_induction FileTree.follow tree place names with
  | case1 place => exact leads
  | case2 place rest ih =>
    unfold FileTree.follow
    rw [if_pos rfl]
    exact ih leads
  | case3 place rest other ih =>
    unfold FileTree.follow
    rw [if_neg other, if_pos rfl]
    exact ih leads
  | case4 place name here above =>
    unfold FileTree.follow
    rw [if_neg here, if_neg above]
    exact leads
  | case5 place name here above next rest ih =>
    unfold FileTree.follow
    rw [if_neg here, if_neg above]
    cases checked : checkName name with
    | error cause =>
      rw [checked] at leads
      cases leads
    | ok =>
      rw [checked] at leads
      dsimp only [bind, Except.bind] at leads ⊢
      split at leads
      · cases leads
      · next found =>
        rw [grown.directories found]
        exact ih leads
      · cases leads

theorem Extends.walk (grown : tree.Extends later) {target : Target}
    (walks : tree.walk path = .ok target) : later.walk path = .ok target := by
  unfold FileTree.walk origin at walks ⊢
  rw [grown.current]
  cases checked : checkPath path with
  | error cause =>
    rw [checked] at walks
    cases walks
  | ok =>
    rw [checked] at walks
    dsimp only [bind, Except.bind] at walks ⊢
    split at walks
    · cases walks
    · next led leads =>
      rw [grown.follow leads]
      exact walks

end Extends

/-- A path leads to a location, where something may stand that is no directory. -/
def Leads (tree : FileTree) (path : String) (location : Location) : Prop :=
  ∃ parent name, tree.walk path = .ok ⟨parent, some name, false⟩ ∧ checkName name = .ok () ∧
    location = parent ++ [name]

section Leads

variable {tree later : FileTree} {location other : Location} {node : Node} {path : String}
  {contents : Nat}

theorem Leads.extend (leads : tree.Leads path location) (grown : tree.Extends later) :
    later.Leads path location := by
  obtain ⟨parent, name, walks, short, same⟩ := leads
  exact ⟨parent, name, grown.walk walks, short, same⟩

theorem find_eq_ok_iff (plain : node ≠ .directory) :
    tree.find path = .ok (location, node) ↔
      tree.Leads path location ∧ tree.node? location = some node := by
  unfold find Leads
  cases walks : tree.walk path with
  | error cause =>
    constructor
    · intro found
      cases found
    · rintro ⟨⟨parent, name, leads, _⟩, _⟩
      cases leads
  | ok target =>
    obtain ⟨parent, name?, trailing⟩ := target
    cases name? with
    | none =>
      constructor
      · intro found
        cases found
        exact absurd rfl plain
      · rintro ⟨⟨_, _, leads, _⟩, _⟩
        cases leads
    | some name =>
      constructor
      · intro found
        dsimp only [bind, Except.bind] at found
        cases short : checkName name with
        | error cause =>
          rw [short] at found
          cases found
        | ok =>
          rw [short] at found
          dsimp only at found
          split at found
          · cases found
          · next here present =>
            split at found
            · cases found
            · next bare =>
              cases found
              have ended : trailing = false :=
                Bool.eq_false_iff.mpr fun separator => bare ⟨separator, plain⟩
              subst ended
              exact ⟨⟨parent, name, rfl, short, rfl⟩, present⟩
      · rintro ⟨⟨_, _, leads, short, rfl⟩, present⟩
        cases leads
        dsimp only [bind, Except.bind]
        rw [short, present]
        rfl

theorem find_file_iff :
    tree.find path = .ok (location, .file contents) ↔
      tree.Leads path location ∧ tree.node? location = some (.file contents) :=
  find_eq_ok_iff (by simp)

theorem creatable_eq_ok_iff : tree.creatable path = .ok location ↔ tree.Leads path location := by
  unfold creatable Leads
  cases tree.walk path with
  | error cause => simp [bind, Except.bind]
  | ok target =>
    obtain ⟨parent, name?, trailing⟩ := target
    cases name? with
    | none => simp [bind, Except.bind, throw, throwThe, MonadExceptOf.throw]
    | some name =>
      cases trailing with
      | true => simp [bind, Except.bind, throw, throwThe, MonadExceptOf.throw]
      | false =>
        cases short : checkName name <;>
          simp [bind, Except.bind, pure, Except.pure, short, eq_comm]

/-- A new file stands where nothing stood, with contents of its own. -/
theorem createNew_inv (created : tree.createNew path = .ok (contents, later)) :
    ∃ location, tree.Leads path location ∧ tree.node? location = none ∧
      contents = tree.contents.size ∧ later = (tree.addFile location).2 := by
  unfold createNew at created
  cases leads : tree.creatable path with
  | error cause =>
    rw [leads] at created
    cases created
  | ok location =>
    rw [leads] at created
    cases present : tree.node? location with
    | some node =>
      simp [bind, Except.bind, present, throw, throwThe, MonadExceptOf.throw] at created
    | none =>
      simp only [bind, Except.bind, present, pure, Except.pure, Option.isSome_none,
        Bool.false_eq_true, ↓reduceIte, Except.ok.injEq] at created
      exact ⟨location, creatable_eq_ok_iff.mp leads, present, (congrArg (·.1) created).symm,
        (congrArg (·.2) created).symm⟩

/-- What is opened for writing is the entry that stands there, or else a new file. -/
theorem openOrCreate_inv (opened : tree.openOrCreate path = .ok (node, later)) :
    ∃ location, tree.Leads path location ∧
      (tree.node? location = none ∧ node = .file tree.contents.size ∧
          later = (tree.addFile location).2 ∨
        tree.node? location = some node ∧ node ≠ .directory ∧
          (∀ listener, node ≠ .socket listener) ∧ later = tree) := by
  unfold openOrCreate at opened
  cases leads : tree.creatable path with
  | error cause =>
    rw [leads] at opened
    cases opened
  | ok location =>
    rw [leads] at opened
    refine ⟨location, creatable_eq_ok_iff.mp leads, ?_⟩
    dsimp only [bind, Except.bind] at opened
    split at opened
    · next free =>
      cases opened
      exact .inl ⟨free, rfl, rfl⟩
    · cases opened
    · cases opened
    · next directory socket present =>
      cases opened
      exact .inr ⟨present, directory, socket, rfl⟩

theorem openOrCreate_present (leads : tree.Leads path location)
    (present : tree.node? location = some node) (plain : node ≠ .directory)
    (bound : ∀ listener, node ≠ .socket listener) : tree.openOrCreate path = .ok (node, tree) := by
  unfold openOrCreate
  rw [creatable_eq_ok_iff.mpr leads]
  dsimp only [bind, Except.bind]
  rw [present]
  cases node with
  | directory => exact absurd rfl plain
  | socket listener => exact absurd rfl (bound listener)
  | file => rfl
  | nullDevice => rfl
  | zeroDevice => rfl
  | fullDevice => rfl

theorem remove_inv (removed : tree.remove path = .ok later) :
    ∃ location node, tree.find path = .ok (location, node) ∧ node ≠ .directory ∧
      later = { tree with nodes := tree.nodes.filter (·.1 ≠ location) } := by
  unfold remove at removed
  cases found : tree.find path with
  | error cause =>
    rw [found] at removed
    cases removed
  | ok place =>
    rw [found] at removed
    obtain ⟨location, node⟩ := place
    dsimp only [bind, Except.bind] at removed
    split at removed
    · cases removed
    · next plain =>
      cases removed
      exact ⟨location, node, rfl, plain, rfl⟩

end Leads

/-!
## One entry more or less
-/

section Entries

variable {tree : FileTree} {location other : Location} {node : Node} {path : String}
  {contents : Nat}

theorem node?_add (free : tree.node? location = none) :
    (tree.add location node).node? other =
      if other = location then some node else tree.node? other := by
  have named : location ≠ [] := by
    rintro rfl
    cases free
  unfold node? at free ⊢
  rw [if_neg named] at free
  by_cases top : other = []
  · subst top
    rw [if_pos rfl, if_neg (Ne.symm named), if_pos rfl]
  · rw [if_neg top, if_neg top, add, List.lookup_append]
    by_cases same : other = location
    · subst same
      simp [free]
    · have apart : (other == location) = false := beq_eq_false_iff_ne.mpr same
      rw [if_neg same, List.lookup_cons, apart]
      exact Option.or_none

theorem node?_filter (different : other ≠ location) :
    ({ tree with nodes := tree.nodes.filter (·.1 ≠ location) } : FileTree).node? other =
      tree.node? other := by
  unfold node?
  by_cases top : other = []
  · rw [if_pos top, if_pos top]
  · rw [if_neg top, if_neg top]
    dsimp only
    induction tree.nodes with
    | nil => rfl
    | cons entry rest ih =>
      obtain ⟨place, node⟩ := entry
      by_cases gone : place = location
      · subst gone
        have apart : (other == place) = false := beq_eq_false_iff_ne.mpr different
        rw [List.filter_cons_of_neg (by simp), List.lookup_cons, apart]
        exact ih
      · rw [List.filter_cons_of_pos (by simpa using gone), List.lookup_cons, List.lookup_cons, ih]

theorem node?_filter_self (named : location ≠ []) :
    ({ tree with nodes := tree.nodes.filter (·.1 ≠ location) } : FileTree).node? location = none := by
  unfold node?
  rw [if_neg named, List.lookup_eq_none_iff]
  intro entry member
  have other : entry.1 ≠ location := by simpa using (List.mem_filter.mp member).2
  exact bne_iff_ne.mpr (Ne.symm other)

/-- A file is found where it was if the tree has grown and still has it at its location. -/
theorem Extends.find {later : FileTree} (grown : tree.Extends later)
    (kept : later.node? location = tree.node? location)
    (found : tree.find path = .ok (location, .file contents)) :
    later.find path = .ok (location, .file contents) := by
  obtain ⟨leads, present⟩ := find_file_iff.mp found
  exact find_file_iff.mpr ⟨leads.extend grown, kept.trans present⟩

theorem find_modify (index : Nat) (change : Extent → Extent)
    (found : tree.find path = .ok (location, .file contents)) :
    (tree.modify index change).find path = .ok (location, .file contents) := by
  have grown : tree.Extends (tree.modify index change) := ⟨rfl, fun present => present⟩
  exact grown.find rfl found

theorem node?_addFile (free : tree.node? location = none) :
    (tree.addFile location).2.node? other =
      if other = location then some (.file tree.contents.size) else tree.node? other := by
  have unnamed : (tree.addContents (.zeroed 0)).2.node? location = none := free
  exact node?_add unnamed

/-- An entry that was there before another one came is not that one. -/
theorem ne_of_free (free : tree.node? location = none) (present : tree.node? other = some node) :
    other ≠ location := by
  rintro rfl
  rw [free] at present
  cases present

theorem extends_add (free : tree.node? location = none) : tree.Extends (tree.add location node) :=
  ⟨rfl, fun present => by rw [node?_add free, if_neg (ne_of_free free present), present]⟩

theorem extends_addFile (free : tree.node? location = none) :
    tree.Extends (tree.addFile location).2 :=
  ⟨rfl, fun present => by rw [node?_addFile free, if_neg (ne_of_free free present), present]⟩

theorem extends_filter (present : tree.node? location = some node) (plain : node ≠ .directory) :
    tree.Extends { tree with nodes := tree.nodes.filter (·.1 ≠ location) } := by
  refine ⟨rfl, fun directory => ?_⟩
  rw [node?_filter]
  · exact directory
  · rintro rfl
    rw [present] at directory
    cases directory
    exact plain rfl

/-- A new file is found by its path, and every other file is still found. -/
theorem createNew_spec {later : FileTree} (created : tree.createNew path = .ok (contents, later)) :
    contents = tree.contents.size ∧ later.contents.size = tree.contents.size + 1 ∧
      (∃ location, later.find path = .ok (location, .file contents)) ∧
      ∀ {other place index}, tree.find other = .ok (place, .file index) →
        later.find other = .ok (place, .file index) := by
  obtain ⟨location, leads, free, rfl, rfl⟩ := createNew_inv created
  have grown := extends_addFile free
  refine ⟨rfl, Array.size_push _, ⟨location, ?_⟩, fun found => ?_⟩
  · refine find_file_iff.mpr ⟨leads.extend grown, ?_⟩
    rw [node?_addFile free, if_pos rfl]
  · refine grown.find ?_ found
    rw [node?_addFile free, if_neg (ne_of_free free (find_file_iff.mp found).2)]

/-- Removing a file leaves all files with other contents. -/
theorem remove_spec {later : FileTree} (removed : tree.remove path = .ok later)
    (found : tree.find path = .ok (location, .file contents)) :
    later.contents = tree.contents ∧
      ∀ {other place index}, index ≠ contents → tree.find other = .ok (place, .file index) →
        later.find other = .ok (place, .file index) := by
  obtain ⟨_, node, same, plain, rfl⟩ := remove_inv removed
  rw [found] at same
  cases same
  have present := (find_file_iff.mp found).2
  refine ⟨rfl, fun differ stands => (extends_filter present plain).find (node?_filter ?_) stands⟩
  rintro rfl
  have other := (find_file_iff.mp stands).2
  rw [present] at other
  cases other
  exact differ rfl

end Entries

/-!
## Names that come and go
-/

section Names

variable {tree later : FileTree} {path : String} {contents : Nat} {location : Location}

theorem extends_of_nodes (nodes : later.nodes = tree.nodes)
    (current : later.current = tree.current) : tree.Extends later := by
  refine ⟨current, fun {place} present => ?_⟩
  rw [node?, nodes]
  exact present

theorem find_of_nodes (nodes : later.nodes = tree.nodes) (current : later.current = tree.current)
    (found : tree.find path = .ok (location, .file contents)) :
    later.find path = .ok (location, .file contents) := by
  refine (extends_of_nodes nodes current).find ?_ found
  rw [node?, nodes]
  rfl

/-- Where nothing stands, no entry is. -/
theorem ne_of_node?_eq_none (free : tree.node? location = none) :
    ∀ entry ∈ tree.nodes, entry.1 ≠ location := by
  have named : location ≠ [] := by
    rintro rfl
    cases free
  intro entry member same
  rw [node?, if_neg named, List.lookup_eq_none_iff] at free
  exact absurd same.symm (by simpa using free entry member)

theorem filter_of_free (free : tree.node? location = none) :
    tree.nodes.filter (·.1 ≠ location) = tree.nodes :=
  List.filter_eq_self.mpr fun entry member =>
    decide_eq_true (ne_of_node?_eq_none free entry member)

/-- A new file stands where nothing stood, so leaving it out gives the names that were there. -/
theorem createNew_undo (created : tree.createNew path = .ok (contents, later)) :
    later.current = tree.current ∧ ∃ location, later.find path = .ok (location, .file contents) ∧
      later.nodes.filter (·.1 ≠ location) = tree.nodes := by
  obtain ⟨location, leads, free, rfl, rfl⟩ := createNew_inv created
  refine ⟨rfl, location, find_file_iff.mpr ⟨leads.extend (extends_addFile free), ?_⟩, ?_⟩
  · rw [node?_addFile free, if_pos rfl]
  · change (tree.nodes ++ [(location, _)]).filter _ = tree.nodes
    rw [List.filter_append, filter_of_free free]
    simp

theorem remove_of_find (found : tree.find path = .ok (location, .file contents)) :
    tree.remove path = .ok { tree with nodes := tree.nodes.filter (·.1 ≠ location) } := by
  rw [remove, found]
  rfl

/-- A new file that is removed at once leaves the names that were there. -/
theorem remove_createNew (created : tree.createNew path = .ok (contents, later)) :
    ∃ left, later.remove path = .ok left ∧ left.nodes = tree.nodes ∧
      left.current = tree.current ∧ left.contents = tree.contents.push (.zeroed 0) := by
  obtain ⟨current, location, found, undone⟩ := createNew_undo created
  obtain ⟨_, _, _, _, grown⟩ := createNew_inv created
  refine ⟨_, remove_of_find found, undone, current, ?_⟩
  rw [grown]
  rfl

end Names

end FileTree

end ChunkRelay
