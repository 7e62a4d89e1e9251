import ContractFixtures.Proofs.FileTree.Found

/-!
# How far a walk gets

A walk opens each directory by its path. So it finds all files below its start if all directories
below can be opened, and otherwise stops at one that cannot, though all around it can. It can start
wherever a path leads to something.

* `Below`: what names lead to through directories.
* `Opens`: the paths of all directories below a tree can be opened.
* `Blocked`: a directory at which a walk stops.

Results:
1. `below_iff_at?`: what lies below a tree is what is at its places.
2. `walkTree_eq_ok_iff`: what a walk finds, and when it gets to its end.
3. `exists_blocked_of_walkTree`: where a walk stops.
4. `walk_of_find`: a walk from a path goes through the directory that the path leads to.
-/

namespace ContractFixtures

namespace FileTree

/-- What names lead to from a tree through directories. No link is followed. -/
inductive Below : FileTree → List String → FileTree → Prop
  | here (t : FileTree) : Below t [] t
  | down {entries : List (String × FileTree)} {name : String} {t u : FileTree}
      {names : List String} : (name, t) ∈ entries → Below t names u →
      Below (.directory entries) (name :: names) u

/-- The entries of a directory are found by their names, if these are different. -/
theorem lookup_eq_some_iff_mem {entries : List (String × FileTree)} {name : String} {t : FileTree}
    (hkeys : (entries.map Prod.fst).Nodup) :
    entries.lookup name = some t ↔ (name, t) ∈ entries := by
  rw [List.lookup_eq_some_iff]
  constructor
  · rintro ⟨before, behind, rfl, -⟩
    exact List.mem_append_right _ List.mem_cons_self
  · intro hmem
    obtain ⟨before, behind, rfl⟩ := List.append_of_mem hmem
    refine ⟨before, behind, rfl, fun entry hentry => bne_iff_ne.mpr ?_⟩
    rintro rfl
    rw [List.map_append, List.map_cons] at hkeys
    exact (List.nodup_append.mp hkeys).2.2 _ (List.mem_map_of_mem hentry) _ List.mem_cons_self rfl

/-- What lies below a tree is what is at its places. -/
theorem below_iff_at? {t u : FileTree} {names : List String} (hw : t.WellFormed) :
    Below t names u ↔ t.at? names = some u := by
  induction names generalizing t with
  | nil =>
    rw [at?]
    constructor
    · rintro ⟨⟩
      rfl
    · rintro ⟨⟩
      exact .here _
  | cons name names ih =>
    cases t with
    | file bytes =>
      constructor
      · rintro ⟨⟩
      · rintro ⟨⟩
    | link target =>
      constructor
      · rintro ⟨⟩
      · rintro ⟨⟩
    | directory entries =>
      rw [at?, Option.bind_eq_some_iff]
      constructor
      · intro h
        obtain _ | ⟨hmem, hbelow⟩ := h
        have hlookup := (lookup_eq_some_iff_mem hw.1).mpr hmem
        exact ⟨_, hlookup, (ih (hw.2.lookup hlookup).2).mp hbelow⟩
      · rintro ⟨t, hlookup, hat⟩
        exact .down ((lookup_eq_some_iff_mem hw.1).mp hlookup)
          ((ih (hw.2.lookup hlookup).2).mpr hat)

theorem Below.isName {t u : FileTree} {names : List String} (h : Below t names u)
    (hw : t.WellFormed) : ∀ name ∈ names, Path.IsName name := by
  induction h with
  | here t => exact fun _ hname => absurd hname List.not_mem_nil
  | down hmem _ ih =>
    obtain ⟨hname, ht⟩ := hw.2.of_mem hmem
    exact List.forall_mem_cons.mpr ⟨hname, ih ht⟩

/-- A path is followed for its entry as it is followed for its content, up to a link in the last
place. -/
theorem followPieces_entry (tree : FileTree) (links : Nat) (here : Place)
    (pieces : List (List Char)) :
    tree.followPieces .entry links here pieces = tree.followPieces .content links here pieces ∨
      ∃ place text, tree.followPieces .entry links here pieces = .ok (.present place) ∧
        tree.at? place = some (.link text) := by
  -- Both runs take the same steps until a link stands in the last place.
  fun_induction followPieces tree .entry links here pieces with
  | case11 links here piece rest hpiece hup hslash hlong name text hat hlast =>
    exact .inr ⟨_, text, rfl, hat⟩
  | _ =>
    rw [followPieces]
    grind

end FileTree

namespace FileSystem

open FileTree (Below Found Fault)

/-- Whether the directories in a tree can all be opened by their paths from the path of the
tree. -/
def Opens (fs : FileSystem) (path : Path) (t : FileTree) : Prop :=
  ∀ names inner, Below t names (.directory inner) →
    fs.pathExists (names.foldl Path.join path) = true

/-- A directory in a tree that cannot be opened by its path from the path of the tree, though all
directories around it can. -/
structure Blocked (fs : FileSystem) (path : Path) (t : FileTree) (names : List String)
    (fault : Fault) : Prop where
  below : ∃ inner, Below t names (.directory inner)
  refused : fs.find .content (names.foldl Path.join path) = .error fault
  around : ∀ front, front <+: names → front ≠ names →
    fs.pathExists (front.foldl Path.join path) = true

variable {fs : FileSystem} {path root : Path} {t : FileTree}
  {entries : List (String × FileTree)} {found : List Found}

theorem pathExists_iff {p : Path} :
    fs.pathExists p = true ↔ ∃ t, fs.find .content p = .ok t := by
  unfold pathExists
  cases fs.find .content p <;> simp [Except.toOption]

theorem pathExists_of_find {p : Path} (h : fs.find .content p = .ok t) :
    fs.pathExists p = true :=
  pathExists_iff.mpr ⟨t, h⟩

/-! ## Directories on the way -/

theorem opens_directory_iff :
    fs.Opens path (.directory entries) ↔
      fs.pathExists path = true ∧ ∀ e ∈ entries, fs.Opens (path.join e.1) e.2 := by
  constructor
  · intro h
    refine ⟨h [] entries (.here _), fun e he names inner hbelow => ?_⟩
    exact h (e.1 :: names) inner (.down he hbelow)
  · rintro ⟨hpath, hentries⟩ names inner hbelow
    cases hbelow with
    | here => exact hpath
    | down hmem hbelow => exact hentries _ hmem _ inner hbelow

theorem opens_of_leaf (h : ∀ entries, t ≠ .directory entries) : fs.Opens path t := by
  intro names inner hbelow
  cases hbelow with
  | here => exact absurd rfl (h inner)
  | down => exact absurd rfl (h _)

/-- What is blocked in an entry of a directory is blocked in the directory, if that can be
opened. -/
theorem Blocked.down {e : String × FileTree} {names : List String} {fault : Fault}
    (hpath : fs.pathExists path = true) (he : e ∈ entries)
    (h : fs.Blocked (path.join e.1) e.2 names fault) :
    fs.Blocked path (.directory entries) (e.1 :: names) fault where
  below := by
    obtain ⟨inner, hbelow⟩ := h.below
    exact ⟨inner, .down he hbelow⟩
  refused := h.refused
  around := by
    intro front hfront hne
    rcases List.prefix_cons_iff.mp hfront with rfl | ⟨front, rfl, hprefix⟩
    · exact hpath
    · exact h.around front hprefix fun heq => hne (heq ▸ rfl)

theorem Blocked.not_opens {names : List String} {fault : Fault}
    (h : fs.Blocked path t names fault) : ¬ fs.Opens path t := by
  intro hopens
  obtain ⟨inner, hbelow⟩ := h.below
  obtain ⟨u, hfind⟩ := pathExists_iff.mp (hopens names inner hbelow)
  cases h.refused.symm.trans hfind

/-! ## Walks -/

mutual

/-- A walk gets to its end if all directories on its way can be opened, and then it has found all
files. -/
theorem walkTree_eq_ok_iff {path : Path} {t : FileTree} {found : List Found} :
    fs.walkTree path t = .ok found ↔ fs.Opens path t ∧ found = t.files := by
  match t with
  | .file bytes =>
    have hopens : fs.Opens path (.file bytes) := opens_of_leaf fun _ => FileTree.noConfusion
    simp only [walkTree, hopens, true_and, Except.ok.injEq]
    exact eq_comm
  | .link target =>
    have hopens : fs.Opens path (.link target) := opens_of_leaf fun _ => FileTree.noConfusion
    simp only [walkTree, hopens, true_and, Except.ok.injEq]
    exact eq_comm
  | .directory entries =>
    rw [walkTree, opens_directory_iff, pathExists_iff]
    cases hfind : fs.find .content path with
    | error fault => simp
    | ok u =>
      simp only [Except.ok.injEq, exists_eq', true_and]
      exact walkEntries_eq_ok_iff

theorem walkEntries_eq_ok_iff {path : Path} {entries : List (String × FileTree)}
    {found : List Found} :
    fs.walkEntries path entries = .ok found ↔
      (∀ e ∈ entries, fs.Opens (path.join e.1) e.2) ∧ found = FileTree.filesOf entries := by
  match entries with
  | [] =>
    rw [walkEntries, FileTree.filesOf]
    simp [eq_comm]
  | (name, t) :: rest =>
    rw [walkEntries, List.forall_mem_cons, FileTree.filesOf_cons]
    constructor
    · intro h
      split at h
      · cases h
      · next here hhere =>
        split at h
        · cases h
        · next others hothers =>
          cases h
          obtain ⟨ht, rfl⟩ := walkTree_eq_ok_iff.mp hhere
          obtain ⟨hrest, rfl⟩ := walkEntries_eq_ok_iff.mp hothers
          exact ⟨⟨ht, hrest⟩, rfl⟩
    · rintro ⟨⟨ht, hrest⟩, rfl⟩
      have hhere : fs.walkTree (path.join name) t = .ok t.files :=
        walkTree_eq_ok_iff.mpr ⟨ht, rfl⟩
      have hothers : fs.walkEntries path rest = .ok (FileTree.filesOf rest) :=
        walkEntries_eq_ok_iff.mpr ⟨hrest, rfl⟩
      simp only [hhere, hothers]

end

mutual

/-- A walk stops at a directory that cannot be opened, though all around it can. -/
theorem exists_blocked_of_walkTree {path : Path} {t : FileTree} {obstacle : Obstacle}
    (h : fs.walkTree path t = .error obstacle) :
    ∃ names, fs.Blocked path t names obstacle.fault ∧
      obstacle.path = names.foldl Path.join path := by
  match t with
  | .file bytes => cases h
  | .link target => cases h
  | .directory entries =>
    rw [walkTree] at h
    split at h
    · next fault hfind =>
      cases h
      refine ⟨[], ⟨⟨entries, .here _⟩, hfind, fun front hfront hne => ?_⟩, rfl⟩
      exact absurd (List.prefix_nil.mp hfront) hne
    · next u hfind =>
      obtain ⟨e, he, names, hblocked, hpath⟩ := exists_blocked_of_walkEntries h
      exact ⟨e.1 :: names, hblocked.down (pathExists_of_find hfind) he, hpath⟩

theorem exists_blocked_of_walkEntries {path : Path} {entries : List (String × FileTree)}
    {obstacle : Obstacle} (h : fs.walkEntries path entries = .error obstacle) :
    ∃ e ∈ entries, ∃ names, fs.Blocked (path.join e.1) e.2 names obstacle.fault ∧
      obstacle.path = names.foldl Path.join (path.join e.1) := by
  match entries with
  | [] => cases h
  | (name, t) :: rest =>
    rw [walkEntries] at h
    split at h
    · next obstacle' hhere =>
      cases h
      exact ⟨(name, t), List.mem_cons_self, exists_blocked_of_walkTree hhere⟩
    · split at h
      · next obstacle' hothers =>
        cases h
        obtain ⟨e, he, hblocked⟩ := exists_blocked_of_walkEntries hothers
        exact ⟨e, List.mem_cons_of_mem _ he, hblocked⟩
      · cases h

end

/-- All directories can be opened if none is blocked. -/
theorem opens_iff_not_blocked :
    fs.Opens path t ↔ ∀ names fault, ¬ fs.Blocked path t names fault := by
  refine ⟨fun h names fault hblocked => hblocked.not_opens h, fun h => ?_⟩
  cases hwalk : fs.walkTree path t with
  | ok found => exact (walkTree_eq_ok_iff.mp hwalk).1
  | error obstacle =>
    obtain ⟨names, hblocked, -⟩ := exists_blocked_of_walkTree hwalk
    exact absurd hblocked (h names obstacle.fault)

/-! ## The start of a walk -/

theorem locate_entry (fs : FileSystem) (p : Path) :
    fs.locate .entry p = fs.locate .content p ∨
      ∃ place text, fs.locate .entry p = .ok (.present place) ∧
        fs.tree.at? place = some (.link text) := by
  unfold locate locateChars
  split
  · exact .inl rfl
  split
  · exact .inl rfl
  split
  · exact .inl rfl
  exact FileTree.followPieces_entry fs.tree _ _ _

/-- What a path names is what it leads to, or a link. -/
theorem find_entry (fs : FileSystem) (p : Path) :
    fs.find .entry p = fs.find .content p ∨ ∃ text, fs.find .entry p = .ok (.link text) := by
  rcases fs.locate_entry p with he | ⟨place, text, hplace, hat⟩
  · left
    rw [find, find, he]
  · right
    refine ⟨text, ?_⟩
    simp only [find, hplace, hat]

theorem isDirectory_iff {p : Path} :
    fs.isDirectory p = true ↔ ∃ entries, fs.find .content p = .ok (.directory entries) := by
  unfold isDirectory
  constructor
  · intro h
    split at h
    · next entries hfind => exact ⟨entries, hfind⟩
    · contradiction
  · rintro ⟨entries, hfind⟩
    rw [hfind]

/-- A walk from a path goes through the directory that the path leads to, by way of links or not. -/
theorem walk_of_find (h : fs.find .content root = .ok (.directory entries)) :
    fs.walk root = fs.walkTree root (.directory entries) := by
  rcases fs.find_entry root with he | ⟨text, he⟩
  · simp only [walk, he, h]
  · simp only [walk, he, h, walkTree]

theorem walk_eq_ok_iff_of_find (h : fs.find .content root = .ok (.directory entries)) :
    fs.walk root = .ok found ↔
      fs.Opens root (.directory entries) ∧ found = FileTree.filesOf entries := by
  rw [walk_of_find h]
  exact walkTree_eq_ok_iff

end FileSystem

end ContractFixtures
