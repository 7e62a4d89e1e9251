import ContractFixtures.Proofs.FileTree.Walking

/-!
# Opening what is below a path

What is below the directory that a path leads to is opened by the path with names behind it. Such a
path leads to what the names lead to, if it can be followed at all: it must not be too long, and
neither must its names.

* `Followable`: names that the system follows behind a path.

Results:
1. `at?_of_mem_filesOf`: found names lead to the found bytes.
2. `followPieces_append`: a path is followed from the directory that its front leads to.
3. `find_join_of_followable`, `find_join_of_pathExists`: a path with names behind it leads to what
   the names lead to.
4. `locate_dotted`: a path may be written at any length below the limit.
-/

namespace ContractFixtures

namespace FileTree

/-! ## Places -/

theorem at?_append (tree : FileTree) (place rest : Place) :
    tree.at? (place ++ rest) = (tree.at? place).bind (·.at? rest) := by
  induction place generalizing tree with
  | nil => rfl
  | cons name place ih =>
    cases tree with
    | directory entries =>
      rw [List.cons_append, at?, at?, Option.bind_assoc]
      exact Option.bind_congr fun t _ => ih t
    | file bytes => rfl
    | link target => rfl

mutual

theorem at?_of_mem_files {t : FileTree} (h : t.WellFormed) {f : Found} (hf : f ∈ t.files) :
    t.at? f.names = some (.file f.bytes) := by
  match t with
  | .file bytes =>
    obtain rfl := List.mem_singleton.mp hf
    rfl
  | .directory entries => exact at?_of_mem_filesOf h.1 h.2 hf
  | .link target => cases hf

/-- The names of a found file lead to its bytes. -/
theorem at?_of_mem_filesOf {entries : List (String × FileTree)}
    (hkeys : (entries.map Prod.fst).Nodup) (h : EntriesWellFormed entries) {f : Found}
    (hf : f ∈ filesOf entries) :
    (FileTree.directory entries).at? f.names = some (.file f.bytes) := by
  match entries with
  | [] => cases hf
  | (name, t) :: rest =>
    obtain ⟨hnotin, hkeysRest⟩ := List.nodup_cons.mp hkeys
    obtain ⟨-, ht, hrest⟩ := h
    rcases List.mem_append.mp hf with hmem | hmem
    · obtain ⟨g, hg, rfl⟩ := List.mem_map.mp hmem
      rw [Found.below, at?, List.lookup_cons_self]
      exact at?_of_mem_files ht hg
    · have hat := at?_of_mem_filesOf hkeysRest hrest hmem
      obtain ⟨other, hother, names, hnames⟩ := exists_names_of_mem_filesOf hmem
      have hne : (other == name) = false := by
        rw [beq_eq_false_iff_ne]
        rintro rfl
        exact hnotin hother
      rw [hnames, at?] at hat ⊢
      rwa [List.lookup_cons, hne]

end

/-! ## Pieces -/

/-- Pieces behind others are followed from the directory that the others lead to. -/
theorem followPieces_append {tree : FileTree} {links : Nat} {here place : Place}
    {pieces : List (List Char)} {entries : List (String × FileTree)}
    (h : tree.followPieces .content links here pieces = .ok (.present place))
    (hat : tree.at? place = some (.directory entries)) :
    ∃ left, ∀ more, tree.followPieces .content links here (pieces ++ more)
      = tree.followPieces .content left place more := by
  -- The pieces lead to a directory, so a file or a free name is not met on the way.
  fun_induction followPieces tree .content links here pieces with
  | case1 links here =>
    cases h
    exact ⟨links, fun more => rfl⟩
  | case2 links here piece rest hstay ih =>
    obtain ⟨left, hleft⟩ := ih h
    refine ⟨left, fun more => ?_⟩
    rw [List.cons_append, followPieces, if_pos hstay, hleft]
  | case3 links here rest hstay ih =>
    obtain ⟨left, hleft⟩ := ih h
    refine ⟨left, fun more => ?_⟩
    rw [List.cons_append, followPieces, if_neg hstay, if_pos rfl, hleft]
  | case10 links here piece rest hstay hup hslash hlong name inner hinner ih =>
    obtain ⟨left, hleft⟩ := ih h
    refine ⟨left, fun more => ?_⟩
    rw [List.cons_append, followPieces]
    grind
  | case13 here piece rest hstay hup hslash hlong name text htext hlast links ih =>
    obtain ⟨left, hleft⟩ := ih h
    refine ⟨left, fun more => ?_⟩
    rw [List.cons_append, followPieces]
    grind
  | _ => grind

/-- A piece that is empty does not matter in front of other pieces. -/
theorem followPieces_skip {tree : FileTree} {links : Nat} {here : Place}
    {pieces more : List (List Char)} (hmore : more ≠ []) :
    tree.followPieces .content links here (pieces ++ [] :: more)
      = tree.followPieces .content links here (pieces ++ more) := by
  -- No piece in front is the last one, with the empty piece or without it.
  have hwith : ∀ ps : List (List Char), ps ++ [] :: more ≠ [] := fun ps => by simp
  have hwithout : ∀ ps : List (List Char), ps ++ more ≠ [] := fun ps => by simp [hmore]
  fun_induction followPieces tree .content links here pieces with
  | case1 links here =>
    rw [List.nil_append, followPieces, if_pos (.inl rfl)]
    rfl
  | _ =>
    rw [List.cons_append, List.cons_append, followPieces, followPieces]
    grind

/-- The pieces in front of a joined name are followed as those of the path. -/
theorem followPieces_front {tree : FileTree} {links : Nat} {here : Place} {p : Path}
    {more : List (List Char)} (hp : p.text ≠ "") (hmore : more ≠ []) :
    tree.followPieces .content links here (p.front ++ more)
      = tree.followPieces .content links here (Text.splitAll '/' p.text.toList ++ more) := by
  rw [Path.front, if_neg hp]
  split
  · next hlast =>
    obtain ⟨cs, hcs⟩ := List.getLast?_eq_some_iff.mp hlast
    rw [hcs, Path.splitAll_slash, List.dropLast_concat, List.append_assoc]
    exact (followPieces_skip hmore).symm
  · rfl

/-- Names that lead from a place through directories are followed to what they lead to, up to one
that is too long. -/
theorem followPieces_names_eq {tree t : FileTree} {links : Nat} {here : Place}
    {names : List String} (hnames : ∀ name ∈ names, Path.IsName name)
    (hat : tree.at? (here ++ names) = some t) (ht : ∀ target, t ≠ .link target) :
    tree.followPieces .content links here (names.map String.toList)
      = if ∀ name ∈ names, Text.byteLength name.toList ≤ maxNameBytes then
          .ok (.present (here ++ names))
        else .error .nameTooLong := by
  induction names generalizing here with
  | nil =>
    rw [List.map_nil, followPieces, if_pos fun _ hname => absurd hname List.not_mem_nil,
      List.append_nil]
  | cons name rest ih =>
    obtain ⟨hname, hnamesRest⟩ := List.forall_mem_cons.mp hnames
    have hup : name.toList ≠ ['.', '.'] := Path.toList_ne_of_ne hname.notUp
    have hplace : here ++ name :: rest = (here ++ [name]) ++ rest := by
      rw [List.append_assoc, List.singleton_append]
    rw [hplace] at hat ⊢
    rw [List.map_cons, followPieces, if_neg hname.notStay, if_neg hup, if_neg (by simp)]
    by_cases hlen : maxNameBytes < Text.byteLength name.toList
    · rw [if_pos hlen, if_neg]
      exact fun hshort => Nat.not_le.mpr hlen (hshort name List.mem_cons_self)
    rw [if_neg hlen, String.ofList_toList]
    simp only [List.forall_mem_cons, Nat.le_of_not_lt hlen, true_and]
    have hdown := ih hnamesRest hat
    rw [at?_append] at hat
    obtain ⟨u, hu, hrest⟩ := Option.bind_eq_some_iff.mp hat
    cases u with
    | directory entries => simpa only [hu] using hdown
    | file bytes =>
      cases rest with
      | nil => simp [hu]
      | cons next others => cases hrest
    | link target =>
      cases rest with
      | nil => exact absurd (Option.some.inj hrest).symm (ht target)
      | cons next others => cases hrest

end FileTree

/-! ## Paths -/

namespace FileSystem

open FileTree (Found maxLinks maxNameBytes maxPathBytes startOf)

theorem startOf_append {here : FileTree.Place} {cs : List Char} (hcs : cs ≠ [])
    (rest : List Char) : startOf here (cs ++ rest) = startOf here cs := by
  rw [startOf, startOf, List.head?_append_of_ne_nil _ hcs]

/-- Whether names behind a path are followed by the system: no name holds what none may hold, no
name is too long, and the path with the names behind it is not too long. -/
structure Followable (root : Path) (names : List String) : Prop where
  noZero : ∀ name ∈ names, '\x00' ∉ name.toList
  shortNames : ∀ name ∈ names, Text.byteLength name.toList ≤ maxNameBytes
  shortPath : Text.byteLength (names.foldl Path.join root).text.toList < maxPathBytes

instance (root : Path) (names : List String) : Decidable (Followable root names) :=
  decidable_of_iff
    ((∀ name ∈ names, '\x00' ∉ name.toList) ∧
      (∀ name ∈ names, Text.byteLength name.toList ≤ maxNameBytes) ∧
      Text.byteLength (names.foldl Path.join root).text.toList < maxPathBytes)
    ⟨fun ⟨hzero, hnames, hpath⟩ => ⟨hzero, hnames, hpath⟩,
      fun h => ⟨h.noZero, h.shortNames, h.shortPath⟩⟩

section
variable {fs : FileSystem} {root : Path} {entries : List (String × FileTree)}
  (hw : (FileTree.directory entries).WellFormed)
  (hroot : fs.find .content root = .ok (.directory entries)) {names : List String} {t : FileTree}
  (hat : (FileTree.directory entries).at? names = some t) (ht : ∀ target, t ≠ .link target)
include hw hroot hat ht

/-- The pieces of a path with names behind it are followed to what the names lead to, up to a name
that is too long. -/
theorem exists_followPieces_join_eq (hne : names ≠ []) :
    ∃ place, fs.tree.at? place = some t ∧
      fs.tree.followPieces .content maxLinks
          (startOf fs.here (names.foldl Path.join root).text.toList)
          (Text.splitAll '/' (names.foldl Path.join root).text.toList)
        = if ∀ name ∈ names, Text.byteLength name.toList ≤ maxNameBytes then .ok (.present place)
          else .error .nameTooLong := by
  obtain ⟨place, hlocate, hdirectory⟩ := exists_place_of_find hroot
  obtain ⟨⟨-, -, hempty⟩, hfollow⟩ := locate_eq_ok_iff.mp hlocate
  have hnames := hw.isName_of_at? hat
  have hthere : fs.tree.at? (place ++ names) = some t := by
    rw [FileTree.at?_append, hdirectory]
    exact hat
  obtain ⟨left, hleft⟩ := FileTree.followPieces_append hfollow hdirectory
  obtain ⟨rest, htext, -⟩ := Path.exists_text_foldl_join names root
  refine ⟨place ++ names, hthere, ?_⟩
  rw [htext, startOf_append hempty, ← htext, Path.splitAll_foldl_join hnames hne,
    FileTree.followPieces_front (fun he => hempty (by rw [he]; rfl)) (by simpa using hne), hleft]
  exact FileTree.followPieces_names_eq hnames hthere ht

/-- A path with names behind it leads to what the names lead to, if it can be followed. -/
theorem find_join_of_followable (h : Followable root names) :
    fs.find .content (names.foldl Path.join root) = .ok t := by
  by_cases hne : names = []
  · subst hne
    exact hroot.trans (congrArg Except.ok (Option.some.inj hat))
  obtain ⟨_, hlocate, -⟩ := exists_place_of_find hroot
  obtain ⟨⟨hrootZero, -, hempty⟩, -⟩ := locate_eq_ok_iff.mp hlocate
  obtain ⟨place, hthere, hpieces⟩ := exists_followPieces_join_eq hw hroot hat ht hne
  rw [if_pos h.shortNames] at hpieces
  obtain ⟨rest, htext, hrest⟩ := Path.exists_text_foldl_join names root
  have hnoZero : '\x00' ∉ (names.foldl Path.join root).text.toList := by
    rw [htext, List.mem_append, not_or]
    refine ⟨hrootZero, fun hmem => ?_⟩
    rcases hrest _ hmem with he | ⟨name, hname, hc⟩
    · exact absurd he (by decide)
    · exact h.noZero name hname hc
  refine find_of_at? (locate_eq_ok_iff.mpr ⟨⟨hnoZero, h.shortPath, ?_⟩, hpieces⟩) hthere
  rw [htext]
  exact List.append_ne_nil_of_left_ne_nil hempty rest

/-- A path with names behind it leads to nothing but what the names lead to. -/
theorem find_join_of_pathExists (hexists : fs.pathExists (names.foldl Path.join root) = true) :
    fs.find .content (names.foldl Path.join root) = .ok t := by
  by_cases hne : names = []
  · subst hne
    exact hroot.trans (congrArg Except.ok (Option.some.inj hat))
  obtain ⟨u, hfind⟩ := pathExists_iff.mp hexists
  obtain ⟨place, hlocate, hu⟩ := exists_place_of_find hfind
  obtain ⟨place', hthere, hpieces⟩ := exists_followPieces_join_eq hw hroot hat ht hne
  rw [(locate_eq_ok_iff.mp hlocate).2] at hpieces
  split at hpieces
  · cases hpieces
    rw [hfind, Option.some.inj (hu.symm.trans hthere)]
  · cases hpieces

end

/-- The directories below the one that a path leads to can be opened if names and paths are
short. -/
theorem opens_of_followable {fs : FileSystem} {root : Path} {entries : List (String × FileTree)}
    (hw : (FileTree.directory entries).WellFormed)
    (hroot : fs.find .content root = .ok (.directory entries))
    (h : ∀ names inner, (FileTree.directory entries).at? names = some (.directory inner) →
      Followable root names) : fs.Opens root (.directory entries) := by
  intro names inner hbelow
  have hat := (FileTree.below_iff_at? hw).mp hbelow
  exact pathExists_of_find (find_join_of_followable hw hroot hat (fun _ => FileTree.noConfusion)
    (h names inner hat))

end FileSystem

/-! ## Dots in front of paths -/

/-- A relative path with dots in front of it. -/
def Path.dotted (n : Nat) (cs : List Char) : Path :=
  ⟨String.ofList ((List.replicate n ['.', '/']).flatten ++ cs)⟩

namespace Path

theorem splitAll_dotted (n : Nat) (cs : List Char) :
    Text.splitAll '/' (dotted n cs).text.toList
      = List.replicate n ['.'] ++ Text.splitAll '/' cs := by
  rw [dotted, String.toList_ofList]
  induction n with
  | zero => rfl
  | succ n ih =>
    have hdot : '/' ∉ ['.'] := by decide
    rw [List.replicate_succ, List.replicate_succ, List.flatten_cons, List.append_assoc]
    show Text.splitAll '/' (['.'] ++ '/' :: ((List.replicate n ['.', '/']).flatten ++ cs)) = _
    rw [Text.splitAll_append_cons hdot, ih]
    rfl

theorem byteLength_dotted (n : Nat) (cs : List Char) :
    Text.byteLength (dotted n cs).text.toList = 2 * n + Text.byteLength cs := by
  rw [dotted, String.toList_ofList]
  induction n with
  | zero => simp
  | succ n ih =>
    have hpiece : Text.byteLength ['.', '/'] = 2 := by decide
    rw [List.replicate_succ, List.flatten_cons, List.append_assoc, Text.byteLength_append, ih,
      hpiece]
    omega

theorem zero_not_mem_dotted {cs : List Char} (h : '\x00' ∉ cs) (n : Nat) :
    '\x00' ∉ (dotted n cs).text.toList := by
  rw [dotted, String.toList_ofList]
  simp [h]

/-- A name is joined behind dots as without them. -/
theorem dotted_join {cs : List Char} (hcs : cs ≠ []) (n : Nat) (name : String) :
    (dotted n cs).join name = dotted n (join ⟨String.ofList cs⟩ name).text.toList := by
  have hempty : (⟨String.ofList cs⟩ : Path).text ≠ "" := by simpa using hcs
  have hdotted : (dotted n cs).text ≠ "" := by simp [dotted, hcs]
  have hlast : (dotted n cs).text.toList.getLast? = cs.getLast? := by
    rw [dotted, String.toList_ofList, List.getLast?_append_of_ne_nil _ hcs]
  unfold join
  rw [hlast, String.toList_ofList]
  simp only [hempty, hdotted, false_or]
  split <;> simp [dotted, String.ofList_append, String.append_assoc]

end Path

/-- Dots in front of other pieces lead nowhere else. -/
theorem FileTree.followPieces_dots (tree : FileTree) (purpose : Purpose) (links n : Nat)
    (here : Place) (pieces : List (List Char)) :
    tree.followPieces purpose links here (List.replicate n ['.'] ++ pieces)
      = tree.followPieces purpose links here pieces := by
  induction n with
  | zero => rfl
  | succ n ih => rw [List.replicate_succ, List.cons_append, followPieces, if_pos (.inr rfl), ih]

namespace FileSystem

open FileTree (Purpose Target maxPathBytes startOf)

variable {fs : FileSystem} {purpose : Purpose} {cs : List Char} {n : Nat}

/-- Dots in front of a relative path lead to the same, as long as the path is not too long. -/
theorem locate_dotted {target : Target} (hrelative : cs.head? ≠ some '/')
    (hshort : 2 * n + Text.byteLength cs < maxPathBytes)
    (h : fs.locate purpose ⟨String.ofList cs⟩ = .ok target) :
    fs.locate purpose (Path.dotted n cs) = .ok target := by
  obtain ⟨⟨hzero, -, hempty⟩, hfollow⟩ := locate_eq_ok_iff.mp h
  rw [String.toList_ofList] at hzero hempty hfollow
  have hstart : startOf fs.here (Path.dotted n cs).text.toList = startOf fs.here cs := by
    rw [Path.dotted, String.toList_ofList]
    cases n with
    | zero => rfl
    | succ n => rw [startOf, startOf, if_neg hrelative, if_neg (by simp [List.replicate_succ])]
  refine locate_eq_ok_iff.mpr ⟨⟨Path.zero_not_mem_dotted hzero n, ?_, ?_⟩, ?_⟩
  · rwa [Path.byteLength_dotted]
  · rw [Path.dotted, String.toList_ofList]
    exact List.append_ne_nil_of_right_ne_nil _ hempty
  · rw [hstart, Path.splitAll_dotted, FileTree.followPieces_dots]
    exact hfollow

/-- What can be opened behind a short path need not be behind a long one that leads to the same. -/
theorem find_join_dotted {name : String} (hcs : cs ≠ [])
    (hzero : '\x00' ∉ (Path.join ⟨String.ofList cs⟩ name).text.toList)
    (hlong : maxPathBytes
      ≤ 2 * n + Text.byteLength (Path.join ⟨String.ofList cs⟩ name).text.toList) :
    fs.find purpose ((Path.dotted n cs).join name) = .error .nameTooLong := by
  rw [Path.dotted_join hcs]
  refine find_of_tooLong (Path.zero_not_mem_dotted hzero n) ?_
  rwa [Path.byteLength_dotted]

/-! ## A directory behind a long path -/

/-- A directory in which another one holds a fixture file. -/
def nestedEntries : List (String × FileTree) :=
  [("sub", .directory [("x.json", .file (Text.bytesOf "[]".toList))])]

def nested : FileSystem where
  tree := .directory [("d", .directory nestedEntries)]
  here := []

/-- A path of nearly as many bytes as a path may have. -/
def longRoot : Path := .dotted 2046 ['d']

theorem wellFormed_nested : nested.WellFormed :=
  ⟨by decide, [("d", .directory nestedEntries)], rfl⟩

theorem locate_nested : nested.locate .content ⟨"d"⟩ = .ok (.present ["d"]) := by
  have hpieces : Text.splitAll '/' "d".toList = [['d']] := rfl
  have hname : String.ofList ['d'] = "d" := rfl
  refine locate_eq_ok_iff.mpr ⟨by decide, ?_⟩
  rw [hpieces]
  simp [nested, FileTree.followPieces, startOf, FileTree.at?, hname,
    FileTree.not_tooLong_of_length, -Text.byteLength_cons]

theorem find_nested : nested.find .content ⟨"d"⟩ = .ok (.directory nestedEntries) :=
  find_of_at? locate_nested rfl

theorem walk_nested {root : Path} {fault : FileTree.Fault}
    (hroot : nested.find .content root = .ok (.directory nestedEntries))
    (hsub : nested.find .content (root.join "sub") = .error fault) :
    nested.walk root = .error ⟨root.join "sub", fault⟩ := by
  simp [walk_of_find hroot, walkTree, walkEntries, hroot, nestedEntries, hsub]

/-- The long path leads to the directory as well, but the one inside cannot be opened behind it. -/
theorem find_longRoot :
    nested.find .content longRoot = .ok (.directory nestedEntries) ∧
      nested.find .content (longRoot.join "sub") = .error .nameTooLong := by
  have hroot : Text.byteLength ['d'] = 1 := by decide
  have hsub : Text.byteLength (Path.join ⟨String.ofList ['d']⟩ "sub").text.toList = 5 := by decide
  have hlimit : maxPathBytes = 4096 := rfl
  exact ⟨find_of_at? (locate_dotted (by decide) (by omega) locate_nested) rfl,
    find_join_dotted (by decide) (by decide) (by omega)⟩

end FileSystem

end ContractFixtures
