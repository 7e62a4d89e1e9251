import ContractFixtures.Proofs.FileTree.Below
import ContractFixtures.Proofs.FileTree.Reading
import ContractFixtures.Proofs.Path.Stem
import ContractFixtures.Suite.Basic

/-!
# The fixture files below a root

The fixture files of a suite are the files that a walk reaches and whose names end with the
extension. Links are neither files nor ways to files: a link below the root is passed by, whatever
it leads to, and so are all files that could be reached through it. The root alone may be a link,
and then one to a directory.

Results:
1. `isFixture_iff`: which names fixture files have.
2. `mem_pathsBelow_iff`, `nodup_parts_pathsBelow`: the paths that a walk gives.
3. `pathsBelow_reached`: a walk gives the paths of all fixture files that it reaches, and no others,
   if it can open all directories on its way.
4. `pathsBelow_longRoot`: it cannot always, as their paths may be too long.
-/

namespace ContractFixtures.Suite

variable {fs : FileSystem} {root : Path}

/-- A fixture file has something in front of the dot of its extension. -/
theorem isFixture_iff {f : FileTree.Found} :
    isFixture root f = true ↔
      ∃ stem, stem ≠ "" ∧ Path.fileName? (f.path root).parts = some (stem ++ ".json") := by
  have hext : ∀ stem : String, stem ++ "." ++ fixtureExtension = stem ++ ".json" := fun stem => by
    rw [String.append_assoc]
    rfl
  rw [isFixture, beq_iff_eq, Path.extension?_eq_some_iff (by decide)]
  simp only [hext]

theorem pathsBelow_of_walk {found : List FileTree.Found} (h : fs.walk root = .ok found) :
    pathsBelow fs root = .ok ((found.filter (isFixture root)).map (·.path root)) := by
  rw [pathsBelow, fixturesBelow, h]
  rfl

theorem pathsBelow_of_opens {entries : List (String × FileTree)}
    (hfind : fs.find .content root = .ok (.directory entries))
    (hopens : fs.Opens root (.directory entries)) :
    pathsBelow fs root
      = .ok (((FileTree.filesOf entries).filter (isFixture root)).map (·.path root)) :=
  pathsBelow_of_walk ((FileSystem.walk_eq_ok_iff_of_find hfind).mpr ⟨hopens, rfl⟩)

theorem pathsBelow_of_walk_error {obstacle : FileSystem.Obstacle}
    (h : fs.walk root = .error obstacle) :
    pathsBelow fs root = .error (.unwalkable obstacle.path obstacle.fault) := by
  rw [pathsBelow, fixturesBelow, h]
  rfl

section
variable (hw : fs.WellFormed) {paths : List Path} (h : pathsBelow fs root = .ok paths)
include h

theorem exists_walk_of_pathsBelow : ∃ found, fs.walk root = .ok found ∧
    paths = (found.filter (isFixture root)).map (·.path root) := by
  cases hwalk : fs.walk root with
  | error fault =>
    rw [pathsBelow, fixturesBelow, hwalk] at h
    cases h
  | ok found => exact ⟨found, rfl, Except.ok.inj (h.symm.trans (pathsBelow_of_walk hwalk))⟩

include hw

/-- A walk gives the paths of the fixture files that it reaches. -/
theorem mem_pathsBelow_iff {p : Path} :
    p ∈ paths ↔ ∃ f, fs.Reached root f ∧ p = f.path root ∧
      ∃ stem, stem ≠ "" ∧ Path.fileName? p.parts = some (stem ++ ".json") := by
  obtain ⟨found, hwalk, rfl⟩ := exists_walk_of_pathsBelow h
  simp only [List.mem_map, List.mem_filter, FileSystem.mem_walk_iff hw hwalk, isFixture_iff]
  constructor
  · rintro ⟨f, ⟨hf, hname⟩, rfl⟩
    exact ⟨f, hf, rfl, hname⟩
  · rintro ⟨f, hf, rfl, hname⟩
    exact ⟨f, ⟨hf, hname⟩, rfl⟩

/-- No two paths that a walk gives have the same parts. -/
theorem nodup_parts_pathsBelow : (paths.map Path.parts).Nodup := by
  obtain ⟨found, hwalk, rfl⟩ := exists_walk_of_pathsBelow h
  rw [List.map_map]
  exact (FileSystem.nodup_parts_walk hw hwalk).sublist (List.filter_sublist.map _)

/-- No path leads through a link below the root. -/
theorem not_prefix_of_link {entries : List (String × FileTree)} {names : List String}
    {target : String} (hfind : fs.find .content root = .ok (.directory entries))
    (hlink : FileTree.Below (.directory entries) names (.link target)) {p : Path}
    (hp : p ∈ paths) : ¬ (names.foldl Path.join root).parts <+: p.parts := by
  have hentries : (FileTree.directory entries).WellFormed := hw.find hfind
  obtain ⟨f, hf, rfl, -⟩ := (mem_pathsBelow_iff hw h).mp hp
  have hbelow : FileTree.Below (.directory entries) f.names (.file f.bytes) := by
    cases hf with
    | below hfind' hbelow =>
      cases hfind.symm.trans hfind'
      exact hbelow
    | start hstart => cases hfind.symm.trans (FileSystem.find_content_of_file hstart)
  rintro ⟨rest, hrest⟩
  rw [f.parts_path (hbelow.isName hentries), Path.parts_foldl_join (hlink.isName hentries),
    List.append_assoc] at hrest
  obtain ⟨front, back, hnames, hfront, -⟩ :=
    List.map_eq_append_iff.mp (List.append_cancel_left hrest).symm
  obtain rfl := List.map_injective_iff.mpr FileTree.part_name_injective hfront
  exact FileTree.not_below_append_of_link hentries hlink (hnames ▸ hbelow)

/-- From a link to a file a walk gives nothing. -/
theorem pathsBelow_of_link_to_file {target : String} {bytes : List UInt8}
    (hlink : fs.find .entry root = .ok (.link target))
    (hfile : fs.find .content root = .ok (.file bytes)) : paths = [] := by
  refine List.eq_nil_iff_forall_not_mem.mpr fun p hp => ?_
  obtain ⟨f, hf, -⟩ := (mem_pathsBelow_iff hw h).mp hp
  cases hf with
  | below hfind _ => cases hfind.symm.trans hfile
  | start hstart => cases hlink.symm.trans hstart

end

/-- From whatever a path leads to, a walk that can open all directories below gives the path of
each fixture file that it reaches, once, and no others: a file that lies below the root with nothing
but directories in between, or the root itself. No path leads through a link below the root, and a
root that is a link to a file has none. If a directory cannot be opened, such a directory is
reported. -/
theorem pathsBelow_reached (hw : fs.WellFormed) (h : fs.pathExists root = true) :
    (fs.Walkable root →
      ∃ paths, pathsBelow fs root = .ok paths ∧ (paths.map Path.parts).Nodup ∧
        (∀ p, p ∈ paths ↔ ∃ f, fs.Reached root f ∧ p = f.path root ∧
          ∃ stem, stem ≠ "" ∧ Path.fileName? p.parts = some (stem ++ ".json")) ∧
        (∀ entries names target, fs.find .content root = .ok (.directory entries) →
          FileTree.Below (.directory entries) names (.link target) →
          ∀ p ∈ paths, ¬ (names.foldl Path.join root).parts <+: p.parts) ∧
        ∀ target bytes, fs.find .entry root = .ok (.link target) →
          fs.find .content root = .ok (.file bytes) → paths = []) ∧
      (¬ fs.Walkable root →
        ∃ entries names fault, fs.find .content root = .ok (.directory entries) ∧
          fs.Blocked root (.directory entries) names fault ∧
          pathsBelow fs root = .error (.unwalkable (names.foldl Path.join root) fault)) := by
  constructor
  · intro hwalkable
    obtain ⟨found, hwalk⟩ := FileSystem.exists_walk_iff.mpr ⟨h, hwalkable⟩
    have hpaths := pathsBelow_of_walk hwalk
    exact ⟨_, hpaths, nodup_parts_pathsBelow hw hpaths, fun p => mem_pathsBelow_iff hw hpaths,
      fun entries names target hfind hlink p => not_prefix_of_link hw hpaths hfind hlink,
      fun target bytes hlink hfile => pathsBelow_of_link_to_file hw hpaths hlink hfile⟩
  · intro hwalkable
    cases hwalk : fs.walk root with
    | ok found => exact absurd (FileSystem.exists_walk_iff.mp ⟨found, hwalk⟩).2 hwalkable
    | error obstacle =>
      obtain ⟨entries, names, hfind, hblocked, hpath⟩ := FileSystem.exists_blocked_of_walk h hwalk
      exact ⟨entries, names, obstacle.fault, hfind, hblocked,
        hpath ▸ pathsBelow_of_walk_error hwalk⟩

/-- A directory with links to the directory around it and to nothing, and with a name that is all
extension. -/
def linkedEntries : List (String × FileTree) :=
  [("up", .link ".."), ("a.json", .link "nowhere"), (".json", .file []),
    ("e", .directory [("b.c.json", .file [])])]

/-- The directory, and a link to it from the place where relative paths are followed from. -/
def linked : FileSystem where
  tree := .directory [("d", .directory linkedEntries), ("home", .directory [("l", .link "/d")])]
  here := ["home"]

theorem wellFormed_linked : linked.WellFormed :=
  ⟨by decide, [("l", .link "/d")], rfl⟩

theorem locate_linked : linked.locate .content ⟨"l"⟩ = .ok (.present ["d"]) := by
  have hpieces : Text.splitAll '/' "l".toList = [['l']] := rfl
  have htarget : Text.splitAll '/' ['/', 'd'] = [[], ['d']] := rfl
  have hd : String.ofList ['d'] = "d" := rfl
  have hl : String.ofList ['l'] = "l" := rfl
  refine FileSystem.locate_eq_ok_iff.mpr ⟨by decide, ?_⟩
  rw [hpieces]
  simp [linked, FileTree.followPieces, FileTree.startOf, FileTree.maxLinks, FileTree.at?, htarget,
    List.lookup_cons, hd, hl, FileTree.not_tooLong_of_length, -Text.byteLength_cons]

theorem find_linked : linked.find .content ⟨"l"⟩ = .ok (.directory linkedEntries) :=
  FileSystem.find_of_at? locate_linked rfl

theorem walkable_linked : linked.Walkable ⟨"l"⟩ := by
  intro entries hfind
  cases find_linked.symm.trans hfind
  have hleaf {path : Path} {t : FileTree} (h : ∀ entries, t ≠ .directory entries) :
      linked.Opens path t := FileSystem.opens_of_leaf h
  have hfollow : FileSystem.Followable ⟨"l"⟩ ["e"] := by decide
  have hinner : linked.find .content (["e"].foldl Path.join ⟨"l"⟩)
      = .ok (.directory [("b.c.json", .file [])]) :=
    FileSystem.find_join_of_followable (wellFormed_linked.find find_linked) find_linked rfl
      (fun _ => FileTree.noConfusion) hfollow
  rw [List.foldl_cons, List.foldl_nil] at hinner
  rw [FileSystem.opens_directory_iff]
  refine ⟨FileSystem.pathExists_of_find find_linked, ?_⟩
  simp [linkedEntries, FileSystem.opens_directory_iff, hleaf,
    FileSystem.pathExists_of_find hinner]

theorem pathsBelow_linked :
    linked.WellFormed ∧ linked.pathExists ⟨"l"⟩ = true ∧ linked.Walkable ⟨"l"⟩ ∧
      ∃ paths, pathsBelow linked ⟨"l"⟩ = .ok paths ∧ ⟨"l/e/b.c.json"⟩ ∈ paths ∧
        ∀ p ∈ paths, ¬ (Path.mk "l/up").parts <+: p.parts := by
  have hexists : linked.pathExists ⟨"l"⟩ = true := FileSystem.pathExists_of_find find_linked
  obtain ⟨paths, hpaths, -, hmem, hlinks, -⟩ :=
    (pathsBelow_reached wellFormed_linked hexists).1 walkable_linked
  refine ⟨wellFormed_linked, hexists, walkable_linked, paths, hpaths,
    (hmem _).mpr ⟨⟨["e", "b.c.json"], []⟩, ?_, ?_, ?_⟩, ?_⟩
  · refine .below find_linked (.down (t := .directory [("b.c.json", .file [])]) ?_ ?_)
    · simp [linkedEntries]
    · exact .down List.mem_cons_self (.here _)
  · decide +kernel
  · exact ⟨"b.c", by decide, by decide +kernel⟩
  · have hlink : FileTree.Below (.directory linkedEntries) ["up"] (.link "..") :=
      .down List.mem_cons_self (.here _)
    have hjoin : ["up"].foldl Path.join ⟨"l"⟩ = ⟨"l/up"⟩ := by decide +kernel
    exact hjoin ▸ hlinks linkedEntries ["up"] ".." find_linked hlink

/-- A fixture file that a walk has to find is not found behind a path so long that the directory
around the file cannot be opened. -/
theorem pathsBelow_longRoot :
    FileSystem.nested.WellFormed ∧ FileSystem.nested.pathExists FileSystem.longRoot = true ∧
      FileSystem.nested.Reached FileSystem.longRoot
        ⟨["sub", "x.json"], Text.bytesOf "[]".toList⟩ ∧
      pathsBelow FileSystem.nested FileSystem.longRoot
        = .error (.unwalkable (FileSystem.longRoot.join "sub") .nameTooLong) := by
  obtain ⟨hroot, hsub⟩ := FileSystem.find_longRoot
  refine ⟨FileSystem.wellFormed_nested, FileSystem.pathExists_of_find hroot, ?_, ?_⟩
  · exact .below hroot (.down List.mem_cons_self (.down List.mem_cons_self (.here _)))
  · rw [pathsBelow_of_walk_error (FileSystem.walk_nested hroot hsub)]

end ContractFixtures.Suite
