import Souk.Go.Filepath
import Souk.Library.Ranking
import Souk.ResolvePayloads

/-!
# The files the probe reports

The probe walks the tree below its root, stays out of some directories by their names, and reports
the files which were modified last.  A file changed by hand in a running pod is among them unless
so many were changed that they fill the report.
-/

namespace Souk.PodProbeAgent

open Souk.Python Souk.Go
open Souk.Go.DirEntry (Signal WalkDirFunc)

/-- What `fs.FileInfo` tells, as far as the probe asks; times are in nanoseconds. -/
structure FileInfo where
  size : Int
  mode : GoString
  modTime : Int

structure FileFact where
  path : GoString
  size : Int
  mode : GoString
  modTime : Int
  deriving DecidableEq

/-- The fact about a file at a path. -/
def FileInfo.fact (info : FileInfo) (path : GoString) : FileFact :=
  ⟨path, info.size, info.mode, info.modTime⟩

/-- The names `skipDir` looks for. -/
def skippedNames : List GoString :=
  ["proc", "sys", "dev", ".git", "node_modules", "__pycache__", ".venv", "site-packages"].map
    fun name => toBytes (str name)

/-- `skipDir` -/
def skipDir (path root : GoString) : Bool :=
  if path = root then false else base path ∈ skippedNames

/-- The callback of `newestFiles`. -/
def visit (root : GoString) : WalkDirFunc FileInfo (List FileFact) :=
  fun facts path found failed =>
    if failed then (facts, .proceed)
    else
      match found with
      | some (.dir _ _ _) => (facts, if skipDir path root then .skipDir else .proceed)
      | some (.file _ (some info)) => (facts ++ [info.fact path], .proceed)
      | some (.file _ none) | none => (facts, .proceed)

/-- `newestFiles`, which never fails, with the outcome of its `sort.Slice`. -/
def newestFiles (sortSlice : List FileFact → List FileFact) (root : GoString)
    (found : Option (DirEntry FileInfo)) (count : Nat) : List FileFact :=
  (sortSlice (DirEntry.walk (visit root) root [] found)).take count

/-! ## What the walk reaches -/

/-- A file stands below an entry, with no directory on the way which the walk stays out of. -/
inductive Reached (root : GoString) : GoString → DirEntry FileInfo → FileFact → Prop
  | file {path name : GoString} {info : FileInfo} :
      Reached root path (.file name (some info)) (info.fact path)
  | under {path name : GoString} {failed : Bool} {entries : List (DirEntry FileInfo)}
      {entry : DirEntry FileInfo} {fact : FileFact} (entered : skipDir path root = false)
      (among : entry ∈ entries) (reached : Reached root (Go.join path entry.name) entry fact) :
      Reached root path (.dir name failed entries) fact

mutual

/-- The files the walk reaches below an entry, in its order. -/
def filesUnder (root path : GoString) : DirEntry FileInfo → List FileFact
  | .file _ info => (info.map fun info => info.fact path).toList
  | .dir _ _ entries => if skipDir path root then [] else filesAmong root path entries

/-- The files the walk reaches below the entries of a directory. -/
def filesAmong (root path : GoString) : List (DirEntry FileInfo) → List FileFact
  | [] => []
  | entry :: entries =>
      filesUnder root (Go.join path entry.name) entry ++ filesAmong root path entries

end

/-- The files the walk reaches. -/
def reachedFiles (root : GoString) (found : Option (DirEntry FileInfo)) : List FileFact :=
  (found.map (filesUnder root root)).getD []

/-- `sort.Slice` with the order of `newestFiles` puts the newest first, and leaves open how files
of the same time stand to each other. -/
structure SortsNewestFirst (sortSlice : List FileFact → List FileFact) : Prop where
  perm : ∀ facts, (sortSlice facts).Perm facts
  ranked : ∀ facts, Ranked FileFact.modTime (sortSlice facts)

/-- Some files are the newest of all of them, as many as asked for. -/
structure Newest (all : List FileFact) (count : Nat) (listed : List FileFact) : Prop where
  ranked : Ranked FileFact.modTime listed
  length : listed.length = min count all.length
  omitted : ∃ others : List FileFact, (listed ++ others).Perm all ∧
    ∀ shown ∈ listed, ∀ other ∈ others, other.modTime ≤ shown.modTime
  /-- Of the files modified after a time as many are listed as can be. -/
  edited : ∀ started : Int, listed.countP (started < ·.modTime) =
    min count (all.countP (started < ·.modTime))

/-- What the probe reports of a tree of files. -/
structure ReportsNewest (root : GoString) (found : Option (DirEntry FileInfo)) (count : Nat)
    (listed : List FileFact) : Prop where
  reaches : ∀ fact, fact ∈ reachedFiles root found ↔
    ∃ entry, found = some entry ∧ Reached root root entry fact
  newest : Newest (reachedFiles root found) count listed

section Walk

variable {root path : GoString} {fact : FileFact}

theorem walkEntries_visit {entries : List (DirEntry FileInfo)}
    (walks : ∀ entry ∈ entries, ∀ path facts, DirEntry.walkDir (visit root) path facts entry =
      (facts ++ filesUnder root path entry, .proceed)) (facts : List FileFact) :
    DirEntry.walkEntries (visit root) path facts entries =
      (facts ++ filesAmong root path entries, .proceed) := by
  induction entries generalizing facts with
  | nil => rw [DirEntry.walkEntries, filesAmong, List.append_nil]
  | cons entry entries induction =>
      obtain ⟨first, rest⟩ := List.forall_mem_cons.mp walks
      rw [DirEntry.walkEntries, first]
      dsimp only
      rw [induction rest, filesAmong, List.append_assoc]

/-- The callback gathers the files below an entry behind those it has, and lets the walk go on. -/
theorem walkDir_visit (entry : DirEntry FileInfo) : ∀ path facts,
    DirEntry.walkDir (visit root) path facts entry =
      (facts ++ filesUnder root path entry, .proceed) := by
  induction entry using DirEntry.induct with
  | file name info =>
      intro path facts
      rw [DirEntry.walkDir, filesUnder]
      cases info with
      | none => exact congrArg (·, Signal.proceed) (List.append_nil facts).symm
      | some info => rfl
  | dir name failed entries induction =>
      intro path facts
      rw [DirEntry.walkDir, filesUnder]
      cases skipped : skipDir path root with
      | true => simp [visit, skipped]
      | false =>
          have entered := @walkEntries_visit root path entries induction facts
          cases failed <;> simpa [visit, skipped] using entered

theorem mem_filesAmong {entries : List (DirEntry FileInfo)} :
    fact ∈ filesAmong root path entries ↔
      ∃ entry ∈ entries, fact ∈ filesUnder root (Go.join path entry.name) entry := by
  induction entries with
  | nil => simp [filesAmong]
  | cons entry entries induction => simp [filesAmong, induction]

theorem mem_filesUnder (entry : DirEntry FileInfo) : ∀ path,
    fact ∈ filesUnder root path entry ↔ Reached root path entry fact := by
  induction entry using DirEntry.induct with
  | file name info =>
      intro path
      rw [filesUnder]
      cases info with
      | none =>
          refine iff_of_false List.not_mem_nil ?_
          intro reached
          cases reached
      | some info =>
          rw [Option.map_some, Option.toList_some, List.mem_singleton]
          constructor
          · rintro rfl
            exact .file
          · intro reached
            cases reached
            rfl
  | dir name failed entries induction =>
      intro path
      rw [filesUnder]
      constructor
      · intro among
        split at among
        · cases among
        · rename_i entered
          obtain ⟨entry, listed, under⟩ := mem_filesAmong.mp among
          exact .under (eq_false_of_ne_true entered) listed ((induction entry listed _).mp under)
      · intro reached
        cases reached with
        | under entered listed reached =>
            rw [entered, if_neg Bool.false_ne_true]
            exact mem_filesAmong.mpr ⟨_, listed, (induction _ listed _).mpr reached⟩

end Walk

theorem walk_visit (root : GoString) (found : Option (DirEntry FileInfo)) :
    DirEntry.walk (visit root) root [] found = reachedFiles root found := by
  cases found with
  | none => rfl
  | some entry =>
      rw [DirEntry.walk, walkDir_visit entry root []]
      rfl

/-- The first files of a list which is sorted by their times are the newest. -/
theorem newest_take {sortSlice : List FileFact → List FileFact}
    (sorts : SortsNewestFirst sortSlice) (all : List FileFact) (count : Nat) :
    Newest all count ((sortSlice all).take count) := by
  have ranked := sorts.ranked all
  refine ⟨ranked.take count, ?_, ⟨(sortSlice all).drop count, ?_, ?_⟩, ?_⟩
  · rw [List.length_take, (sorts.perm all).length_eq]
  · rw [List.take_append_drop]
    exact sorts.perm all
  · exact fun shown listed other cut => ranked.le_of_take count listed cut
  · intro started
    rw [ranked.countP_take, (sorts.perm all).countP_eq]

/-- For every tree of files, and however `sort.Slice` puts files of the same time, the probe lists
the newest of the files which no directory it stays out of hides: whatever was modified after the
pod started is listed, unless as many such files are as the report has room for. -/
theorem newestFiles_newest {sortSlice : List FileFact → List FileFact}
    (sorts : SortsNewestFirst sortSlice) (root : GoString) (found : Option (DirEntry FileInfo))
    (count : Nat) : ReportsNewest root found count (newestFiles sortSlice root found count) := by
  constructor
  · intro fact
    cases found with
    | none => simp [reachedFiles]
    | some entry => simp [reachedFiles, mem_filesUnder]
  · rw [newestFiles, walk_visit]
    exact newest_take sorts _ count

/-- The first file is not older than the second. -/
def NotOlder (first second : FileFact) : Prop := second.modTime ≤ first.modTime

instance : DecidableRel NotOlder := fun first second => Int.decLe second.modTime first.modTime

instance : Std.Total NotOlder := ⟨fun first second => le_total second.modTime first.modTime⟩

instance : IsTrans FileFact NotOlder := ⟨fun _ _ _ left right => le_trans right left⟩

/-- A sort which is stable. -/
def stableSort (facts : List FileFact) : List FileFact := facts.insertionSort NotOlder

theorem stableSort_sorts : SortsNewestFirst stableSort where
  perm facts := List.perm_insertionSort _ facts
  ranked facts := List.pairwise_insertionSort NotOlder facts

/-- A tree with a file in a directory which is skipped, one which was edited, and two others. -/
def editedTree : DirEntry FileInfo :=
  .dir [97] false
    [.file [98] (some ⟨1, [], 1⟩),
     .dir (toBytes (str "node_modules")) false [.file [99] (some ⟨1, [], 9⟩)],
     .dir [100] true [.file [101] (some ⟨1, [], 7⟩)],
     .file [102] (some ⟨1, [], 1⟩)]

theorem editedTree_newest :
    ReportsNewest [47, 97] (some editedTree) 2
      (newestFiles stableSort [47, 97] (some editedTree) 2) :=
  newestFiles_newest stableSort_sorts [47, 97] (some editedTree) 2

/-- The edited file is the first. -/
example : (newestFiles stableSort [47, 97] (some editedTree) 2).map (·.path) =
    [toBytes (str "/a/d/e"), toBytes (str "/a/b")] := by decide +kernel

end Souk.PodProbeAgent
