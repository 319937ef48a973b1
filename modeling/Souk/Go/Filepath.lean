import Mathlib

/-!
# Paths and walks of the Go standard library

`filepath.WalkDir` visits a tree of files in its order and hands every file and directory to a
callback, which may keep the walk out of a directory.  Of the errors a callback may return only
`SkipDir` is modelled.
-/

namespace Souk.Go

/-- A slash-separated path. -/
abbrev Path := List UInt8

/-- One part of a path, put on those before it. -/
def cleanPart (rooted : Bool) (stack : List Path) (part : Path) : List Path :=
  if part = [] ∨ part = [46] then stack
  else if part = [46, 46] then
    match stack with
    | [] => if rooted then [] else [part]
    | top :: rest => if top = part then part :: stack else rest
  else part :: stack

/-- `filepath.Clean` -/
def clean (path : Path) : Path :=
  let rooted := path.head? = some 47
  let parts := ((path.splitOn 47).foldl (cleanPart rooted) []).reverse
  let body := [47].intercalate parts
  if rooted then 47 :: body else if body = [] then [46] else body

/-- `filepath.Join` of two elements. -/
def join (path name : Path) : Path :=
  if path = [] then (if name = [] then [] else clean name) else clean (path ++ 47 :: name)

/-- `filepath.Base` -/
def base (path : Path) : Path :=
  let stripped := path.rdropWhile (· = 47)
  if path = [] then [46]
  else if stripped = [] then [47]
  else stripped.rtakeWhile (· ≠ 47)

/-- What a walk finds under a name.  The information about a file, which is asked for by the
callback, and the list of a directory may fail to be read; of a list which fails there may be a
part. -/
inductive DirEntry (Info : Type) where
  | file (name : Path) (info : Option Info)
  | dir (name : Path) (failed : Bool) (entries : List (DirEntry Info))

namespace DirEntry

variable {Info : Type}

def name : DirEntry Info → Path
  | .file name _ => name
  | .dir name _ _ => name

/-- What holds of every file, and of a directory whenever it holds of its entries, holds of every
entry. -/
@[elab_as_elim]
theorem induct {motive : DirEntry Info → Prop} (file : ∀ name info, motive (.file name info))
    (dir : ∀ name failed entries, (∀ entry ∈ entries, motive entry) →
      motive (.dir name failed entries)) : ∀ entry, motive entry
  | .file name info => file name info
  | .dir name failed entries => dir name failed entries fun entry _ => induct file dir entry

/-- What a callback returns: `nil` or `SkipDir`. -/
inductive Signal where
  | proceed
  | skipDir

/-- A callback, with what it keeps between its calls: the path, the entry if there is one, and
whether there is an error to report. -/
abbrev WalkDirFunc (Info State : Type) :=
  State → Path → Option (DirEntry Info) → Bool → State × Signal

variable {State : Type}

mutual

/-- `walkDir` -/
def walkDir (visit : WalkDirFunc Info State) (path : Path) (state : State) :
    DirEntry Info → State × Signal
  | .file name info => visit state path (some (.file name info)) false
  | .dir name failed entries =>
      match visit state path (some (.dir name failed entries)) false with
      | (state, .skipDir) => (state, .proceed)
      | (state, .proceed) =>
          -- A list which cannot be read is reported by a second call.
          match if failed then visit state path (some (.dir name failed entries)) true
            else (state, .proceed) with
          | (state, .skipDir) => (state, .proceed)
          | (state, .proceed) => walkEntries visit path state entries

/-- The loop of `walkDir` over the entries of a directory. -/
def walkEntries (visit : WalkDirFunc Info State) (path : Path) (state : State) :
    List (DirEntry Info) → State × Signal
  | [] => (state, .proceed)
  | entry :: entries =>
      match walkDir visit (join path entry.name) state entry with
      | (state, .skipDir) => (state, .proceed)
      | (state, .proceed) => walkEntries visit path state entries

end

/-- `filepath.WalkDir`, where `Lstat` of the root may fail. -/
def walk (visit : WalkDirFunc Info State) (root : Path) (state : State)
    (found : Option (DirEntry Info)) : State :=
  match found with
  | none => (visit state root none true).1
  | some entry => (walkDir visit root state entry).1

end DirEntry
end Souk.Go
