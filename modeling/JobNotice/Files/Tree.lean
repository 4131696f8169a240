import JobNotice.Files.Path
import JobNotice.Text.Utf8

/-!
# File trees

A file tree says which files and folders there are. The root and the working folder are always
there. Reading, writing and the creation of folders follow a path folder by folder, and each of
them tells why it is not possible.

## Main definitions

* `Files.Content` — what a file holds
* `Files.Tree` — files and folders
* `Files.FileError` — why the file system refuses
* `Files.Tree.read`, `Files.Tree.write`, `Files.Tree.createFolders`
-/

namespace JobNotice.Files

/-! ### Trees -/

/-- What a file holds. -/
inductive Content
  | text (s : String)
  | bytes (bs : List Nat)
  deriving DecidableEq

/-- The text of a file, none when its bytes are not well formed. -/
def Content.text? : Content → Option String
  | .text s => some s
  | .bytes bs => (Text.ofUtf8? bs).map String.ofList

inductive Entry
  | file (content : Content)
  | folder
  deriving DecidableEq

/-- The names that lead from the root to a place. -/
abbrev Place := List String

/-- Files and folders by their places; the latest entry of a place counts. -/
structure Tree where
  workFolder : Place
  entries : List (Place × Entry)

/-- Why the file system refuses. -/
inductive FileError
  | missing
  | occupied
  | notFolder
  | isFolder
  | longName
  | nullInName
  | notText
  | other (reason : String)
  deriving DecidableEq

def FileError.message : FileError → String
  | .missing => "No such file or directory (os error 2)"
  | .occupied => "File exists (os error 17)"
  | .notFolder => "Not a directory (os error 20)"
  | .isFolder => "Is a directory (os error 21)"
  | .longName => "File name too long (os error 36)"
  | .nullInName => "file name contained an unexpected NUL byte"
  | .notText => "stream did not contain valid UTF-8"
  | .other reason => reason

namespace Tree

/-- A tree in which there is nothing but a working folder. -/
def empty (workFolder : Place) : Tree := ⟨workFolder, []⟩

/-- What is at a place. -/
def get? (t : Tree) (place : Place) : Option Entry :=
  match t.entries.find? fun p => p.1 = place with
  | some (_, e) => some e
  | none => if place.isPrefixOf t.workFolder then some .folder else none

def put (t : Tree) (place : Place) (e : Entry) : Tree :=
  { t with entries := (place, e) :: t.entries }

/-! ### Following paths -/

/-- The longest name of a file, in bytes. -/
def maxName : Nat := 255

/-- The place to which parts of a path lead from a place; all places but the last must be
folders. -/
def walk (t : Tree) (place : Place) : List String → Except FileError Place
  | [] => .ok place
  | part :: rest =>
    match t.get? place with
    | none => .error .missing
    | some (.file _) => .error .notFolder
    | some .folder =>
      if Path.isSilent part then t.walk place rest
      else if part = ".." then t.walk place.dropLast rest
      else if maxName < Text.utf8Length part.toList then .error .longName
      else t.walk (place ++ [part]) rest

/-- The place to which a path leads. -/
def locate (t : Tree) (p : Path) : Except FileError Place :=
  if p.parts.any fun part => part.toList.contains '\x00' then .error .nullInName
  else if p.parts.isEmpty then .error .missing
  else t.walk (if p.absolute then [] else t.workFolder) p.parts

/-! ### Files -/

/-- Whether a path leads to a file or a folder. -/
def isThere (t : Tree) (path : String) : Bool :=
  match t.locate (.ofText path) with
  | .ok place => (t.get? place).isSome
  | .error _ => false

/-- The text of a file. -/
def read (t : Tree) (path : String) : Except FileError String := do
  let place ← t.locate (.ofText path)
  match t.get? place with
  | none => .error .missing
  | some .folder => .error .isFolder
  | some (.file content) =>
    match content.text? with
    | some s => .ok s
    | none => .error .notText

/-- Makes a text the content of a file, which is created where it is missing. -/
def write (t : Tree) (path text : String) : Except FileError Tree := do
  let place ← t.locate (.ofText path)
  match t.get? place with
  | some .folder => .error .isFolder
  | _ => .ok (t.put place (.file (.text text)))

/-! ### Folders -/

/-- Creates the folder to which a path leads, inside a folder that exists. -/
def createFolder (t : Tree) (p : Path) : Except FileError Tree := do
  let place ← t.locate { p with parts := (p.parts.reverse.dropWhile (· = "")).reverse }
  match t.get? place with
  | some _ => .error .occupied
  | none => .ok (t.put place .folder)

def isFolder (t : Tree) (p : Path) : Bool :=
  match t.locate p with
  | .ok place => t.get? place = some .folder
  | .error _ => false

/-- Creates the folder to which a path leads and the folders above it that are missing; `count`
bounds their number. The second part of the result is the tree afterwards, also on failure. -/
def createUpwards (t : Tree) : Nat → Path → Except FileError Unit × Tree
  | 0, _ => (.error .missing, t)
  | count + 1, p =>
    if p.trimmed.parts.isEmpty then (.ok (), t)
    else
      match t.createFolder p with
      | .ok t => (.ok (), t)
      | .error .missing =>
        let above : Except FileError Unit × Tree :=
          match p.parent? with
          | none => (.ok (), t)
          | some parent => t.createUpwards count parent
        match above with
        | (.error e, t) => (.error e, t)
        | (.ok (), t) =>
          match t.createFolder p with
          | .ok t => (.ok (), t)
          | .error e => if t.isFolder p then (.ok (), t) else (.error e, t)
      | .error e => if t.isFolder p then (.ok (), t) else (.error e, t)

/-- Creates the folder to which a path leads and the folders above it. -/
def createFolders (t : Tree) (path : String) : Except FileError Unit × Tree :=
  let p := Path.ofText path
  t.createUpwards (p.parts.length + 1) p

end Tree

/-! ### Disks -/

/-- What a program does with files, in a monad that holds them. -/
structure Disk (m : Type → Type) where
  isThere : String → m Bool
  read : String → m (Except FileError String)
  createFolders : String → m (Except FileError Unit)
  write : String → String → m (Except FileError Unit)

/-- The disk that a tree makes up. -/
def Tree.disk : Disk (StateM Tree) where
  isThere path := fun t => (t.isThere path, t)
  read path := fun t => (t.read path, t)
  createFolders path := fun t => t.createFolders path
  write path text := fun t =>
    match t.write path text with
    | .ok t => (.ok (), t)
    | .error e => (.error e, t)

end JobNotice.Files
