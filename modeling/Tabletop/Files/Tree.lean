import Tabletop.Files.Path
import Tabletop.Number.Decimal
import Tabletop.Text.Line
import Tabletop.Text.Quoted

/-!
# File trees

A tree of directories and files as a plain value: every entry under its parts from the root.
Directories are entries of their own. Writing a file makes the directories above it, which stay
even if the file cannot be written. Reading takes every way of ending a line for the same. Names
have a limit of bytes and paths have one, and no path holds the character NUL.
-/
namespace Tabletop

/-- What a file holds: text, or bytes that are no text. -/
inductive FileContent where
  | text (s : String)
  | bytes (bs : List UInt8)
  deriving DecidableEq, Repr

/-- What bytes hold. -/
def FileContent.ofBytes (bs : ByteArray) : FileContent :=
  match String.fromUTF8? bs with
  | some s => text s
  | none => bytes bs.toList

/-- What can stand under a path. -/
inductive FileEntry where
  | file (content : FileContent)
  | directory
  deriving DecidableEq, Repr

/-- Why a path cannot be used. -/
inductive FileFault where
  | missing
  | exists
  | notDirectory
  | isDirectory
  | nameTooLong
  /-- The path holds the character NUL. -/
  | nul
  deriving DecidableEq, Repr

namespace FileFault

/-- The number of the fault; a path with NUL is refused without one. -/
def code? : FileFault → Option Nat
  | missing => some 2
  | «exists» => some 17
  | notDirectory => some 20
  | isDirectory => some 21
  | nameTooLong => some 36
  | nul => none

/-- What is wrong. -/
def reason : FileFault → String
  | missing => "No such file or directory"
  | «exists» => "File exists"
  | notDirectory => "Not a directory"
  | isDirectory => "Is a directory"
  | nameTooLong => "File name too long"
  | nul => "embedded null byte"

/-- What is wrong with the given path. -/
def message (fault : FileFault) (path : Path) : String :=
  match fault.code? with
  | none => fault.reason
  | some code =>
      "[Errno " ++ Decimal.text code ++ "] " ++ fault.reason ++ ": " ++ Text.quoted path.text

end FileFault

/-- Where something stands: its parts from the root, without dots. -/
abbrev Location := List String

/-- Locations are in order part by part, a directory before what it holds. -/
def Location.precedes : Location → Location → Bool
  | [], _ => true
  | _ :: _, [] => false
  | a :: as, b :: bs => if a == b then precedes as bs else a < b

/-- The entries of a tree under their locations. -/
structure FileTree where
  entries : List (Location × FileEntry)
  deriving DecidableEq, Repr

namespace FileTree

/-- The root alone. -/
def empty : FileTree := ⟨[]⟩

/-- The entry at a location; the root is a directory. -/
def get? (tree : FileTree) (loc : Location) : Option FileEntry :=
  if loc.isEmpty then some .directory
  else (tree.entries.find? fun e => e.1 == loc).map Prod.snd

/-- Set the entry at a location in a list of entries; a location that is already there keeps its
place. -/
def putEntry (loc : Location) (entry : FileEntry) :
    List (Location × FileEntry) → List (Location × FileEntry)
  | [] => [(loc, entry)]
  | e :: rest => if e.1 == loc then (loc, entry) :: rest else e :: putEntry loc entry rest

/-- Set the entry at a location. -/
def put (tree : FileTree) (loc : Location) (entry : FileEntry) : FileTree :=
  ⟨putEntry loc entry tree.entries⟩

theorem find?_putEntry (loc other : Location) (entry : FileEntry)
    (entries : List (Location × FileEntry)) :
    (putEntry loc entry entries).find? (fun e => e.1 == other) =
      if loc = other then some (loc, entry) else entries.find? fun e => e.1 == other := by
  induction entries with
  | nil => by_cases h : loc = other <;> simp [putEntry, h]
  | cons e rest ih =>
      by_cases known : e.1 = loc
      · by_cases h : loc = other
        · simp [putEntry, known, h]
        · simp [putEntry, known, h]
      · by_cases h : e.1 = other
        · have differ : loc ≠ other := fun same => known (h.trans same.symm)
          simp [putEntry, h, differ, differ.symm]
        · have past : (e.1 == other) = false := by simpa using h
          simp only [putEntry, beq_iff_eq, known, if_false, List.find?_cons, past, ih]

/-- Only the root cannot be set. -/
theorem get?_put (tree : FileTree) {loc : Location} (h : loc ≠ []) (entry : FileEntry)
    (other : Location) :
    (tree.put loc entry).get? other = if loc = other then some entry else tree.get? other := by
  by_cases root : other = []
  · simp [get?, root, h]
  · by_cases same : loc = other <;> simp [get?, put, find?_putEntry, root, same]

/-- The most bytes that a name may have. -/
def nameLimit : Nat := 255

/-- The bytes at which a path is too long. -/
def pathLimit : Nat := 4096

/-- What is wrong with a path wherever it leads. -/
def refusal? (path : Path) : Option FileFault :=
  if path.parts.any fun part => part.toList.contains '\x00' then some .nul
  else if pathLimit ≤ path.text.utf8ByteSize then some .nameTooLong
  else none

/-- One part further from a directory. -/
def descend (tree : FileTree) (loc : Location) (part : String) : Except FileFault Location :=
  match tree.get? loc with
  | none => .error .missing
  | some (.file _) => .error .notDirectory
  | some .directory =>
      if part == ".." then .ok loc.dropLast
      else if nameLimit < part.utf8ByteSize then .error .nameTooLong
      else .ok (loc ++ [part])

/-- Where a path leads; its last part need not be there. -/
def locate (tree : FileTree) (path : Path) : Except FileFault Location :=
  match refusal? path with
  | some fault => .error fault
  | none => path.parts.foldlM (descend tree) []

/-- The entry that a path leads to. -/
def open? (tree : FileTree) (path : Path) : Except FileFault FileEntry :=
  (tree.locate path).bind fun loc =>
    match tree.get? loc with
    | some entry => .ok entry
    | none => .error .missing

/-- Ask about the entry that a path leads to; there is no answer only if a name is too long. -/
def ask (tree : FileTree) (path : Path) (about : FileEntry → Bool) : Except FileFault Bool :=
  match tree.open? path with
  | .ok entry => .ok (about entry)
  | .error .nameTooLong => .error .nameTooLong
  | .error _ => .ok false

/-- The path leads to a file or a directory. -/
def exists? (tree : FileTree) (path : Path) : Except FileFault Bool := tree.ask path fun _ => true

/-- The path leads to a directory. -/
def isDirectory? (tree : FileTree) (path : Path) : Except FileFault Bool :=
  tree.ask path fun entry => entry == .directory

/-! ### Reading -/

/-- Why a file cannot be read as text. -/
inductive ReadFault where
  | file (fault : FileFault)
  | notText
  deriving DecidableEq, Repr

/-- The text of a file. -/
def readText (tree : FileTree) (path : Path) : Except ReadFault String :=
  match tree.open? path with
  | .error fault => .error (.file fault)
  | .ok .directory => .error (.file .isDirectory)
  | .ok (.file (.bytes _)) => .error .notText
  | .ok (.file (.text s)) => .ok (String.ofList (Text.unifyLines s.toList))

/-- The names of what stands directly in a directory. -/
def childNames (tree : FileTree) (loc : Location) : List String :=
  tree.entries.filterMap fun e =>
    match e.1.getLast? with
    | some name => if e.1.dropLast == loc then some name else none
    | none => none

/-- The names in a directory that end in `suffix`, in order; nothing if there is no such directory.
-/
def namesEnding (tree : FileTree) (path : Path) (suffix : String) :
    Except FileFault (List String) := do
  if ← tree.isDirectory? path then
    let loc ← tree.locate path
    let names := (tree.childNames loc).filter fun name => name.endsWith suffix
    pure (names.mergeSort fun a b => a ≤ b)
  else pure []

/-- The files under a location with their paths seen from it, in order. -/
def filesUnder (tree : FileTree) (loc : Location) : List (Location × FileContent) :=
  (tree.entries.filterMap fun e =>
    match e.2 with
    | .directory => none
    | .file content => if loc.isPrefixOf e.1 then some (e.1.drop loc.length, content) else none)
  |>.mergeSort fun a b => a.1.precedes b.1

/-- The files under a location that another tree does not hold in the same way. -/
def filesChanged (tree before : FileTree) (loc : Location) : List (Location × FileContent) :=
  (tree.filesUnder loc).filter fun e => before.get? (loc ++ e.1) != some (.file e.2)

/-! ### Writing -/

/-- A file or a directory that cannot be made, and why. -/
structure WriteFault where
  fault : FileFault
  path : Path
  deriving DecidableEq, Repr

/-- Make a directory in one that is there. A directory that is there already will do. -/
def addDirectory (tree : FileTree) (path : Path) : Except FileFault FileTree := do
  let loc ← tree.locate path
  match tree.get? loc with
  | some .directory => pure tree
  | some (.file _) => throw .exists
  | none => pure (tree.put loc .directory)

/-- Make a directory and, as far as they are missing, the directories above it. What was made before
something went wrong stays. -/
def makeDirectory (tree : FileTree) (path : Path) : Except WriteFault Unit × FileTree :=
  match tree.addDirectory path with
  | .ok tree => (.ok (), tree)
  | .error .missing =>
      if h : path.parts = [] then (.error ⟨.missing, path⟩, tree)
      else
        have : path.parts.dropLast.length < path.parts.length := by
          have := List.length_pos_iff.2 h
          simp only [List.length_dropLast]
          omega
        match tree.makeDirectory path.parent with
        | (.error fault, tree) => (.error fault, tree)
        | (.ok _, tree) =>
            match tree.addDirectory path with
            | .ok tree => (.ok (), tree)
            | .error fault => (.error ⟨fault, path⟩, tree)
  | .error fault => (.error ⟨fault, path⟩, tree)
termination_by path.parts.length

/-- Put something where a path leads. -/
def putAt (tree : FileTree) (path : Path) (content : FileContent) : Except FileFault FileTree := do
  let loc ← tree.locate path
  match tree.get? loc with
  | some .directory => throw .isDirectory
  | _ => pure (tree.put loc (.file content))

/-- Put something at a path, making the directories above it; a path that cannot be used changes
nothing. -/
def place (tree : FileTree) (path : Path) (content : FileContent) : FileTree :=
  match tree.makeDirectory path.parent with
  | (.error _, _) => tree
  | (.ok _, made) => (made.putAt path content).toOption.getD tree

/-- A directory at a path, and all directories above it; a path that cannot be used changes nothing.
-/
def placeDirectory (tree : FileTree) (path : Path) : FileTree :=
  match tree.makeDirectory path with
  | (.error _, _) => tree
  | (.ok _, made) => made

/-- Write a text file, making the directories above it. -/
def writeText (tree : FileTree) (path : Path) (s : String) : Except WriteFault Unit × FileTree :=
  match tree.makeDirectory path.parent with
  | (.error fault, tree) => (.error fault, tree)
  | (.ok _, tree) =>
      match tree.putAt path (.text s) with
      | .ok tree => (.ok (), tree)
      | .error fault => (.error ⟨fault, path⟩, tree)

end FileTree

end Tabletop
