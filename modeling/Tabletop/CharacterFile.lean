import Tabletop.Document.Json.Reader
import Tabletop.Files.Tree
import Tabletop.Session

/-!
# Character files

Every character has a file of its own, named after the letters and digits of its name. The file
holds a snapshot. Loading a character builds a new sheet from the content and restores the snapshot
on it.
-/
namespace Tabletop.CharacterFile

/-! ### Names of files -/

/-- The characters of a name that its file keeps. -/
def isKept (c : Char) : Bool := ('a' ≤ c && c ≤ 'z') || ('0' ≤ c && c ≤ '9')

/-- Every run of other characters made one underscore. -/
def underscored : List Char → List Char
  | [] => []
  | c :: rest =>
      if isKept c then c :: underscored rest
      else
        match underscored rest with
        | '_' :: more => '_' :: more
        | more => '_' :: more

/-- What is kept of a name in lower case, without underscores at its ends. -/
def slug (name : String) : String :=
  String.ofList
    (Text.trimWhere (· == '_') (underscored (Text.lower (Text.strip name)).toList))

/-- The name of the file of a character. -/
def fileName (name : String) : String :=
  let s := slug name
  (if s.isEmpty then "character" else s) ++ ".json"

/-- The path of the file of a character in the directory of all characters. -/
def pathOf (directory : Path) (name : String) : Path := directory.child (fileName name)

/-- The files of all characters in a directory, in order. -/
def all (tree : FileTree) (directory : Path) : Except FileFault (List Path) :=
  (tree.namesEnding directory ".json").map fun names => names.map directory.child

/-! ### Loading and saving -/

/-- Why a character cannot be loaded or saved. -/
inductive Fault where
  /-- It cannot even be asked for. -/
  | unreachable (path : Path) (fault : FileFault)
  | absent (path : Path)
  | unreadable (path : Path) (fault : FileFault)
  | notText
  /-- A half of a character cannot be written. -/
  | brokenText
  /-- An integer has too many digits, which reading says in other words than writing. -/
  | tooManyDigits (text : String)
  | malformed (path : Path) (fault : Json.Fault) (source : String)
  | invalid (path : Path) (problems : List Problem)
  | tooNew (path : Path) (version : Int)
  | unwritable (path : Path) (fault : FileTree.WriteFault)
  deriving Repr

namespace Fault

/-- What is wrong, without details on texts and fields. -/
def headline : Fault → String
  | unreachable path fault => fault.message path
  | absent path => "Character not found: " ++ path.text
  | unreadable path fault => "Cannot read character " ++ path.text ++ ": " ++ fault.message path
  | notText => ""
  | brokenText => "a text holds half of a character"
  | tooManyDigits text => text
  | malformed path _ _ => "Invalid JSON in " ++ path.text
  | invalid path _ => "Invalid character file " ++ path.text
  | tooNew path version =>
      "Character " ++ path.text ++ " has format version " ++ Decimal.text version ++
        "; this version of charsheet reads up to " ++ Decimal.text Snapshot.currentVersion
  | unwritable path ⟨.nul, _⟩ => FileFault.nul.message path
  | unwritable path fault =>
      "Cannot write character " ++ path.text ++ ": " ++ fault.fault.message fault.path

/-- What is wrong, with all details. -/
def message : Fault → String
  | malformed path fault source =>
      headline (malformed path fault source) ++ ": " ++ fault.message source
  | fault => fault.headline

/-- There are words for the fault. A file that is no text or cannot even be asked for, a half of a
character, an integer with too many digits and a path with NUL have no words here. -/
def isOwn : Fault → Bool
  | unreachable _ _ | notText | brokenText | tooManyDigits _ | unwritable _ ⟨.nul, _⟩ => false
  | _ => true

/-- The fields to blame. -/
def problems? : Fault → Option (List Problem)
  | invalid _ problems => some problems
  | _ => none

end Fault

/-- A snapshot from the text of a file. -/
def parseSnapshot (path : Path) (source : String) : Except Fault Snapshot :=
  match Json.read source with
  | .error fault =>
      match fault.cause with
      | .tooManyDigits _ => .error (.tooManyDigits fault.cause.message)
      | _ => .error (.malformed path fault source)
  | .ok document =>
      match Snapshot.read document with
      | .error problems => .error (.invalid path problems)
      | .ok snapshot =>
          if Snapshot.currentVersion < snapshot.version then .error (.tooNew path snapshot.version)
          else .ok snapshot

/-- The snapshot in a file. -/
def loadSnapshot (tree : FileTree) (path : Path) : Except Fault Snapshot :=
  match tree.exists? path with
  | .error fault => .error (.unreachable path fault)
  | .ok false => .error (.absent path)
  | .ok true =>
      match tree.readText path with
      | .error (.file fault) => .error (.unreadable path fault)
      | .error .notText => .error .notText
      | .ok source => parseSnapshot path source

/-- A session on a new sheet with a snapshot restored on it. -/
def restored {σ : Type} (roller : Roller σ) (content : Content) (snapshot : Snapshot) (dice : σ)
    (journal : Journal) : Session σ :=
  (Session.start (Sheet.ofContent content) dice journal).restore roller snapshot

/-- Load a character. -/
def load {σ : Type} (roller : Roller σ) (tree : FileTree) (path : Path) (content : Content)
    (dice : σ) (journal : Journal) : Except Fault (Session σ) :=
  (loadSnapshot tree path).map fun snapshot => restored roller content snapshot dice journal

/-- Save a character. With an integer in it that has too many digits, nothing but the directory of
the file comes of that, and with half of a character in a text nothing but an empty file. -/
def save (tree : FileTree) (path : Path) (sheet : Sheet) : Except Fault Unit × FileTree :=
  let snapshot := Snapshot.ofSheet sheet
  if snapshot.hasLongNumber then
    match tree.makeDirectory path.parent with
    | (.error fault, tree) => (.error (.unwritable path fault), tree)
    | (.ok _, tree) => (.error (.tooManyDigits Decimal.limitMessage), tree)
  else
    let broken := snapshot.hasHalf
    match tree.writeText path (if broken then "" else snapshot.fileText) with
    | (.error fault, tree) => (.error (.unwritable path fault), tree)
    | (.ok _, tree) => (if broken then .error .brokenText else .ok (), tree)

end Tabletop.CharacterFile
