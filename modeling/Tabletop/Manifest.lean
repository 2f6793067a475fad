import Tabletop.Document.Literal
import Tabletop.Document.Toml.Reader
import Tabletop.Files.Tree
import Tabletop.Log
import Tabletop.Text.LetterCase

/-!
# Manifests

A project is described by a manifest: where its content and its characters are, how dice are seeded
and what is logged. Everything has a default, and a project needs no manifest at all. Paths are seen
from the directory that holds the manifest.
-/
namespace Tabletop

/-- What a manifest says. A path that is not given as a text is none, which matters only once it is
needed. -/
structure Manifest where
  name : Document
  root : Path
  content? : Option Path
  characters? : Option Path
  seed : Option Int
  logLevel : LogLevel

namespace Manifest

/-- The name under which a manifest is looked for. -/
def fileName : String := "charsheet.toml"

def defaultContent : String := "gamedata.yaml"

def defaultCharacters : String := ".charsheet/characters"

/-- Why a manifest cannot be loaded. -/
inductive Fault where
  /-- It cannot even be asked for. -/
  | unreachable (path : Path) (fault : FileFault)
  | unreadable (path : Path) (fault : FileFault)
  | notText
  | malformed (path : Path) (fault : Toml.Fault) (source : String)
  | tooManyDigits (cause : Toml.Cause)
  /-- A value that is to be shown holds an integer with too many digits for that. -/
  | unshowable
  | notSection (name : String)
  | badSeed (path : Path) (found : Document)
  | badLevel (path : Path) (found : String)

namespace Fault

/-- What is wrong, without details on texts. -/
def headline : Fault → String
  | unreachable path fault => fault.message path
  | unreadable path fault => "Cannot read manifest " ++ path.text ++ ": " ++ fault.message path
  | notText => ""
  | malformed path _ _ => "Invalid TOML in " ++ path.text
  | tooManyDigits cause => cause.message
  | unshowable => Decimal.limitMessage
  | notSection name => name
  | badSeed path found => path.text ++ ": [dice] seed must be an integer, got " ++ found.literal
  | badLevel path found =>
      path.text ++ ": [logging] level must be one of " ++
        String.intercalate ", " (LogLevel.all.map LogLevel.label) ++ ", got " ++ Text.quoted found

/-- There are words for the fault. A file that is no text or cannot even be asked for, an integer
with too many digits and a section that is none have no words here. -/
def isOwn : Fault → Bool
  | unreachable _ _ | notText | tooManyDigits _ | unshowable | notSection _ => false
  | _ => true

/-- What is wrong, with all details. -/
def message : Fault → String
  | malformed path fault source =>
      headline (malformed path fault source) ++ ": " ++ fault.message source
  | fault => fault.headline

end Fault

/-- The name of a directory, also where double dots lead to it. -/
def directoryName (root : Path) : String := (Path.resolve ⟨.root, []⟩ root).name

/-- The manifest of a project that has none. -/
def default (root : Path) : Manifest :=
  ⟨.text (directoryName root), root, some (root.join (.ofText defaultContent)),
    some (root.join (.ofText defaultCharacters)), none, .warning⟩

/-! ### Reading -/

/-- A section, which may be left out. -/
def section? (data : Entries) (name : String) : Except Fault Entries :=
  match data.find? name with
  | none => .ok []
  | some (.table entries) => .ok entries
  | some _ => .error (.notSection name)

/-- The seed of a section. -/
def seed? (path : Path) (dice : Entries) : Except Fault (Option Int) :=
  match dice.find? "seed" with
  | none => .ok none
  | some .null => .ok none
  | some (.int n) => .ok (some n)
  | some found => .error (if found.isShowable then .badSeed path found else .unshowable)

/-- The level of a section, in any letter case. -/
def level? (path : Path) (logging : Entries) : Except Fault LogLevel :=
  let given := (logging.find? "level").getD (.text "WARNING")
  if given.isShowable then
    let found := Text.upper given.plain
    match LogLevel.ofLabel? found with
    | some level => .ok level
    | none => .error (.badLevel path found)
  else .error .unshowable

/-- A path seen from the root, which one of the entries of a section gives. -/
def path? (root : Path) (entries : Entries) (key default : String) : Option Path :=
  match entries.find? key with
  | none => some (root.join (.ofText default))
  | some (.text s) => some (root.join (.ofText s))
  | some _ => none

/-- The manifest at a path, from its data. -/
def ofData (path : Path) (data : Entries) : Except Fault Manifest := do
  let seed ← (section? data "dice").bind (seed? path)
  let level ← (section? data "logging").bind (level? path)
  let project ← section? data "project"
  let content ← section? data "content"
  let characters ← section? data "characters"
  let root := path.parent
  pure ⟨(project.find? "name").getD (.text (directoryName root)), root,
    path? root content "game_data" defaultContent,
    path? root characters "directory" defaultCharacters, seed, level⟩

/-- The manifest at a path, from its text. -/
def ofText (path : Path) (s : String) : Except Fault Manifest :=
  match Toml.read s with
  | .ok data => ofData path data
  | .error fault =>
      match fault.cause with
      | .tooManyDigits _ => .error (.tooManyDigits fault.cause)
      | _ => .error (.malformed path fault s)

/-- Load the manifest at a path. -/
def load (tree : FileTree) (path : Path) : Except Fault Manifest :=
  match tree.readText path with
  | .error (.file .nul) => .error (.unreachable path .nul)
  | .error (.file fault) => .error (.unreadable path fault)
  | .error .notText => .error .notText
  | .ok s => ofText path s

/-- The manifest at a path, or the default one if there is nothing there. -/
def find (tree : FileTree) (path : Path) : Except Fault Manifest :=
  match tree.exists? path with
  | .error fault => .error (.unreachable path fault)
  | .ok true => load tree path
  | .ok false =>
      match FileTree.refusal? path.parent with
      | some .nul => .error (.unreachable path .nul)
      | _ => .ok (default path.parent)

end Manifest

end Tabletop
