import Tabletop.Content
import Tabletop.Document.Yaml.Reader
import Tabletop.Files.Tree

/-!
# Content files

The content of a game is read from one file, which holds a mapping.
-/
namespace Tabletop.ContentFile

/-- Why content cannot be loaded. -/
inductive Fault where
  /-- It cannot even be asked for. -/
  | unreachable (path : Path) (fault : FileFault)
  | absent (path : Path)
  | unreadable (path : Path) (fault : FileFault)
  | notText
  /-- A value that is spelled well and still cannot be read. -/
  | unusable (fault : Yaml.Fault)
  | malformed (path : Path)
  | notMapping (path : Path)
  | invalid (source : String) (problems : List Problem)
  deriving DecidableEq, Repr

namespace Fault

/-- What is wrong, without details on texts and fields. -/
def headline : Fault → String
  | unreachable path fault => fault.message path
  | absent path => "Game data not found: " ++ path.text
  | unreadable path fault => "Cannot read game data " ++ path.text ++ ": " ++ fault.message path
  | notText => ""
  | unusable fault => fault.message
  | malformed path => "Invalid YAML in " ++ path.text
  | notMapping path => "Game data in " ++ path.text ++ " must be a mapping"
  | invalid source _ => "Invalid game data in " ++ source

/-- There are words for the fault. A file that is no text or cannot even be asked for and a value
that cannot be read have no words here. -/
def isOwn : Fault → Bool
  | unreachable _ _ | notText | unusable _ => false
  | _ => true

/-- The fields to blame. -/
def problems? : Fault → Option (List Problem)
  | invalid _ problems => some problems
  | _ => none

end Fault

/-- Content that was read, with the remarks on it. -/
abbrev Loaded := Content × List Record

/-- Content from a document of the given source. -/
def ofDocument (source : String) (d : Document) : Except Fault Loaded :=
  match Content.read d with
  | .error problems => .error (.invalid source problems)
  | .ok c => .ok (c, c.remarks source)

/-- Content from the text of a file. -/
def ofText (path : Path) (s : String) : Except Fault Loaded :=
  match Yaml.read s with
  | .error .malformed => .error (.malformed path)
  | .error fault => .error (.unusable fault)
  | .ok d =>
      if d.isMapping then
        (ofDocument path.text d).map fun (c, remarks) =>
          (c, remarks ++ [.contentLoaded path.text c.gameVersion c.dataVersion])
      else .error (.notMapping path)

/-- The content in a file. -/
def load (tree : FileTree) (path : Path) : Except Fault Loaded :=
  match tree.exists? path with
  | .error fault => .error (.unreachable path fault)
  | .ok false => .error (.absent path)
  | .ok true =>
      match tree.readText path with
      | .error (.file fault) => .error (.unreadable path fault)
      | .error .notText => .error .notText
      | .ok s => ofText path s

end Tabletop.ContentFile
