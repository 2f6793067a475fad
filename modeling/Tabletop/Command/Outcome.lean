import Tabletop.CharacterFile
import Tabletop.Check.Outcome
import Tabletop.ContentFile
import Tabletop.Log.Lines
import Tabletop.Manifest
import Tabletop.Screen.Figure

/-!
# The outcome of a command

A command ends well, or it fails with a text on what is wrong, or it breaks off for a cause that it
has no words for. Until then it prints, writes into the journal and changes files. What it has done
before the end stays.
-/
namespace Tabletop.Command

/-- A cause for which a command has no words. -/
inductive Cause where
  | manifest (fault : Manifest.Fault)
  | content (fault : ContentFile.Fault)
  | character (fault : CharacterFile.Fault)
  /-- The directory of all characters cannot even be asked for. -/
  | directory (path : Path) (fault : FileFault)
  /-- A path of the manifest is no text. -/
  | pathNotText
  | check (fault : CheckFault)
  | outcome (fault : OutcomeFault)
  | markup (fault : Markup.Fault)

/-- What there is to say about a cause. -/
def Cause.message : Cause → String
  | manifest .notText | content .notText | character .notText => "a file is no text"
  | manifest (.notSection name) => "the manifest has no section " ++ name
  | manifest fault => fault.message
  | content fault => fault.headline
  | character fault => fault.message
  | directory path fault => fault.message path
  | pathNotText => "a path of the manifest is no text"
  | check fault => fault.message
  | outcome fault => fault.message
  | markup fault => fault.message

/-- How a command ends. -/
inductive Ending where
  | success
  /-- What is wrong has been said. -/
  | failure
  /-- The command line was not understood. -/
  | misuse
  | broken (cause : Cause)

/-- The number that a process ends with. -/
def Ending.exitCode : Ending → UInt32
  | success => 0
  | failure => 1
  | misuse => 2
  | broken _ => 1

/-- How things stand while a command works. -/
structure State where
  /-- What has been shown, the latest first. -/
  latest : List (Stream × Figure)
  journal : Journal
  /-- The level from which records are shown, once it is known. -/
  level : Option LogLevel
  files : FileTree

namespace State

/-- How things stand at the beginning. -/
def start (files : FileTree) : State := ⟨[], .empty, none, files⟩

/-- What has been shown, in order. -/
def figures (s : State) : List (Stream × Figure) := s.latest.reverse

/-- Show something. -/
def «show» (s : State) (figure : Stream × Figure) : State :=
  { s with latest := figure :: s.latest }

@[simp] theorem figures_start (files : FileTree) : (start files).figures = [] := rfl

@[simp] theorem figures_show (s : State) (figure : Stream × Figure) :
    (s.show figure).figures = s.figures ++ [figure] := by
  simp [figures, «show»]

@[simp] theorem files_show (s : State) (figure : Stream × Figure) :
    (s.show figure).files = s.files := rfl

/-- The lines of the log. -/
def logLines (s : State) : List String :=
  match s.level with
  | none => []
  | some level => s.journal.lines level

end State

/-- Work that a command does: it changes how things stand and may end early. -/
abbrev Work (α : Type) := ExceptT Ending (StateM State) α

namespace Work

/-- Break off. -/
def breakOff {α : Type} (cause : Cause) : Work α := throw (.broken cause)

/-- Print something. A text that cannot be shown breaks the work off. -/
def print (p : Print) : Work Unit :=
  match p.shown with
  | .ok figure => modify fun s => s.show figure
  | .error fault => breakOff (.markup fault)

/-- Print a text among the results. -/
def say (markup : String) : Work Unit := print (.figure .out (.text markup))

/-- Print a text among the errors. -/
def warn (markup : String) : Work Unit := print (.figure .err (.text markup))

/-- Print a table. -/
def table (grid : Grid) : Work Unit := print (.figure .out (.table grid))

/-- Print a tree. -/
def tree (root : Tree) : Work Unit := print (.figure .out (.tree root))

/-- Say what is wrong and fail. -/
def refuse {α : Type} (markup : String) : Work α := do
  warn markup
  throw .failure

/-- Show records from a level on. -/
def logFrom (level : LogLevel) : Work Unit := modify fun s => { s with level := some level }

/-- Write a record. -/
def record (r : Record) : Work Unit := modify fun s => { s with journal := s.journal.add r }

/-- Write records. -/
def recordAll (rs : List Record) : Work Unit :=
  modify fun s => { s with journal := s.journal.addAll rs }

/-- The journal so far. -/
def journal : Work Journal := do
  let s ← get
  pure s.journal

/-- Go on with the journal of a session. -/
def follow {σ : Type} (session : Session σ) : Work Unit :=
  modify fun s => { s with journal := session.journal }

/-- The files as they are now. -/
def files : Work FileTree := do
  let s ← get
  pure s.files

/-- The files as they are from now on. -/
def keep (files : FileTree) : Work Unit := modify fun s => { s with files := files }

end Work

end Tabletop.Command
