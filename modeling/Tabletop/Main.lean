import Tabletop.Command.Run
import Tabletop.Screen.Drawing

/-!
# The program

Copies what a command line needs from the disk into a tree of files, runs it on that tree, prints
what it shows and writes the files that have changed.
-/
namespace Tabletop.Program

/-- The bytes of a file; none if it cannot be read. -/
def bytesAt (path : Path) : IO (Option ByteArray) := do
  try
    let bytes ← IO.FS.readBinFile path.text
    pure (some bytes)
  catch _ => pure none

/-- Copy a file into a tree. -/
def fetchFile (tree : FileTree) (path : Path) : IO FileTree := do
  match ← bytesAt path with
  | some bytes => pure (tree.place path (.ofBytes bytes))
  | none => pure tree

/-- The names of the files in a directory that may be characters; none if there is no directory. -/
def namesAt (path : Path) : IO (Option (List String)) := do
  try
    let directory ← IO.FS.realPath path.text
    if ← directory.isDir then
      let entries ← directory.readDir
      let names := entries.toList.map fun e => e.fileName
      pure (some (names.filter fun name => name.endsWith ".json"))
    else pure none
  catch _ => pure none

/-- Copy a file, or a directory with the characters in it, into a tree. -/
def fetch (tree : FileTree) (path : Path) : IO FileTree := do
  match ← namesAt path with
  | none => fetchFile tree path
  | some names =>
      let fetch (tree : FileTree) (name : String) := fetchFile tree (path.child name)
      names.foldlM fetch (tree.placeDirectory path)

/-- Copy everything that the project of a manifest consists of. -/
def fetchProject (here : Command.Surroundings) (manifest : String) : IO FileTree := do
  let path := Command.manifestPath here manifest
  let tree ← fetch .empty path
  match Command.findManifest here tree manifest with
  | .error _ => pure tree
  | .ok m => ([m.content?, m.characters?].filterMap id).foldlM fetch tree

/-- Copy everything that a command line needs. -/
def fetchFor (here : Command.Surroundings) (words : List String) : IO FileTree :=
  match Command.read words with
  | some (.run _ command) =>
      match command.manifest? with
      | some manifest => fetchProject here manifest
      | none => pure .empty
  | _ => pure .empty

/-- Print a figure. -/
def draw (shown : Stream × Figure) : IO Unit := do
  for line in shown.2.lines do
    match shown.1 with
    | .out => IO.println (Text.whole line)
    | .err => IO.eprintln (Text.whole line)

/-- Write a file at a location, making the directories above it. -/
def store (file : Location × FileContent) : IO Unit := do
  let path : Path := ⟨.root, file.1⟩
  IO.FS.createDirAll path.parent.text
  match file.2 with
  | .text s => IO.FS.writeFile path.text s
  | .bytes bs => IO.FS.writeBinFile path.text ⟨bs.toArray⟩

/-- Say what there is left to say about an ending. -/
def conclude : Command.Ending → IO Unit
  | .misuse => IO.eprintln "The command line was not understood."
  | .broken cause => IO.eprintln cause.message
  | _ => pure ()

end Tabletop.Program

open Tabletop in
/-- Run the command line. -/
def main (words : List String) : IO UInt32 := do
  let directory ← IO.currentDir
  let seed ← IO.rand 0 (Nat.pow 2 62)
  let here : Command.Surroundings := ⟨Path.ofText directory.toString, seed⟩
  let files ← Program.fetchFor here words
  let run := Command.runWords here files words
  (run.state.files.filesChanged files []).forM Program.store
  run.state.figures.forM Program.draw
  run.state.logLines.forM fun line => IO.eprintln (Text.whole line)
  Program.conclude run.ending
  return run.ending.exitCode
