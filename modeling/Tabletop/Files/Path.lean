/-!
# Paths

A path names a file or a directory by its parts, from the root or from where somebody stands. Empty
parts and single dots are dropped when a path is read; double dots are kept, for what they lead to
depends on the directories. Two slashes in front are kept apart from one, though they lead to the
same root; three or more count as one.
-/
namespace Tabletop

/-- Where a path starts. -/
inductive Anchor where
  /-- Where somebody stands. -/
  | here
  | root
  /-- The root, written with two slashes. -/
  | doubleRoot
  deriving DecidableEq, Repr

namespace Anchor

/-- The slashes of an anchor. -/
def text : Anchor → String
  | here => ""
  | root => "/"
  | doubleRoot => "//"

/-- The anchor of a path that begins with the given characters. -/
def ofChars : List Char → Anchor
  | '/' :: '/' :: '/' :: _ => root
  | '/' :: '/' :: _ => doubleRoot
  | '/' :: _ => root
  | _ => here

end Anchor

/-- The parts of a path and where they start. -/
structure Path where
  anchor : Anchor
  parts : List String
  deriving DecidableEq, Repr

namespace Path

/-- A part that stands for nothing. -/
def isIdle (part : String) : Bool := part.isEmpty || part == "."

/-- Cut characters at slashes. -/
def splitSlashes : List Char → List (List Char)
  | [] => [[]]
  | c :: rest =>
      match splitSlashes rest with
      | [] => [[c]]
      | part :: parts => if c == '/' then [] :: part :: parts else (c :: part) :: parts

/-- Read a path. -/
def ofText (s : String) : Path :=
  let cs := s.toList
  ⟨.ofChars cs, ((splitSlashes cs).map String.ofList).filter fun part => !isIdle part⟩

/-- The text of a path. -/
def text (p : Path) : String :=
  let joined := p.anchor.text ++ String.intercalate "/" p.parts
  if joined.isEmpty then "." else joined

/-- A path seen from another one; a path from the root does not depend on it. -/
def join (p q : Path) : Path := if q.anchor = .here then ⟨p.anchor, p.parts ++ q.parts⟩ else q

/-- The path with one more part. -/
def child (p : Path) (part : String) : Path := ⟨p.anchor, p.parts ++ [part]⟩

/-- The path of the directory that holds what the path names. -/
def parent (p : Path) : Path := ⟨p.anchor, p.parts.dropLast⟩

/-- The last part. -/
def name (p : Path) : String := p.parts.getLast?.getD ""

@[simp] theorem parent_child (p : Path) (part : String) : (p.child part).parent = p := by
  simp [child, parent]

@[simp] theorem name_child (p : Path) (part : String) : (p.child part).name = part := by
  simp [child, name]

/-- Take out double dots together with the parts before them. -/
def collapse (parts : List String) : List String :=
  parts.foldl (fun kept part => if part == ".." then kept.dropLast else kept ++ [part]) []

/-- The path from the root without double dots, seen from the directory `base`. -/
def resolve (base p : Path) : Path := ⟨.root, collapse (base.join p).parts⟩

end Path

end Tabletop
