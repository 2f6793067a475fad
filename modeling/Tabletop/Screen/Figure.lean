import Tabletop.Screen.Markup

/-!
# Figures

What is put on the screen: texts, tables and trees, whose texts are markup until they are shown.
-/
namespace Tabletop

/-- A label with branches below it. -/
inductive Tree where
  | node (label : String) (branches : List Tree)
  deriving Repr

/-- A table under a title. -/
structure Grid where
  title : String
  columns : List String
  rows : List (List String)
  deriving DecidableEq, Repr

/-- Something to be shown. -/
inductive Figure where
  | text (s : String)
  | table (grid : Grid)
  | tree (root : Tree)
  deriving Repr

/-- Where something is shown: among the results, or among the errors. -/
inductive Stream where
  | out
  | err
  deriving DecidableEq, Repr

/-- Something that has been sent to the screen. -/
inductive Print where
  /-- A figure in markup. -/
  | figure (stream : Stream) (f : Figure)
  /-- A text among the results in which nothing is markup. -/
  | verbatim (s : String)
  deriving Repr

mutual

/-- A tree without markup. -/
def Tree.plain : Tree → Except Markup.Fault Tree
  | .node label branches => do
      let label ← Markup.plain label
      let branches ← Tree.plainAll branches
      pure (.node label branches)

/-- Trees without markup. -/
def Tree.plainAll : List Tree → Except Markup.Fault (List Tree)
  | [] => .ok []
  | tree :: rest => do
      let tree ← Tree.plain tree
      let rest ← Tree.plainAll rest
      pure (tree :: rest)

end

/-- A table without markup. -/
def Grid.plain (g : Grid) : Except Markup.Fault Grid := do
  let title ← Markup.plain g.title
  let columns ← g.columns.mapM Markup.plain
  let rows ← g.rows.mapM fun row => row.mapM Markup.plain
  pure ⟨title, columns, rows⟩

/-- A figure without markup. -/
def Figure.plain : Figure → Except Markup.Fault Figure
  | text s => (Markup.plain s).map text
  | table grid => grid.plain.map table
  | tree root => root.plain.map tree

/-- What is shown, and where. -/
def Print.shown : Print → Except Markup.Fault (Stream × Figure)
  | figure stream f => f.plain.map fun f => (stream, f)
  | verbatim s => .ok (.out, .text s)

end Tabletop
