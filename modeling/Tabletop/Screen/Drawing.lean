import Tabletop.Screen.Figure

/-!
# Drawing

Figures as lines of text: a table with its columns aligned, a tree with a guide in front of every
branch.
-/
namespace Tabletop

/-- The width of every column: that of its widest cell. -/
def Grid.widths (g : Grid) : List Nat :=
  g.rows.foldl (fun widths row => List.zipWith (fun w cell => max w cell.length) widths row)
    (g.columns.map String.length)

/-- A cell filled up with blanks. -/
def Grid.padded (width : Nat) (cell : String) : String :=
  cell ++ String.ofList (List.replicate (width - cell.length) ' ')

/-- A row with two blanks between its cells. -/
def Grid.rowLine (widths : List Nat) (row : List String) : String :=
  String.intercalate "  " (List.zipWith padded widths row)

/-- The title, the names of the columns and the rows. -/
def Grid.lines (g : Grid) : List String :=
  let widths := g.widths
  g.title :: (g.columns :: g.rows).map (rowLine widths)

/-- Lines with one guide in front of the first and another in front of the others. -/
def Tree.guided (first others : String) : List String → List String
  | [] => []
  | line :: rest => (first ++ line) :: rest.map (others ++ ·)

mutual

/-- The label with the branches below it. -/
def Tree.lines : Tree → List String
  | .node label branches => label :: Tree.branchLines branches

/-- The branches, each behind a guide. -/
def Tree.branchLines : List Tree → List String
  | [] => []
  | [last] => Tree.guided "└── " "    " (Tree.lines last)
  | branch :: rest => Tree.guided "├── " "│   " (Tree.lines branch) ++ Tree.branchLines rest

end

/-- The lines of a figure. -/
def Figure.lines : Figure → List String
  | text s => [s]
  | table grid => grid.lines
  | tree root => root.lines

end Tabletop
