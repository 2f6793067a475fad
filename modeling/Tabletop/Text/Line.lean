/-!
# Line ends

A text that was written on another system may end its lines with a carriage return, alone or with a
line feed behind it.
-/
namespace Tabletop.Text

/-- Every way of ending a line made a single line feed. -/
def unifyLines : List Char → List Char
  | [] => []
  | '\r' :: '\n' :: rest => '\n' :: unifyLines rest
  | '\r' :: rest => '\n' :: unifyLines rest
  | c :: rest => c :: unifyLines rest

/-- No carriage return is left. -/
theorem not_mem_unifyLines (cs : List Char) : '\r' ∉ unifyLines cs := by
  fun_induction unifyLines cs with
  | case1 => exact List.not_mem_nil
  | case2 rest ih => simp [ih]
  | case3 rest _ ih => simp [ih]
  | case4 c rest _ hc ih =>
      have : ¬ '\r' = c := fun h => hc h.symm
      simp [this, ih]

end Tabletop.Text
