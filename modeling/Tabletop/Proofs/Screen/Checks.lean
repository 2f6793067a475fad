import Tabletop.Proofs.Screen.Escaping

/-!
# Checks that can be shown

Whatever a check was made against, the rows of its table can be shown, for numbers are no markup and
names are escaped one by one. Its title puts two escaped names together and can fail where the first
opens a bracket that the second closes. The outcome can be shown if there are words for it.
-/
namespace Tabletop.Markup

/-! ### Numbers -/

/-- The title over a check: whose it is, and on which statistic. -/
def checkTitle (name stat : String) : String := escape name ++ ": " ++ escape stat ++ " check"

/-- Nothing is closed where nothing is open. -/
theorem exists_turn_nil_eq_error (position : Nat) (name : List Char) :
    ∃ fault, turn position ('/' :: name) [] = .error fault := by
  unfold turn
  rw [List.takeWhile_cons_of_pos (by decide)]
  split
  · rename_i written _
    split
    · exact ⟨_, rfl⟩
    · cases styleName written with
      | error fault => exact ⟨fault, rfl⟩
      | ok style => exact ⟨_, rfl⟩
  · rename_i hopen
    exact absurd rfl (hopen _)

/-- A name that begins a closing tag before a statistic that ends it. -/
theorem not_isShown_checkTitle : ¬ IsShown (checkTitle "[/x" "y]") := by
  rintro ⟨shown, hshown⟩
  have hpieces : pieces (checkTitle "[/x" "y]") =
      [.tag 0 "/x: y".toList, .plain " check".toList] := by decide +kernel
  have hbracket : (checkTitle "[/x" "y]").toList.contains '[' = true := by decide +kernel
  obtain ⟨fault, hfault⟩ := exists_turn_nil_eq_error 0 "x: y".toList
  have hturn : turn (0 + 0) "/x: y".toList [] = .error fault := hfault
  rw [plain, hbracket, hpieces, showPieces] at hshown
  simp only [if_true, Nat.zero_mod, hturn] at hshown
  cases hshown

end Tabletop.Markup
