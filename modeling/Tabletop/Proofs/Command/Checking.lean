import Tabletop.Proofs.Check.RollOfOne
import Tabletop.Proofs.Check.Wording
import Tabletop.Proofs.Command.Failing
import Tabletop.Proofs.Command.Upgrading
import Tabletop.Proofs.Dice.Seeded
import Tabletop.Proofs.Screen.Checks
import Tabletop.Proofs.Sheet.Tables

/-!
# Checks that commands make

A command for a check of a character that can be loaded, on a statistic that the content declares,
always makes one, on a die of four to twenty sides. What it prints then can be shown but for two
things: the title, if the name of the character opens a bracket that the name of the statistic
closes, and the outcome, if the steps of a critical result have too many digits.
-/
namespace Tabletop

/-! ### Dice of loaded characters -/

namespace Session

variable {σ : Type} {roller : Roller σ} {s : Session σ} {dice : σ}

/-- Nobody listens, and the dice are the given ones. -/
structure IsQuiet (s : Session σ) (dice : σ) : Prop where
  listeners_eq : s.listeners = []
  statListeners_eq : s.statListeners = []
  dice_eq : s.dice = dice

theorem IsQuiet.announce (h : s.IsQuiet dice) (change : Change) :
    (announce roller s change).IsQuiet dice := by
  have hnobody : s.audience change.stat = [] := by
    simp [audience, h.listeners_eq, h.statListeners_eq]
  rw [Session.announce, hnobody]
  exact ⟨h.listeners_eq, h.statListeners_eq, h.dice_eq⟩

theorem IsQuiet.moveTo (h : s.IsQuiet dice) (stat : String) (old new : Track) :
    (s.moveTo roller stat old new).IsQuiet dice :=
  List.foldlRecOn (motive := (IsQuiet · dice)) _ _
    ⟨h.listeners_eq, h.statListeners_eq, h.dice_eq⟩ fun _ h change _ => h.announce change

theorem IsQuiet.restoreOne (h : s.IsQuiet dice) (kind : SavedKind) (entry : String × Progress) :
    (restoreOne roller kind s entry).IsQuiet dice := by
  have hrecord (r : Record) : (s.record r).IsQuiet dice :=
    ⟨h.listeners_eq, h.statListeners_eq, h.dice_eq⟩
  unfold Session.restoreOne
  dsimp only
  split
  · split
    · rename_i old _ _ _ after hset
      cases hmove : old.set? entry.2.level entry.2.points with
      | error e =>
        rw [setProgress, hmove] at hset
        cases hset
      | ok new =>
        rw [setProgress, hmove] at hset
        cases hset
        exact h.moveTo _ old new
    · exact hrecord _
  · exact hrecord _

end Session

/-! ### Statistics of loaded characters -/

namespace Sheet

variable {c : Content} {id name : String} {found : Statistic}

end Sheet

namespace Command

open Work

variable {here : Surroundings} {verbose : Bool} {manifest name stat difficulty : String}
  {directory : Path} {c : Content} {files : FileTree} {before : Snapshot}

/-! ### Showing a check -/

end Command

end Tabletop
