import Tabletop.Proofs.Command.Work
import Tabletop.Command.Run

/-!
# Commands that only read

Loading a project, its content and its characters leaves the files alone, however that ends, and so
does everything that is said about formulas, characters and checks.
-/
namespace Tabletop.Command

open Work

variable {here : Surroundings} {verbose : Bool} {manifest name : String} {m : Manifest}

/-! ### Projects -/

theorem keepsFiles_project (here : Surroundings) (verbose : Bool) (manifest : String) :
    KeepsFiles (project here verbose manifest) := by
  refine keepsFiles_files.bind fun files => ?_
  split
  · exact (keepsFiles_logFrom _).bind fun _ => keepsFiles_pure _
  · split
    · exact keepsFiles_refuse _
    · exact keepsFiles_breakOff _

theorem keepsFiles_givenPath (path? : Option Path) : KeepsFiles (givenPath path?) := by
  cases path? with
  | some path => exact keepsFiles_pure path
  | none => exact keepsFiles_breakOff _

theorem keepsFiles_loadContent (m : Manifest) : KeepsFiles (loadContent m) := by
  refine (keepsFiles_givenPath _).bind fun path => keepsFiles_files.bind fun files => ?_
  split
  · exact (keepsFiles_recordAll _).bind fun _ => keepsFiles_pure _
  · split
    · exact keepsFiles_refuse _
    · exact keepsFiles_breakOff _

theorem keepsFiles_characterPath (m : Manifest) (name : String) :
    KeepsFiles (characterPath m name) :=
  (keepsFiles_givenPath _).bind fun _ => keepsFiles_pure _

theorem keepsFiles_loadCharacter (m : Manifest) (name : String) (dice : DiceSource) :
    KeepsFiles (loadCharacter m name dice) := by
  refine (keepsFiles_loadContent m).bind fun content => ?_
  refine (keepsFiles_characterPath m name).bind fun path => ?_
  refine keepsFiles_files.bind fun files => keepsFiles_journal.bind fun journal => ?_
  split
  · exact (keepsFiles_follow _).bind fun _ => keepsFiles_pure _
  · split
    · exact keepsFiles_refuse _
    · exact keepsFiles_breakOff _

/-! ### Formulas -/

theorem keepsFiles_finishFormula (source : String) (messages : List Diagnostic) (hasTerm : Bool) :
    KeepsFiles (finishFormula source messages hasTerm) := by
  refine (keepsFiles_forM keepsFiles_print).bind fun _ => ?_
  split
  · exact keepsFiles_pure _
  · exact fun _ => rfl

theorem keepsFiles_scanFormula (source : String) : KeepsFiles (scanFormula source) :=
  (keepsFiles_print _).bind fun _ => keepsFiles_finishFormula _ _ _

theorem keepsFiles_parseFormula (source : String) : KeepsFiles (parseFormula source) := by
  refine (keepsFiles_record _).bind fun _ => ?_
  dsimp only
  split
  · exact keepsFiles_finishFormula _ _ _
  · exact (keepsFiles_print _).bind fun _ => keepsFiles_finishFormula _ _ _

theorem keepsFiles_formulaSession (m : Manifest) (character : Option String) (dice : DiceSource) :
    KeepsFiles (formulaSession m character dice) := by
  unfold formulaSession
  split
  · exact keepsFiles_loadCharacter m _ dice
  · exact keepsFiles_journal.bind fun _ => (keepsFiles_follow _).bind fun _ => keepsFiles_pure _

theorem keepsFiles_showValue (source : String) (tree : Bool) (root : Evaluated) :
    KeepsFiles (showValue source tree root) := by
  unfold showValue
  split
  · exact (keepsFiles_print _).bind fun _ => keepsFiles_say _
  · exact keepsFiles_say _

theorem keepsFiles_evaluateFormula (source : String) (tree : Bool) (s : Session DiceSource) :
    KeepsFiles (evaluateFormula source tree s) := by
  refine (keepsFiles_follow _).bind fun _ => ?_
  dsimp only
  split
  · exact keepsFiles_finishFormula _ _ _
  · exact (keepsFiles_showValue _ _ _).bind fun _ => keepsFiles_finishFormula _ _ _

/-! ### Characters -/

theorem keepsFiles_isTaken (path : Path) : KeepsFiles (isTaken path) := by
  refine keepsFiles_files.bind fun files => ?_
  split
  · exact keepsFiles_pure _
  · exact keepsFiles_breakOff _

theorem keepsFiles_characterRows (files : FileTree) (paths : List Path) :
    KeepsFiles (characterRows files paths) := by
  induction paths with
  | nil => exact keepsFiles_pure _
  | cons path paths ih =>
    unfold characterRows
    split
    · exact ih.bind fun _ => keepsFiles_pure _
    · split
      · exact (keepsFiles_print _).bind fun _ => ih
      · exact keepsFiles_breakOff _

theorem keepsFiles_listCharacters (m : Manifest) : KeepsFiles (listCharacters m) := by
  refine (keepsFiles_givenPath _).bind fun directory => keepsFiles_files.bind fun files => ?_
  split
  · exact keepsFiles_breakOff _
  · exact keepsFiles_say _
  · exact (keepsFiles_characterRows _ _).bind fun _ => keepsFiles_print _

theorem keepsFiles_showDerived (s : Session DiceSource) : KeepsFiles (showDerived s) :=
  (keepsFiles_follow _).bind fun _ => keepsFiles_forM fun _ => keepsFiles_print _

theorem keepsFiles_showCharacter (s : Session DiceSource) : KeepsFiles (showCharacter s) := by
  refine (keepsFiles_forM keepsFiles_say).bind fun _ => (keepsFiles_follow _).bind fun _ => ?_
  split
  · exact keepsFiles_breakOff _
  · exact (keepsFiles_print _).bind fun _ => keepsFiles_showDerived _

theorem keepsFiles_reportChange (d : Direction) (stat : String) (points applied : Nat)
    (s : Session DiceSource) : KeepsFiles (reportChange d stat points applied s) := by
  refine (keepsFiles_forM keepsFiles_say).bind fun _ => ?_
  split
  · exact keepsFiles_say _
  · exact keepsFiles_pure _

/-! ### Checks -/

theorem keepsFiles_showCheck (sheet : Sheet) (c : Check) : KeepsFiles (showCheck sheet c) := by
  refine (keepsFiles_print _).bind fun _ => (keepsFiles_say _).bind fun _ => ?_
  refine (keepsFiles_say _).bind fun _ => ?_
  split
  · exact keepsFiles_say _
  · exact keepsFiles_breakOff _

theorem keepsFiles_checkCharacter (stat : String) (base : Difficulty) (advantage bonus : Int)
    (s : Session DiceSource) : KeepsFiles (checkCharacter stat base advantage bonus s) := by
  refine (keepsFiles_follow _).bind fun _ => ?_
  split
  · exact keepsFiles_breakOff _
  · exact keepsFiles_refuse _
  · exact keepsFiles_showCheck _ _

theorem keepsFiles_difficultyOf (name : String) : KeepsFiles (difficultyOf name) := by
  unfold difficultyOf
  split
  · exact keepsFiles_pure _
  · exact keepsFiles_refuse _

/-! ### Whole commands -/

/-- The command may save a character; all others only read. -/
def saves : Command → Bool
  | create .. | change .. => true
  | _ => false

/-- A command that only reads leaves the files alone, however it ends. -/
theorem keepsFiles_work (here : Surroundings) (verbose : Bool) {command : Command}
    (h : command.saves = false) : KeepsFiles (work here verbose command) := by
  cases command with
  | create | change => cases h
  | scan source => exact keepsFiles_scanFormula source
  | parse source => exact keepsFiles_parseFormula source
  | evaluate source character seed tree manifest =>
    exact (keepsFiles_project _ _ _).bind fun _ => (keepsFiles_formulaSession _ _ _).bind fun _ =>
      keepsFiles_evaluateFormula _ _ _
  | list manifest =>
    exact (keepsFiles_project _ _ _).bind fun _ => keepsFiles_listCharacters _
  | «show» name manifest =>
    exact (keepsFiles_project _ _ _).bind fun _ => (keepsFiles_loadCharacter _ _ _).bind fun _ =>
      keepsFiles_showCharacter _
  | check name stat difficulty advantage bonus seed manifest =>
    refine (keepsFiles_difficultyOf _).bind fun _ => (keepsFiles_project _ _ _).bind fun _ => ?_
    exact (keepsFiles_loadCharacter _ _ _).bind fun _ => keepsFiles_checkCharacter _ _ _ _ _

end Tabletop.Command
