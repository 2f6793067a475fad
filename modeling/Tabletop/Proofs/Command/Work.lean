import Mathlib.Tactic.Common
import Tabletop.Command.Outcome

/-!
# Work and the files

Most of what a command does leaves the files alone. Where only the files matter, such work can be
passed over if it gives a result, and so can the end of a command, even if that breaks off.
-/
namespace Tabletop.Command.Work

variable {α β : Type} {w : Work α} {f : α → Work β} {s : State} {P : α → Prop} {Q : β → Prop}

/-- What comes after an end is not done. -/
theorem run_bind (w : Work α) (f : α → Work β) (s : State) :
    ExceptT.run (w >>= f) s =
      match ExceptT.run w s with
      | (.ok a, s') => ExceptT.run (f a) s'
      | (.error ending, s') => (.error ending, s') := by
  change StateT.bind (ExceptT.run w) (ExceptT.bindCont f) s = _
  simp only [StateT.bind, bind]
  cases ExceptT.run w s with
  | mk result s' =>
    cases result with
    | ok a => rfl
    | error ending => rfl

theorem run_bind_of_ok {a : α} {s' : State} (h : ExceptT.run w s = (.ok a, s'))
    (f : α → Work β) : ExceptT.run (w >>= f) s = ExceptT.run (f a) s' := by
  rw [run_bind, h]

/-- Work that gives a result with a property and leaves the files as they are. -/
def Gives (w : Work α) (s : State) (P : α → Prop) : Prop :=
  ∃ a s', ExceptT.run w s = (.ok a, s') ∧ s'.files = s.files ∧ P a

/-- Work that leaves the files as they are, however it ends. -/
def KeepsFiles (w : Work α) : Prop := ∀ s, (ExceptT.run w s).2.files = s.files

/-- Work that says or tells what is wrong and gives no result. -/
def Fails (w : Work α) (s : State) : Prop :=
  ∃ ending s', ExceptT.run w s = (.error ending, s') ∧ ending ≠ .success

/-- What holds of the result of work and the files at its end. -/
def Ends (w : Work α) (s : State) (R : Except Ending α → FileTree → Prop) : Prop :=
  R (ExceptT.run w s).1 (ExceptT.run w s).2.files

/-! ### One after the other -/

/-- After work that gives a result the rest is done on the same files. -/
theorem Gives.run_bind (h : Gives w s P) (f : α → Work β) :
    ∃ a s', P a ∧ s'.files = s.files ∧ ExceptT.run (w >>= f) s = ExceptT.run (f a) s' := by
  obtain ⟨a, s', hrun, hfiles, ha⟩ := h
  exact ⟨a, s', ha, hfiles, run_bind_of_ok hrun f⟩

theorem Gives.bind (h : Gives w s P)
    (hf : ∀ a s', P a → s'.files = s.files → Gives (f a) s' Q) : Gives (w >>= f) s Q := by
  obtain ⟨a, s', ha, hfiles, hrun⟩ := h.run_bind f
  obtain ⟨b, s'', hrest, hfiles', hb⟩ := hf a s' ha hfiles
  exact ⟨b, s'', hrun.trans hrest, hfiles'.trans hfiles, hb⟩

/-- The files are as the work leaves them, if the rest keeps them. -/
theorem files_run_bind (hf : ∀ a, KeepsFiles (f a)) (s : State) :
    (ExceptT.run (w >>= f) s).2.files = (ExceptT.run w s).2.files := by
  rw [Work.run_bind]
  split
  · rename_i a s' hrun
    rw [hrun]
    exact hf a s'
  · rename_i ending s' hrun
    rw [hrun]

theorem KeepsFiles.bind (h : KeepsFiles w) (hf : ∀ a, KeepsFiles (f a)) : KeepsFiles (w >>= f) :=
  fun s => (files_run_bind hf s).trans (h s)

theorem Fails.bind (h : Fails w s) (f : α → Work β) : Fails (w >>= f) s := by
  obtain ⟨ending, s', hrun, hending⟩ := h
  refine ⟨ending, s', ?_, hending⟩
  rw [Work.run_bind, hrun]

/-- If work does not fail after a part that gives a result, the rest does not fail either. -/
theorem Gives.not_fails (h : Gives w s P) (hfine : ¬ Fails (w >>= f) s) :
    ∃ a s', P a ∧ s'.files = s.files ∧ ExceptT.run (w >>= f) s = ExceptT.run (f a) s' ∧
      ¬ Fails (f a) s' := by
  obtain ⟨a, s', ha, hfiles, hrun⟩ := h.run_bind f
  refine ⟨a, s', ha, hfiles, hrun, ?_⟩
  rwa [Fails, ← hrun]

/-- After work that keeps the files, only the rest decides how things end, unless it is not reached.
-/
theorem KeepsFiles.ends_bind {R : Except Ending β → FileTree → Prop} (h : KeepsFiles w)
    (hfail : ∀ ending, R (.error ending) s.files)
    (hf : ∀ a s', ExceptT.run w s = (.ok a, s') → s'.files = s.files → Ends (f a) s' R) :
    Ends (w >>= f) s R := by
  have hfiles := h s
  rw [Ends, Work.run_bind]
  cases hrun : ExceptT.run w s with
  | mk result s' =>
    rw [hrun] at hfiles
    cases result with
    | ok a => exact hf a s' hrun hfiles
    | error ending =>
      rw [← hfiles] at hfail
      exact hfail ending

theorem Fails.ends {R : Except Ending α → FileTree → Prop} (h : Fails w s) (hkeeps : KeepsFiles w)
    (hfail : ∀ ending, R (.error ending) s.files) : Ends w s R := by
  obtain ⟨ending, s', hrun, -⟩ := h
  rw [Ends, hkeeps s, hrun]
  exact hfail ending

theorem Fails.run_ne_ok (h : Fails w s) (a : α) (s' : State) : ExceptT.run w s ≠ (.ok a, s') := by
  obtain ⟨ending, s'', hrun, -⟩ := h
  rw [hrun]
  rintro ⟨⟩

/-! ### Single steps -/

theorem run_files_bind (f : FileTree → Work β) (s : State) :
    ExceptT.run (files >>= f) s = ExceptT.run (f s.files) s := rfl

theorem run_keep_bind (tree : FileTree) (f : Unit → Work β) (s : State) :
    ExceptT.run (keep tree >>= f) s = ExceptT.run (f ()) { s with files := tree } := rfl

theorem gives_pure (a : α) (s : State) : Gives (pure a) s (· = a) := ⟨a, s, rfl, rfl, rfl⟩

theorem gives_files (s : State) : Gives files s (· = s.files) := ⟨_, s, rfl, rfl, rfl⟩

theorem gives_journal (s : State) : Gives journal s fun _ => True := ⟨_, s, rfl, rfl, trivial⟩

theorem gives_follow {σ : Type} (session : Session σ) (s : State) :
    Gives (follow session) s fun _ => True := ⟨_, _, rfl, rfl, trivial⟩

theorem gives_logFrom (level : LogLevel) (s : State) : Gives (logFrom level) s fun _ => True :=
  ⟨_, _, rfl, rfl, trivial⟩

theorem gives_recordAll (rs : List Record) (s : State) : Gives (recordAll rs) s fun _ => True :=
  ⟨_, _, rfl, rfl, trivial⟩

/-- A text that can be shown is printed. -/
theorem gives_say {markup shown : String} (h : Markup.plain markup = .ok shown) (s : State) :
    Gives (say markup) s fun _ => True := by
  refine ⟨(), s.show (.out, .text shown), ?_, rfl, trivial⟩
  unfold say print
  rw [Print.shown, Figure.plain, h]
  rfl

theorem gives_forM {xs : List α} {f : α → Work Unit}
    (h : ∀ x ∈ xs, ∀ s, Gives (f x) s fun _ => True) (s : State) :
    Gives (xs.forM f) s fun _ => True := by
  induction xs generalizing s with
  | nil => exact ⟨(), s, rfl, rfl, trivial⟩
  | cons x xs ih =>
    change Gives (f x >>= fun _ => xs.forM f) s fun _ => True
    exact (h x List.mem_cons_self s).bind fun _ s' _ _ =>
      ih (fun y hy => h y (List.mem_cons_of_mem x hy)) s'

theorem keepsFiles_pure (a : α) : KeepsFiles (pure a) := fun _ => rfl

theorem keepsFiles_breakOff (cause : Cause) : KeepsFiles (breakOff cause : Work α) := fun _ => rfl

theorem keepsFiles_print (p : Print) : KeepsFiles (print p) := by
  unfold print
  split
  · exact fun s => rfl
  · exact keepsFiles_breakOff _

theorem keepsFiles_say (markup : String) : KeepsFiles (say markup) := keepsFiles_print _

theorem keepsFiles_refuse (markup : String) : KeepsFiles (refuse markup : Work α) :=
  (keepsFiles_print _).bind fun _ _ => rfl

theorem keepsFiles_files : KeepsFiles files := fun _ => rfl

theorem keepsFiles_journal : KeepsFiles journal := fun _ => rfl

theorem keepsFiles_follow {σ : Type} (session : Session σ) : KeepsFiles (follow session) :=
  fun _ => rfl

theorem keepsFiles_logFrom (level : LogLevel) : KeepsFiles (logFrom level) := fun _ => rfl

theorem keepsFiles_record (r : Record) : KeepsFiles (record r) := fun _ => rfl

theorem keepsFiles_recordAll (rs : List Record) : KeepsFiles (recordAll rs) := fun _ => rfl

theorem keepsFiles_forM {xs : List α} {f : α → Work Unit} (h : ∀ x, KeepsFiles (f x)) :
    KeepsFiles (xs.forM f) := by
  induction xs with
  | nil => exact keepsFiles_pure ()
  | cons x xs ih => exact (h x).bind fun _ => ih

theorem fails_breakOff (cause : Cause) (s : State) : Fails (breakOff cause : Work α) s :=
  ⟨_, s, rfl, by rintro ⟨⟩⟩

theorem fails_print_or_gives (p : Print) (s : State) :
    Fails (print p) s ∨ Gives (print p) s fun _ => True := by
  unfold print
  split
  · exact .inr ⟨_, _, rfl, rfl, trivial⟩
  · exact .inl (fails_breakOff _ s)

theorem fails_refuse (markup : String) (s : State) : Fails (refuse markup : Work α) s := by
  rcases fails_print_or_gives (.figure .err (.text markup)) s with hfails | hgives
  · exact hfails.bind _
  · obtain ⟨_, s', -, -, hrun⟩ := hgives.run_bind fun _ => (throw .failure : Work α)
    exact ⟨.failure, s', hrun, by rintro ⟨⟩⟩

end Tabletop.Command.Work
