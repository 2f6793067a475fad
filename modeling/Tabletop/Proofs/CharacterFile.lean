import Tabletop.Proofs.Files
import Tabletop.Proofs.Snapshot

/-!
# Character files that were written

Where saving succeeds, the file holds the snapshot of the sheet, and a snapshot that can be read
back is loaded from its file.
-/
namespace Tabletop.CharacterFile

variable {tree after : FileTree} {path : Path} {sheet : Sheet}

/-- Where saving succeeds, the snapshot is in its file then, and no other file was written. -/
theorem exists_isFileAt_of_save (h : save tree path sheet = (.ok (), after)) :
    (Snapshot.ofSheet sheet).IsWritable ∧ ∃ loc,
      after.IsFileAt path loc (.text (Snapshot.ofSheet sheet).fileText) ∧
        FileTree.WritesOnly loc tree after := by
  unfold save at h
  dsimp only at h
  split at h
  · split at h <;> cases h
  · rename_i hshort
    split at h
    · cases h
    · rename_i written hwrite
      cases hhalf : (Snapshot.ofSheet sheet).hasHalf with
      | true =>
        rw [hhalf] at h
        cases h
      | false =>
        rw [hhalf] at h hwrite
        cases h
        exact ⟨⟨hhalf, Bool.eq_false_iff.mpr hshort⟩, FileTree.writeText_spec hwrite⟩

/-- Saving leaves the snapshot in its file, or nothing in it if a text holds half of a character, or
the files as they were. -/
theorem save_cases {result : Except Fault Unit} (h : save tree path sheet = (result, after)) :
    (result = .ok () ∧ tree.Wrote path (Snapshot.ofSheet sheet).fileText after) ∨
    (result = .error .brokenText ∧ (Snapshot.ofSheet sheet).hasHalf = true ∧
      tree.Wrote path "" after) ∨
    (∃ fault, result = .error fault ∧ tree.Extends after) := by
  unfold save at h
  dsimp only at h
  split at h
  · have hmake := tree.extends_makeDirectory path.parent
    split at h <;> rename_i hparent <;> rw [hparent] at hmake <;> cases h <;>
      exact .inr (.inr ⟨_, rfl, hmake⟩)
  · split at h
    · rename_i hwrite
      cases h
      exact .inr (.inr ⟨_, rfl, FileTree.extends_of_writeText hwrite⟩)
    · rename_i hwrite
      cases hhalf : (Snapshot.ofSheet sheet).hasHalf with
      | true =>
        rw [hhalf] at h hwrite
        cases h
        exact .inr (.inl ⟨rfl, rfl, FileTree.writeText_spec hwrite⟩)
      | false =>
        rw [hhalf] at h hwrite
        cases h
        exact .inl ⟨rfl, FileTree.writeText_spec hwrite⟩

/-- What can be written is saved in place of whatever is in the file. -/
theorem exists_save_of_isFileAt {loc : Location} {content : FileContent}
    (h : tree.IsFileAt path loc content) (hwritable : (Snapshot.ofSheet sheet).IsWritable) :
    ∃ after, save tree path sheet = (.ok (), after) ∧
      after.IsFileAt path loc (.text (Snapshot.ofSheet sheet).fileText) ∧
        FileTree.WritesOnly loc tree after := by
  obtain ⟨after, hwrite, hfile, honly⟩ := h.writeText (Snapshot.ofSheet sheet).fileText
  refine ⟨after, ?_, hfile, honly⟩
  rw [save]
  simp only [hwritable.hasLongNumber, hwritable.hasHalf, Bool.false_eq_true, if_false, hwrite]

/-- A snapshot that can be read back is loaded from its file. -/
theorem loadSnapshot_of_isFileAt {loc : Location} {s : Snapshot}
    (h : tree.IsFileAt path loc (.text s.fileText)) (hlegible : s.IsLegible)
    (hversion : s.version ≤ Snapshot.currentVersion) : loadSnapshot tree path = .ok s := by
  obtain ⟨hexists, hread⟩ := h.readText
  rw [loadSnapshot, hexists]
  simp only [hread]
  exact hlegible.parseSnapshot_fileText hversion path

end Tabletop.CharacterFile
