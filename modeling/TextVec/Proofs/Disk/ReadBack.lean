import TextVec.Proofs.Outcome
import TextVec.Disk.FileSystem

/-!
# Reading back files

What was written to a path is read from it. Writing puts a file where there was one or nothing,
never a directory, so the path still leads to the same location.
-/

namespace TextVec.FileSystem

/-- A path that leads somewhere still leads there when a file was put where no directory is. -/
theorem follow_put {files : FileSystem} {location : Location} (entry : Entry)
    (noDirectory : files.find? location ≠ some .directory) {start target : Location}
    {names : List String} (h : files.follow start names = .ok target) :
    (files.put location entry).follow start names = .ok target := by
  induction names generalizing start with
  | nil => exact h
  | cons name rest ih =>
    unfold follow at h ⊢
    -- Every place on the way is a directory, hence not where the file was put.
    cases place : files.find? start with
    | none =>
      rw [place] at h
      cases h
    | some found =>
      cases found with
      | file content =>
        rw [place] at h
        cases h
      | directory =>
        have elsewhere : start ≠ location := fun same => noDirectory (same ▸ place)
        rw [find?_put_of_ne files entry elsewhere, place]
        rw [place] at h
        simp only at h ⊢
        by_cases stay : (name == ".") = true
        · rw [if_pos stay] at h ⊢
          exact ih h
        · rw [if_neg stay] at h ⊢
          by_cases out : (name == "..") = true
          · rw [if_pos out] at h ⊢
            exact ih h
          · rw [if_neg out] at h ⊢
            split at h
            · cases h
            · rename_i short
              rw [if_neg short]
              exact ih h

/-- A path leads where it led after a file was put where no directory is. -/
theorem locate_put {files : FileSystem} {location target : Location} (entry : Entry)
    (noDirectory : files.find? location ≠ some .directory) {path : String}
    (h : files.locate path = .ok target) : (files.put location entry).locate path = .ok target := by
  unfold locate at h ⊢
  split at h
  · cases h
  · rename_i valid
    rw [if_neg valid]
    split at h
    · cases h
    · rename_i some
      rw [if_neg some]
      split at h
      · cases h
      · rename_i short
        rw [if_neg short]
        exact follow_put entry noDirectory h

/-- Writing a file puts it where its path leads, which is no directory. -/
theorem write_eq_ok {files written : FileSystem} {path : String} {content : Bytes}
    (h : files.write path content = .ok written) :
    ∃ location, files.locate path = .ok location ∧ files.find? location ≠ some .directory ∧
      wantsDirectory path = false ∧ written = files.put location (.file content) := by
  unfold write at h
  obtain ⟨location, located, h⟩ := Outcome.bind_eq_ok_iff.mp h
  refine ⟨location, located, ?_⟩
  cases place : files.find? location with
  | none =>
    rw [place] at h
    simp only at h
    split at h
    · cases h
    · rename_i plain
      split at h
      · cases h
        exact ⟨nofun, by simpa using plain, rfl⟩
      · cases h
      · cases h
  | some found =>
    rw [place] at h
    cases found with
    | directory => cases h
    | file old =>
      simp only at h
      split at h
      · cases h
      · rename_i plain
        cases h
        exact ⟨nofun, by simpa using plain, rfl⟩

/-- **A file that was written is read back.** -/
theorem read_of_write {files written : FileSystem} {path : String} {content : Bytes}
    (h : files.write path content = .ok written) : written.read path = .ok content := by
  obtain ⟨location, located, noDirectory, plain, rfl⟩ := write_eq_ok h
  -- The places that are always there are directories, and nothing was written over one.
  have free : isFixed location = false := by
    cases fixed : isFixed location with
    | false => rfl
    | true => exact absurd (by simp [find?, fixed]) noDirectory
  have found := find?_put_self files (.file content) free
  have there := locate_put (.file content) noDirectory located
  simp only [read, lookup, there, found, plain, bind, Except.bind, Bool.false_eq_true, if_false]

end TextVec.FileSystem
