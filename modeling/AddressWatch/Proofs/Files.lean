/-
  AddressWatch.Proofs.Files

  A file that was written is read back. Writing changes what is at one place, which is no directory,
  so every way through directories that led there still does (`walk_put`).
-/

import AddressWatch.Files
import AddressWatch.Proofs.Text.Utf8

namespace AddressWatch.Files

variable {fs fs' : Files} {inner : List (List Char)} {bytes : List UInt8}

/-! ## What is at a place after a file was put -/

theorem entry?_put (hinner : inner ≠ []) :
    Files.entry? (fs.put inner bytes) (.inside inner) = some (.file bytes) := by
  have hnonempty : inner.isEmpty = false := List.isEmpty_eq_false_iff.mpr hinner
  simp [put, entry?, hnonempty]

/-- What is under another path is not touched. -/
theorem lookup_put_of_ne {path : List (List Char)} (hpath : path ≠ inner) :
    (fs.put inner bytes).entries.lookup path = fs.entries.lookup path := by
  rw [put, List.lookup_cons, beq_eq_false_iff_ne.mpr hpath]
  simp only
  induction fs.entries with
  | nil => rfl
  | cons e es ih =>
      obtain ⟨key, entry⟩ := e
      by_cases hkey : key = inner
      · rw [List.filter_cons_of_neg (by simp [hkey]), ih, List.lookup_cons, hkey,
          beq_eq_false_iff_ne.mpr hpath]
      · rw [List.filter_cons_of_pos (by simp [hkey]), List.lookup_cons, List.lookup_cons, ih]

/-- What lay in a directory still does, or the new file does in its place. -/
theorem any_put {path : List (List Char)}
    (hany : fs.entries.any (fun e => path.isPrefixOf e.1) = true) :
    (fs.put inner bytes).entries.any (fun e => path.isPrefixOf e.1) = true := by
  rw [List.any_eq_true] at hany ⊢
  obtain ⟨e, he, hprefix⟩ := hany
  by_cases hkey : e.1 = inner
  · exact ⟨(inner, .file bytes), List.mem_cons_self, hkey ▸ hprefix⟩
  · refine ⟨e, List.mem_cons_of_mem _ (List.mem_filter.mpr ⟨he, ?_⟩), hprefix⟩
    simpa using hkey

/-- A directory stays one, unless the file was put in its place. -/
theorem entry?_put_of_directory {place : Place} (hplace : fs.entry? place = some .directory)
    (hother : place ≠ .inside inner) :
    Files.entry? (fs.put inner bytes) place = some .directory := by
  cases place with
  | around => rfl
  | unknown => cases hplace
  | inside path =>
      have hpath : path ≠ inner := fun h => hother (h ▸ rfl)
      rw [ entry?] at hplace ⊢
      by_cases hempty : path.isEmpty = true
      · rw [if_pos hempty]
      · rw [if_neg hempty] at hplace ⊢
        rw [lookup_put_of_ne hpath]
        cases hlookup : fs.entries.lookup path with
        | some e =>
            rw [hlookup] at hplace
            exact hplace
        | none =>
            rw [hlookup] at hplace
            simp only at hplace ⊢
            split at hplace
            · next hany => rw [if_pos (any_put hany)]
            · cases hplace

/-! ## Ways -/

/-- Where no directory is replaced, every way leads where it led. -/
theorem walk_put (hfile : fs.entry? (.inside inner) ≠ some .directory) {place final : Place}
    {pieces : List (List Char)} (hwalk : fs.walk place pieces = .ok final) :
    (fs.put inner bytes).walk place pieces = .ok final := by
  induction pieces generalizing place with
  | nil => exact hwalk
  | cons piece rest ih =>
      rw [walk] at hwalk ⊢
      -- Every place on the way, but not its end, is a directory, and so not the place of the file.
      cases hplace : fs.entry? place with
      | none =>
          rw [hplace] at hwalk
          cases hwalk
      | some e =>
          rw [hplace] at hwalk
          cases e with
          | file other => cases hwalk
          | directory =>
              have hother : place ≠ .inside inner := fun h => hfile (h ▸ hplace)
              rw [entry?_put_of_directory hplace hother]
              simp only at hwalk ⊢
              split at hwalk
              · cases hwalk
              · next hshort =>
                  rw [if_neg hshort]
                  exact ih hwalk

theorem locate_put (hfile : fs.entry? (.inside inner) ≠ some .directory) {path : List Char}
    {final : Place} (hlocate : fs.locate path = .ok final) :
    (fs.put inner bytes).locate path = .ok final := by
  rw [locate.eq_def] at hlocate ⊢
  split at hlocate
  · cases hlocate
  · exact walk_put hfile hlocate
  · exact walk_put hfile hlocate

/-! ## Writing and reading -/

/-- A file is written only in place of a file or of nothing, at a place in the working directory. -/
theorem exists_put_of_write {path : List Char} (hwrite : fs.write path bytes = .ok fs') :
    ∃ inner, path.contains '\x00' = false ∧ fs.locate path = .ok (.inside inner) ∧
      fs.entry? (.inside inner) ≠ some .directory ∧ fs' = fs.put inner bytes := by
  rw [write] at hwrite
  split at hwrite
  · cases hwrite
  · next hzero =>
      split at hwrite
      · cases hwrite
      · next place hlocate =>
          split at hwrite
          · cases hwrite
          · next inner hfile =>
              split at hwrite
              · cases hwrite
              · cases hwrite
                exact ⟨inner, by simpa using hzero, hlocate, hfile, rfl⟩
          · cases hwrite

/-- A file that was written is read back. -/
theorem read_of_write {path : List Char} (hwrite : fs.write path bytes = .ok fs') :
    fs'.read path = .ok bytes := by
  obtain ⟨inner, hzero, hlocate, hfile, rfl⟩ := exists_put_of_write hwrite
  have hinner : inner ≠ [] := by
    rintro rfl
    exact hfile rfl
  rw [read, hzero, if_neg Bool.false_ne_true, locate_put hfile hlocate]
  simp only
  rw [entry?_put hinner]

/-- So is the text of a file. -/
theorem readText_of_write {path text : List Char}
    (hwrite : fs.write path (Text.utf8 text) = .ok fs') : fs'.readText path = .ok text := by
  rw [readText, read_of_write hwrite]
  simp only
  rw [textOf, Text.decode?_utf8]

end AddressWatch.Files
