import LiveLint.Proofs.Json.Writing
import LiveLint.Proofs.Settings.Folders
import LiveLint.Settings.Store

/-! # Saving settings

Saving makes folders, prints the data and opens the file, in this order, and the file is not touched
before all three are done. So where saving fails there are more folders at most, and it fails only
where one of the three cannot be done. -/

namespace LiveLint

namespace Disk

variable {d : Disk} {path : Path}

/-- No file can be opened at the path, whatever is to be written. -/
def Closed (d : Disk) (path : Path) : Prop := ∀ bytes, ∃ e, d.write path bytes = .error e

theorem closed_of_write {bytes : List UInt8} {e : DiskError}
    (failed : d.write path bytes = .error e) : d.Closed path := by
  intro other
  cases resolved : d.resolve path with
  | error e' =>
    rw [write, resolved]
    exact ⟨e', rfl⟩
  | ok names =>
    rw [write, resolved] at failed
    rw [write, resolved]
    simp only [bind, Except.bind] at failed ⊢
    split at failed
    next => exact ⟨_, rfl⟩
    next => cases failed

end Disk

namespace Settings.Store

variable (disk : Disk) (s : Store)

/-- Saving cannot be done: a folder cannot be made, the data are too deep to be printed or hold an
integer with too many digits, or the file cannot be opened. -/
def Obstructed : Prop :=
  (disk.makeFolders true s.path.parent).2 ≠ none ∨ Descent.limit < (Value.dict s.data).depth ∨
    (Value.dict s.data).HoldsLong ∨ (disk.makeFolders true s.path.parent).1.Closed s.path

theorem text_of_writable {s : Store} (shallow : (Value.dict s.data).depth ≤ Descent.limit)
    (short : ¬ (Value.dict s.data).HoldsLong) : s.text = .ok (Json.indented (.dict s.data)) := by
  rw [text, Json.unwritable?_eq_none.mpr ⟨shallow, short⟩]

/-- The data are printed, or something in them stops the printing. -/
theorem text_cases (s : Store) :
    ((Value.dict s.data).depth ≤ Descent.limit ∧ s.text = .ok (Json.indented (.dict s.data))) ∨
      (Descent.limit < (Value.dict s.data).depth ∨ (Value.dict s.data).HoldsLong) ∧
        ∃ e, s.text = .error e := by
  cases stops : Json.unwritable? Descent.limit (.dict s.data) with
  | none => exact .inl ⟨(Json.unwritable?_eq_none.mp stops).1, by rw [text, stops]⟩
  | some e =>
    refine .inr ⟨?_, e, by rw [text, stops]⟩
    by_contra writable
    rw [not_or, Nat.not_lt] at writable
    rw [Json.unwritable?_eq_none.mpr writable] at stops
    cases stops

/-- Saving fails and adds folders at most, or it writes the data to the file and changes no other. -/
theorem save_cases :
    (∃ disk' reason, s.save disk = (disk', .error (.notSaved s.path.text reason)) ∧
      disk.Extends disk' ∧ s.Obstructed disk) ∨
      ∃ disk', s.save disk = (disk', .ok { s with dirty := false, lastError := none }) ∧
        (Value.dict s.data).depth ≤ Descent.limit ∧
        disk'.read s.path = .ok (Text.encodeUtf8 (Json.indented (.dict s.data))) ∧
        ∀ names entry, disk'.resolve s.path ≠ .ok names → disk.at? names = some entry →
          disk'.at? names = some entry := by
  have larger := Disk.extends_makeFolders true s.path.parent disk
  unfold save Obstructed
  cases made : disk.makeFolders true s.path.parent with
  | mk disk' error? =>
    rw [made] at larger
    cases error? with
    | some e => exact .inl ⟨disk', _, rfl, larger, .inl (Option.some_ne_none e)⟩
    | none =>
      obtain ⟨shallow, text⟩ | ⟨stops, e, text⟩ := s.text_cases
      · simp only [text]
        cases written : disk'.write s.path (Text.encodeUtf8 (Json.indented (.dict s.data))) with
        | error e =>
          have closed : disk'.Closed s.path := Disk.closed_of_write written
          exact .inl ⟨disk', _, rfl, larger, .inr (.inr (.inr closed))⟩
        | ok disk'' =>
          refine .inr ⟨disk'', rfl, shallow, Disk.read_of_write written, ?_⟩
          intro names entry other found
          rw [Disk.kept_of_write written other]
          exact larger.kept found
      · simp only [text]
        refine .inl ⟨disk', _, rfl, larger, .inr ?_⟩
        rcases stops with deep | long
        · exact .inl deep
        · exact .inr (.inl long)

end Settings.Store
end LiveLint
