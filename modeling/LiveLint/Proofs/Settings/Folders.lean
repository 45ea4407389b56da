import LiveLint.Settings.Disk

/-! # Making folders and writing files

Making folders only adds to a disk, so whatever a path leads to stays where it is, even where
making them fails half-way. A file that was written is read back from its path: the path leads
there through folders, and the file is none of them. -/

namespace LiveLint

/-- What is read of an entry. -/
def DiskEntry.contents (path : Path) : DiskEntry → Except DiskError (List UInt8)
  | .file bytes => .ok bytes
  | .folder => .error (.isFolder path)

namespace Disk

variable {d d' : Disk}

/-- Everything is where it was. -/
structure Extends (d d' : Disk) : Prop where
  working : d'.working = d.working
  kept : ∀ {names entry}, d.at? names = some entry → d'.at? names = some entry

theorem Extends.refl (d : Disk) : d.Extends d := ⟨rfl, id⟩

theorem Extends.trans {d'' : Disk} (h : d.Extends d') (h' : d'.Extends d'') : d.Extends d'' :=
  ⟨h'.working.trans h.working, fun found => h'.kept (h.kept found)⟩

/-! ## Entries -/

theorem at?_put_self {names : List String} (h : names ≠ []) (d : Disk) (e : DiskEntry) :
    (d.put names e).at? names = some e := by
  simp [at?, put, h]

theorem at?_put_other {names other : List String} (h : other ≠ names) (d : Disk) (e : DiskEntry) :
    (d.put names e).at? other = d.at? other := by
  have skipped : (names == other) = false := beq_eq_false_iff_ne.mpr (Ne.symm h)
  have kept : (d.entries.filter (·.1 != names)).find? (·.1 == other) =
      d.entries.find? (·.1 == other) := by
    rw [List.find?_filter]
    congr 1
    funext p
    by_cases here : p.1 = other
    · simp [here, h]
    · simp [here]
  simp only [at?, put, List.find?_cons, skipped, kept]

theorem extends_put {names : List String} (h : d.at? names = none) (e : DiskEntry) :
    d.Extends (d.put names e) := by
  refine ⟨rfl, fun {other entry} found => ?_⟩
  have different : other ≠ names := by
    rintro rfl
    rw [h] at found
    cases found
  rw [at?_put_other different, found]

/-! ## Folders -/

theorem extends_makeFolder {mayExist : Bool} {path : Path}
    (h : d.makeFolder mayExist path = .ok d') : d.Extends d' := by
  unfold makeFolder at h
  split at h
  next made =>
    obtain rfl := Except.ok.inj h
    unfold makeFolder.made at made
    cases resolved : d.resolve path with
    | error e => rw [resolved] at made; cases made
    | ok names =>
      rw [resolved] at made
      cases found : d.at? names with
      | some entry => simp [bind, Except.bind, found] at made
      | none =>
        simp only [bind, Except.bind, found] at made
        obtain rfl := Except.ok.inj made
        exact extends_put found .folder
  next =>
    split at h
    · obtain rfl := Except.ok.inj h
      exact .refl d
    · cases h

theorem extends_makeAncestry (mayExist : Bool) (d : Disk) (levels : Nat) (paths : List Path) :
    d.Extends (d.makeAncestry mayExist levels paths).1 := by
  induction levels generalizing mayExist d paths with
  | zero => cases paths <;> exact .refl d
  | succ levels ih =>
    cases paths with
    | nil => exact .refl d
    | cons path above =>
      rw [makeAncestry]
      split
      next made => exact extends_makeFolder made
      next =>
        split
        · exact .refl d
        have above := ih true d above
        split
        next e => exact e ▸ above
        next e =>
          rw [e] at above
          split
          next made => exact above.trans (extends_makeFolder made)
          next => exact above
      next => exact .refl d

theorem extends_makeFolders (mayExist : Bool) (path : Path) (d : Disk) :
    d.Extends (d.makeFolders mayExist path).1 := extends_makeAncestry _ _ _ _

/-! ## Paths -/

/-- No folder is missing on the way. -/
def Arrives (result : Except DiskError (List String)) : Prop :=
  ∀ path, result ≠ .error (.missing path) ∧ result ≠ .error (.noFolder path)

theorem arrives_ok (names : List String) : Arrives (.ok names) := by
  intro path
  exact ⟨fun e => (by cases e), fun e => (by cases e)⟩

theorem arrives_tooLong (path : Path) : Arrives (.error (.tooLong path)) := by
  intro path
  exact ⟨fun e => (by cases e), fun e => (by cases e)⟩

/-- Where folders stay folders, a path leads where it led. -/
theorem walk_of_folders
    (h : ∀ {names}, d.at? names = some .folder → d'.at? names = some .folder)
    {path : Path} {folder parts : List String} (arrives : Arrives (d.walk path folder parts)) :
    d'.walk path folder parts = d.walk path folder parts := by
  induction parts generalizing folder with
  | nil => rfl
  | cons name rest ih =>
    rw [walk] at arrives
    rw [walk, walk]
    split
    next => rfl
    next short =>
      rw [if_neg short] at arrives
      split
      next => rfl
      next more =>
        rw [if_neg more] at arrives
        split at arrives
        next inside => rw [h inside]; exact ih arrives
        next => exact absurd rfl (arrives path).2
        next => exact absurd rfl (arrives path).1

theorem resolve_of_folders (working : d'.working = d.working)
    (h : ∀ {names}, d.at? names = some .folder → d'.at? names = some .folder)
    {path : Path} (arrives : Arrives (d.resolve path)) : d'.resolve path = d.resolve path := by
  unfold resolve at arrives ⊢
  split
  next => rfl
  next plain =>
    rw [if_neg plain] at arrives
    split
    next => rfl
    next short =>
      rw [if_neg short] at arrives
      rw [working]
      exact walk_of_folders h arrives

theorem Extends.resolve (h : d.Extends d') {path : Path} (arrives : Arrives (d.resolve path)) :
    d'.resolve path = d.resolve path := resolve_of_folders h.working h.kept arrives

theorem lookUp_eq_some_iff {path : Path} {entry : DiskEntry} :
    d.lookUp path = .ok (some entry) ↔
      ∃ names, d.resolve path = .ok names ∧ d.at? names = some entry := by
  unfold lookUp
  constructor
  · intro h
    split at h
    next names resolved => exact ⟨names, resolved, Except.ok.inj h⟩
    next => cases h
    next => cases h
  · rintro ⟨names, resolved, found⟩
    rw [resolved, ← found]

/-- **What a path leads to stays there.** -/
theorem Extends.lookUp (h : d.Extends d') {path : Path} {entry : DiskEntry}
    (found : d.lookUp path = .ok (some entry)) : d'.lookUp path = .ok (some entry) := by
  obtain ⟨names, resolved, found⟩ := lookUp_eq_some_iff.mp found
  have same := h.resolve (resolved ▸ arrives_ok names)
  exact lookUp_eq_some_iff.mpr ⟨names, same.trans resolved, h.kept found⟩

/-- What cannot be looked up stays so. -/
theorem Extends.lookUp_error (h : d.Extends d') {path : Path} {e : DiskError}
    (failed : d.lookUp path = .error e) : d'.lookUp path = .error e := by
  unfold Disk.lookUp at failed ⊢
  cases resolved : d.resolve path with
  | ok names => rw [resolved] at failed; cases failed
  | error cause =>
    rw [resolved] at failed
    cases cause with
    | tooLong p => rw [h.resolve (resolved ▸ arrives_tooLong p), resolved]; exact failed
    | missing _ | «exists» _ | noFolder _ | isFolder _ | tooDeep | nullCharacter => cases failed

/-! ## Files -/

theorem read_of_lookUp {path : Path} {entry : DiskEntry} (h : d.lookUp path = .ok (some entry)) :
    d.read path = entry.contents path := by
  obtain ⟨names, resolved, found⟩ := lookUp_eq_some_iff.mp h
  rw [read, resolved]
  simp only [bind, Except.bind, found]
  cases entry <;> rfl

theorem lookUp_of_read {path : Path} {bytes : List UInt8} (h : d.read path = .ok bytes) :
    d.lookUp path = .ok (some (.file bytes)) := by
  cases resolved : d.resolve path with
  | error e => rw [read, resolved] at h; cases h
  | ok names =>
    refine lookUp_eq_some_iff.mpr ⟨names, resolved, ?_⟩
    rw [read, resolved] at h
    simp only [bind, Except.bind] at h
    split at h
    next found => rw [found, Except.ok.inj h]
    next => cases h
    next => cases h

theorem Extends.read (h : d.Extends d') {path : Path} {entry : DiskEntry}
    (found : d.lookUp path = .ok (some entry)) : d'.read path = d.read path := by
  rw [read_of_lookUp found, read_of_lookUp (h.lookUp found)]

/-- Writing puts a file where the path leads, and the path leads there afterwards. -/
theorem write_cases {path : Path} {bytes : List UInt8} (h : d.write path bytes = .ok d') :
    ∃ names, d' = d.put names (.file bytes) ∧ d'.resolve path = .ok names ∧ names ≠ [] := by
  cases resolved : d.resolve path with
  | error e => rw [write, resolved] at h; cases h
  | ok names =>
    have noFolder : d.at? names ≠ some .folder := by
      intro found
      rw [write, resolved] at h
      simp only [bind, Except.bind, found] at h
      cases h
    have written : d' = d.put names (.file bytes) := by
      rw [write, resolved] at h
      simp only [bind, Except.bind] at h
      exact (Except.ok.inj h).symm
    have filled : names ≠ [] := by
      rintro rfl
      exact noFolder rfl
    have working : (d.put names (.file bytes)).working = d.working := rfl
    have same : (d.put names (.file bytes)).resolve path = d.resolve path := by
      refine resolve_of_folders working (fun {other} found => ?_) (resolved ▸ arrives_ok names)
      have different : other ≠ names := by
        rintro rfl
        exact noFolder found
      rw [at?_put_other different, found]
    exact ⟨names, written, written ▸ same.trans resolved, filled⟩

/-- **What was written is read back.** -/
theorem read_of_write {path : Path} {bytes : List UInt8} (h : d.write path bytes = .ok d') :
    d'.read path = .ok bytes := by
  obtain ⟨names, rfl, resolved, filled⟩ := write_cases h
  have found := lookUp_eq_some_iff.mpr ⟨names, resolved, at?_put_self filled d (.file bytes)⟩
  exact read_of_lookUp found

/-- Writing changes nothing but the file that the path leads to. -/
theorem kept_of_write {path : Path} {bytes : List UInt8} (h : d.write path bytes = .ok d')
    {names : List String} (other : d'.resolve path ≠ .ok names) : d'.at? names = d.at? names := by
  obtain ⟨there, rfl, resolved, -⟩ := write_cases h
  have different : names ≠ there := by
    rintro rfl
    exact other resolved
  exact at?_put_other different d (.file bytes)

end Disk
end LiveLint
