import LiveLint.Panel
import Mathlib.Data.List.Induction

/-! # The rows of a panel and what is seen of them

A panel keeps its rows twice: as findings, and as texts in a table that is written cell by cell
when the rows change. The current row belongs to the table alone. Whatever is done with a panel,
the table shows its rows, so the row that is seen is the row that is activated. -/

namespace LiveLint

section

variable {α : Type}

/-- Elements that are written one by one stand where they were written. -/
theorem foldl_set_zipIdx (xs : List α) {n : Nat} {l : List α} (h : n + xs.length ≤ l.length) :
    (xs.zipIdx n).foldl (fun l x => l.set x.2 x.1) l =
      l.take n ++ xs ++ l.drop (n + xs.length) := by
  induction xs generalizing n l with
  | nil => simp
  | cons x xs ih =>
    rw [List.length_cons] at h
    have inside : n < l.length := by omega
    have rest : n + 1 + xs.length ≤ (l.set n x).length := by
      rw [List.length_set]
      omega
    rw [List.zipIdx_cons, List.foldl_cons, ih rest, List.take_add_one,
      List.getElem?_set_self inside, List.take_set_of_le (Nat.le_refl n),
      List.drop_set_of_lt (by omega), List.length_cons]
    simp [Nat.add_comm, Nat.add_left_comm]

/-- A list of the same length is written in place of another. -/
theorem foldl_set_whole {xs l : List α} (h : xs.length = l.length) :
    xs.zipIdx.foldl (fun l x => l.set x.2 x.1) l = xs := by
  rw [foldl_set_zipIdx xs (by omega), Nat.zero_add, h]
  simp

theorem modify_eq_set_of {f : α → α} {x : α} {l : List α} (h : ∀ a ∈ l, f a = x) (n : Nat) :
    l.modify n f = l.set n x := by
  refine List.ext_getElem? fun k => ?_
  rw [List.getElem?_modify, List.getElem?_set']
  split
  next same =>
    cases found : l[k]? with
    | none => rfl
    | some a => exact congrArg some (h a (List.mem_of_getElem? found))
  next => exact Option.map_id_apply

end

namespace Table

/-- The cells of the current row. -/
def currentRow? (t : Table) : Option (List String) := t.current.bind (t.rows[·]?)

/-- Every row has a cell under each header. -/
def Even (t : Table) : Prop := ∀ r ∈ t.rows, r.length = t.headers.length

/-- Writing cells of a row does nothing to anything else. -/
theorem setCells_eq (row : Nat) (cells : List (String × Nat)) (t : Table) :
    cells.foldl (fun t c => t.setCell row c.2 c.1) t =
      { t with rows := t.rows.modify row fun r => cells.foldl (fun r c => r.set c.2 c.1) r } := by
  induction cells generalizing t with
  | nil => exact congrArg (Table.mk t.headers · t.current) (List.modify_id row t.rows).symm
  | cons c cells ih =>
    rw [List.foldl_cons, ih, setCell, List.modify_modify_eq]
    rfl

theorem writeRow_eq {t : Table} (even : t.Even) {cells : List String}
    (width : cells.length = t.headers.length) (row : Nat) :
    t.writeRow row cells = { t with rows := t.rows.set row cells } := by
  rw [writeRow, setCells_eq, modify_eq_set_of fun r hr => ?_]
  exact foldl_set_whole (width.trans (even r hr).symm)

theorem Even.set {t : Table} (even : t.Even) {cells : List String}
    (width : cells.length = t.headers.length) (row : Nat) :
    Even { t with rows := t.rows.set row cells } := by
  intro r hr
  rcases List.mem_or_eq_of_mem_set hr with hr | rfl
  · exact even r hr
  · exact width

theorem setRowCount_even {t : Table} (even : t.Even) (count : Nat) :
    (t.setRowCount count).Even := by
  intro r hr
  rcases List.mem_append.mp hr with hr | hr
  · exact even r (List.mem_of_mem_take hr)
  · rw [List.eq_of_mem_replicate hr, List.length_map]
    rfl

theorem setRowCount_length (count : Nat) (t : Table) :
    (t.setRowCount count).rows.length = count := by
  simp only [setRowCount, List.length_append, List.length_take, List.length_replicate]
  omega

/-- Rows as many as there are take the place of all of them. -/
theorem writeRows_eq {t : Table} (even : t.Even) {rows : List (List String)}
    (widths : ∀ r ∈ rows, r.length = t.headers.length) (count : rows.length = t.rows.length) :
    t.writeRows rows = { t with rows := rows } := by
  have written (k : Nat) : (rows.zipIdx k).foldl (fun t r => t.writeRow r.2 r.1) t =
      { t with rows := (rows.zipIdx k).foldl (fun l r => l.set r.2 r.1) t.rows } := by
    clear count
    induction rows generalizing t k with
    | nil => rfl
    | cons r rows ih =>
      obtain ⟨width, widths⟩ := List.forall_mem_cons.mp widths
      rw [List.zipIdx_cons, List.foldl_cons, writeRow_eq even width,
        ih (even.set width k) widths]
      rfl
  rw [writeRows, written, foldl_set_whole count]

end Table

namespace Panel

/-! ## What a panel shows -/

/-- The table shows the rows. -/
structure Shows (p : Panel) : Prop where
  headers : p.table.headers.length = 6
  rows : p.table.rows = p.rows.map cells

theorem Shows.even {p : Panel} (h : p.Shows) : p.table.Even := by
  intro r hr
  rw [h.rows] at hr
  obtain ⟨a, -, rfl⟩ := List.mem_map.mp hr
  exact h.headers.symm

theorem setRows_table {p : Panel} (h : p.Shows) (rows : List Finding) :
    (p.setRows rows).table = { p.table.setRowCount rows.length with rows := rows.map cells } := by
  refine Table.writeRows_eq (Table.setRowCount_even h.even rows.length) ?_ ?_
  · intro r hr
    obtain ⟨a, -, rfl⟩ := List.mem_map.mp hr
    exact h.headers.symm
  · rw [List.length_map, Table.setRowCount_length]

theorem Shows.setRows {p : Panel} (h : p.Shows) (rows : List Finding) : (p.setRows rows).Shows := by
  constructor <;> rw [setRows_table h]
  · exact h.headers
  · rfl

theorem Shows.step {p : Panel} (h : p.Shows) (a : Step) : (p.step a).value.Shows := by
  cases a with
  | set items => exact h.setRows _
  | clear => exact h.setRows []
  | select row => exact ⟨h.headers, h.rows⟩
  | activate | menu y choice => exact h

/-- Whatever is done with a panel, its table shows its rows. -/
theorem Shows.run {p : Panel} (h : p.Shows) (steps : List Step) : (p.run steps).value.Shows := by
  induction steps generalizing p with
  | nil => exact h
  | cons a steps ih => exact ih (h.step a)

theorem shows_empty : ({} : Panel).Shows := ⟨rfl, rfl⟩

/-- The row that is activated is the one that the table shows as the current one. -/
theorem Shows.selected {p : Panel} (h : p.Shows) :
    p.selected?.map cells = p.table.currentRow? := by
  rw [selected?, Table.currentRow?, h.rows, Option.map_bind]
  exact congrArg p.table.current.bind (funext fun _ => List.getElem?_map.symm)

/-- What comes of an activation is the place that the table shows in the current row. -/
theorem Shows.activate {p : Panel} (h : p.Shows) {r : List String}
    (current : p.table.currentRow? = some r) :
    ∃ place, p.activate = some (.activated place) ∧
      r[1]? = some (toString place.line) ∧ r[2]? = some (toString place.column) := by
  rw [← h.selected] at current
  obtain ⟨a, selected, rfl⟩ := Option.map_eq_some_iff.mp current
  exact ⟨a.range.start, congrArg _ selected, rfl, rfl⟩

theorem Shows.activate_eq_none {p : Panel} (h : p.Shows) (current : p.table.currentRow? = none) :
    p.activate = none := by
  rw [← h.selected, Option.map_eq_none_iff] at current
  exact congrArg _ current

/-! ## The current row -/

/-- If a row is the current one, it is a row of the panel. -/
def Within (p : Panel) : Prop := ∀ row, p.table.current = some row → row < p.rows.length

theorem within_setRows {p : Panel} (h : p.Shows) (rows : List Finding) :
    (p.setRows rows).Within := by
  intro row current
  have kept : (if rows.length = 0 then none else p.table.current.map (min · (rows.length - 1))) =
      some row := by
    rwa [setRows_table h] at current
  show row < rows.length
  split at kept
  next => cases kept
  next some_left =>
    obtain ⟨before, -, rfl⟩ := Option.map_eq_some_iff.mp kept
    omega

theorem within_select {p : Panel} (h : p.Shows) (row : Int) : (p.select row).Within := by
  intro chosen current
  have inside : (if 0 ≤ row && row < p.table.rows.length then some row.toNat else none) =
      some chosen := current
  have size : p.table.rows.length = p.rows.length := by rw [h.rows, List.length_map]
  show chosen < p.rows.length
  split at inside
  next found =>
    obtain rfl := Option.some.inj inside
    simp only [Bool.and_eq_true, decide_eq_true_eq] at found
    omega
  next => cases inside

theorem Within.step {p : Panel} (within : p.Within) (h : p.Shows) (a : Step) :
    (p.step a).value.Within := by
  cases a with
  | set items => exact within_setRows h _
  | clear => exact within_setRows h []
  | select row => exact within_select h row
  | activate | menu y choice => exact within

theorem Within.run {p : Panel} (within : p.Within) (h : p.Shows) (steps : List Step) :
    (p.run steps).value.Within := by
  induction steps generalizing p with
  | nil => exact within
  | cons a steps ih => exact ih (within.step h a) (h.step a)

theorem within_empty : ({} : Panel).Within := fun _ current => by cases current

/-! ## The list that is shown -/

/-- The list that a step sets, if it sets one. -/
def Step.items? : Step → Option (List Item)
  | .set items => some items
  | .clear => some []
  | _ => none

/-- The rows for a list. -/
def rowsOf (items : List Item) : List Finding := allFindings (group (items.filterMap (·.finding?)))

theorem step_rows (a : Step) (p : Panel) :
    (p.step a).value.rows = (a.items?.map rowsOf).getD p.rows := by
  cases a <;> rfl

/-- The rows are those of the list that was set last. -/
theorem run_rows (steps : List Step) (p : Panel) :
    (p.run steps).value.rows = ((steps.filterMap Step.items?).getLast?.map rowsOf).getD p.rows := by
  induction steps using List.reverseRecOn with
  | nil => rfl
  | append_singleton steps a ih =>
    have last : (p.run (steps ++ [a])).value = ((p.run steps).value.step a).value := by
      simp [run, List.foldlM_append]
    rw [last, step_rows, ih, List.filterMap_append]
    cases h : a.items? with
    | none => simp [h]
    | some items => simp [h]

end Panel
end LiveLint
