import CatalogBench.Library.ListRel
import CatalogBench.PyIceberg.Workflow

/-!
# Rows that can be written and read back

Which rows the functions of the probe accept, and what becomes of the rows they return.
-/

set_option linter.all false

namespace CatalogBench.PyIceberg
open Interaction

variable {libraries : PyLibraries}

/-- The row has an id that `int` can read. -/
def Keyed (libraries : PyLibraries) (row : Row) : Prop := ∃ id, rowId libraries row = .ok id

def Row.finite (row : Row) : Bool := row.toList.all fun entry => entry.2.finite

-- ════════════════════════════════
-- Pairs of an id and its row
-- ════════════════════════════════

/-- A row with its id, as `canonicalRows` and `survivingRows` compute it. -/
def keyedRow (libraries : PyLibraries) (row : Row) : Except PyError (ℤ × Row) := do
  let id ← rowId libraries row
  return (id, row)

theorem keyedRow_eq_ok {row : Row} {entry : ℤ × Row} :
    keyedRow libraries row = .ok entry ↔ rowId libraries row = .ok entry.1 ∧ entry.2 = row := by
  unfold keyedRow
  constructor
  · intro h
    obtain ⟨id, hid, hentry⟩ := except_bind_eq_ok.mp h
    obtain rfl := Except.ok.inj hentry
    exact ⟨hid, rfl⟩
  · obtain ⟨id, row'⟩ := entry
    rintro ⟨hid, rfl⟩
    rw [hid]
    rfl

theorem mapM_keyedRow {rows : List Row} {keyed : List (ℤ × Row)}
    (h : rows.mapM (keyedRow libraries) = .ok keyed) :
    keyed.map Prod.snd = rows ∧ ∀ entry ∈ keyed, rowId libraries entry.2 = .ok entry.1 := by
  have hpairs := except_mapM_forall₂ h
  clear h
  induction hpairs with
  | nil => exact ⟨rfl, fun _ h => absurd h List.not_mem_nil⟩
  | cons hentry _ ih =>
    obtain ⟨hid, hrow⟩ := keyedRow_eq_ok.mp hentry
    refine ⟨by rw [List.map_cons, hrow, ih.1], ?_⟩
    intro entry hmem
    rcases List.mem_cons.mp hmem with rfl | hmem
    · rw [hrow]
      exact hid
    · exact ih.2 entry hmem

theorem mapM_keyedRow_exists {rows : List Row} (h : ∀ row ∈ rows, Keyed libraries row) :
    ∃ keyed, rows.mapM (keyedRow libraries) = .ok keyed := by
  apply except_mapM_of_exists
  intro row hrow
  obtain ⟨id, hid⟩ := h row hrow
  exact ⟨(id, row), keyedRow_eq_ok.mpr ⟨hid, rfl⟩⟩

-- ════════════════════════════════
-- Canonical rows
-- ════════════════════════════════

/-- `canonicalRows` sorts the rows by id, which it can read of every row. -/
theorem canonicalRows_eq_ok {rows canonical : List Row}
    (h : canonicalRows libraries rows = .ok canonical) :
    canonical.Perm rows ∧ ∀ row ∈ rows, Keyed libraries row := by
  obtain ⟨keyed, hkeyed, hsorted⟩ := except_bind_eq_ok.mp h
  obtain rfl := Except.ok.inj hsorted
  obtain ⟨hrows, hids⟩ := mapM_keyedRow hkeyed
  constructor
  · rw [← hrows]
    exact (List.perm_insertionSort _ keyed).map Prod.snd
  · rw [← hrows]
    intro row hrow
    obtain ⟨entry, hentry, rfl⟩ := List.mem_map.mp hrow
    exact ⟨entry.1, hids entry hentry⟩

theorem canonicalRows_exists {rows : List Row} (h : ∀ row ∈ rows, Keyed libraries row) :
    ∃ canonical, canonicalRows libraries rows = .ok canonical := by
  obtain ⟨keyed, hkeyed⟩ := mapM_keyedRow_exists h
  exact except_bind_exists hkeyed ⟨_, rfl⟩

/-- Keyed rows whose canonical order has a digest can be observed. -/
theorem rowObservation_exists {rows : List Row} (h : ∀ row ∈ rows, Keyed libraries row)
    (hdigest : ∀ canonical, canonical.Perm rows →
      ∃ digest, libraries.rowDigest canonical = .ok digest) :
    ∃ observation, rowObservation libraries rows = .ok observation := by
  obtain ⟨canonical, hcanonical⟩ := canonicalRows_exists h
  obtain ⟨hperm, -⟩ := canonicalRows_eq_ok hcanonical
  obtain ⟨digest, hd⟩ := hdigest canonical hperm
  have hids : ∃ ids, canonical.mapM (rowId libraries) = .ok ids :=
    except_mapM_of_exists fun row hrow => h row (hperm.mem_iff.mp hrow)
  obtain ⟨ids, hids⟩ := hids
  exact except_bind_exists hcanonical (except_bind_exists hd (except_bind_exists hids ⟨_, rfl⟩))

-- ════════════════════════════════
-- Rows of a batch
-- ════════════════════════════════

theorem generatedRow_eq_ok {hasNote : Bool} {id : ℤ} {row : Row}
    (h : generatedRow libraries hasNote id = .ok row) :
    rowId libraries row = .ok id ∧ row.finite = true := by
  obtain ⟨amount, -, hrow⟩ := except_bind_eq_ok.mp h
  obtain rfl := Except.ok.inj hrow
  cases hasNote
  · constructor
    · rfl
    · rfl
  · constructor
    · rfl
    · rfl

theorem batch_eq_ok {table : PyTable} {start : ℤ} {count : ℕ} {rows : List Row}
    (h : batch libraries table start count = .ok rows) :
    List.Forall₂ (fun id row => generatedRow libraries (decide ("note" ∈ table.view.schemaNames))
      id = .ok row) (idRange start count) rows := by
  obtain ⟨generated, hgenerated, h⟩ := except_bind_eq_ok.mp h
  obtain ⟨_, -, hrows⟩ := except_bind_eq_ok.mp h
  obtain rfl := Except.ok.inj hrows
  exact except_mapM_forall₂ hgenerated

theorem forall_batch {table : PyTable} {start : ℤ} {count : ℕ} {rows : List Row}
    (h : batch libraries table start count = .ok rows) :
    ∀ row ∈ rows, Keyed libraries row ∧ row.finite = true := by
  intro row hrow
  obtain ⟨id, -, hid⟩ := ListRel.forall₂_mem_right (batch_eq_ok h) hrow
  obtain ⟨hkey, hfinite⟩ := generatedRow_eq_ok hid
  exact ⟨⟨id, hkey⟩, hfinite⟩

-- ════════════════════════════════
-- Rows that are changed
-- ════════════════════════════════

theorem rowId_insert_note (row : Row) :
    rowId libraries (row.insert "note" .none) = rowId libraries row := by
  have hlookup : (row.insert "note" PyValue.none)["id"]? = row["id"]? := by
    rw [Std.ExtTreeMap.getElem?_insert, if_neg (by decide)]
  unfold rowId
  rw [hlookup]

theorem finite_insert_note {row : Row} (h : row.finite = true) :
    Row.finite (row.insert "note" .none) = true := by
  unfold Row.finite at h ⊢
  rw [List.all_eq_true] at h ⊢
  rintro ⟨key, value⟩ hentry
  have hlookup := Std.ExtTreeMap.mem_toList_iff_getElem?_eq_some.mp hentry
  rw [Std.ExtTreeMap.getElem?_insert] at hlookup
  split at hlookup
  · rw [← Option.some.inj hlookup]
    rfl
  · exact h (key, value) (Std.ExtTreeMap.mem_toList_iff_getElem?_eq_some.mpr hlookup)

theorem survivingRows_eq_ok {rows surviving : List Row}
    (h : survivingRows libraries rows = .ok surviving) : ∀ row ∈ surviving, row ∈ rows := by
  obtain ⟨keyed, hkeyed, hkept⟩ := except_bind_eq_ok.mp h
  obtain rfl := Except.ok.inj hkept
  obtain ⟨hrows, -⟩ := mapM_keyedRow hkeyed
  intro row hrow
  obtain ⟨entry, hentry, rfl⟩ := List.mem_map.mp hrow
  rw [← hrows]
  exact List.mem_map_of_mem (List.mem_of_mem_filter hentry)

end CatalogBench.PyIceberg
