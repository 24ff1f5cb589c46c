import CatalogBench.PyIceberg.Rows

/-!
# The ids of rows

Rows are compared in the order of their ids. What the comparison says about the ids alone: two
lists of rows that compare equal have the same ids, each as often.
-/

set_option linter.all false

namespace CatalogBench.PyIceberg
open Interaction

variable {libraries : PyLibraries}

/-- The ids of the rows are these, in this order. -/
def HasIds (libraries : PyLibraries) (rows : List Row) (ids : List ℤ) : Prop :=
  rows.mapM (rowId libraries) = .ok ids

theorem hasIds_iff {rows : List Row} {ids : List ℤ} :
    HasIds libraries rows ids ↔ List.Forall₂ (fun row id => rowId libraries row = .ok id) rows ids :=
  ⟨except_mapM_forall₂, except_mapM_of_forall₂⟩

theorem hasIds_append {rows rows' : List Row} {ids ids' : List ℤ} (h : HasIds libraries rows ids)
    (h' : HasIds libraries rows' ids') : HasIds libraries (rows ++ rows') (ids ++ ids') :=
  hasIds_iff.mpr (List.rel_append (hasIds_iff.mp h) (hasIds_iff.mp h'))

-- ════════════════════════════════
-- Ranges
-- ════════════════════════════════

theorem length_idRange (start : ℤ) (count : ℕ) : (idRange start count).length = count := by
  unfold idRange
  rw [List.length_map, List.length_range]

theorem mem_idRange {start id : ℤ} {count : ℕ} :
    id ∈ idRange start count ↔ start ≤ id ∧ id < start + count := by
  unfold idRange
  rw [List.mem_map]
  constructor
  · rintro ⟨n, hn, rfl⟩
    have := List.mem_range.mp hn
    omega
  · rintro ⟨hle, hlt⟩
    exact ⟨(id - start).toNat, List.mem_range.mpr (by omega), by omega⟩

theorem pairwise_idRange (start : ℤ) (count : ℕ) : (idRange start count).Pairwise (· < ·) := by
  unfold idRange
  refine List.pairwise_map.mpr (List.pairwise_lt_range.imp fun h => ?_)
  omega

/-- A strictly growing list is the range of its members. -/
theorem eq_idRange {ids : List ℤ} {start : ℤ} {count : ℕ} (h : ids.Pairwise (· < ·))
    (hmem : ∀ id, id ∈ ids ↔ start ≤ id ∧ id < start + count) : ids = idRange start count := by
  have hperm : ids.Perm (idRange start count) := by
    refine (List.perm_ext_iff_of_nodup (h.imp fun hlt => ne_of_lt hlt)
      ((pairwise_idRange start count).imp fun hlt => ne_of_lt hlt)).mpr fun id => ?_
    rw [hmem, mem_idRange]
  exact hperm.eq_of_pairwise (fun a b _ _ hab hba => absurd hab (lt_asymm hba)) h
    (pairwise_idRange start count)

theorem idRange_append (start : ℤ) (m n : ℕ) :
    idRange start m ++ idRange (start + m) n = idRange start (m + n) := by
  apply eq_idRange
  · refine List.pairwise_append.mpr ⟨pairwise_idRange _ _, pairwise_idRange _ _, ?_⟩
    intro a ha b hb
    have h₁ := mem_idRange.mp ha
    have h₂ := mem_idRange.mp hb
    omega
  · intro id
    rw [List.mem_append, mem_idRange, mem_idRange]
    omega

theorem filter_idRange (start bound : ℤ) (count : ℕ) (h : start ≤ bound) :
    (idRange start count).filter (fun id => bound ≤ id) =
      idRange bound (start + count - bound).toNat := by
  apply eq_idRange
  · exact (pairwise_idRange start count).filter _
  · intro id
    rw [List.mem_filter, mem_idRange, decide_eq_true_iff]
    omega

theorem max_idRange (start : ℤ) (count : ℕ) :
    (idRange start (count + 1)).max? = some (start + count) := by
  rw [List.max?_eq_some_iff]
  constructor
  · exact mem_idRange.mpr (by omega)
  · intro id hid
    have := mem_idRange.mp hid
    omega

-- ════════════════════════════════
-- What the functions do to ids
-- ════════════════════════════════

theorem batch_hasIds {table : PyTable} {start : ℤ} {count : ℕ} {rows : List Row}
    (h : batch libraries table start count = .ok rows) :
    HasIds libraries rows (idRange start count) := by
  refine hasIds_iff.mpr ((batch_eq_ok h).flip.imp ?_)
  intro row id hrow
  exact (generatedRow_eq_ok hrow).1

theorem note_hasIds {rows : List Row} {ids : List ℤ} (h : HasIds libraries rows ids) :
    HasIds libraries (rows.map fun row => row.insert "note" .none) ids := by
  refine hasIds_iff.mpr (List.forall₂_map_left_iff.mpr ((hasIds_iff.mp h).imp ?_))
  intro row id hid
  rw [rowId_insert_note]
  exact hid

theorem nextId_hasIds {rows : List Row} {ids : List ℤ} {next : ℤ} (h : HasIds libraries rows ids)
    (hnext : nextId libraries rows = .ok next) : next = ids.max?.getD (-1) + 1 := by
  obtain ⟨ids', hids, hmax⟩ := except_bind_eq_ok.mp hnext
  obtain rfl := Except.ok.inj (hids.symm.trans h)
  exact (Except.ok.inj hmax).symm

/-- After rows from `start` on come those that follow. -/
theorem nextId_idRange {rows : List Row} {start next : ℤ} {count : ℕ} (hcount : 0 < count)
    (h : HasIds libraries rows (idRange start count)) (hnext : nextId libraries rows = .ok next) :
    next = start + count := by
  obtain ⟨n, rfl⟩ := Nat.exists_eq_succ_of_ne_zero hcount.ne'
  rw [nextId_hasIds h hnext, max_idRange, Option.getD_some]
  push_cast
  ring

/-- The ids of a table without rows start at zero. -/
theorem nextId_idRange_zero {rows : List Row} {next : ℤ} {count : ℕ}
    (h : HasIds libraries rows (idRange 0 count)) (hnext : nextId libraries rows = .ok next) :
    next = 0 + count := by
  by_cases hcount : 0 < count
  · exact nextId_idRange hcount h hnext
  · obtain rfl := Nat.eq_zero_of_not_pos hcount
    rw [nextId_hasIds h hnext]
    rfl

theorem mapM_keyedRow_ids {rows : List Row} {keyed : List (ℤ × Row)} {ids : List ℤ}
    (h : HasIds libraries rows ids) (hkeyed : rows.mapM (keyedRow libraries) = .ok keyed) :
    keyed.map Prod.fst = ids := by
  obtain ⟨hrows, hids⟩ := mapM_keyedRow hkeyed
  have hpairs : List.Forall₂ (fun row id => rowId libraries row = .ok id) (keyed.map Prod.snd)
      (keyed.map Prod.fst) := by
    rw [List.forall₂_map_left_iff, List.forall₂_map_right_iff]
    exact List.forall₂_same.mpr hids
  rw [hrows] at hpairs
  exact Except.ok.inj ((hasIds_iff.mpr hpairs).symm.trans h)

theorem survivingRows_hasIds {rows surviving : List Row} {ids : List ℤ}
    (h : HasIds libraries rows ids) (hsurviving : survivingRows libraries rows = .ok surviving) :
    HasIds libraries surviving (ids.filter fun id => 4 ≤ id) := by
  obtain ⟨keyed, hkeyed, hkept⟩ := except_bind_eq_ok.mp hsurviving
  obtain rfl := Except.ok.inj hkept
  rw [← mapM_keyedRow_ids h hkeyed, List.filter_map]
  refine hasIds_iff.mpr ?_
  rw [List.forall₂_map_left_iff, List.forall₂_map_right_iff]
  refine List.forall₂_same.mpr fun entry hentry => ?_
  exact (mapM_keyedRow hkeyed).2 entry (List.mem_of_mem_filter hentry)

/-- The canonical order of rows is the order of their ids. -/
theorem canonicalRows_hasIds {rows canonical : List Row} {ids : List ℤ}
    (h : HasIds libraries rows ids) (hcanonical : canonicalRows libraries rows = .ok canonical) :
    HasIds libraries canonical (ids.insertionSort (· ≤ ·)) := by
  obtain ⟨keyed, hkeyed, hsorted⟩ := except_bind_eq_ok.mp hcanonical
  obtain rfl := Except.ok.inj hsorted
  have hids : ids.insertionSort (· ≤ ·) =
      (keyed.insertionSort fun a b => a.1 ≤ b.1).map Prod.fst := by
    rw [← mapM_keyedRow_ids h hkeyed]
    exact (List.map_insertionSort (fun a b : ℤ × Row => a.1 ≤ b.1) (· ≤ ·) Prod.fst keyed
      fun _ _ _ _ => Iff.rfl).symm
  rw [hids]
  refine hasIds_iff.mpr ?_
  rw [List.forall₂_map_left_iff, List.forall₂_map_right_iff]
  refine List.forall₂_same.mpr fun entry hentry => ?_
  exact (mapM_keyedRow hkeyed).2 entry ((List.mem_insertionSort _).mp hentry)

theorem canonicalRows_idRange {rows canonical : List Row} {start : ℤ} {count : ℕ}
    (h : HasIds libraries rows (idRange start count))
    (hcanonical : canonicalRows libraries rows = .ok canonical) :
    HasIds libraries canonical (idRange start count) := by
  have hsorted := canonicalRows_hasIds h hcanonical
  rwa [((pairwise_idRange start count).imp le_of_lt).insertionSort_eq] at hsorted

-- ════════════════════════════════
-- Rows that compare equal
-- ════════════════════════════════

/-- The id of a value. -/
def valueId (libraries : PyLibraries) : Option PyValue → Except PyError ℤ
  | none => .error .keyError
  | some .none => .error .typeError
  | some (.int value) => .ok value
  | some (.float value) => .ok (value.num.tdiv value.den)
  | some (.infinite _) => .error .overflowError
  | some .nan => .error .valueError
  | some (.str value) =>
    match libraries.parseInt value with
    | some id => .ok id
    | none => .error .valueError

theorem rowId_eq (row : Row) : rowId libraries row = valueId libraries row["id"]? := by
  unfold rowId valueId
  cases row["id"]? with
  | none => rfl
  | some value => cases value <;> rfl

theorem valueId_same {a b : PyValue} (h : a.same b = true) :
    valueId libraries (some a) = valueId libraries (some b) := by
  have hint : ∀ {n : ℤ} {q : ℚ}, (n : ℚ) = q → n = q.num.tdiv q.den := by
    rintro n _ rfl
    rw [Rat.num_intCast, Rat.den_intCast]
    exact (Int.tdiv_one n).symm
  cases a <;> cases b <;> first | cases h | skip
  · rfl
  · exact congrArg Except.ok (of_decide_eq_true h)
  · exact congrArg Except.ok (hint (of_decide_eq_true h))
  · exact congrArg Except.ok (hint (of_decide_eq_true h).symm).symm
  · rw [of_decide_eq_true h]
  · rfl
  · rw [of_decide_eq_true h]

theorem sameRow_lookup {a b : Row} (h : sameRow a b = true) (key : String) :
    Option.Rel (fun u v => PyValue.same u v = true) a[key]? b[key]? := by
  unfold sameRow at h
  obtain ⟨hlength, hall⟩ := Bool.and_eq_true_iff.mp h
  have hentries : List.Forall₂ (fun u v : String × PyValue => u.1 = v.1 ∧ u.2.same v.2 = true)
      a.toList b.toList := by
    refine List.forall₂_iff_zip.mpr ⟨of_decide_eq_true hlength, fun hmem => ?_⟩
    obtain ⟨hkey, hvalue⟩ := Bool.and_eq_true_iff.mp (List.all_eq_true.mp hall _ hmem)
    exact ⟨of_decide_eq_true hkey, hvalue⟩
  cases ha : a[key]? with
  | none =>
    cases hb : b[key]? with
    | none => exact .none
    | some v =>
      obtain ⟨⟨_, u⟩, hu, rfl, -⟩ := ListRel.forall₂_mem_right hentries
        (Std.ExtTreeMap.mem_toList_iff_getElem?_eq_some.mpr hb)
      rw [Std.ExtTreeMap.mem_toList_iff_getElem?_eq_some.mp hu] at ha
      cases ha
  | some u =>
    obtain ⟨⟨_, v⟩, hv, rfl, hsame⟩ := ListRel.forall₂_mem_left hentries
      (Std.ExtTreeMap.mem_toList_iff_getElem?_eq_some.mpr ha)
    rw [Std.ExtTreeMap.mem_toList_iff_getElem?_eq_some.mp hv]
    exact .some hsame

theorem sameRow_rowId {a b : Row} (h : sameRow a b = true) :
    rowId libraries a = rowId libraries b := by
  rw [rowId_eq, rowId_eq]
  have hid := sameRow_lookup h "id"
  generalize a["id"]? = u at hid
  generalize b["id"]? = v at hid
  cases hid with
  | none => rfl
  | some hsame => exact valueId_same hsame

theorem sameRows_forall₂ {rows rows' : List Row} (h : sameRows rows rows' = true) :
    List.Forall₂ (fun a b => sameRow a b = true) rows rows' := by
  unfold sameRows at h
  obtain ⟨hlength, hall⟩ := Bool.and_eq_true_iff.mp h
  exact List.forall₂_iff_zip.mpr
    ⟨of_decide_eq_true hlength, fun hmem => List.all_eq_true.mp hall _ hmem⟩

/-- Rows that compare equal have the same ids. -/
theorem sameRows_hasIds {rows rows' : List Row} {ids : List ℤ} (h : sameRows rows rows' = true)
    (hids : HasIds libraries rows' ids) : HasIds libraries rows ids := by
  have hrows := sameRows_forall₂ h
  have hpairs := hasIds_iff.mp hids
  refine hasIds_iff.mpr ?_
  clear hids h
  induction hrows generalizing ids with
  | nil =>
    cases hpairs
    exact .nil
  | cons hsame _ ih =>
    cases hpairs with
    | cons hid hrest => exact .cons ((sameRow_rowId hsame).trans hid) (ih hrest)

end CatalogBench.PyIceberg
