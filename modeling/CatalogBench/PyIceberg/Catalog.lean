import CatalogBench.PyIceberg.Licence

/-!
# Catalogs

The namespaces and tables that a catalog holds, and what the replies of a catalog that does what it
says mean for them. One that keeps everything in memory is such a catalog.

## Main definitions

- `Warehouse`, `Truthful`: the namespaces and tables of a catalog, and what its replies mean
- `Memory`: a catalog in memory
-/

set_option linter.all false

namespace CatalogBench.PyIceberg
open Interaction

-- ════════════════════════════════
-- Catalogs
-- ════════════════════════════════

/-- What a catalog holds. -/
structure Warehouse where
  namespaces : Finset Identifier
  tables : Finset Identifier
  nested : ∀ table ∈ tables, table.dropLast ∈ namespaces

namespace Warehouse

theorem ext_iff' {a b : Warehouse} :
    a = b ↔ (∀ n, n ∈ a.namespaces ↔ n ∈ b.namespaces) ∧ ∀ t, t ∈ a.tables ↔ t ∈ b.tables := by
  constructor
  · rintro rfl
    exact ⟨fun _ => Iff.rfl, fun _ => Iff.rfl⟩
  · rintro ⟨hnamespaces, htables⟩
    obtain ⟨namespaces, tables, _⟩ := a
    obtain rfl := Finset.ext hnamespaces
    obtain rfl := Finset.ext htables
    rfl

/-- A table in a namespace, under a name that is free. -/
def addTable (w : Warehouse) (table : Identifier) : Option Warehouse :=
  if h : table.dropLast ∈ w.namespaces ∧ table ∉ w.tables then
    some {
      namespaces := w.namespaces
      tables := insert table w.tables
      nested := fun t ht => by
        rcases Finset.mem_insert.mp ht with rfl | ht
        · exact h.1
        · exact w.nested t ht }
  else none

def dropTable (w : Warehouse) (table : Identifier) : Option Warehouse :=
  if table ∈ w.tables then
    some {
      namespaces := w.namespaces
      tables := w.tables.erase table
      nested := fun t ht => w.nested t (Finset.mem_of_mem_erase ht) }
  else none

def addNamespace (w : Warehouse) («namespace» : Identifier) : Option Warehouse :=
  if «namespace» ∈ w.namespaces then none
  else
    some {
      namespaces := insert «namespace» w.namespaces
      tables := w.tables
      nested := fun t ht => Finset.mem_insert_of_mem (w.nested t ht) }

/-- Only an empty namespace is dropped. -/
def dropNamespace (w : Warehouse) («namespace» : Identifier) : Option Warehouse :=
  if h : «namespace» ∈ w.namespaces ∧ ∀ t ∈ w.tables, t.dropLast ≠ «namespace» then
    some {
      namespaces := w.namespaces.erase «namespace»
      tables := w.tables
      nested := fun t ht => Finset.mem_erase.mpr ⟨h.2 t ht, w.nested t ht⟩ }
  else none

def renameTable (w : Warehouse) (source destination : Identifier) : Option Warehouse := do
  let added ← w.addTable destination
  if source = destination then none else added.dropTable source

/-- Nothing but the fixture differs. -/
structure SameOutside (fixture : FixtureIdentity) (w w' : Warehouse) : Prop where
  namespaces : ∀ n, n ≠ fixture.namespace → (n ∈ w'.namespaces ↔ n ∈ w.namespaces)
  tables : ∀ t, t ∉ fixture.identifiers → (t ∈ w'.tables ↔ t ∈ w.tables)

theorem SameOutside.refl {fixture : FixtureIdentity} (w : Warehouse) : w.SameOutside fixture w :=
  ⟨fun _ _ => Iff.rfl, fun _ _ => Iff.rfl⟩

theorem SameOutside.trans {fixture : FixtureIdentity} {w₁ w₂ w₃ : Warehouse}
    (h : SameOutside fixture w₁ w₂) (h' : SameOutside fixture w₂ w₃) :
    SameOutside fixture w₁ w₃ :=
  ⟨fun n hn => (h'.namespaces n hn).trans (h.namespaces n hn),
    fun t ht => (h'.tables t ht).trans (h.tables t ht)⟩

section Effects

variable {fixture : FixtureIdentity} {w w' : Warehouse} {table «namespace» : Identifier}

theorem mem_addTable (h : w.addTable table = some w') :
    w'.namespaces = w.namespaces ∧ w'.tables = insert table w.tables ∧ table ∉ w.tables := by
  unfold addTable at h
  split at h
  · next hfree =>
    obtain rfl := Option.some.inj h
    exact ⟨rfl, rfl, hfree.2⟩
  · cases h

theorem mem_dropTable (h : w.dropTable table = some w') :
    w'.namespaces = w.namespaces ∧ w'.tables = w.tables.erase table ∧ table ∈ w.tables := by
  unfold dropTable at h
  split at h
  · next hmem =>
    obtain rfl := Option.some.inj h
    exact ⟨rfl, rfl, hmem⟩
  · cases h

theorem mem_dropNamespace (h : w.dropNamespace «namespace» = some w') :
    w'.namespaces = w.namespaces.erase «namespace» ∧ w'.tables = w.tables ∧
      ∀ t ∈ w.tables, t.dropLast ≠ «namespace» := by
  unfold dropNamespace at h
  split at h
  · next hempty =>
    obtain rfl := Option.some.inj h
    exact ⟨rfl, rfl, hempty.2⟩
  · cases h

theorem sameOutside_addTable (h : w.addTable table = some w')
    (htable : table ∈ fixture.identifiers) : w.SameOutside fixture w' := by
  obtain ⟨hnamespaces, htables, -⟩ := mem_addTable h
  refine ⟨fun n _ => by rw [hnamespaces], fun t ht => ?_⟩
  rw [htables, Finset.mem_insert]
  refine or_iff_right ?_
  rintro rfl
  exact ht htable

theorem sameOutside_dropTable (h : w.dropTable table = some w')
    (htable : table ∈ fixture.identifiers) : w.SameOutside fixture w' := by
  obtain ⟨hnamespaces, htables, -⟩ := mem_dropTable h
  refine ⟨fun n _ => by rw [hnamespaces], fun t ht => ?_⟩
  rw [htables, Finset.mem_erase]
  refine and_iff_right ?_
  rintro rfl
  exact ht htable

theorem sameOutside_addNamespace (h : w.addNamespace fixture.namespace = some w') :
    w.SameOutside fixture w' := by
  unfold addNamespace at h
  split at h
  · cases h
  · obtain rfl := Option.some.inj h
    refine ⟨fun n hn => ?_, fun _ _ => Iff.rfl⟩
    rw [Finset.mem_insert, or_iff_right hn]

theorem sameOutside_dropNamespace (h : w.dropNamespace fixture.namespace = some w') :
    w.SameOutside fixture w' := by
  obtain ⟨hnamespaces, htables, -⟩ := mem_dropNamespace h
  refine ⟨fun n hn => ?_, fun t _ => by rw [htables]⟩
  rw [hnamespaces, Finset.mem_erase, and_iff_right hn]

theorem sameOutside_renameTable {source destination : Identifier}
    (h : w.renameTable source destination = some w') (hsource : source ∈ fixture.identifiers)
    (hdestination : destination ∈ fixture.identifiers) : w.SameOutside fixture w' := by
  obtain ⟨added, hadded, hrest⟩ := Option.bind_eq_some_iff.mp h
  split at hrest
  · cases hrest
  · exact (sameOutside_addTable hadded hdestination).trans (sameOutside_dropTable hrest hsource)

end Effects

end Warehouse

-- ════════════════════════════════
-- Truthful catalogs
-- ════════════════════════════════

/-- What a call does to the namespaces and tables; `none` if it is refused. -/
def ClientCall.effect : ClientCall → Warehouse → Option Warehouse
  | .createNamespace n _, w => w.addNamespace n
  | .createTable i _ _, w | .registerTable i _, w => w.addTable i
  | .dropTable i _, w => w.dropTable i
  | .dropNamespace n, w => w.dropNamespace n
  | .renameTable source destination, w => w.renameTable source destination
  | _, w => some w

/-- The answers about what exists are right. -/
def Exact (w : Warehouse) : (c : ClientCall) → c.Reply → Prop
  | .namespaceExists n, .ok present => present = decide (n ∈ w.namespaces)
  | .tableExists i, .ok present => present = decide (i ∈ w.tables)
  | _, _ => True

/-- A call that returns took effect. One that raises an exception may have failed before or after
its effect. -/
def Truthful (w : Warehouse) (c : ClientCall) (reply : c.Reply) (w' : Warehouse) : Prop :=
  Exact w c reply ∧ (c.effect w = some w' ∨ reply.isOk = false ∧ w' = w)

theorem effect_readOnly {c : ClientCall} (h : c.readOnly = true) (w : Warehouse) :
    c.effect w = some w := by
  cases c <;> first | rfl | cases h

theorem Truthful.readOnly {w w' : Warehouse} {c : ClientCall} {reply : c.Reply}
    (h : Truthful w c reply w') (hread : c.readOnly = true) : w' = w := by
  rcases h.2 with heffect | ⟨-, rfl⟩
  · rw [effect_readOnly hread] at heffect
    exact (Option.some.inj heffect).symm
  · rfl

theorem Truthful.sameOutside {w w' : Warehouse} {c : ClientCall} {reply : c.Reply}
    {fixture : FixtureIdentity} (h : Truthful w c reply w') (hc : Within fixture c) :
    w.SameOutside fixture w' := by
  rcases h.2 with heffect | ⟨-, rfl⟩
  · cases c with
    | createNamespace n _ => cases hc; exact Warehouse.sameOutside_addNamespace heffect
    | createTable i _ _ => exact Warehouse.sameOutside_addTable heffect hc
    | registerTable i _ => exact Warehouse.sameOutside_addTable heffect hc
    | dropTable i _ => exact Warehouse.sameOutside_dropTable heffect hc.1
    | dropNamespace n => cases hc; exact Warehouse.sameOutside_dropNamespace heffect
    | renameTable source destination =>
      exact Warehouse.sameOutside_renameTable heffect hc.1 hc.2
    | _ => cases heffect; exact .refl w
  · exact .refl w'

-- ════════════════════════════════
-- A catalog in memory
-- ════════════════════════════════

/-- A table and its rows, as they are stored under a name. -/
structure Stored where
  view : TableView
  rows : List Row

/-- The next version of a table. -/
def Stored.next (stored : Stored) : Stored :=
  { stored with view := { stored.view with
      metadataLocation := stored.view.metadataLocation ++ "+"
      snapshots := stored.view.snapshots + 1 } }

/-- What exists, the names that were ever given out, and what is stored under each name. Dropping
a table keeps what was stored. -/
structure Memory where
  warehouse : Warehouse
  names : List Identifier
  properties : Identifier → StringMap String
  stored : Identifier → Stored

namespace Memory

def refusal : PyError := ⟨"pyiceberg.exceptions.RESTError", false, false⟩

def commitFailed : PyError := ⟨"pyiceberg.exceptions.CommitFailedException", false, true⟩

def holding (warehouse : Warehouse) : Memory :=
  ⟨warehouse, [], fun _ => ∅, fun _ => ⟨⟨"", "", [], ∅, 0, ∅⟩, []⟩⟩

def store (m : Memory) (table : Identifier) (stored : Stored) : Memory :=
  { m with names := m.names ++ [table], stored := Function.update m.stored table stored }

/-- Commit a change that was made to the table as it was loaded; a table that is newer by now is a
conflict. -/
def commit (m : Memory) (table : PyTable) (change : Stored → Stored) :
    Except PyError Unit × Memory :=
  let stored := m.stored table.identifier
  if table.identifier ∉ m.warehouse.tables then (.error refusal, m)
  else if table.view.metadataLocation ≠ stored.view.metadataLocation then (.error commitFailed, m)
  else (.ok (), m.store table.identifier (change stored).next)

/-- What is stored under the name of a table that exists. -/
def load (m : Memory) (table : Identifier) : Except PyError Stored :=
  if table ∈ m.warehouse.tables then .ok (m.stored table) else .error refusal

/-- The table whose metadata is there. -/
def located (m : Memory) (metadataLocation : String) : Option Stored :=
  (m.names.map m.stored).find? fun stored => stored.view.metadataLocation = metadataLocation

/-- The rows that the filter of the scenario leaves. -/
def kept (rows : List Row) : List Row :=
  rows.filter fun row =>
    match row["id"]? with
    | some (.int id) => 4 ≤ id
    | _ => true

/-- The reply to a call whose effect on the namespaces and tables leaves `w`. -/
def serve (m : Memory) (w : Warehouse) : (c : ClientCall) → c.Reply × Memory
  | .restCatalog .. | .close => (.ok (), { m with warehouse := w })
  | .namespaceExists n => (.ok (decide (n ∈ w.namespaces)), { m with warehouse := w })
  | .createNamespace n properties => (.ok (), { m with
      warehouse := w
      names := m.names ++ [n]
      properties := Function.update m.properties n properties })
  | .listNamespaces => (.ok (m.names.filter (· ∈ w.namespaces)), { m with warehouse := w })
  | .loadNamespaceProperties n => (.ok (m.properties n), { m with warehouse := w })
  | .createTable i location properties =>
    let stored : Stored :=
      ⟨⟨"uuid", location.getD "", ["id", "category", "amount"], properties, 0, ∅⟩, []⟩
    (.ok stored.view, { m.store i stored with warehouse := w })
  | .listTables n => (.ok (m.names.filter fun i => i ∈ w.tables ∧ i.dropLast = n),
      { m with warehouse := w })
  | .loadTable i => ((m.load i).map Stored.view, { m with warehouse := w })
  | .tableExists i => (.ok (decide (i ∈ w.tables)), { m with warehouse := w })
  | .dropTable .. | .dropNamespace _ => (.ok (), { m with warehouse := w })
  | .renameTable source destination =>
    (.ok (m.stored source).view, { m.store destination (m.stored source) with warehouse := w })
  | .registerTable i metadataLocation =>
    match m.located metadataLocation with
    | some stored => (.ok stored.view, { m.store i stored with warehouse := w })
    | none => (.error refusal, m)
  | .append table rows =>
    m.commit table fun stored => { stored with rows := stored.rows ++ rows }
  | .scan table => ((m.load table.identifier).map Stored.rows, { m with warehouse := w })
  | .commitProperties table updates removals =>
    m.commit table fun stored => { stored with view := { stored.view with
      properties := removals.foldl (fun properties key => properties.erase key)
        (updates.toList.foldl (fun properties entry => properties.insert entry.1 entry.2)
          stored.view.properties) } }
  | .addColumn table name =>
    m.commit table fun stored =>
      ⟨{ stored.view with schemaNames := stored.view.schemaNames ++ [name] },
        stored.rows.map fun row => row.insert name .none⟩
  | .delete table _ => m.commit table fun stored => { stored with rows := kept stored.rows }
  | .refresh table => ((m.load table.identifier).map Stored.view, { m with warehouse := w })

def refuse : (c : ClientCall) → c.Reply
  | .restCatalog .. | .namespaceExists _ | .createNamespace .. | .listNamespaces
  | .loadNamespaceProperties _ | .createTable .. | .listTables _ | .loadTable _ | .tableExists _
  | .dropTable .. | .dropNamespace _ | .renameTable .. | .registerTable .. | .append .. | .scan _
  | .commitProperties .. | .addColumn .. | .delete .. | .refresh _ | .close => .error refusal

def handle (m : Memory) (c : ClientCall) : c.Reply × Memory :=
  match c.effect m.warehouse with
  | some w => m.serve w c
  | none => (refuse c, m)

theorem warehouse_commit (m : Memory) (table : PyTable) (change : Stored → Stored) :
    (m.commit table change).2.warehouse = m.warehouse := by
  unfold commit
  dsimp only
  split
  · rfl
  · split <;> rfl

theorem exact_refuse (w : Warehouse) (c : ClientCall) : Exact w c (refuse c) := by
  cases c <;> trivial

/-- The catalog does what it says. -/
theorem handle_truthful (m : Memory) (c : ClientCall) :
    Truthful m.warehouse c (m.handle c).1 (m.handle c).2.warehouse := by
  unfold handle
  cases heffect : c.effect m.warehouse with
  | none =>
    refine ⟨exact_refuse m.warehouse c, .inr ⟨?_, rfl⟩⟩
    cases c <;> rfl
  | some w =>
    cases c with
    | registerTable i metadataLocation =>
      refine ⟨trivial, ?_⟩
      dsimp only [serve]
      split
      · exact .inl heffect
      · exact .inr ⟨rfl, rfl⟩
    | append table _ | commitProperties table _ _ | addColumn table _ | delete table _ =>
      refine ⟨trivial, .inl ?_⟩
      rw [heffect, ← Option.some.inj heffect]
      exact congrArg some (warehouse_commit m table _).symm
    | namespaceExists n | tableExists i =>
      cases heffect
      exact ⟨rfl, .inl rfl⟩
    | _ => exact ⟨trivial, .inl heffect⟩

end Memory

end CatalogBench.PyIceberg
