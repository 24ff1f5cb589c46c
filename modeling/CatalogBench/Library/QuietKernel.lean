import CatalogBench.Library.Confinement

/-!
# Calls without trouble

What the calls of a process do, on paths below one directory, on a machine that gives no trouble of
its own.
-/

set_option linter.all false

namespace FileSystem

open SlashPath (Name Normal here up isAbs elements)

namespace Kernel

variable {kernel : Kernel} {base : Place} {tree : Tree} {last : Bool}
  {follow follow' : Place → List Name → Option Place}

-- ════════════════════════════════
-- Walking down
-- ════════════════════════════════

theorem walkTo_join {rest : List Name} {p : Place} (links : ℕ)
    (hrest : rest ≠ [] ∨ last = true)
    (hwalk : kernel.walk tree last links = kernel.walkTo tree last follow)
    (hfollow : ∀ place names q, follow' place names = some q →
      (∀ left, kernel.walk tree last left q rest = some p) → follow place (names ++ rest) = some p)
    {names : List Name} {place q : Place}
    (h : kernel.walkTo tree true follow' place names = some q)
    (hdown : ∀ left, kernel.walk tree last left q rest = some p) :
    kernel.walkTo tree last follow place (names ++ rest) = some p := by
  induction names generalizing place with
  | nil =>
    obtain rfl := Option.some.inj h
    rw [List.nil_append, ← hwalk]
    exact hdown links
  | cons name names ih =>
    rw [List.cons_append]
    unfold walkTo at h ⊢
    split at h
    · cases h
    next henters =>
    rw [if_neg henters]
    split at h
    · next hhere =>
      rw [if_pos hhere]
      exact ih h
    next hhere =>
    rw [if_neg hhere]
    split at h
    · next hup =>
      rw [if_pos hup]
      exact ih h
    next hup =>
    rw [if_neg hup]
    cases hnode : tree.node? (place ++ [name]) with
    | none => simp only [hnode, reduceCtorEq] at h
    | some node =>
      simp only [hnode] at h ⊢
      split at h
      · rw [if_neg (by simp)] at h
        rw [if_neg (by rcases hrest with hne | rfl <;> simp [*]), ← List.append_assoc]
        exact hfollow _ _ _ h hdown
      · exact ih h

/-- A walk goes on from where its first names lead. -/
theorem walk_join {rest : List Name} {p : Place} (hrest : rest ≠ [] ∨ last = true)
    {links : ℕ} {names : List Name} {place q : Place}
    (h : kernel.walk tree true links place names = some q)
    (hdown : ∀ left, kernel.walk tree last left q rest = some p) :
    kernel.walk tree last links place (names ++ rest) = some p := by
  induction links generalizing place names q with
  | zero =>
    refine walkTo_join 0 hrest rfl ?_ h hdown
    intro _ _ _ hnone
    cases hnone
  | succ links ih =>
    refine walkTo_join (links + 1) hrest rfl ?_ h hdown
    intro _ _ _ hwalk hdown
    exact ih hwalk hdown

/-- Every directory on the way down, the last one apart, can be entered. -/
def Reaches (kernel : Kernel) (tree : Tree) (base : Place) (names : List Name) : Prop :=
  ∀ front, front <+: names → front ≠ names → kernel.enters tree (base ++ front) = true

theorem Reaches.head {name : Name} {rest : List Name}
    (h : kernel.Reaches tree base (name :: rest)) : kernel.enters tree base = true := by
  simpa using h [] List.nil_prefix (List.cons_ne_nil _ _).symm

theorem Reaches.tail {name : Name} {rest : List Name}
    (h : kernel.Reaches tree base (name :: rest)) : kernel.Reaches tree (base ++ [name]) rest := by
  intro front hstarts hne
  rw [List.append_assoc]
  exact h (name :: front) (List.cons_prefix_cons.mpr ⟨rfl, hstarts⟩) fun heq =>
    hne (List.cons.inj heq).2

theorem enters_eq_true {place : Place} :
    kernel.enters tree place = true ↔
      ∃ node, tree.node? place = some node ∧ node.kind = .directory ∧
        kernel.user.may .search node.toAttributes = true := by
  unfold enters
  cases tree.node? place with
  | none => simp
  | some node => simp

theorem walkTo_reaches {names : List Name} {node : Node} (hnormal : ∀ name ∈ names, Normal name)
    (hreaches : kernel.Reaches tree base names) (hnode : tree.node? (base ++ names) = some node)
    (hplain : ∀ target, node.kind ≠ .file (.symlink target)) :
    kernel.walkTo tree last follow base names = some (base ++ names) := by
  induction names generalizing base with
  | nil => rw [List.append_nil, walkTo]
  | cons name rest ih =>
    rw [List.forall_mem_cons] at hnormal
    have hrest : base ++ name :: rest = base ++ [name] ++ rest := by simp
    have hnext : ∃ next, tree.node? (base ++ [name]) = some next ∧
        ∀ target, next.kind ≠ .file (.symlink target) := by
      by_cases hnil : rest = []
      · subst hnil
        exact ⟨node, hnode, hplain⟩
      · have henters := hreaches [name] (by simp) (by simpa using Ne.symm hnil)
        obtain ⟨next, hthere, hkind, -⟩ := enters_eq_true.mp henters
        refine ⟨next, hthere, fun target heq => ?_⟩
        cases hkind.symm.trans heq
    obtain ⟨next, hthere, hlink⟩ := hnext
    rw [hrest] at hnode ⊢
    unfold walkTo
    rw [hreaches.head, if_neg (by simp), if_neg hnormal.1.ne_here, if_neg hnormal.1.ne_up, hthere]
    dsimp only
    split
    · next target hkind => exact absurd hkind (hlink target)
    · exact ih hnormal.2 hreaches.tail hnode

/-- Where names lead from the root when every directory below the base can be entered. -/
theorem resolve_reaches {root names : List Name} {node : Node}
    (hroot : kernel.resolve tree true root = some base) (hnormal : ∀ name ∈ names, Normal name)
    (hreaches : kernel.Reaches tree base names) (hnode : tree.node? (base ++ names) = some node)
    (hplain : ∀ target, node.kind ≠ .file (.symlink target)) (hne : names ≠ [] ∨ last = true) :
    kernel.resolve tree last (root ++ names) = some (base ++ names) := by
  refine walk_join hne hroot fun left => ?_
  cases left with
  | zero => exact walkTo_reaches hnormal hreaches hnode hplain
  | succ left => exact walkTo_reaches hnormal hreaches hnode hplain

theorem walkTo_absent {names : List Name} {name : Name}
    (hnormal : ∀ other ∈ names, Normal other) (hname : Normal name)
    (hreaches : kernel.Reaches tree base names)
    (hdirectory : ∃ node, tree.node? (base ++ names) = some node ∧ node.kind = .directory)
    (habsent : kernel.enters tree (base ++ names) = true →
      tree.node? (base ++ names ++ [name]) = none) {ending : List Name} :
    kernel.walkTo tree last follow base (names ++ name :: ending) = none := by
  induction names generalizing base with
  | nil =>
    rw [List.append_nil] at habsent
    rw [List.nil_append]
    unfold walkTo
    cases henters : kernel.enters tree base with
    | false => rfl
    | true =>
      rw [if_neg (by simp), if_neg hname.ne_here, if_neg hname.ne_up, habsent henters]
  | cons first rest ih =>
    rw [List.forall_mem_cons] at hnormal
    have hrest : base ++ first :: rest = base ++ [first] ++ rest := by simp
    have hnext : ∃ next, tree.node? (base ++ [first]) = some next ∧ next.kind = .directory := by
      by_cases hnil : rest = []
      · subst hnil
        exact hdirectory
      · have henters := hreaches [first] (by simp) (by simpa using Ne.symm hnil)
        obtain ⟨next, hthere, hkind, -⟩ := enters_eq_true.mp henters
        exact ⟨next, hthere, hkind⟩
    obtain ⟨next, hthere, hkind⟩ := hnext
    rw [hrest] at hdirectory habsent
    rw [List.cons_append]
    unfold walkTo
    rw [hreaches.head, if_neg (by simp), if_neg hnormal.1.ne_here, if_neg hnormal.1.ne_up, hthere]
    simp only [hkind]
    exact ih hnormal.2 hreaches.tail hdirectory habsent

/-- Names do not lead to what is not there, nor past it. -/
theorem resolve_absent {root names ending : List Name} {name : Name}
    (hroot : kernel.resolve tree true root = some base) (hnormal : ∀ other ∈ names, Normal other)
    (hname : Normal name) (hreaches : kernel.Reaches tree base names)
    (hdirectory : ∃ node, tree.node? (base ++ names) = some node ∧ node.kind = .directory)
    (habsent : kernel.enters tree (base ++ names) = true →
      tree.node? (base ++ names ++ [name]) = none) :
    kernel.resolve tree last (root ++ names ++ name :: ending) = none := by
  rw [List.append_assoc]
  cases hresolve : kernel.resolve tree last (root ++ (names ++ name :: ending)) with
  | none => rfl
  | some place =>
    obtain ⟨middle, left, hmiddle, hwalk⟩ := walk_split (by simp) hresolve
    obtain rfl : middle = base := Option.some.inj (hmiddle.symm.trans hroot)
    cases left with
    | zero =>
      rw [walk, walkTo_absent hnormal hname hreaches hdirectory habsent] at hwalk
      cases hwalk
    | succ left =>
      rw [walk, walkTo_absent hnormal hname hreaches hdirectory habsent] at hwalk
      cases hwalk

-- ════════════════════════════════
-- Calls
-- ════════════════════════════════

def Calm (kernel : Kernel) : Prop := ∀ call, kernel.trouble call = none

section Calm

variable {α : Type} (calm : kernel.Calm) (host : Host)
include calm

theorem Calm.looks (look : Tree → Except Errno α) :
    kernel.looks look host = ((look host.tree).mapError .system, host.called) := by
  rw [Kernel.looks, calm]

theorem Calm.changes_ok {change : Tree → Except Errno (Place × Node)} {place : Place} {node : Node}
    (h : change host.tree = .ok (place, node)) :
    kernel.changes change host = (.ok place, host.called.put place node) := by
  rw [Kernel.changes, calm]
  dsimp only
  rw [h]

theorem Calm.changes_error {change : Tree → Except Errno (Place × Node)} {errno : Errno}
    (h : change host.tree = .error errno) :
    kernel.changes change host = (.error (.system errno), host.called) := by
  rw [Kernel.changes, calm]
  dsimp only
  rw [h]

theorem Calm.stat_ok {names : List Name} {place : Place} {node : Node}
    (hresolve : kernel.resolve host.tree true names = some place)
    (hnode : host.tree.node? place = some node) :
    kernel.stat names host = (.ok node, host.called) := by
  rw [stat, calm.looks, nodeAt_eq_ok.mpr ⟨hresolve, hnode⟩]
  rfl

theorem Calm.stat_error {names : List Name} (hresolve : kernel.resolve host.tree true names = none) :
    kernel.stat names host = (.error (.system .absent), host.called) := by
  rw [stat, calm.looks, nodeAt, hresolve]
  rfl

theorem Calm.lstat_error {names : List Name}
    (hresolve : kernel.resolve host.tree false names = none) :
    kernel.lstat names host = (.error (.system .absent), host.called) := by
  rw [lstat, calm.looks, nodeAt, hresolve]
  rfl

theorem Calm.mkdir_ok {names : List Name} (mode : Mode) {place : Place} {parent : Attributes}
    (h : kernel.vacancy names host.tree = .ok (place, parent)) :
    kernel.mkdir names mode host = (.ok place, host.called.put place
      { kernel.user.makes kernel.umask parent true (mode &&& 0o1777) with kind := .directory }) := by
  refine calm.changes_ok host ?_
  rw [h]
  rfl

theorem Calm.mkdir_error {names : List Name} (mode : Mode) {errno : Errno}
    (h : kernel.vacancy names host.tree = .error errno) :
    kernel.mkdir names mode host = (.error (.system errno), host.called) := by
  refine calm.changes_error host ?_
  rw [h]
  rfl

theorem Calm.createExclusive_error {names : List Name} (mode : Mode) {errno : Errno}
    (h : kernel.vacancy names host.tree = .error errno) :
    kernel.createExclusive names mode host = (.error (.system errno), host.called) := by
  refine calm.changes_error host ?_
  rw [h]
  rfl

theorem Calm.createExclusive_ok {names : List Name} (mode : Mode) {place : Place}
    {parent : Attributes} (h : kernel.vacancy names host.tree = .ok (place, parent)) :
    kernel.createExclusive names mode host = (.ok place, host.called.put place
      { kernel.user.makes kernel.umask parent false mode with kind := .file (.regular []) }) := by
  refine calm.changes_ok host ?_
  rw [h]
  rfl

theorem Calm.chown_ok {names : List Name} {uid gid : OwnerId} {place : Place} {node : Node}
    {given : Attributes} (hresolve : kernel.resolve host.tree true names = some place)
    (hnode : host.tree.node? place = some node) (hgives : kernel.user.gives node uid gid = some given) :
    kernel.chown names uid gid host =
      (.ok place, host.called.put place { given with kind := node.kind }) := by
  refine calm.changes_ok host ?_
  rw [nodeAt_eq_ok.mpr ⟨hresolve, hnode⟩]
  dsimp only
  rw [hgives]

theorem Calm.chown_error {names : List Name} {uid gid : OwnerId} {place : Place} {node : Node}
    (hresolve : kernel.resolve host.tree true names = some place)
    (hnode : host.tree.node? place = some node) (hgives : kernel.user.gives node uid gid = none) :
    kernel.chown names uid gid host = (.error (.system .denied), host.called) := by
  refine calm.changes_error host ?_
  rw [nodeAt_eq_ok.mpr ⟨hresolve, hnode⟩]
  dsimp only
  rw [hgives]

theorem Calm.write_ok {place : Place} {attributes : Attributes} {content : List UInt8}
    (hnode : host.tree.node? place = some { attributes with kind := .file (.regular content) })
    (bytes : List UInt8) :
    kernel.write place bytes host = (.ok (), host.called.put place
      { attributes with kind := .file (.regular (content ++ bytes)) }) := by
  rw [write, hnode]
  dsimp only
  rw [calm]

end Calm

end Kernel

end FileSystem
