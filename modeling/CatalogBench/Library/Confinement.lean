import CatalogBench.Library.FileSystem

/-!
# Confinement

A process whose paths all lie strictly below one directory, empty at first, changes nothing outside
it: the way to that directory stays what it was, and below it there are no symbolic links to follow.
-/

set_option linter.all false

namespace FileSystem

open SlashPath (Name Normal here up isAbs elements)

/-- Strictly below a place. -/
def Within (base place : Place) : Prop := base <+: place ∧ place ≠ base

theorem not_within_self (base : Place) : ¬Within base base := fun h => h.2 rfl

theorem not_within_nil (base : Place) : ¬Within base [] := by
  rintro ⟨hstarts, hne⟩
  exact hne (List.prefix_nil.mp hstarts).symm

theorem not_within_dropLast {base place : Place} (h : ¬Within base place) :
    ¬Within base place.dropLast := by
  rintro ⟨hstarts, hne⟩
  refine h ⟨hstarts.trans (List.dropLast_prefix place), ?_⟩
  rintro rfl
  exact hne (hstarts.eq_of_length_le (List.dropLast_prefix place).length_le).symm

theorem within_append {base : Place} {names : List Name} (h : names ≠ []) :
    Within base (base ++ names) :=
  ⟨List.prefix_append _ _, fun heq => h (List.append_right_eq_self.mp heq)⟩

/-- Going down one name from outside leads below the base only from the base itself. -/
theorem not_within_concat {base place : Place} {name : Name} (h : ¬Within base place)
    (hne : place ≠ base) : ¬Within base (place ++ [name]) := by
  rintro ⟨hstarts, hlong⟩
  rcases List.prefix_concat_iff.mp hstarts with heq | hshort
  · exact hlong heq.symm
  · exact h ⟨hshort, hne⟩

namespace Kernel

variable {kernel : Kernel} {base : Place} {before after : Tree} {last : Bool}
  {follow follow' : Place → List Name → Option Place}

theorem enters_congr {place : Place} (h : after.node? place = before.node? place) :
    kernel.enters after place = kernel.enters before place := by
  rw [enters, h, enters]

theorem walkTo_outside (hvacant : ∀ name, before.node? (base ++ [name]) = none)
    (hsame : ∀ place, ¬Within base place → after.node? place = before.node? place)
    (hfollow : ∀ place names p, ¬Within base place → follow place names = some p →
      ¬Within base p ∧ follow' place names = some p)
    {names : List Name} {place p : Place} (hplace : ¬Within base place)
    (h : kernel.walkTo before last follow place names = some p) :
    ¬Within base p ∧ kernel.walkTo after last follow' place names = some p := by
  induction names generalizing place with
  | nil =>
    rw [walkTo] at h ⊢
    obtain rfl := Option.some.inj h
    exact ⟨hplace, rfl⟩
  | cons name rest ih =>
    unfold walkTo at h ⊢
    rw [enters_congr (hsame place hplace)]
    split at h
    · cases h
    next henters =>
    rw [if_neg henters]
    split at h
    · next hhere =>
      rw [if_pos hhere]
      exact ih hplace h
    next hhere =>
    rw [if_neg hhere]
    split at h
    · next hup =>
      rw [if_pos hup]
      exact ih (not_within_dropLast hplace) h
    next hup =>
    rw [if_neg hup]
    cases hnode : before.node? (place ++ [name]) with
    | none => simp only [hnode, reduceCtorEq] at h
    | some node =>
      have hne : place ≠ base := by
        rintro rfl
        rw [hvacant] at hnode
        cases hnode
      have hnext : ¬Within base (place ++ [name]) := not_within_concat hplace hne
      rw [hsame _ hnext, hnode]
      simp only [hnode] at h ⊢
      split at h
      · next target hkind =>
        split at h
        · next hlast =>
          rw [if_pos hlast]
          obtain rfl := Option.some.inj h
          exact ⟨hnext, rfl⟩
        · next hlast =>
          rw [if_neg hlast]
          refine hfollow _ _ p ?_ h
          split
          · exact not_within_nil base
          · exact hplace
      · exact ih hnext h

/-- A walk that starts outside an empty directory does not notice what is put there. -/
theorem walk_outside (hvacant : ∀ name, before.node? (base ++ [name]) = none)
    (hsame : ∀ place, ¬Within base place → after.node? place = before.node? place) {links : ℕ}
    {names : List Name} {place p : Place} (hplace : ¬Within base place)
    (h : kernel.walk before last links place names = some p) :
    ¬Within base p ∧ kernel.walk after last links place names = some p := by
  induction links generalizing place names p with
  | zero =>
    rw [walk] at h ⊢
    refine walkTo_outside hvacant hsame ?_ hplace h
    intro _ _ _ _ hnone
    cases hnone
  | succ links ih =>
    rw [walk] at h ⊢
    refine walkTo_outside hvacant hsame ?_ hplace h
    intro _ _ _ hout hwalk
    exact ih hout hwalk

/-- Below a place without symbolic links, names lead straight down. -/
theorem walkTo_down {tree : Tree}
    (hplain : ∀ place node, Within base place → tree.node? place = some node →
      ∀ target, node.kind ≠ .file (.symlink target))
    {names above : List Name} {p : Place} (hnormal : ∀ name ∈ names, Normal name)
    (h : kernel.walkTo tree last follow (base ++ above) names = some p) :
    p = base ++ (above ++ names) := by
  induction names generalizing above with
  | nil =>
    rw [walkTo] at h
    rw [List.append_nil]
    exact (Option.some.inj h).symm
  | cons name rest ih =>
    rw [List.forall_mem_cons] at hnormal
    unfold walkTo at h
    split at h
    · cases h
    rw [if_neg hnormal.1.ne_here, if_neg hnormal.1.ne_up] at h
    cases hnode : tree.node? (base ++ above ++ [name]) with
    | none => simp only [hnode, reduceCtorEq] at h
    | some node =>
      simp only [hnode] at h
      rw [List.append_assoc] at hnode h
      split at h
      · next target hkind =>
        exact absurd hkind (hplain _ node (within_append (by simp)) hnode target)
      · rw [ih hnormal.2 h, List.append_assoc, List.singleton_append]

theorem walk_down {tree : Tree}
    (hplain : ∀ place node, Within base place → tree.node? place = some node →
      ∀ target, node.kind ≠ .file (.symlink target))
    {names : List Name} {links : ℕ} {p : Place} (hnormal : ∀ name ∈ names, Normal name)
    (h : kernel.walk tree last links base names = some p) : p = base ++ names := by
  have hdown : ∀ follow, kernel.walkTo tree last follow (base ++ []) names = some p →
      p = base ++ names := fun follow hwalk => walkTo_down hplain hnormal hwalk
  rw [List.append_nil] at hdown
  cases links with
  | zero => exact hdown _ h
  | succ links => exact hdown _ h

theorem walkTo_split {tree : Tree} {rest : List Name} (links : ℕ)
    (hrest : rest ≠ []) (hwalk : kernel.walk tree last links = kernel.walkTo tree last follow)
    (hfollow : ∀ place names p, follow place (names ++ rest) = some p →
      ∃ q left, follow' place names = some q ∧ kernel.walk tree last left q rest = some p)
    {names : List Name} {place p : Place}
    (h : kernel.walkTo tree last follow place (names ++ rest) = some p) :
    ∃ q left, kernel.walkTo tree true follow' place names = some q ∧
      kernel.walk tree last left q rest = some p := by
  induction names generalizing place with
  | nil =>
    refine ⟨place, links, rfl, ?_⟩
    rw [hwalk]
    exact h
  | cons name names ih =>
    rw [List.cons_append] at h
    unfold walkTo at h ⊢
    split at h
    · cases h
    next henters =>
    rw [if_neg henters]
    split at h
    · next hhere =>
      rw [if_pos hhere]
      exact ih h
    next hhere =>
    rw [if_neg hhere]
    split at h
    · next hup =>
      rw [if_pos hup]
      exact ih h
    next hup =>
    rw [if_neg hup]
    cases hnode : tree.node? (place ++ [name]) with
    | none => simp only [hnode, reduceCtorEq] at h
    | some node =>
      simp only [hnode] at h ⊢
      split at h
      · rw [if_neg (by simp [hrest]), ← List.append_assoc] at h
        simpa using hfollow _ _ p h
      · exact ih h

/-- A walk along more names starts with the walk along the first ones. -/
theorem walk_split {tree : Tree} {names rest : List Name} {links : ℕ} {place p : Place}
    (hrest : rest ≠ []) (h : kernel.walk tree last links place (names ++ rest) = some p) :
    ∃ q left, kernel.walk tree true links place names = some q ∧
      kernel.walk tree last left q rest = some p := by
  induction links generalizing place names p with
  | zero =>
    refine walkTo_split 0 hrest rfl ?_ h
    intro _ _ _ hnone
    cases hnone
  | succ links ih =>
    refine walkTo_split (links + 1) hrest rfl ?_ h
    intro _ _ _ hwalk
    exact ih hwalk

theorem walkTo_cons {tree : Tree} {name : Name} {rest : List Name} {place p : Place}
    (hnormal : Normal name)
    (h : kernel.walkTo tree last follow place (name :: rest) = some p) :
    (tree.node? (place ++ [name])).isSome = true := by
  unfold walkTo at h
  split at h
  · cases h
  rw [if_neg hnormal.ne_here, if_neg hnormal.ne_up] at h
  cases hnode : tree.node? (place ++ [name]) with
  | none => simp only [hnode, reduceCtorEq] at h
  | some node => rfl

/-- Names that lead somewhere are there. -/
theorem walk_cons {tree : Tree} {name : Name} {rest : List Name} {links : ℕ} {place p : Place}
    (hnormal : Normal name) (h : kernel.walk tree last links place (name :: rest) = some p) :
    (tree.node? (place ++ [name])).isSome = true := by
  cases links with
  | zero => exact walkTo_cons hnormal h
  | succ links => exact walkTo_cons hnormal h

end Kernel

-- ════════════════════════════════
-- The condition
-- ════════════════════════════════

/-- Below a place by names that only go down. -/
def Inside (base place : Place) : Prop :=
  ∃ names, names ≠ [] ∧ (∀ name ∈ names, Normal name) ∧ place = base ++ names

theorem Inside.within {base place : Place} (h : Inside base place) : Within base place := by
  obtain ⟨names, hne, -, rfl⟩ := h
  exact within_append hne

/-- A directory or a regular file. -/
def Kind.Plain (kind : Kind) : Prop := kind = .directory ∨ ∃ bytes, kind = .file (.regular bytes)

theorem Kind.Plain.ne_symlink {kind : Kind} (h : kind.Plain) (target : List UInt8) :
    kind ≠ .file (.symlink target) := by
  rcases h with rfl | ⟨bytes, rfl⟩
  · exact nofun
  · exact nofun

/-- Nothing has been done but to put directories and regular files below the base. -/
structure Confined (base : Place) (before : Tree) (host : Host) : Prop where
  unchanged : ∀ place, place ∉ host.touched → host.tree.node? place = before.node? place
  plain : ∀ place node, Within base place → host.tree.node? place = some node → node.kind.Plain
  touched : ∀ place ∈ host.touched, Inside base place

theorem Confined.outside {base : Place} {before : Tree} {host : Host}
    (h : Confined base before host) (place : Place) (hout : ¬Within base place) :
    host.tree.node? place = before.node? place :=
  h.unchanged place fun hmem => hout (h.touched place hmem).within

theorem Confined.called {base : Place} {before : Tree} (host : Host)
    (h : Confined base before host) : Confined base before host.called :=
  ⟨h.unchanged, h.plain, h.touched⟩

theorem Confined.put {base : Place} {before : Tree} {host : Host} {place : Place} {node : Node}
    (h : Confined base before host) (hplace : Inside base place) (hplain : node.kind.Plain) :
    Confined base before (host.put place node) where
  unchanged other hnot := by
    obtain ⟨hold, hne⟩ := not_or.mp fun hor => hnot (List.mem_append.mpr hor)
    rw [List.mem_singleton] at hne
    exact (Tree.node?_put_of_ne node hne).trans (h.unchanged other hold)
  plain other there hwithin hthere := by
    rw [Host.put, Tree.node?_put] at hthere
    split at hthere
    · obtain rfl := Option.some.inj hthere
      exact hplain
    · exact h.plain other there hwithin hthere
  touched other hmem := by
    rcases List.mem_append.mp hmem with hold | hnew
    · exact h.touched other hold
    · rw [List.mem_singleton.mp hnew]
      exact hplace

/-- The names of an empty directory, and where it is. -/
structure Ground (kernel : Kernel) (before : Tree) (root : List Name) (base : Place) : Prop where
  normal : ∀ name ∈ root, Normal name
  resolves : kernel.resolve before true root = some base
  vacant : ∀ names, names ≠ [] → before.node? (base ++ names) = none

theorem Ground.confined {kernel : Kernel} {before : Tree} {root : List Name} {base : Place}
    (ground : Ground kernel before root base) {host : Host} (htree : host.tree = before)
    (htouched : host.touched = []) : Confined base before host where
  unchanged _ _ := by rw [htree]
  plain place node hwithin hnode := by
    obtain ⟨⟨names, rfl⟩, hne⟩ := hwithin
    rw [htree, ground.vacant names fun hnil => hne (by rw [hnil, List.append_nil])] at hnode
    cases hnode
  touched place hmem := by
    rw [htouched] at hmem
    cases hmem

section Ground

variable {kernel : Kernel} {before : Tree} {root below : List Name} {base place : Place}
  {host : Host}

theorem Ground.resolve (ground : Ground kernel before root base)
    (h : Confined base before host) : kernel.resolve host.tree true root = some base :=
  (Kernel.walk_outside (fun _ => ground.vacant _ (List.cons_ne_nil _ _)) h.outside (not_within_nil base)
    ground.resolves).2

/-- Names below the root lead straight down from the base. -/
theorem Ground.resolve_below (ground : Ground kernel before root base)
    (h : Confined base before host) (hbelow : ∀ name ∈ below, Normal name)
    (hplace : kernel.resolve host.tree true (root ++ below) = some place) :
    place = base ++ below := by
  by_cases hnil : below = []
  · subst hnil
    rw [List.append_nil, ground.resolve h] at hplace
    rw [List.append_nil]
    exact (Option.some.inj hplace).symm
  · obtain ⟨middle, left, hroot, hdown⟩ := Kernel.walk_split hnil hplace
    obtain rfl : middle = base := Option.some.inj (hroot.symm.trans (ground.resolve h))
    refine Kernel.walk_down ?_ hbelow hdown
    exact fun place node hwithin hnode => (h.plain place node hwithin hnode).ne_symlink

/-- What is on the way to the base is there. -/
theorem Ground.resolve_above (ground : Ground kernel before root base)
    (h : Confined base before host) {front rest : List Name} {name : Name}
    (hroot : root = front ++ name :: rest)
    (hplace : kernel.resolve host.tree true front = some place) :
    (host.tree.node? (place ++ [name])).isSome = true := by
  have hresolve := ground.resolve h
  rw [hroot] at hresolve
  obtain ⟨middle, left, hfront, hrest⟩ := Kernel.walk_split (List.cons_ne_nil _ _) hresolve
  obtain rfl : middle = place := Option.some.inj (hfront.symm.trans hplace)
  refine Kernel.walk_cons (ground.normal name ?_) hrest
  simp [hroot]

/-- Something new on the way to a path below the root is below the base. -/
theorem Ground.vacancy (ground : Ground kernel before root base) (h : Confined base before host)
    (hbelow : ∀ name ∈ below, Normal name) {names : List Name} (hstarts : names <+: root ++ below)
    {parent : Attributes} (hplace : kernel.vacancy names host.tree = .ok (place, parent)) :
    ∃ down, down ≠ [] ∧ down <+: below ∧ place = base ++ down := by
  obtain ⟨front, name, above, node, rfl, rfl, hresolve, -, -, -, -, -, hvacant, -⟩ :=
    Kernel.vacancy_eq_ok.mp hplace
  rcases List.prefix_or_prefix_of_prefix hstarts (List.prefix_append root below) with habove | hdown
  · -- everything on the way to the base exists
    obtain ⟨rest, hroot⟩ := habove
    rw [List.append_assoc, List.singleton_append] at hroot
    have hthere := ground.resolve_above h hroot.symm hresolve
    rw [hvacant] at hthere
    cases hthere
  · obtain ⟨down, hdown⟩ := hdown
    rw [← hdown, List.prefix_append_right_inj] at hstarts
    rcases List.eq_nil_or_concat down with rfl | ⟨middle, last, rfl⟩
    · rw [List.append_nil] at hdown
      have hroot : root = front ++ name :: [] := hdown
      have hthere := ground.resolve_above h hroot hresolve
      rw [hvacant] at hthere
      cases hthere
    · rw [List.concat_eq_append] at hdown hstarts
      rw [← List.append_assoc] at hdown
      obtain ⟨rfl, hlast⟩ := List.append_inj' hdown rfl
      obtain rfl := List.singleton_inj.mp hlast
      have hmiddle : ∀ name ∈ middle, Normal name :=
        fun name hmem => hbelow name (hstarts.subset (List.mem_append_left _ hmem))
      rw [ground.resolve_below h hmiddle hresolve]
      exact ⟨middle ++ [last], by simp, hstarts, by rw [List.append_assoc]⟩

theorem Ground.inside (ground : Ground kernel before root base) (h : Confined base before host)
    (hbelow : ∀ name ∈ below, Normal name) {names : List Name} (hstarts : names <+: root ++ below)
    {parent : Attributes} (hplace : kernel.vacancy names host.tree = .ok (place, parent)) :
    Inside base place := by
  obtain ⟨down, hne, hdown, rfl⟩ := ground.vacancy h hbelow hstarts hplace
  exact ⟨down, hne, fun name hmem => hbelow name (hdown.subset hmem), rfl⟩

/-- Making a directory on the way to a path below the root. -/
theorem Ground.mkdir (ground : Ground kernel before root base)
    (hbelow : ∀ name ∈ below, Normal name) {names : List Name} (hstarts : names <+: root ++ below)
    (mode : Mode) :
    Leads (Confined base before) (kernel.mkdir names mode) (Inside base) := by
  refine Leads.changes Confined.called fun host place node h hchange => ?_
  obtain ⟨⟨vacant, parent⟩, hvacancy, hnode⟩ := Kernel.exists_of_map_eq_ok hchange
  obtain ⟨rfl, rfl⟩ := Prod.mk.inj hnode
  have hinside := ground.inside h hbelow hstarts hvacancy
  exact ⟨h.put hinside (.inl rfl), hinside⟩

theorem Ground.createExclusive (ground : Ground kernel before root base)
    (hbelow : ∀ name ∈ below, Normal name) (mode : Mode) :
    Leads (Confined base before) (kernel.createExclusive (root ++ below) mode) (Inside base) := by
  refine Leads.changes Confined.called fun host place node h hchange => ?_
  obtain ⟨⟨vacant, parent⟩, hvacancy, hnode⟩ := Kernel.exists_of_map_eq_ok hchange
  obtain ⟨rfl, rfl⟩ := Prod.mk.inj hnode
  have hinside := ground.inside h hbelow (List.prefix_refl _) hvacancy
  exact ⟨h.put hinside (.inr ⟨[], rfl⟩), hinside⟩

theorem Ground.chown (ground : Ground kernel before root base)
    (hbelow : ∀ name ∈ below, Normal name) (hne : below ≠ []) (uid gid : OwnerId) :
    Leads (Confined base before) (kernel.chown (root ++ below) uid gid) (Inside base) := by
  refine Leads.changes Confined.called fun host place node h hchange => ?_
  split at hchange
  · cases hchange
  · next found there hthere =>
    obtain ⟨hresolve, hnode⟩ := Kernel.nodeAt_eq_ok.mp hthere
    split at hchange
    · cases hchange
    · next attributes hgives =>
      obtain ⟨rfl, rfl⟩ := Prod.mk.inj (Except.ok.inj hchange)
      have hinside : Inside base found := ⟨below, hne, hbelow, ground.resolve_below h hbelow hresolve⟩
      exact ⟨h.put hinside (h.plain found there hinside.within hnode), hinside⟩

omit kernel in
theorem Confined.write (kernel : Kernel) (hinside : Inside base place) (bytes : List UInt8) :
    Leads (Confined base before) (kernel.write place bytes) fun _ => True := by
  intro host h
  refine ⟨?_, fun _ _ => trivial⟩
  unfold Kernel.write
  split
  · split
    · exact Confined.put h.called hinside (.inr ⟨_, rfl⟩)
    · exact Confined.put h.called hinside (.inr ⟨_, rfl⟩)
  · exact h.called

end Ground

end FileSystem
