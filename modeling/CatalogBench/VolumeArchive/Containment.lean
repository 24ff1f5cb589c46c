import CatalogBench.Library.Confinement
import CatalogBench.VolumeArchive.Archive

/-!
# Restoring stays inside

Whatever an archive says, taking it out makes directories and regular files strictly below the
directory it is taken out to, and touches nothing else.
-/

set_option linter.all false

namespace VolumeArchive

open FileSystem
open SlashPath (Name Normal here up slash isAbs elements clean join dir abs text WorkingDirectory)

-- ════════════════════════════════
-- Names in headers
-- ════════════════════════════════

theorem isUnsafe_of_up (rest : List Name) : isUnsafe (text false (up :: rest)) = true := by
  by_cases hnil : rest = []
  · subst hnil
    decide
  · have hstarts : (up ++ [slash]).isPrefixOf (text false (up :: rest)) = true := by
      rw [List.isPrefixOf_iff_prefix, text, List.intercalate_cons_of_ne_nil hnil]
      exact ⟨[slash].intercalate rest, by simp⟩
    rw [isUnsafe, hstarts, Bool.or_true]

/-- A name that is not refused goes down only. -/
theorem exists_names {path : List UInt8} (h : isUnsafe (clean path) = false) :
    ∃ names, names ≠ [] ∧ (∀ name ∈ names, Normal name) ∧ clean path = text false names := by
  have habs : isAbs path = false := by
    by_contra habs
    obtain ⟨names, -, hclean⟩ := SlashPath.clean_of_isAbs (Bool.not_eq_false _ ▸ habs)
    rw [hclean, isUnsafe, SlashPath.isAbs_text_true] at h
    simp at h
  obtain ⟨ups, names, hreduce, -, hnormal⟩ := SlashPath.exists_reduce false path
  have hclean : clean path =
      if (List.replicate ups up ++ names).isEmpty then here
      else text false (List.replicate ups up ++ names) := by
    rw [clean, habs, hreduce]
    rfl
  rw [hclean] at h ⊢
  split at h
  · cases h
  · next hempty =>
    rw [if_neg hempty]
    cases ups with
    | zero => exact ⟨names, by simpa using hempty, hnormal, rfl⟩
    | succ ups =>
      rw [List.replicate_succ, List.cons_append, isUnsafe_of_up] at h
      cases h

-- ════════════════════════════════
-- One entry
-- ════════════════════════════════

section Directories

variable {kernel : Kernel} {Holds : Host → Prop}

theorem ensureDirectory_leads (hcalled : ∀ host, Holds host → Holds host.called)
    {names ending : List Name} {mode : Mode} {parent : Act Unit}
    (hmkdir : Leads Holds (kernel.mkdir names mode) fun _ => True)
    (hparent : Leads Holds parent fun _ => True) :
    Leads Holds (ensureDirectory kernel names ending mode parent) fun _ => True := by
  refine Leads.bind (Leads.looks hcalled).attempt fun found _ => ?_
  cases found with
  | ok node =>
    dsimp only
    split
    · exact Leads.pure trivial
    · exact Leads.throw
  | error failure =>
    refine Leads.bind hparent fun _ _ => ?_
    refine Leads.bind hmkdir.attempt fun made _ => ?_
    cases made with
    | ok place => exact Leads.pure trivial
    | error failure =>
      refine Leads.bind (Leads.looks hcalled).attempt fun again _ => ?_
      cases again with
      | ok node =>
        dsimp only
        split
        · exact Leads.pure trivial
        · exact Leads.throw
      | error _ => exact Leads.throw

/-- What every `mkdir` on the way keeps, making all the directories keeps. -/
theorem mkdirAllBelow_leads (hcalled : ∀ host, Holds host → Holds host.called) {mode : Mode}
    {names ending : List Name}
    (hmkdir : ∀ front, front <+: names.reverse →
      Leads Holds (kernel.mkdir front mode) fun _ => True) :
    Leads Holds (mkdirAllBelow kernel mode names ending) fun _ => True := by
  induction names generalizing ending with
  | nil => exact ensureDirectory_leads hcalled (hmkdir [] List.nil_prefix) (Leads.pure trivial)
  | cons name above ih =>
    refine ensureDirectory_leads hcalled (hmkdir _ (List.prefix_refl _)) (ih fun front hstarts => ?_)
    rw [List.reverse_cons] at hmkdir
    exact hmkdir front (hstarts.trans (List.prefix_append _ _))

end Directories

section Entry

variable {kernel : Kernel} {before : Tree} {root below : List Name} {base : Place}

theorem mkdirAll_leads (ground : Ground kernel before root base)
    (hbelow : ∀ name ∈ below, Normal name) (mode : Mode) {names : List Name}
    (hstarts : names <+: root ++ below) :
    Leads (Confined base before) (mkdirAll kernel (text true names) mode) fun _ => True := by
  have hnormal : ∀ name ∈ names, Normal name := by
    intro name hmem
    exact (List.mem_append.mp (hstarts.subset hmem)).elim (ground.normal name) (hbelow name)
  rw [mkdirAll, SlashPath.elements_text_of_normal true hnormal]
  refine mkdirAllBelow_leads Confined.called fun front hfront => ?_
  rw [List.reverse_reverse] at hfront
  exact (ground.mkdir hbelow (hfront.trans hstarts) mode).mono fun _ _ => trivial

theorem liftExcept_leads {Holds : Host → Prop} (result : Except Failure Unit) :
    Leads Holds (liftExcept result) fun _ => True := by
  cases result with
  | ok value => exact Leads.pure trivial
  | error failure => exact Leads.throw

theorem copyN_leads {place : Place} (hinside : Inside base place) (body : List UInt8) (size : ℕ) :
    Leads (Confined base before) (copyN kernel place body size) fun _ => True := by
  have hwrite : Leads (Confined base before) (writeAll kernel place (body.take size)) fun _ => True := by
    unfold writeAll
    split
    · exact Leads.pure trivial
    · exact Confined.write kernel hinside _
  refine Leads.bind hwrite fun _ _ => ?_
  split
  · exact Leads.throw
  · exact Leads.pure trivial

theorem restoreFile_leads (ground : Ground kernel before root base)
    (hbelow : ∀ name ∈ below, Normal name) (header : Header) (body : List UInt8) :
    Leads (Confined base before) (restoreFile kernel (text true (root ++ below)) header body)
      fun _ => True := by
  have hnormal : ∀ name ∈ root ++ below, Normal name := by
    intro name hmem
    exact (List.mem_append.mp hmem).elim (ground.normal name) (hbelow name)
  rw [restoreFile, Kernel.pathNames_text hnormal]
  refine Leads.bind (ground.createExclusive hbelow _) fun output hinside => ?_
  refine Leads.bind (copyN_leads hinside body header.size).attempt fun copied _ => ?_
  refine Leads.bind (Leads.looks Confined.called).attempt fun closed _ => ?_
  exact Leads.bind (liftExcept_leads copied) fun _ _ => liftExcept_leads closed

theorem chown_leads (ground : Ground kernel before root base)
    (hbelow : ∀ name ∈ below, Normal name) (hne : below ≠ []) (header : Header) :
    Leads (Confined base before) (chown kernel (text true (root ++ below)) header)
      fun _ => True := by
  have hnormal : ∀ name ∈ root ++ below, Normal name := by
    intro name hmem
    exact (List.mem_append.mp hmem).elim (ground.normal name) (hbelow name)
  rw [chown, Kernel.pathNames_text hnormal]
  exact Leads.bind (ground.chown hbelow hne _ _) fun _ _ => Leads.pure trivial

/-- Restoring one entry, whatever its header says, touches only what is below the root. -/
theorem restoreEntry_leads (ground : Ground kernel before root base) (header : Header)
    (body : List UInt8) :
    Leads (Confined base before) (restoreEntry kernel (text true root) header body)
      fun _ => True := by
  unfold restoreEntry
  split
  · exact Leads.throw
  next hsafe =>
  obtain ⟨names, hne, hnormal, hclean⟩ := exists_names ((Bool.not_eq_true _).mp hsafe)
  rw [hclean, SlashPath.join_text ground.normal hnormal]
  dsimp only
  split
  · exact Leads.bind (mkdirAll_leads ground hnormal _ (List.prefix_refl _)) fun _ _ =>
      chown_leads ground hnormal hne header
  split
  · obtain ⟨front, last, rfl⟩ := (List.eq_nil_or_concat names).resolve_left hne
    rw [List.concat_eq_append] at hnormal ⊢
    have hall : ∀ name ∈ root ++ front ++ [last], Normal name := by
      intro name hmem
      rw [List.append_assoc] at hmem
      exact (List.mem_append.mp hmem).elim (ground.normal name) (hnormal name)
    have hparent : Leads (Confined base before)
        (mkdirAll kernel (dir (text true (root ++ (front ++ [last])))) 0o700) fun _ => True := by
      rw [← List.append_assoc, SlashPath.dir_text hall]
      exact mkdirAll_leads ground hnormal _ (by simp)
    exact Leads.bind hparent fun _ _ => Leads.bind (restoreFile_leads ground hnormal header body)
      fun _ _ => chown_leads ground hnormal (by simp) header
  · exact Leads.throw

theorem extract_leads (ground : Ground kernel before root base) (archive : Archive) :
    Leads (Confined base before) (extract kernel (text true root) archive) fun _ => True := by
  induction archive with
  | entry header body rest ih => exact Leads.bind (restoreEntry_leads ground header body) fun _ _ => ih
  | eof => exact Leads.pure trivial
  | malformed failure => exact Leads.throw

end Entry

-- ════════════════════════════════
-- Whole archives
-- ════════════════════════════════

def Archive.headers : Archive → List Header
  | .entry header _ rest => header :: rest.headers
  | .eof => []
  | .malformed _ => []

theorem restoreEntry_type {kernel : Kernel} {root : List UInt8} {header : Header}
    {body : List UInt8} {host : Host} (h : (restoreEntry kernel root header body host).1 = .ok ()) :
    header.typeflag = typeDir ∨ header.typeflag = typeReg := by
  by_contra hneither
  rw [not_or] at hneither
  unfold restoreEntry at h
  split at h
  · cases h
  · rw [if_neg hneither.1, if_neg hneither.2] at h
    cases h

theorem extract_types {kernel : Kernel} {root : List UInt8} {archive : Archive} {host : Host}
    (h : (extract kernel root archive host).1 = .ok ()) :
    ∀ header ∈ archive.headers, header.typeflag = typeDir ∨ header.typeflag = typeReg := by
  induction archive generalizing host with
  | entry header body rest ih =>
    rw [extract, Act.bind_eq] at h
    rw [Archive.headers, List.forall_mem_cons]
    rcases hrun : restoreEntry kernel root header body host with ⟨_ | _, later⟩
    · rw [hrun] at h
      cases h
    · rw [hrun] at h
      exact ⟨restoreEntry_type (congrArg Prod.fst hrun), ih h⟩
  | eof => exact nofun
  | malformed failure => exact nofun

/-- Strictly below the empty directory that an archive is taken out to. -/
def Permitted (kernel : Kernel) (disk : Disk) (working : Option WorkingDirectory)
    (directory : List UInt8) (place : Place) : Prop :=
  ∃ root base, abs working directory = some root ∧
    kernel.resolve disk.tree true (Kernel.pathNames root) = some base ∧
      disk.tree.names base = [] ∧ Inside base place

/-- Either nothing is touched, or the archive is taken out to an empty directory. -/
theorem restore_cases (kernel : Kernel) (disk : Disk) (working : Option WorkingDirectory)
    (directory : List UInt8) (archive : Except Failure Archive) :
    (∃ failure host, restore kernel working directory archive (Host.start disk.tree) =
        (.error failure, host) ∧ host.tree = disk.tree ∧ host.touched = []) ∨
      ∃ root base entries, abs working directory = some (text true root) ∧ archive = .ok entries ∧
        disk.tree.names base = [] ∧ Ground kernel disk.tree root base ∧
          restore kernel working directory archive (Host.start disk.tree) =
            extract kernel (text true root) entries (Host.start disk.tree).called := by
  cases archive with
  | error failure => exact .inl ⟨failure, _, rfl, rfl, rfl⟩
  | ok entries =>
    unfold restore
    cases habs : abs working directory with
    | none => exact .inl ⟨.system .absent, _, rfl, rfl, rfl⟩
    | some path =>
      obtain ⟨root, hnormal, rfl⟩ := SlashPath.abs_eq_some habs
      dsimp only
      rw [restoreInto, Act.bind_eq, Kernel.pathNames_text hnormal]
      rcases hread : kernel.readDir root (Host.start disk.tree) with ⟨_ | found, later⟩
      · obtain rfl : (Host.start disk.tree).called = later :=
          (Kernel.looks_snd _ _).symm.trans (congrArg Prod.snd hread)
        exact .inl ⟨_, _, rfl, rfl, rfl⟩
      · obtain rfl : (Host.start disk.tree).called = later :=
          (Kernel.looks_snd _ _).symm.trans (congrArg Prod.snd hread)
        obtain ⟨base, hbase, hnames⟩ := Kernel.readDir_eq_ok (congrArg Prod.fst hread)
        dsimp only
        split
        · next hnil =>
          rw [hnil] at hnames
          refine .inr ⟨root, base, entries, rfl, rfl, hnames, ⟨hnormal, hbase, fun names hne => ?_⟩, rfl⟩
          refine disk.closed.empty (fun name => ?_) hne
          rw [← Option.not_isSome_iff_eq_none, ← Tree.mem_names]
          exact hnames ▸ List.not_mem_nil
        · exact .inl ⟨_, _, rfl, rfl, rfl⟩

/-- Taking out an archive, well or badly, makes directories and regular files strictly below the
directory given, and touches nothing else. -/
theorem restore_contained (kernel : Kernel) (disk : Disk) (working : Option WorkingDirectory)
    (directory : List UInt8) (archive : Except Failure Archive) :
    let outcome := restore kernel working directory archive (Host.start disk.tree)
    (∀ place ∈ outcome.2.touched, Permitted kernel disk working directory place) ∧
      (∀ place, ¬Permitted kernel disk working directory place →
        outcome.2.tree.node? place = disk.tree.node? place) ∧
      (∀ place node, outcome.2.tree.node? place = some node →
        disk.tree.node? place = some node ∨
          Permitted kernel disk working directory place ∧ node.kind.Plain) ∧
      ∀ entries, archive = .ok entries → outcome.1 = .ok () →
        ∀ header ∈ entries.headers, header.typeflag = typeDir ∨ header.typeflag = typeReg := by
  intro outcome
  rcases restore_cases kernel disk working directory archive with
    ⟨failure, host, hrun, htree, htouched⟩ | ⟨root, base, entries, habs, rfl, hnames, ground, hrun⟩
  · rw [show outcome = _ from hrun, htree, htouched]
    exact ⟨nofun, fun _ _ => rfl, fun _ _ => .inl, nofun⟩
  · obtain ⟨hkept, -⟩ := extract_leads ground entries (Host.start disk.tree).called
      (ground.confined rfl rfl)
    rw [← hrun] at hkept
    have hinside : ∀ place, Inside base place → Permitted kernel disk working directory place := by
      intro place hinside
      refine ⟨text true root, base, habs, ?_, hnames, hinside⟩
      rw [Kernel.pathNames_text ground.normal]
      exact ground.resolves
    refine ⟨fun place hmem => hinside place (hkept.touched place hmem), fun place hnot => ?_,
      fun place node hnode => ?_, ?_⟩
    · exact hkept.unchanged place fun hmem => hnot (hinside place (hkept.touched place hmem))
    · by_cases hmem : place ∈ outcome.2.touched
      · have hplace := hkept.touched place hmem
        exact .inr ⟨hinside place hplace, hkept.plain place node hplace.within hnode⟩
      · exact .inl ((hkept.unchanged place hmem).symm.trans hnode)
    · intro entries' heq hok
      obtain rfl := Except.ok.inj heq
      rw [show outcome = _ from hrun] at hok
      exact extract_types hok

end VolumeArchive
