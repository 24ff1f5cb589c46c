import CatalogBench.VolumeArchive.RoundTrip

/-!
# When a restored backup is the same directory

A backup is taken of more than can be restored as it was: special files, permission bits beyond the
ordinary ones or masked by the process, and things that their restorer may not give away.
-/

set_option linter.all false

namespace VolumeArchive

open FileSystem
open Interaction (except_bind_eq_ok)
open SlashPath (Name Normal here up slash isAbs elements clean join dir abs text WorkingDirectory)

-- ════════════════════════════════
-- What is made and given away
-- ════════════════════════════════

/-- The bit that a new directory takes from the one it is in. -/
def inherited (parent : Attributes) : Mode := if parent.mode &&& setGroupId ≠ 0 then setGroupId else 0

/-- The group of what a user makes in a directory. -/
def createdGid (user : User) (parent : Attributes) : OwnerId :=
  if parent.mode &&& setGroupId ≠ 0 then parent.gid else user.gid

/-- Whether a user may give away what it has made in a directory. -/
def MayGive (user : User) (parent attributes : Attributes) : Prop :=
  user.privileged = true ∨
    (attributes.uid = keep ∨ attributes.uid = user.uid) ∧
      (attributes.gid = keep ∨ attributes.gid = createdGid user parent ∨
        user.inGroup attributes.gid = true)

/-- What is given away with the given bits. -/
def givenAway (user : User) (parent attributes : Attributes) (mode : Mode) : Attributes :=
  { mode := mode
    uid := if attributes.uid = keep then user.uid else attributes.uid
    gid := if attributes.gid = keep then createdGid user parent else attributes.gid }

theorem masked_and (mode umask rest : Mode) (hrest : (0o777 : Mode) &&& rest = 0o777) :
    mode &&& 0o777 &&& umask &&& rest = mode &&& 0o777 &&& umask := by
  rw [BitVec.and_assoc, BitVec.and_comm umask, ← BitVec.and_assoc, BitVec.and_assoc mode, hrest]

theorem withoutSetId_masked (mode umask : Mode) :
    User.withoutSetId (mode &&& 0o777 &&& umask) = mode &&& 0o777 &&& umask := by
  rw [User.withoutSetId]
  split
  · rw [masked_and _ _ _ (by decide), masked_and _ _ _ (by decide)]
  · rw [masked_and _ _ _ (by decide)]

theorem gives_iff {user : User} {parent attributes given : Attributes} {node : Node} {mode : Mode}
    (huid : node.uid = user.uid) (hgid : node.gid = createdGid user parent)
    (hmode : (if node.kind = .directory then node.mode else User.withoutSetId node.mode) = mode) :
    user.gives node attributes.uid attributes.gid = some given ↔
      MayGive user parent attributes ∧ givenAway user parent attributes mode = given := by
  have hmay : (user.privileged || (decide (user.uid = user.uid) &&
      (decide (attributes.uid = keep) || decide (attributes.uid = user.uid)) &&
        (decide (attributes.gid = keep) || decide (attributes.gid = createdGid user parent) ||
          user.inGroup attributes.gid))) = true ↔ MayGive user parent attributes := by
    simp [MayGive, or_assoc]
  unfold User.gives
  dsimp only
  rw [huid, hgid, hmode]
  split
  · next h => exact ⟨fun heq => ⟨hmay.mp h, Option.some.inj heq⟩, fun h => congrArg some h.2⟩
  · next h => exact ⟨nofun, fun hgiven => absurd (hmay.mpr hgiven.1) h⟩

theorem gives_madeDirectory {kernel : Kernel} {parent attributes given : Attributes} :
    kernel.user.gives (madeDirectory kernel parent (attributes.mode &&& 0o777)) attributes.uid
        attributes.gid = some given ↔
      MayGive kernel.user parent attributes ∧
        givenAway kernel.user parent attributes
          (attributes.mode &&& 0o777 &&& ~~~kernel.umask ||| inherited parent) = given := by
  refine gives_iff rfl rfl ?_
  have hbits : attributes.mode &&& 0o777 &&& 0o1777 = attributes.mode &&& 0o777 := by
    rw [BitVec.and_assoc]
    rfl
  rw [if_pos (show (madeDirectory kernel parent _).kind = .directory from rfl), madeDirectory, hbits,
    User.makes, inherited]
  simp

theorem gives_madeFile {kernel : Kernel} {parent attributes given : Attributes}
    {body : List UInt8} :
    kernel.user.gives (madeFile kernel parent (attributes.mode &&& 0o777) body) attributes.uid
        attributes.gid = some given ↔
      MayGive kernel.user parent attributes ∧
        givenAway kernel.user parent attributes (attributes.mode &&& 0o777 &&& ~~~kernel.umask) =
          given := by
  refine gives_iff rfl rfl ?_
  have hmode : (madeFile kernel parent (attributes.mode &&& 0o777) body).mode =
      attributes.mode &&& 0o777 &&& ~~~kernel.umask := by
    simp [madeFile, User.makes]
  rw [if_neg (show (madeFile kernel parent _ body).kind ≠ .directory from nofun), hmode,
    withoutSetId_masked]

-- ════════════════════════════════
-- Reproduction
-- ════════════════════════════════

/-- What is compared: the type with its content, and the permission bits. -/
def shape (node : Node) : Kind × Mode := (node.kind, node.mode)

/-- Everything is a directory or a regular file, its permission bits survive the mask of the process
(a directory has the set-group-ID bit if and only if it inherits it), its owner can be given back,
and every directory with something in it can be written to. -/
def Reproducible (kernel : Kernel) : Attributes → Listing → Prop
  | _, .nil => True
  | parent, .file _ attributes content rest =>
    accepts kernel parent = true ∧ (∃ bytes, content = .regular bytes) ∧
      attributes.mode &&& 0o777 &&& ~~~kernel.umask = attributes.mode ∧
        MayGive kernel.user parent attributes ∧ Reproducible kernel parent rest
  | parent, .directory _ attributes children rest =>
    accepts kernel parent = true ∧
      attributes.mode &&& 0o777 &&& ~~~kernel.umask ||| inherited parent = attributes.mode ∧
        MayGive kernel.user parent attributes ∧
          Reproducible kernel (givenAway kernel.user parent attributes attributes.mode) children ∧
            Reproducible kernel parent rest

/-- Two listings have the same paths, with things of the same shape. -/
def SameShape (listing later : Listing) : Prop :=
  ∀ names, (later.node? names).map shape = (listing.node? names).map shape

section SameShape

variable {name : Name} {attributes given : Attributes} {rest rest' : Listing}

theorem sameShape_file {content : Content} (hfresh : name ∉ rest.names)
    (hnames : rest'.names = rest.names) :
    SameShape (.file name attributes content rest) (.file name given content rest') ↔
      given.mode = attributes.mode ∧ SameShape rest rest' := by
  constructor
  · intro h
    have hname := h [name]
    rw [Listing.node?, Listing.node?, if_pos rfl, if_pos rfl] at hname
    refine ⟨congrArg Prod.snd (Option.some.inj hname), fun names => ?_⟩
    by_cases heq : names = [name]
    · rw [heq, Listing.node?_notMem [] (hnames ▸ hfresh), Listing.node?_notMem [] hfresh]
    · have hother := h names
      rwa [Listing.node?, Listing.node?, if_neg heq, if_neg heq] at hother
  · rintro ⟨hmode, hrest⟩ names
    rw [Listing.node?, Listing.node?]
    split
    · simp [shape, hmode]
    · exact hrest names

theorem sameShape_directory {children children' : Listing} (hfresh : name ∉ rest.names)
    (hnames : rest'.names = rest.names) :
    SameShape (.directory name attributes children rest) (.directory name given children' rest') ↔
      given.mode = attributes.mode ∧ SameShape children children' ∧ SameShape rest rest' := by
  constructor
  · intro h
    have hname := h [name]
    rw [Listing.node?, Listing.node?, if_pos rfl, if_pos rfl, if_pos rfl, if_pos rfl] at hname
    refine ⟨congrArg Prod.snd (Option.some.inj hname), fun names => ?_, fun names => ?_⟩
    · by_cases heq : names = []
      · rw [heq, Listing.node?_nil, Listing.node?_nil]
      · have hbelow := h (name :: names)
        rwa [Listing.node?, Listing.node?, if_pos rfl, if_pos rfl, if_neg heq, if_neg heq] at hbelow
    · cases names with
      | nil => rw [Listing.node?_nil, Listing.node?_nil]
      | cons first below =>
        by_cases heq : first = name
        · rw [heq, Listing.node?_notMem below (hnames ▸ hfresh), Listing.node?_notMem below hfresh]
        · have hother := h (first :: below)
          rwa [Listing.node?, Listing.node?, if_neg heq, if_neg heq] at hother
  · rintro ⟨hmode, hchildren, hrest⟩ names
    cases names with
    | nil => rfl
    | cons first below =>
      rw [Listing.node?, Listing.node?]
      by_cases hfirst : first = name
      · rw [if_pos hfirst, if_pos hfirst]
        by_cases hbelow : below = []
        · rw [if_pos hbelow, if_pos hbelow]
          simp [shape, hmode]
        · rw [if_neg hbelow, if_neg hbelow]
          exact hchildren below
      · rw [if_neg hfirst, if_neg hfirst]
        exact hrest (first :: below)

end SameShape

theorem sameShape_nil : SameShape .nil .nil := fun _ => rfl

/-- Everything is restored, in its shape, exactly when the listing is reproducible. -/
theorem restored_iff {kernel : Kernel} {listing : Listing} (hvalid : listing.Valid)
    (parent : Attributes) :
    (∃ later, listing.restored kernel parent = some later ∧ SameShape listing later) ↔
      Reproducible kernel parent listing := by
  induction listing generalizing parent with
  | nil => exact ⟨fun _ => trivial, fun _ => ⟨.nil, rfl, sameShape_nil⟩⟩
  | file name attributes content rest ih =>
    obtain ⟨-, hfresh, hrest⟩ := hvalid
    rw [Reproducible, ← ih hrest parent]
    constructor
    · rintro ⟨later, hrestored, hshape⟩
      cases content with
      | regular body =>
        rw [Listing.restored] at hrestored
        split at hrestored
        · next haccepts =>
          obtain ⟨given, hgives, hlater⟩ := Option.bind_eq_some_iff.mp hrestored
          obtain ⟨rest', hrest', hlater⟩ := Option.bind_eq_some_iff.mp hlater
          obtain rfl := Option.some.inj hlater
          obtain ⟨hmay, rfl⟩ := gives_madeFile.mp hgives
          obtain ⟨hmode, hsame⟩ :=
            (sameShape_file hfresh (Listing.names_restored hrest')).mp hshape
          exact ⟨haccepts, ⟨body, rfl⟩, hmode, hmay, rest', hrest', hsame⟩
        · cases hrestored
      | _ => cases hrestored
    · rintro ⟨haccepts, ⟨body, rfl⟩, hmode, hmay, rest', hrest', hsame⟩
      refine ⟨.file name (givenAway kernel.user parent attributes attributes.mode) (.regular body)
        rest', ?_, (sameShape_file hfresh (Listing.names_restored hrest')).mpr ⟨rfl, hsame⟩⟩
      rw [Listing.restored, if_pos haccepts, gives_madeFile.mpr ⟨hmay, rfl⟩, hmode, hrest']
      rfl
  | directory name attributes children rest ihInner ih =>
    obtain ⟨-, hfresh, hchildren, hrest⟩ := hvalid
    rw [Reproducible, ← ih hrest parent, ← ihInner hchildren]
    constructor
    · rintro ⟨later, hrestored, hshape⟩
      rw [Listing.restored] at hrestored
      split at hrestored
      · next haccepts =>
        obtain ⟨given, hgives, hlater⟩ := Option.bind_eq_some_iff.mp hrestored
        obtain ⟨children', hchildren', hlater⟩ := Option.bind_eq_some_iff.mp hlater
        obtain ⟨rest', hrest', hlater⟩ := Option.bind_eq_some_iff.mp hlater
        obtain rfl := Option.some.inj hlater
        obtain ⟨hmay, rfl⟩ := gives_madeDirectory.mp hgives
        obtain ⟨hmode, hinner, hsame⟩ :=
          (sameShape_directory hfresh (Listing.names_restored hrest')).mp hshape
        have hmode' : attributes.mode &&& 0o777 &&& ~~~kernel.umask ||| inherited parent =
            attributes.mode := hmode
        rw [hmode'] at hchildren'
        exact ⟨haccepts, hmode, hmay, ⟨children', hchildren', hinner⟩, rest', hrest', hsame⟩
      · cases hrestored
    · rintro ⟨haccepts, hmode, hmay, ⟨children', hchildren', hinner⟩, rest', hrest', hsame⟩
      refine ⟨.directory name (givenAway kernel.user parent attributes attributes.mode) children'
        rest', ?_, (sameShape_directory hfresh (Listing.names_restored hrest')).mpr
          ⟨rfl, hinner, hsame⟩⟩
      rw [Listing.restored, if_pos haccepts, gives_madeDirectory.mpr ⟨hmay, rfl⟩, hmode]
      simp only [Option.bind_eq_bind, Option.bind_some, hchildren', hrest']
      rfl

-- ════════════════════════════════
-- Whole backups
-- ════════════════════════════════

/-- An empty directory, and where it is. -/
structure Destination (kernel : Kernel) (disk : Disk) (working : Option WorkingDirectory)
    (directory : List UInt8) (base : Place) (attributes : Attributes) : Prop where
  resolves : ∃ root, abs working directory = some root ∧
    kernel.resolve disk.tree true (Kernel.pathNames root) = some base
  there : disk.tree.node? base = some { attributes with kind := .directory }
  empty : disk.tree.names base = []

/-- The archive is taken out, and what it was made of is at its paths again. -/
def Restores (kernel : Kernel) (disk : Disk) (working : Option WorkingDirectory)
    (directory : List UInt8) (base : Place) (volume : Volume) (archive : Archive) : Prop :=
  let outcome := restore kernel working directory (.ok archive) (Host.start disk.tree)
  outcome.1 = .ok () ∧ ∀ names, names ≠ [] →
    (outcome.2.tree.node? (base ++ names)).map shape = (volume.listing.node? names).map shape

section Restores

variable {kernel : Kernel} {disk : Disk} {working : Option WorkingDirectory}
  {directory : List UInt8} {base : Place} {attributes : Attributes} {volume : Volume}
  {archive : Archive}

theorem Destination.ground (destination : Destination kernel disk working directory base attributes) :
    ∃ root, abs working directory = some (text true root) ∧ Ground kernel disk.tree root base := by
  obtain ⟨path, habs, hresolve⟩ := destination.resolves
  obtain ⟨root, hnormal, rfl⟩ := SlashPath.abs_eq_some habs
  rw [Kernel.pathNames_text hnormal] at hresolve
  refine ⟨root, habs, hnormal, hresolve, fun names hne => disk.closed.empty (fun name => ?_) hne⟩
  rw [← Option.not_isSome_iff_eq_none, ← Tree.mem_names, destination.empty]
  exact List.not_mem_nil

/-- Reading the empty directory is what comes before the first entry. -/
theorem restore_eq (calm : kernel.Calm)
    (destination : Destination kernel disk working directory base attributes) {root : List Name}
    (habs : abs working directory = some (text true root))
    (ground : Ground kernel disk.tree root base) :
    restore kernel working directory (.ok archive) (Host.start disk.tree) =
      if kernel.user.may .read attributes then
        extract kernel (text true root) archive (Host.start disk.tree).called
      else (.error (.system .denied), (Host.start disk.tree).called) := by
  have hnode := Kernel.nodeAt_eq_ok.mpr ⟨ground.resolves, destination.there⟩
  rw [restore, habs]
  dsimp only
  rw [restoreInto, Act.bind_eq, Kernel.readDir, calm.looks, Kernel.pathNames_text ground.normal]
  dsimp only [Host.start]
  rw [hnode]
  dsimp only
  rw [if_neg (not_not.mpr rfl), destination.empty]
  cases kernel.user.may .read attributes with
  | true => rfl
  | false => rfl

theorem Destination.site (destination : Destination kernel disk working directory base attributes)
    {root : List Name} (ground : Ground kernel disk.tree root base) :
    Site kernel disk.tree root base [] attributes (Host.start disk.tree).called where
  ground := ground
  confined := ground.confined rfl rfl
  normal := nofun
  reaches front hstarts hne := absurd (List.prefix_nil.mp hstarts) hne
  directory := by
    rw [List.append_nil]
    exact destination.there

/-- A backup can be restored as it was if and only if the destination can be read and everything in
the directory is reproducible there. -/
theorem restore_backup_iff (calm : kernel.Calm)
    (destination : Destination kernel disk working directory base attributes)
    (hbackup : backup kernel.user volume = .ok archive) :
    Restores kernel disk working directory base volume archive ↔
      kernel.user.may .read attributes = true ∧ Reproducible kernel attributes volume.listing := by
  obtain ⟨root, habs, ground⟩ := destination.ground
  obtain ⟨⟨⟩, -, hentries⟩ := except_bind_eq_ok.mp hbackup
  obtain ⟨entries, hwalk, harchive⟩ := except_bind_eq_ok.mp hentries
  obtain rfl := Except.ok.inj harchive
  have habsent : ∀ name ∈ volume.listing.names, ∀ below,
      disk.tree.node? (base ++ [] ++ name :: below) = none := by
    intro name _ below
    rw [List.append_nil]
    exact ground.vacant _ (List.cons_ne_nil _ _)
  have hfollows :=
    extractAll_follows calm (destination.site ground) volume.valid habsent hwalk
  rw [List.append_nil] at hfollows
  rw [Restores, restore_eq calm destination habs ground, extract_assemble,
    ← restored_iff volume.valid attributes]
  cases hread : kernel.user.may .read attributes with
  | false => exact ⟨fun h => (nomatch h.1), fun h => (nomatch h.1)⟩
  | true =>
    rw [if_pos rfl]
    cases hrestored : volume.listing.restored kernel attributes with
    | none =>
      rw [hrestored] at hfollows
      obtain ⟨failure, hfailure⟩ := hfollows
      constructor
      · rintro ⟨hok, -⟩
        exact nomatch hfailure.symm.trans hok
      · rintro ⟨-, later, hlater, -⟩
        cases hlater
    | some later =>
      rw [hrestored] at hfollows
      obtain ⟨hok, hplanted⟩ := hfollows
      have hnode : ∀ names, names ≠ [] →
          (extractAll kernel (text true root) entries
            (Host.start disk.tree).called).2.tree.node? (base ++ names) = later.node? names := by
        intro names hne
        obtain ⟨first, below, rfl⟩ := List.exists_cons_of_ne_nil hne
        by_cases hmem : first ∈ volume.listing.names
        · exact hplanted.there first hmem below
        · have hother : ∀ name ∈ volume.listing.names, ¬base ++ [name] <+: base ++ first :: below := by
            intro name hname
            refine not_prefix_of_ne below ?_
            rintro rfl
            exact hmem hname
          rw [hplanted.elsewhere _ hother,
            Listing.node?_notMem below (Listing.names_restored hrestored ▸ hmem)]
          exact ground.vacant _ hne
      constructor
      · rintro ⟨-, hsame⟩
        refine ⟨rfl, later, rfl, fun names => ?_⟩
        by_cases hnil : names = []
        · rw [hnil, Listing.node?_nil, Listing.node?_nil]
        · rw [← hnode names hnil]
          exact hsame names hnil
      · rintro ⟨-, _, hlater, hsame⟩
        obtain rfl := Option.some.inj hlater
        refine ⟨hok, fun names hne => ?_⟩
        rw [hnode names hne]
        exact hsame names

end Restores

-- ════════════════════════════════
-- A root user's volumes
-- ════════════════════════════════

def rootKernel : Kernel :=
  { user := { uid := 0, gid := 0, groups := [], privileged := true }
    umask := 0o022, links := 40, trouble := fun _ => none }

def rootDirectory : Attributes := { mode := 0o755, uid := 0, gid := 0 }

/-- A machine with an empty directory `/s`. -/
def emptyDisk : Disk where
  tree := [([], { rootDirectory with kind := .directory }),
    ([[0x73]], { rootDirectory with kind := .directory })]
  closed := Tree.closed_of_all (by decide)

theorem emptyDisk_destination :
    Destination rootKernel emptyDisk none [0x2F, 0x73] [[0x73]] rootDirectory where
  resolves := ⟨[0x2F, 0x73], by decide, by decide⟩
  there := by decide
  empty := by decide

/-- A directory that holds a file. -/
def ordinaryVolume : Volume where
  attributes := rootDirectory
  listing := .directory [0x61] rootDirectory
    (.file [0x66] { mode := 0o644, uid := 10, gid := 10 } (.regular [1, 2]) .nil) .nil
  valid := ⟨by decide, List.not_mem_nil, ⟨by decide, List.not_mem_nil, trivial⟩, trivial⟩

theorem restore_backup_iff_ordinary :
    ∃ archive, backup rootKernel.user ordinaryVolume = .ok archive ∧
      (Restores rootKernel emptyDisk none [0x2F, 0x73] [[0x73]] ordinaryVolume archive ↔
        rootKernel.user.may .read rootDirectory = true ∧
          Reproducible rootKernel rootDirectory ordinaryVolume.listing) :=
  ⟨_, rfl, restore_backup_iff (fun _ => rfl) emptyDisk_destination rfl⟩

/-- A directory that holds a named pipe. -/
def pipeVolume : Volume where
  attributes := rootDirectory
  listing := .file [0x70] { mode := 0o644, uid := 0, gid := 0 } .fifo .nil
  valid := ⟨by decide, List.not_mem_nil, trivial⟩

/-- The pipe is put into the archive and never comes out. -/
theorem pipeVolume_lost :
    ∃ archive, backup rootKernel.user pipeVolume = .ok archive ∧
      ¬Restores rootKernel emptyDisk none [0x2F, 0x73] [[0x73]] pipeVolume archive := by
  refine ⟨_, rfl, fun h => ?_⟩
  exact nomatch h.1

end VolumeArchive
