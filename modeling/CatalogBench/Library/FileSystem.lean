import Mathlib.Data.List.Dedup
import Mathlib.Data.List.Induction
import CatalogBench.Library.SlashPath

/-!
# A file system

A tree of directories, files and symbolic links, its permissions, and the calls by which a process
looks at it and changes it. Every call may also fail for a reason of the machine's own.
-/

set_option linter.all false

namespace FileSystem

open SlashPath (Name Normal here up isAbs elements)

/-- Where something is: the names on the way from the root, none of them a symbolic link. -/
abbrev Place := List Name

abbrev Mode := BitVec 12
abbrev OwnerId := BitVec 32

inductive Content
  | regular (bytes : List UInt8)
  | symlink (target : List UInt8)
  | fifo
  | charDevice
  | blockDevice
  | socket
  deriving DecidableEq

inductive Kind
  | directory
  | file (content : Content)
  deriving DecidableEq

structure Attributes where
  mode : Mode
  uid : OwnerId
  gid : OwnerId
  deriving DecidableEq

structure Node extends Attributes where
  kind : Kind
  deriving DecidableEq

-- ════════════════════════════════
-- Trees
-- ════════════════════════════════

/-- What is at each place, the latest first. -/
abbrev Tree := List (Place × Node)

namespace Tree

def node? (tree : Tree) (place : Place) : Option Node := tree.lookup place

def put (tree : Tree) (place : Place) (node : Node) : Tree := (place, node) :: tree

/-- The names in a directory. -/
def names (tree : Tree) (place : Place) : List Name :=
  (tree.filterMap fun entry =>
    if entry.1.dropLast = place then entry.1.getLast? else none).dedup

theorem node?_put (tree : Tree) (place : Place) (node : Node) (other : Place) :
    (tree.put place node).node? other = if other = place then some node else tree.node? other := by
  unfold node? put
  rw [List.lookup_cons]
  by_cases h : other = place
  · rw [if_pos h, beq_iff_eq.mpr h]
  · rw [if_neg h, beq_eq_false_iff_ne.mpr h]

@[simp] theorem node?_put_self (tree : Tree) (place : Place) (node : Node) :
    (tree.put place node).node? place = some node := by
  rw [node?_put, if_pos rfl]

theorem node?_put_of_ne {tree : Tree} {place other : Place} (node : Node) (h : other ≠ place) :
    (tree.put place node).node? other = tree.node? other := by
  rw [node?_put, if_neg h]

/-- What is there is in a directory. -/
def Closed (tree : Tree) : Prop :=
  ∀ place name, (tree.node? (place ++ [name])).isSome = true →
    ∃ node, tree.node? place = some node ∧ node.kind = .directory

theorem closed_of_all {tree : Tree}
    (h : tree.all (fun entry => entry.1 = [] ||
      (tree.node? entry.1.dropLast).any fun node => node.kind = .directory) = true) :
    tree.Closed := by
  intro place name hthere
  rw [node?, List.lookup_isSome_iff] at hthere
  obtain ⟨entry, hmem, hplace⟩ := hthere
  have hentry := List.all_eq_true.mp h entry hmem
  rw [← beq_iff_eq.mp hplace, List.dropLast_concat] at hentry
  cases hnode : tree.node? place with
  | none => simp [hnode] at hentry
  | some node => exact ⟨node, rfl, by simpa [hnode] using hentry⟩

/-- An empty directory has nothing anywhere below it. -/
theorem Closed.empty {tree : Tree} (h : tree.Closed) {base : Place}
    (hempty : ∀ name, tree.node? (base ++ [name]) = none) {names : List Name} (hne : names ≠ []) :
    tree.node? (base ++ names) = none := by
  induction names using List.reverseRecOn with
  | nil => exact absurd rfl hne
  | append_singleton names name ih =>
    by_cases hnil : names = []
    · subst hnil
      exact hempty name
    · rw [← List.append_assoc]
      cases hthere : tree.node? (base ++ names ++ [name]) with
      | none => rfl
      | some node =>
        obtain ⟨parent, hparent, -⟩ := h (base ++ names) name (by rw [hthere]; rfl)
        rw [ih hnil] at hparent
        cases hparent

theorem mem_names {tree : Tree} {place : Place} {name : Name} :
    name ∈ tree.names place ↔ (tree.node? (place ++ [name])).isSome = true := by
  have hentry : ∀ key : Place,
      (if key.dropLast = place then key.getLast? else none) = some name ↔ key = place ++ [name] := by
    intro key
    constructor
    · intro h
      split at h
      · next hplace => rw [← hplace, List.dropLast_append_getLast? name h]
      · cases h
    · rintro rfl
      rw [List.dropLast_concat, if_pos rfl, List.getLast?_concat]
  rw [names, List.mem_dedup, List.mem_filterMap, node?, List.lookup_isSome_iff]
  constructor
  · rintro ⟨entry, hmem, h⟩
    exact ⟨entry, hmem, beq_iff_eq.mpr ((hentry _).mp h).symm⟩
  · rintro ⟨entry, hmem, h⟩
    exact ⟨entry, hmem, (hentry _).mpr (beq_iff_eq.mp h).symm⟩

end Tree

/-- What a machine holds. -/
structure Disk where
  tree : Tree
  closed : tree.Closed

-- ════════════════════════════════
-- Permissions
-- ════════════════════════════════

structure User where
  uid : OwnerId
  gid : OwnerId
  groups : List OwnerId
  privileged : Bool

inductive Right
  | read
  | write
  | search

def Right.bit : Right → Mode
  | read => 4
  | write => 2
  | search => 1

def setGroupId : Mode := 0o2000

/-- The identity that stands for the one there is. -/
def keep : OwnerId := BitVec.allOnes 32

namespace User

def inGroup (user : User) (gid : OwnerId) : Bool := gid = user.gid || user.groups.contains gid

/-- The permission bits of the class a user is in. -/
def classBits (user : User) (attributes : Attributes) : Mode :=
  if attributes.uid = user.uid then attributes.mode >>> 6
  else if user.inGroup attributes.gid then attributes.mode >>> 3
  else attributes.mode

def may (user : User) (right : Right) (attributes : Attributes) : Bool :=
  user.privileged || user.classBits attributes &&& right.bit ≠ 0

/-- The attributes of what a user makes in a directory. -/
def makes (user : User) (umask : Mode) (parent : Attributes) (isDirectory : Bool) (mode : Mode) :
    Attributes :=
  let inherits := parent.mode &&& setGroupId ≠ 0
  { mode := (mode &&& ~~~umask) ||| if isDirectory && inherits then setGroupId else 0
    uid := user.uid
    gid := if inherits then parent.gid else user.gid }

/-- A file given away is no longer run as its owner. -/
def withoutSetId (mode : Mode) : Mode :=
  (if mode &&& 0o10 ≠ 0 then mode &&& ~~~setGroupId else mode) &&& ~~~0o4000

/-- The attributes of something that a user gives away. -/
def gives (user : User) (node : Node) (uid gid : OwnerId) : Option Attributes :=
  let ownUid := uid = keep || uid = node.uid
  let ownGid := gid = keep || gid = node.gid || user.inGroup gid
  if user.privileged || (node.uid = user.uid && ownUid && ownGid) then
    some
      { mode := if node.kind = .directory then node.mode else withoutSetId node.mode
        uid := if uid = keep then node.uid else uid
        gid := if gid = keep then node.gid else gid }
  else none

end User

-- ════════════════════════════════
-- Names
-- ════════════════════════════════

/-- What the machine does for one process. The trouble of a call is the number of bytes that are
written before it fails. -/
structure Kernel where
  user : User
  umask : Mode
  links : ℕ
  trouble : ℕ → Option ℕ

namespace Kernel

/-- Whether names can be looked up at a place. -/
def enters (kernel : Kernel) (tree : Tree) (place : Place) : Bool :=
  (tree.node? place).any fun node =>
    node.kind = .directory && kernel.user.may .search node.toAttributes

/-- The names that a path stands for; a slash at its end asks for a directory. -/
def pathNames (path : List UInt8) : List Name :=
  elements path ++
    if path.getLast? = some SlashPath.slash && !(elements path).isEmpty then [here] else []

theorem pathNames_text {names : List Name} (h : ∀ name ∈ names, Normal name) :
    pathNames (SlashPath.text true names) = names := by
  rw [pathNames, SlashPath.elements_text_of_normal true h]
  rcases List.eq_nil_or_concat names with rfl | ⟨front, last, rfl⟩
  · rfl
  · rw [List.concat_eq_append] at h ⊢
    have hlast : Normal last := h last (by simp)
    obtain ⟨path, htext, -, -⟩ := SlashPath.exists_front last fun name hmem =>
      have hnormal := h name (List.mem_append_left [last] hmem)
      ⟨hnormal.ne_nil, hnormal.no_slash⟩
    have hend : (SlashPath.text true (front ++ [last])).getLast? ≠ some SlashPath.slash := by
      rw [htext, ← List.singleton_append, ← List.append_assoc,
        List.getLast?_append_of_ne_nil _ hlast.ne_nil]
      exact fun heq => hlast.no_slash (List.mem_of_getLast? heq)
    simp [hend]

/-- Where names lead, up to the first symbolic link. -/
def walkTo (kernel : Kernel) (tree : Tree) (last : Bool)
    (follow : Place → List Name → Option Place) : Place → List Name → Option Place
  | place, [] => some place
  | place, name :: rest =>
    if !kernel.enters tree place then none
    else if name = here then walkTo kernel tree last follow place rest
    else if name = up then walkTo kernel tree last follow place.dropLast rest
    else
      match tree.node? (place ++ [name]) with
      | none => none
      | some node =>
        match node.kind with
        | .file (.symlink target) =>
          if rest = [] && !last then some (place ++ [name])
          else follow (if isAbs target then [] else place) (pathNames target ++ rest)
        | _ => walkTo kernel tree last follow (place ++ [name]) rest

/-- Where names lead from a place; whether a link at the end is followed is up to the caller. -/
def walk (kernel : Kernel) (tree : Tree) (last : Bool) : ℕ → Place → List Name → Option Place
  | 0 => kernel.walkTo tree last fun _ _ => none
  | links + 1 => kernel.walkTo tree last (walk kernel tree last links)

def resolve (kernel : Kernel) (tree : Tree) (last : Bool) (names : List Name) : Option Place :=
  kernel.walk tree last kernel.links [] names

end Kernel

-- ════════════════════════════════
-- Calls
-- ════════════════════════════════

inductive Errno
  | absent
  | present
  | notDirectory
  | denied
  | trouble
  deriving DecidableEq

/-- What an action fails with: a refused call, or a text with a name at its end. -/
inductive Failure
  | system (errno : Errno)
  | message (text : String) (name : Name)
  deriving DecidableEq

/-- A tree, the places made, written to or given away so far, and the number of calls. -/
structure Host where
  tree : Tree
  touched : List Place
  calls : ℕ

def Host.start (tree : Tree) : Host := { tree := tree, touched := [], calls := 0 }

def Host.called (host : Host) : Host := { host with calls := host.calls + 1 }

def Host.put (host : Host) (place : Place) (node : Node) : Host :=
  { host with tree := host.tree.put place node, touched := host.touched ++ [place] }

abbrev Act (α : Type) := ExceptT Failure (StateM Host) α

/-- The failure of an action as a value. -/
def attempt {α : Type} (act : Act α) : Act (Except Failure α) := fun host =>
  (.ok (act host).1, (act host).2)

namespace Kernel

variable {α : Type}

/-- A call that looks at the tree. -/
def looks (kernel : Kernel) (look : Tree → Except Errno α) : Act α := fun host =>
  match kernel.trouble host.calls with
  | some _ => (.error (.system .trouble), host.called)
  | none => ((look host.tree).mapError .system, host.called)

/-- A call that puts a node in the tree. -/
def changes (kernel : Kernel) (change : Tree → Except Errno (Place × Node)) : Act Place :=
  fun host =>
    match kernel.trouble host.calls with
    | some _ => (.error (.system .trouble), host.called)
    | none =>
      match change host.tree with
      | .error errno => (.error (.system errno), host.called)
      | .ok (place, node) => (.ok place, host.called.put place node)

def nodeAt (kernel : Kernel) (last : Bool) (names : List Name) (tree : Tree) :
    Except Errno (Place × Node) :=
  match kernel.resolve tree last names with
  | none => .error .absent
  | some place =>
    match tree.node? place with
    | none => .error .absent
    | some node => .ok (place, node)

def stat (kernel : Kernel) (names : List Name) : Act Node :=
  kernel.looks fun tree => (kernel.nodeAt true names tree).map Prod.snd

def lstat (kernel : Kernel) (names : List Name) : Act Node :=
  kernel.looks fun tree => (kernel.nodeAt false names tree).map Prod.snd

def readDir (kernel : Kernel) (names : List Name) : Act (List Name) :=
  kernel.looks fun tree =>
    match kernel.nodeAt true names tree with
    | .error errno => .error errno
    | .ok (place, node) =>
      if node.kind ≠ .directory then .error .notDirectory
      else if kernel.user.may .read node.toAttributes then .ok (tree.names place)
      else .error .denied

/-- The place for something new, and the directory it is in. -/
def vacancy (kernel : Kernel) (names : List Name) (tree : Tree) :
    Except Errno (Place × Attributes) :=
  match names.getLast? with
  | none => .error .present
  | some name =>
    match kernel.nodeAt true names.dropLast tree with
    | .error errno => .error errno
    | .ok (place, parent) =>
      if !kernel.enters tree place then .error .denied
      else if name = here ∨ name = up ∨ (tree.node? (place ++ [name])).isSome then .error .present
      else if kernel.user.may .write parent.toAttributes then
        .ok (place ++ [name], parent.toAttributes)
      else .error .denied

def mkdir (kernel : Kernel) (names : List Name) (mode : Mode) : Act Place :=
  kernel.changes fun tree =>
    (kernel.vacancy names tree).map fun (place, parent) =>
      (place, { kernel.user.makes kernel.umask parent true (mode &&& 0o1777) with kind := .directory })

/-- A file of its own, open for writing. -/
def createExclusive (kernel : Kernel) (names : List Name) (mode : Mode) : Act Place :=
  kernel.changes fun tree =>
    (kernel.vacancy names tree).map fun (place, parent) =>
      (place, { kernel.user.makes kernel.umask parent false mode with kind := .file (.regular []) })

def chown (kernel : Kernel) (names : List Name) (uid gid : OwnerId) : Act Place :=
  kernel.changes fun tree =>
    match kernel.nodeAt true names tree with
    | .error errno => .error errno
    | .ok (place, node) =>
      match kernel.user.gives node uid gid with
      | none => .error .denied
      | some attributes => .ok (place, { attributes with kind := node.kind })

/-- What is written to an open file comes after what it holds. -/
def write (kernel : Kernel) (place : Place) (bytes : List UInt8) : Act Unit := fun host =>
  match host.tree.node? place with
  | some { kind := .file (.regular content), toAttributes } =>
    match kernel.trouble host.calls with
    | some taken =>
      (.error (.system .trouble), host.called.put place
        { toAttributes with kind := .file (.regular (content ++ bytes.take taken)) })
    | none =>
      (.ok (), host.called.put place
        { toAttributes with kind := .file (.regular (content ++ bytes)) })
  | _ => (.error (.system .denied), host.called)

def close (kernel : Kernel) : Act Unit := kernel.looks fun _ => .ok ()

theorem exists_of_map_eq_ok {ε β γ : Type} {f : β → γ} {result : Except ε β} {value : γ}
    (h : result.map f = .ok value) : ∃ inner, result = .ok inner ∧ f inner = value := by
  cases result with
  | error failure => cases h
  | ok inner => exact ⟨inner, rfl, Except.ok.inj h⟩

theorem nodeAt_eq_ok {kernel : Kernel} {last : Bool} {names : List Name} {tree : Tree}
    {place : Place} {node : Node} :
    kernel.nodeAt last names tree = .ok (place, node) ↔
      kernel.resolve tree last names = some place ∧ tree.node? place = some node := by
  unfold nodeAt
  cases kernel.resolve tree last names with
  | none => simp
  | some found =>
    dsimp only
    cases hnode : tree.node? found with
    | none =>
      simp only [reduceCtorEq, Option.some.injEq, false_iff]
      rintro ⟨rfl, h⟩
      rw [hnode] at h
      cases h
    | some there =>
      simp only [Except.ok.injEq, Prod.mk.injEq, Option.some.injEq]
      constructor
      · rintro ⟨rfl, rfl⟩
        exact ⟨rfl, hnode⟩
      · rintro ⟨rfl, h⟩
        exact ⟨rfl, Option.some.inj (hnode.symm.trans h)⟩

/-- A call that looks at the tree leaves it alone. -/
theorem looks_snd {kernel : Kernel} (look : Tree → Except Errno α) (host : Host) :
    (kernel.looks look host).2 = host.called := by
  unfold looks
  split <;> rfl

theorem looks_eq_ok {kernel : Kernel} {look : Tree → Except Errno α} {host : Host} {value : α}
    (h : (kernel.looks look host).1 = .ok value) : look host.tree = .ok value := by
  unfold looks at h
  split at h
  · cases h
  · dsimp only at h
    cases hlook : look host.tree with
    | error errno =>
      rw [hlook] at h
      cases h
    | ok found =>
      rw [hlook] at h
      exact congrArg Except.ok (Except.ok.inj h)

theorem readDir_eq_ok {kernel : Kernel} {names found : List Name} {host : Host}
    (h : (kernel.readDir names host).1 = .ok found) :
    ∃ place, kernel.resolve host.tree true names = some place ∧ host.tree.names place = found := by
  have hlook := looks_eq_ok h
  split at hlook
  · cases hlook
  · next place node hnode =>
    split at hlook
    · cases hlook
    split at hlook
    · exact ⟨place, (nodeAt_eq_ok.mp hnode).1, Except.ok.inj hlook⟩
    · cases hlook

theorem vacancy_eq_ok {kernel : Kernel} {names : List Name} {tree : Tree} {place : Place}
    {parent : Attributes} :
    kernel.vacancy names tree = .ok (place, parent) ↔
      ∃ front name above node, names = front ++ [name] ∧ place = above ++ [name] ∧
        kernel.resolve tree true front = some above ∧ tree.node? above = some node ∧
        parent = node.toAttributes ∧ kernel.enters tree above = true ∧ name ≠ here ∧ name ≠ up ∧
        tree.node? place = none ∧ kernel.user.may .write parent = true := by
  rcases List.eq_nil_or_concat names with rfl | ⟨front, name, rfl⟩
  · simp [vacancy]
  have hlast : (front.concat name).getLast? = some name := by simp
  have hfront : (front.concat name).dropLast = front := by simp
  rw [vacancy, hlast, hfront]
  dsimp only
  constructor
  · intro h
    split at h
    · cases h
    · next above node hnode =>
      obtain ⟨hresolve, hthere⟩ := nodeAt_eq_ok.mp hnode
      split at h
      · cases h
      next henters =>
      split at h
      · cases h
      next hvacant =>
      split at h
      · next hwrite =>
        obtain ⟨rfl, rfl⟩ := Prod.mk.inj (Except.ok.inj h)
        simp only [not_or] at hvacant
        refine ⟨front, name, above, node, List.concat_eq_append, rfl, hresolve, hthere, rfl, ?_,
          hvacant.1, hvacant.2.1, ?_, hwrite⟩
        · simpa using henters
        · simpa using hvacant.2.2
      · cases h
  · rintro ⟨front', name', above, node, hnames, rfl, hresolve, hthere, rfl, henters, hhere, hup,
      hvacant, hwrite⟩
    obtain ⟨rfl, hname⟩ := List.append_inj' (List.concat_eq_append.symm.trans hnames) rfl
    obtain rfl := List.singleton_inj.mp hname
    rw [nodeAt_eq_ok.mpr ⟨hresolve, hthere⟩]
    dsimp only
    rw [henters, hvacant, hwrite]
    simp [hhere, hup]

end Kernel

-- ════════════════════════════════
-- Conditions on actions
-- ════════════════════════════════

/-- Whatever becomes of the action, the condition stays; what it returns is as said. -/
def Leads {α : Type} (Holds : Host → Prop) (act : Act α) (Returns : α → Prop) : Prop :=
  ∀ host, Holds host → Holds (act host).2 ∧ ∀ value, (act host).1 = .ok value → Returns value

section Leads

variable {α β : Type} {Holds : Host → Prop} {Returns : α → Prop} {Then : β → Prop}

theorem Act.bind_eq (act : Act α) (next : α → Act β) (host : Host) :
    (act >>= next) host =
      match act host with
      | (.ok value, later) => next value later
      | (.error failure, later) => (.error failure, later) := by
  change (match act host with | (result, later) => ExceptT.bindCont next result later) = _
  rcases act host with ⟨_ | _, _⟩ <;> rfl

theorem Leads.pure {value : α} (h : Returns value) : Leads Holds (pure value) Returns :=
  fun _ hholds => ⟨hholds, fun _ heq => Except.ok.inj heq ▸ h⟩

theorem Leads.throw {failure : Failure} : Leads Holds (throw failure : Act α) Returns :=
  fun _ hholds => ⟨hholds, fun _ heq => nomatch heq⟩

theorem Leads.bind {act : Act α} {next : α → Act β} (hact : Leads Holds act Returns)
    (hnext : ∀ value, Returns value → Leads Holds (next value) Then) :
    Leads Holds (act >>= next) Then := by
  intro host hholds
  obtain ⟨hkept, hreturns⟩ := hact host hholds
  rw [Act.bind_eq]
  rcases hrun : act host with ⟨_ | value, later⟩
  · rw [hrun] at hkept
    exact ⟨hkept, fun _ heq => nomatch heq⟩
  · rw [hrun] at hkept hreturns
    exact hnext value (hreturns value rfl) later hkept

theorem Leads.mono {act : Act α} {Returns' : α → Prop} (h : Leads Holds act Returns)
    (hmono : ∀ value, Returns value → Returns' value) : Leads Holds act Returns' :=
  fun host hholds => ⟨(h host hholds).1, fun value heq => hmono value ((h host hholds).2 value heq)⟩

theorem Leads.attempt {act : Act α} (h : Leads Holds act Returns) :
    Leads Holds (attempt act) fun _ => True :=
  fun host hholds => ⟨(h host hholds).1, fun _ _ => trivial⟩

theorem Leads.looks {kernel : Kernel} {look : Tree → Except Errno α}
    (hcalled : ∀ host, Holds host → Holds host.called) :
    Leads Holds (kernel.looks look) fun _ => True := by
  intro host hholds
  unfold Kernel.looks
  split
  · exact ⟨hcalled host hholds, fun _ _ => trivial⟩
  · exact ⟨hcalled host hholds, fun _ _ => trivial⟩

theorem Leads.changes {kernel : Kernel} {change : Tree → Except Errno (Place × Node)}
    {Returns : Place → Prop} (hcalled : ∀ host, Holds host → Holds host.called)
    (hput : ∀ host place node, Holds host → change host.tree = .ok (place, node) →
      Holds (host.put place node) ∧ Returns place) :
    Leads Holds (kernel.changes change) Returns := by
  intro host hholds
  unfold Kernel.changes
  split
  · exact ⟨hcalled host hholds, fun _ heq => nomatch heq⟩
  split
  · exact ⟨hcalled host hholds, fun _ heq => nomatch heq⟩
  · next place node hchange =>
    obtain ⟨hkept, hreturns⟩ := hput host.called place node (hcalled host hholds) hchange
    exact ⟨hkept, fun _ heq => Except.ok.inj heq ▸ hreturns⟩

end Leads

end FileSystem
