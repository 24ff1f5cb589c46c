import CatalogBench.Library.QuietKernel
import CatalogBench.VolumeArchive.Containment

/-!
# Restoring one entry

What becomes of an entry for something new in a directory that is there already, on a machine that
gives no trouble.
-/

set_option linter.all false

namespace VolumeArchive

open FileSystem
open SlashPath (Name Normal here up slash isAbs elements clean join dir abs text)

/-- Whether something can be made in a directory. -/
def accepts (kernel : Kernel) (parent : Attributes) : Bool :=
  kernel.user.may .search parent && kernel.user.may .write parent

/-- A directory as it is made, before it is given away. -/
def madeDirectory (kernel : Kernel) (parent : Attributes) (mode : Mode) : Node :=
  { kernel.user.makes kernel.umask parent true (mode &&& 0o1777) with kind := .directory }

def madeFile (kernel : Kernel) (parent : Attributes) (mode : Mode) (body : List UInt8) : Node :=
  { kernel.user.makes kernel.umask parent false mode with kind := .file (.regular body) }

/-- A directory below the root, all of it restored so far. -/
structure Site (kernel : Kernel) (before : Tree) (root : List Name) (base : Place)
    (above : List Name) (parent : Attributes) (host : Host) : Prop where
  ground : Ground kernel before root base
  confined : Confined base before host
  normal : ∀ name ∈ above, Normal name
  reaches : kernel.Reaches host.tree base above
  directory : host.tree.node? (base ++ above) = some { parent with kind := .directory }

/-- One place has changed. -/
def Becomes (host host' : Host) (place : Place) (node : Node) : Prop :=
  ∀ other, host'.tree.node? other = if other = place then some node else host.tree.node? other

theorem Becomes.put (host : Host) (place : Place) (node : Node) :
    Becomes host (host.put place node) place node :=
  Tree.node?_put host.tree place node

theorem Becomes.self {host host' : Host} {place : Place} {node : Node}
    (h : Becomes host host' place node) : host'.tree.node? place = some node := by
  rw [h, if_pos rfl]

theorem Becomes.other {host host' : Host} {place other : Place} {node : Node}
    (h : Becomes host host' place node) (hne : other ≠ place) :
    host'.tree.node? other = host.tree.node? other := by
  rw [h, if_neg hne]

theorem Becomes.trans {host host' host'' : Host} {place : Place} {node node' : Node}
    (h : Becomes host host' place node) (h' : Becomes host' host'' place node') :
    Becomes host host'' place node' := by
  intro other
  rw [h', h]
  split <;> rfl

theorem Becomes.called {host host' : Host} {place : Place} {node : Node}
    (h : Becomes host host' place node) : Becomes host host'.called place node := h

theorem Becomes.of_called {host host' : Host} {place : Place} {node : Node}
    (h : Becomes host.called host' place node) : Becomes host host' place node := h

-- ════════════════════════════════
-- The directory
-- ════════════════════════════════

namespace Site

variable {kernel : Kernel} {before : Tree} {root above : List Name} {base : Place}
  {parent : Attributes} {host : Host} {name : Name}

theorem normal_names (site : Site kernel before root base above parent host) :
    ∀ other ∈ root ++ above, Normal other := by
  intro other hmem
  exact (List.mem_append.mp hmem).elim (site.ground.normal other) (site.normal other)

theorem called (site : Site kernel before root base above parent host) :
    Site kernel before root base above parent host.called :=
  { site with confined := site.confined.called }

theorem resolve (site : Site kernel before root base above parent host) :
    kernel.resolve host.tree true (root ++ above) = some (base ++ above) :=
  Kernel.resolve_reaches (site.ground.resolve site.confined) site.normal site.reaches
    site.directory nofun (.inr rfl)

theorem enters (site : Site kernel before root base above parent host) :
    kernel.enters host.tree (base ++ above) = kernel.user.may .search parent := by
  simp [Kernel.enters, site.directory]

/-- A slash after the directory asks for the right to enter it. -/
theorem resolve_here (site : Site kernel before root base above parent host)
    (henters : kernel.user.may .search parent = true) :
    kernel.resolve host.tree true (root ++ above ++ [here]) = some (base ++ above) := by
  refine Kernel.walk_join (.inl (by simp)) site.resolve fun left => ?_
  have hstep : ∀ follow, kernel.walkTo host.tree true follow (base ++ above) [here] =
      some (base ++ above) := by
    intro follow
    unfold Kernel.walkTo
    rw [site.enters, henters, if_neg (by simp), if_pos rfl]
    rfl
  cases left with
  | zero => exact hstep _
  | succ left => exact hstep _

/-- What is not in the directory is not found, with a slash after it or without. -/
theorem resolve_absent (site : Site kernel before root base above parent host)
    (hname : Normal name) (habsent : host.tree.node? (base ++ above ++ [name]) = none)
    (last : Bool) (ending : List Name) :
    kernel.resolve host.tree last (root ++ above ++ name :: ending) = none :=
  Kernel.resolve_absent (site.ground.resolve site.confined) site.normal hname site.reaches
    ⟨_, site.directory, rfl⟩ fun _ => habsent

theorem vacancy (site : Site kernel before root base above parent host) (hname : Normal name)
    (habsent : host.tree.node? (base ++ above ++ [name]) = none)
    (haccepts : accepts kernel parent = true) :
    kernel.vacancy (root ++ above ++ [name]) host.tree = .ok (base ++ above ++ [name], parent) := by
  rw [accepts, Bool.and_eq_true] at haccepts
  exact Kernel.vacancy_eq_ok.mpr ⟨root ++ above, name, base ++ above, _, rfl, rfl, site.resolve,
    site.directory, rfl, site.enters.trans haccepts.1, hname.ne_here, hname.ne_up, habsent,
    haccepts.2⟩

/-- Nothing can be made in a directory that does not accept it. -/
theorem vacancy_refused (site : Site kernel before root base above parent host)
    (hrefuses : accepts kernel parent = false) :
    ∃ errno, kernel.vacancy (root ++ above ++ [name]) host.tree = .error errno := by
  cases hvacancy : kernel.vacancy (root ++ above ++ [name]) host.tree with
  | error errno => exact ⟨errno, rfl⟩
  | ok found =>
    obtain ⟨place, attributes⟩ := found
    obtain ⟨front, last, middle, node, hnames, rfl, hresolve, hnode, rfl, henters, -, -, -, hwrite⟩ :=
      Kernel.vacancy_eq_ok.mp hvacancy
    obtain ⟨rfl, -⟩ := List.append_inj' hnames rfl
    obtain rfl := Option.some.inj (hresolve.symm.trans site.resolve)
    rw [site.directory] at hnode
    obtain rfl := Option.some.inj hnode
    rw [site.enters] at henters
    rw [accepts, henters] at hrefuses
    exact absurd (hrefuses.symm.trans hwrite) (by decide)

/-- Nothing can be made on the way to a directory that is there. -/
theorem vacancy_taken (site : Site kernel before root base above parent host) {front : List Name}
    (hfront : front <+: root ++ above) {place : Place} {attributes : Attributes} :
    kernel.vacancy front host.tree ≠ .ok (place, attributes) := by
  intro hvacancy
  obtain ⟨down, hne, hdown, rfl⟩ :=
    site.ground.vacancy site.confined site.normal hfront hvacancy
  obtain ⟨-, -, -, -, -, -, -, -, -, -, -, -, hvacant, -⟩ := Kernel.vacancy_eq_ok.mp hvacancy
  by_cases heq : down = above
  · rw [heq, site.directory] at hvacant
    cases hvacant
  · obtain ⟨node, hnode, -⟩ := Kernel.enters_eq_true.mp (site.reaches down hdown heq)
    rw [hvacant] at hnode
    cases hnode

/-- Making the directories on the way to one that is there changes nothing. -/
theorem mkdirAllBelow_still (site : Site kernel before root base above parent host)
    (mode : Mode) (ending : List Name) :
    (mkdirAllBelow kernel mode (root ++ above).reverse ending host).2.tree = host.tree := by
  have hleads : Leads (fun later => later.tree = host.tree)
      (mkdirAllBelow kernel mode (root ++ above).reverse ending) fun _ => True := by
    refine mkdirAllBelow_leads (fun _ h => h) fun front hfront => ?_
    rw [List.reverse_reverse] at hfront
    refine Leads.changes (fun _ h => h) fun later place node htree hchange => ?_
    obtain ⟨⟨vacant, attributes⟩, hvacancy, -⟩ := Kernel.exists_of_map_eq_ok hchange
    rw [htree] at hvacancy
    exact absurd hvacancy (site.vacancy_taken hfront)
  exact (hleads host rfl).1

end Site

-- ════════════════════════════════
-- Making directories
-- ════════════════════════════════

section Ensure

variable {kernel : Kernel} {names ending : List Name} {mode : Mode} {parent : Act Unit}
  {host host₁ host₂ host₃ host₄ : Host}

theorem ensureDirectory_found {node : Node}
    (hstat : kernel.stat (names ++ ending) host = (.ok node, host₁))
    (hkind : node.kind = .directory) :
    ensureDirectory kernel names ending mode parent host = (.ok (), host₁) := by
  rw [ensureDirectory, Act.bind_eq, attempt, hstat]
  dsimp only
  rw [if_pos hkind]
  rfl

theorem ensureDirectory_made {failure : Failure} {place : Place}
    (hstat : kernel.stat (names ++ ending) host = (.error failure, host₁))
    (hparent : parent host₁ = (.ok (), host₂))
    (hmkdir : kernel.mkdir names mode host₂ = (.ok place, host₃)) :
    ensureDirectory kernel names ending mode parent host = (.ok (), host₃) := by
  rw [ensureDirectory, Act.bind_eq, attempt, hstat]
  dsimp only
  rw [Act.bind_eq, hparent]
  dsimp only
  rw [Act.bind_eq, attempt, hmkdir]
  rfl

theorem ensureDirectory_refused {failure failure' failure'' : Failure}
    {result : Except Failure Unit}
    (hstat : kernel.stat (names ++ ending) host = (.error failure, host₁))
    (hparent : parent host₁ = (result, host₂))
    (hmkdir : kernel.mkdir names mode host₂ = (.error failure', host₃))
    (hlstat : kernel.lstat (names ++ ending) host₃ = (.error failure'', host₄)) :
    ∃ failure, (ensureDirectory kernel names ending mode parent host).1 = .error failure := by
  rw [ensureDirectory, Act.bind_eq, attempt, hstat]
  dsimp only
  rw [Act.bind_eq, hparent]
  cases result with
  | error failure => exact ⟨failure, rfl⟩
  | ok value =>
    dsimp only
    rw [Act.bind_eq, attempt, hmkdir]
    dsimp only
    rw [Act.bind_eq, attempt, hlstat]
    exact ⟨failure', rfl⟩

theorem mkdirAllBelow_eq (kernel : Kernel) (mode : Mode) (names ending : List Name) :
    ∃ parent, mkdirAllBelow kernel mode names ending =
      ensureDirectory kernel names.reverse ending mode parent := by
  cases names with
  | nil => exact ⟨_, rfl⟩
  | cons name above => exact ⟨_, rfl⟩

end Ensure

namespace Site

variable {kernel : Kernel} {before : Tree} {root above : List Name} {base : Place}
  {parent : Attributes} {host : Host} {name : Name}

/-- A directory that is there needs no making. -/
theorem mkdirAll_old (site : Site kernel before root base above parent host) (calm : kernel.Calm)
    (mode : Mode) : mkdirAll kernel (text true (root ++ above)) mode host = (.ok (), host.called) := by
  rw [mkdirAll, SlashPath.elements_text_of_normal true site.normal_names]
  obtain ⟨making, heq⟩ := mkdirAllBelow_eq kernel mode (root ++ above).reverse []
  have hstat := calm.stat_ok host site.resolve site.directory
  rw [heq, List.reverse_reverse]
  exact ensureDirectory_found (by rwa [List.append_nil]) rfl

theorem parent_old (site : Site kernel before root base above parent host) (calm : kernel.Calm)
    (mode : Mode) (henters : kernel.user.may .search parent = true) :
    mkdirAllBelow kernel mode (root ++ above).reverse
      (if (root ++ above).reverse.isEmpty then [] else [here]) host = (.ok (), host.called) := by
  obtain ⟨making, heq⟩ := mkdirAllBelow_eq kernel mode (root ++ above).reverse
    (if (root ++ above).reverse.isEmpty then [] else [here])
  rw [heq, List.reverse_reverse]
  split
  · have hstat := calm.stat_ok host site.resolve site.directory
    exact ensureDirectory_found (by rwa [List.append_nil]) rfl
  · exact ensureDirectory_found (calm.stat_ok host (site.resolve_here henters) site.directory) rfl

theorem mkdirAll_eq (site : Site kernel before root base above parent host) (hname : Normal name)
    (mode : Mode) :
    mkdirAll kernel (text true (root ++ (above ++ [name]))) mode =
      ensureDirectory kernel (root ++ above ++ [name]) [] mode
        (mkdirAllBelow kernel mode (root ++ above).reverse
          (if (root ++ above).reverse.isEmpty then [] else [here])) := by
  have hnormal : ∀ other ∈ root ++ above ++ [name], Normal other := by
    intro other hmem
    rcases List.mem_append.mp hmem with hold | hnew
    · exact site.normal_names other hold
    · rwa [List.mem_singleton.mp hnew]
  rw [← List.append_assoc, mkdirAll, SlashPath.elements_text_of_normal true hnormal,
    List.reverse_append, List.reverse_singleton, List.singleton_append, mkdirAllBelow,
    List.reverse_cons, List.reverse_reverse]

/-- A new directory in one that accepts it. -/
theorem mkdirAll_new (site : Site kernel before root base above parent host) (calm : kernel.Calm)
    (hname : Normal name) (habsent : host.tree.node? (base ++ above ++ [name]) = none)
    (haccepts : accepts kernel parent = true) (mode : Mode) :
    ∃ host', mkdirAll kernel (text true (root ++ (above ++ [name]))) mode host = (.ok (), host') ∧
      Becomes host host' (base ++ above ++ [name])
        (madeDirectory kernel parent mode) := by
  have henters : kernel.user.may .search parent = true := (Bool.and_eq_true _ _ ▸ haccepts).1
  have hstat := calm.stat_error host (site.resolve_absent hname habsent true [])
  rw [site.mkdirAll_eq hname]
  refine ⟨_, ensureDirectory_made (by rwa [List.append_nil])
    (site.called.parent_old calm mode henters)
    (calm.mkdir_ok _ mode (site.called.called.vacancy hname habsent haccepts)), ?_⟩
  exact Becomes.put _ _ _

/-- No new directory in one that does not accept it. -/
theorem mkdirAll_refused (site : Site kernel before root base above parent host)
    (calm : kernel.Calm) (hname : Normal name)
    (habsent : host.tree.node? (base ++ above ++ [name]) = none)
    (hrefuses : accepts kernel parent = false) (mode : Mode) :
    ∃ failure, (mkdirAll kernel (text true (root ++ (above ++ [name]))) mode host).1 =
      .error failure := by
  have hstat := calm.stat_error host (site.resolve_absent hname habsent true [])
  obtain ⟨errno, hvacancy⟩ :
      ∃ errno, kernel.vacancy (root ++ above ++ [name]) host.tree = .error errno :=
    site.vacancy_refused hrefuses
  rcases hparent : mkdirAllBelow kernel mode (root ++ above).reverse
    (if (root ++ above).reverse.isEmpty then [] else [here]) host.called with ⟨result, later⟩
  have htree : later.tree = host.tree := by
    have hstill := site.called.mkdirAllBelow_still mode
      (if (root ++ above).reverse.isEmpty then [] else [here])
    rwa [hparent] at hstill
  have hresolve : kernel.resolve later.tree false (root ++ above ++ [name]) = none := by
    rw [htree]
    exact site.resolve_absent hname habsent false []
  have hlstat := calm.lstat_error later.called hresolve
  rw [site.mkdirAll_eq hname]
  rw [← htree] at hvacancy
  exact ensureDirectory_refused (by rwa [List.append_nil]) hparent
    (calm.mkdir_error later mode hvacancy) (by rwa [List.append_nil])

end Site

-- ════════════════════════════════
-- Entries
-- ════════════════════════════════

/-- Names that only go down are not refused. -/
theorem isUnsafe_text {names : List Name} (hnormal : ∀ name ∈ names, Normal name)
    (hne : names ≠ []) : isUnsafe (text false names) = false := by
  have helements := SlashPath.elements_text_of_normal false hnormal
  obtain ⟨first, rest, rfl⟩ := List.exists_cons_of_ne_nil hne
  have hfirst := hnormal first List.mem_cons_self
  by_contra hunsafe
  rw [Bool.not_eq_false, isUnsafe, Bool.or_eq_true, Bool.or_eq_true, Bool.or_eq_true] at hunsafe
  rcases hunsafe with ((hhere | habs) | hup) | hstarts
  · rw [of_decide_eq_true hhere] at helements
    exact hfirst.ne_here (List.cons.inj helements).1.symm
  · obtain ⟨byte, tail, rfl⟩ := List.exists_cons_of_ne_nil hfirst.ne_nil
    have hhead : (text false ((byte :: tail) :: rest)).head? = some byte := by
      cases rest with
      | nil => rfl
      | cons second rest => rfl
    rw [isAbs, hhead, decide_eq_true_eq, Option.some.injEq] at habs
    exact hfirst.no_slash (habs ▸ List.mem_cons_self)
  · rw [of_decide_eq_true hup] at helements
    exact hfirst.ne_up (List.cons.inj helements).1.symm
  · obtain ⟨tail, htext⟩ := List.isPrefixOf_iff_prefix.mp hstarts
    rw [← htext, List.append_assoc, List.singleton_append, SlashPath.elements_append] at helements
    exact hfirst.ne_up (List.cons.inj helements).1.symm

theorem clean_text_false {names : List Name} (hnormal : ∀ name ∈ names, Normal name)
    (hne : names ≠ []) : clean (text false names) = text false names := by
  have helements := SlashPath.elements_text_of_normal false hnormal
  have hsafe := isUnsafe_text hnormal hne
  have habs : isAbs (text false names) = false := by
    rw [isUnsafe, Bool.or_eq_false_iff, Bool.or_eq_false_iff, Bool.or_eq_false_iff] at hsafe
    exact hsafe.1.1.2
  rw [SlashPath.clean_of_normal (by rwa [helements]) (.inl (by rwa [helements])), helements, habs]

theorem place_ne {base above front : List Name} {name : Name} (hfront : front <+: above) :
    base ++ front ≠ base ++ above ++ [name] := by
  rw [List.append_assoc]
  intro heq
  have hlength := congrArg List.length (List.append_cancel_left heq)
  have hle := hfront.length_le
  rw [List.length_append, List.length_singleton] at hlength
  omega

theorem copyN_ok {kernel : Kernel} (calm : kernel.Calm) (host : Host) {place : Place}
    {attributes : Attributes} {content : List UInt8}
    (hnode : host.tree.node? place = some { attributes with kind := .file (.regular content) })
    {body : List UInt8} {size : ℕ} (hsize : size = body.length) :
    ∃ later, copyN kernel place body size host = (.ok (), later) ∧
      Becomes host later place { attributes with kind := .file (.regular (content ++ body)) } := by
  subst hsize
  have hend : (if body.length < body.length then throw (say "unexpected EOF") else pure () : Act Unit) =
      pure () := if_neg (Nat.lt_irrefl _)
  rw [copyN, List.take_length, hend, Act.bind_eq, writeAll]
  by_cases hnil : body = []
  · rw [if_pos hnil]
    refine ⟨host, rfl, fun other => ?_⟩
    split
    · next heq => rw [heq, hnode, hnil, List.append_nil]
    · rfl
  · rw [if_neg hnil, calm.write_ok host hnode]
    exact ⟨_, rfl, Becomes.put _ _ _⟩

namespace Site

variable {kernel : Kernel} {before : Tree} {root above : List Name} {base : Place}
  {parent : Attributes} {host : Host} {name : Name} {header : Header} {body : List UInt8}

theorem normal_below (site : Site kernel before root base above parent host)
    (hname : Normal name) : ∀ other ∈ above ++ [name], Normal other := by
  intro other hmem
  rcases List.mem_append.mp hmem with hold | hnew
  · exact site.normal other hold
  · rwa [List.mem_singleton.mp hnew]

theorem restoreEntry_eq (site : Site kernel before root base above parent host)
    (hname : Normal name) (hheader : header.name = text false (above ++ [name])) :
    restoreEntry kernel (text true root) header body =
      let target := text true (root ++ (above ++ [name]))
      if header.typeflag = typeDir then do
        mkdirAll kernel target (permissions header.mode)
        chown kernel target header
      else if header.typeflag = typeReg then do
        mkdirAll kernel (text true (root ++ above)) 0o700
        restoreFile kernel target header body
        chown kernel target header
      else throw (say "archive contains unsupported entry type") := by
  have hnormal := site.normal_below hname
  have hall : ∀ other ∈ root ++ above ++ [name], Normal other := by
    intro other hmem
    rw [List.append_assoc] at hmem
    exact (List.mem_append.mp hmem).elim (site.ground.normal other) (hnormal other)
  have hdir : dir (text true (root ++ (above ++ [name]))) = text true (root ++ above) := by
    rw [← List.append_assoc, SlashPath.dir_text hall]
  rw [restoreEntry, hheader, clean_text_false hnormal (by simp), isUnsafe_text hnormal (by simp),
    if_neg (by simp), SlashPath.join_text site.ground.normal hnormal]
  dsimp only
  rw [hdir]

/-- Where the new thing is found once it is there. -/
theorem resolve_new (site : Site kernel before root base above parent host) (hname : Normal name)
    (henters : kernel.user.may .search parent = true) {host' : Host} {node : Node}
    (hbecomes : Becomes host host' (base ++ above ++ [name]) node)
    (hconfined : Confined base before host') (hplain : node.kind.Plain) :
    kernel.resolve host'.tree true (root ++ (above ++ [name])) =
      some (base ++ above ++ [name]) := by
  have hself := hbecomes.self
  rw [List.append_assoc] at hself ⊢
  refine Kernel.resolve_reaches (site.ground.resolve hconfined) (site.normal_below hname) ?_ hself
    hplain.ne_symlink (.inr rfl)
  intro front hstarts hne
  have hfront : front <+: above := (List.prefix_concat_iff.mp hstarts).resolve_left hne
  rw [Kernel.enters_congr (hbecomes.other (place_ne hfront))]
  by_cases heq : front = above
  · rw [heq, site.enters, henters]
  · exact site.reaches front hfront heq

/-- A new thing that its owner gives away. -/
theorem chown_ok (site : Site kernel before root base above parent host) (calm : kernel.Calm)
    (hname : Normal name) (henters : kernel.user.may .search parent = true) {host' : Host}
    {node : Node} (hbecomes : Becomes host host' (base ++ above ++ [name]) node)
    (hconfined : Confined base before host') (hplain : node.kind.Plain) {given : Attributes}
    (hgives : kernel.user.gives node (header.uid.setWidth 32) (header.gid.setWidth 32) = some given) :
    ∃ later, chown kernel (text true (root ++ (above ++ [name]))) header host' = (.ok (), later) ∧
      Becomes host later (base ++ above ++ [name]) { given with kind := node.kind } := by
  have hall : ∀ other ∈ root ++ (above ++ [name]), Normal other := by
    intro other hmem
    exact (List.mem_append.mp hmem).elim (site.ground.normal other) (site.normal_below hname other)
  have hchown := calm.chown_ok host' (site.resolve_new hname henters hbecomes hconfined hplain)
    hbecomes.self hgives
  rw [chown, Kernel.pathNames_text hall, Act.bind_eq, hchown]
  exact ⟨_, rfl, hbecomes.trans (Becomes.put _ _ _)⟩

theorem chown_refused (site : Site kernel before root base above parent host) (calm : kernel.Calm)
    (hname : Normal name) (henters : kernel.user.may .search parent = true) {host' : Host}
    {node : Node} (hbecomes : Becomes host host' (base ++ above ++ [name]) node)
    (hconfined : Confined base before host') (hplain : node.kind.Plain)
    (hgives : kernel.user.gives node (header.uid.setWidth 32) (header.gid.setWidth 32) = none) :
    ∃ failure, (chown kernel (text true (root ++ (above ++ [name]))) header host').1 =
      .error failure := by
  have hall : ∀ other ∈ root ++ (above ++ [name]), Normal other := by
    intro other hmem
    exact (List.mem_append.mp hmem).elim (site.ground.normal other) (site.normal_below hname other)
  have hchown := calm.chown_error host' (site.resolve_new hname henters hbecomes hconfined hplain)
    hbecomes.self hgives
  rw [chown, Kernel.pathNames_text hall, Act.bind_eq, hchown]
  exact ⟨_, rfl⟩

/-- A new regular file in a directory that accepts it. -/
theorem restoreFile_new (site : Site kernel before root base above parent host)
    (calm : kernel.Calm) (hname : Normal name)
    (habsent : host.tree.node? (base ++ above ++ [name]) = none)
    (haccepts : accepts kernel parent = true) (hsize : header.size = body.length) :
    ∃ host', restoreFile kernel (text true (root ++ (above ++ [name]))) header body host =
        (.ok (), host') ∧
      Becomes host host' (base ++ above ++ [name])
        (madeFile kernel parent (permissions header.mode) body) := by
  have hall : ∀ other ∈ root ++ (above ++ [name]), Normal other := by
    intro other hmem
    exact (List.mem_append.mp hmem).elim (site.ground.normal other) (site.normal_below hname other)
  have hcreate := calm.createExclusive_ok host (permissions header.mode)
    (site.vacancy hname habsent haccepts)
  obtain ⟨later, hcopy, hbecomes⟩ := copyN_ok calm
    (host.called.put (base ++ above ++ [name]) _) (Tree.node?_put_self _ _ _) hsize
  rw [restoreFile, Kernel.pathNames_text hall, ← List.append_assoc, Act.bind_eq, hcreate]
  dsimp only
  rw [Act.bind_eq, attempt, hcopy]
  dsimp only
  rw [Act.bind_eq, attempt, Kernel.close, calm.looks]
  exact ⟨_, rfl, (Becomes.put _ _ _).trans hbecomes⟩

/-- Nothing is made, or given away, that the directory or the owner does not allow. -/
theorem restoreFile_refused (site : Site kernel before root base above parent host)
    (calm : kernel.Calm) (hname : Normal name) (header : Header) (body : List UInt8)
    (hrefuses : accepts kernel parent = false) :
    ∃ failure, (restoreFile kernel (text true (root ++ (above ++ [name]))) header body host).1 =
      .error failure := by
  have hall : ∀ other ∈ root ++ (above ++ [name]), Normal other := by
    intro other hmem
    exact (List.mem_append.mp hmem).elim (site.ground.normal other) (site.normal_below hname other)
  obtain ⟨errno, hvacancy⟩ :
      ∃ errno, kernel.vacancy (root ++ above ++ [name]) host.tree = .error errno :=
    site.vacancy_refused hrefuses
  have hcreate := calm.createExclusive_error host (permissions header.mode) hvacancy
  rw [restoreFile, Kernel.pathNames_text hall, ← List.append_assoc, Act.bind_eq, hcreate]
  exact ⟨_, rfl⟩

theorem mkdirAll_confined (site : Site kernel before root base above parent host)
    (hname : Normal name) (mode : Mode) :
    Confined base before (mkdirAll kernel (text true (root ++ (above ++ [name]))) mode host).2 :=
  (mkdirAll_leads site.ground (site.normal_below hname) mode (List.prefix_refl _) host
    site.confined).1

theorem restore_directory (site : Site kernel before root base above parent host)
    (calm : kernel.Calm) (hname : Normal name) (body : List UInt8)
    (hheader : header.name = text false (above ++ [name]))
    (htype : header.typeflag = typeDir)
    (habsent : host.tree.node? (base ++ above ++ [name]) = none)
    (haccepts : accepts kernel parent = true) {given : Attributes}
    (hgives : kernel.user.gives (madeDirectory kernel parent (permissions header.mode))
      (header.uid.setWidth 32) (header.gid.setWidth 32) = some given) :
    ∃ later, restoreEntry kernel (text true root) header body host = (.ok (), later) ∧
      Becomes host later (base ++ above ++ [name]) { given with kind := .directory } := by
  have henters : kernel.user.may .search parent = true := (Bool.and_eq_true _ _ ▸ haccepts).1
  obtain ⟨made, hmkdir, hbecomes⟩ :=
    site.mkdirAll_new calm hname habsent haccepts (permissions header.mode)
  have hconfined := site.mkdirAll_confined hname (permissions header.mode)
  rw [hmkdir] at hconfined
  rw [site.restoreEntry_eq hname hheader]
  dsimp only
  rw [if_pos htype, Act.bind_eq, hmkdir]
  exact site.chown_ok calm hname henters hbecomes hconfined (.inl rfl) hgives

theorem restore_directory_refused (site : Site kernel before root base above parent host)
    (calm : kernel.Calm) (hname : Normal name) (body : List UInt8)
    (hheader : header.name = text false (above ++ [name]))
    (htype : header.typeflag = typeDir)
    (habsent : host.tree.node? (base ++ above ++ [name]) = none)
    (hrefused : accepts kernel parent = false ∨
      kernel.user.gives (madeDirectory kernel parent (permissions header.mode))
        (header.uid.setWidth 32) (header.gid.setWidth 32) = none) :
    ∃ failure, (restoreEntry kernel (text true root) header body host).1 = .error failure := by
  rw [site.restoreEntry_eq hname hheader]
  dsimp only
  rw [if_pos htype, Act.bind_eq]
  cases haccepts : accepts kernel parent with
  | false =>
    obtain ⟨failure, hfailure⟩ :=
      site.mkdirAll_refused calm hname habsent haccepts (permissions header.mode)
    rcases hmkdir : mkdirAll kernel (text true (root ++ (above ++ [name])))
      (permissions header.mode) host with ⟨result, later⟩
    rw [hmkdir] at hfailure
    obtain rfl : result = .error failure := hfailure
    exact ⟨failure, rfl⟩
  | true =>
    have hgives := hrefused.resolve_left (by simp [haccepts])
    have henters : kernel.user.may .search parent = true := (Bool.and_eq_true _ _ ▸ haccepts).1
    obtain ⟨made, hmkdir, hbecomes⟩ :=
      site.mkdirAll_new calm hname habsent haccepts (permissions header.mode)
    have hconfined := site.mkdirAll_confined hname (permissions header.mode)
    rw [hmkdir] at hconfined ⊢
    exact site.chown_refused calm hname henters hbecomes hconfined (.inl rfl) hgives

theorem restoreFile_confined (site : Site kernel before root base above parent host)
    (hname : Normal name) (header : Header) (body : List UInt8) {later : Host}
    (hconfined : Confined base before later) :
    Confined base before
      (restoreFile kernel (text true (root ++ (above ++ [name]))) header body later).2 :=
  (restoreFile_leads site.ground (site.normal_below hname) header body later hconfined).1

theorem restore_file (site : Site kernel before root base above parent host)
    (calm : kernel.Calm) (hname : Normal name) (hheader : header.name = text false (above ++ [name]))
    (htype : header.typeflag = typeReg) (hsize : header.size = body.length)
    (habsent : host.tree.node? (base ++ above ++ [name]) = none)
    (haccepts : accepts kernel parent = true) {given : Attributes}
    (hgives : kernel.user.gives (madeFile kernel parent (permissions header.mode) body)
      (header.uid.setWidth 32) (header.gid.setWidth 32) = some given) :
    ∃ later, restoreEntry kernel (text true root) header body host = (.ok (), later) ∧
      Becomes host later (base ++ above ++ [name]) { given with kind := .file (.regular body) } := by
  have henters : kernel.user.may .search parent = true := (Bool.and_eq_true _ _ ▸ haccepts).1
  obtain ⟨made, hfile, hbecomes⟩ :=
    site.called.restoreFile_new calm hname habsent haccepts hsize
  have hconfined := site.restoreFile_confined hname header body site.called.confined
  rw [hfile] at hconfined
  rw [site.restoreEntry_eq hname hheader]
  dsimp only
  rw [if_neg (by rw [htype]; decide), if_pos htype, Act.bind_eq, site.mkdirAll_old calm]
  dsimp only
  rw [Act.bind_eq, hfile]
  exact site.chown_ok calm hname henters hbecomes.of_called hconfined (.inr ⟨body, rfl⟩) hgives

theorem restore_file_refused (site : Site kernel before root base above parent host)
    (calm : kernel.Calm) (hname : Normal name) (hheader : header.name = text false (above ++ [name]))
    (htype : header.typeflag = typeReg) (hsize : header.size = body.length)
    (habsent : host.tree.node? (base ++ above ++ [name]) = none)
    (hrefused : accepts kernel parent = false ∨
      kernel.user.gives (madeFile kernel parent (permissions header.mode) body)
        (header.uid.setWidth 32) (header.gid.setWidth 32) = none) :
    ∃ failure, (restoreEntry kernel (text true root) header body host).1 = .error failure := by
  rw [site.restoreEntry_eq hname hheader]
  dsimp only
  rw [if_neg (by rw [htype]; decide), if_pos htype, Act.bind_eq, site.mkdirAll_old calm]
  dsimp only
  rw [Act.bind_eq]
  cases haccepts : accepts kernel parent with
  | false =>
    obtain ⟨failure, hfailure⟩ :=
      site.called.restoreFile_refused calm hname header body haccepts
    rcases hfile : restoreFile kernel (text true (root ++ (above ++ [name]))) header body
      host.called with ⟨result, later⟩
    rw [hfile] at hfailure
    obtain rfl : result = .error failure := hfailure
    exact ⟨failure, rfl⟩
  | true =>
    have hgives := hrefused.resolve_left (by simp [haccepts])
    have henters : kernel.user.may .search parent = true := (Bool.and_eq_true _ _ ▸ haccepts).1
    obtain ⟨made, hfile, hbecomes⟩ :=
      site.called.restoreFile_new calm hname habsent haccepts hsize
    have hconfined := site.restoreFile_confined hname header body site.called.confined
    rw [hfile] at hconfined ⊢
    exact site.chown_refused calm hname henters hbecomes.of_called hconfined (.inr ⟨body, rfl⟩) hgives

/-- Nothing but a directory or a regular file is restored. -/
theorem restore_unsupported (site : Site kernel before root base above parent host)
    (hname : Normal name) (body : List UInt8) (hheader : header.name = text false (above ++ [name]))
    (hdirectory : header.typeflag ≠ typeDir) (hregular : header.typeflag ≠ typeReg) :
    ∃ failure, (restoreEntry kernel (text true root) header body host).1 = .error failure := by
  rw [site.restoreEntry_eq hname hheader]
  dsimp only
  rw [if_neg hdirectory, if_neg hregular]
  exact ⟨_, rfl⟩

end Site

end VolumeArchive
