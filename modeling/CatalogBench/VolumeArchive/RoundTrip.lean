import CatalogBench.Library.Interaction
import CatalogBench.VolumeArchive.Entries

/-!
# Restoring a backup

What taking out an archive makes of the directory that was put into it, and when it is that
directory again.
-/

set_option linter.all false

namespace VolumeArchive

open FileSystem
open Interaction (except_bind_eq_ok)
open SlashPath (Name Normal here up slash isAbs elements clean join dir abs text WorkingDirectory)

-- ════════════════════════════════
-- Listings
-- ════════════════════════════════

namespace Listing

/-- What is at a path below the directory. -/
def node? : Listing → List Name → Option Node
  | nil, _ => none
  | file name attributes content rest, names =>
    if names = [name] then some { attributes with kind := .file content } else rest.node? names
  | directory name attributes children rest, names =>
    match names with
    | [] => none
    | first :: below =>
      if first = name then
        if below = [] then some { attributes with kind := .directory } else children.node? below
      else rest.node? (first :: below)

/-- What becomes of a listing that is taken out to a directory, unless something is refused. -/
def restored (kernel : Kernel) : Attributes → Listing → Option Listing
  | _, nil => some nil
  | parent, file name attributes content rest =>
    match content with
    | .regular body =>
      if accepts kernel parent then do
        let given ← kernel.user.gives (madeFile kernel parent (attributes.mode &&& 0o777) body)
          attributes.uid attributes.gid
        let later ← restored kernel parent rest
        return file name given (.regular body) later
      else none
    | _ => none
  | parent, directory name attributes children rest =>
    if accepts kernel parent then do
      let given ← kernel.user.gives (madeDirectory kernel parent (attributes.mode &&& 0o777))
        attributes.uid attributes.gid
      let inner ← restored kernel given children
      let later ← restored kernel parent rest
      return directory name given inner later
    else none

theorem node?_nil : ∀ listing : Listing, listing.node? [] = none
  | nil => rfl
  | file _ _ _ rest => by
    rw [node?, if_neg (List.cons_ne_nil _ _).symm]
    exact node?_nil rest
  | directory _ _ _ _ => rfl

/-- Nothing is found under a name that the directory has not. -/
theorem node?_notMem {name : Name} (below : List Name) :
    ∀ {listing : Listing}, name ∉ listing.names → listing.node? (name :: below) = none
  | nil, _ => rfl
  | file other _ _ rest, h => by
    rw [names, List.mem_cons, not_or] at h
    rw [node?, if_neg fun heq => h.1 (List.cons.inj heq).1]
    exact node?_notMem below h.2
  | directory other _ _ rest, h => by
    rw [names, List.mem_cons, not_or] at h
    rw [node?, if_neg h.1]
    exact node?_notMem below h.2

theorem names_restored {kernel : Kernel} {listing later : Listing} {parent : Attributes}
    (h : listing.restored kernel parent = some later) : later.names = listing.names := by
  induction listing generalizing parent later with
  | nil =>
    obtain rfl := Option.some.inj h
    rfl
  | file name attributes content rest ih =>
    cases content with
    | regular body =>
      rw [restored] at h
      split at h
      · obtain ⟨given, -, h⟩ := Option.bind_eq_some_iff.mp h
        obtain ⟨rest', hrest, h⟩ := Option.bind_eq_some_iff.mp h
        obtain rfl := Option.some.inj h
        rw [names, names, ih hrest]
      · cases h
    | _ => cases h
  | directory name attributes children rest _ ih =>
    rw [restored] at h
    split at h
    · obtain ⟨given, -, h⟩ := Option.bind_eq_some_iff.mp h
      obtain ⟨inner, -, h⟩ := Option.bind_eq_some_iff.mp h
      obtain ⟨rest', hrest, h⟩ := Option.bind_eq_some_iff.mp h
      obtain rfl := Option.some.inj h
      rw [names, names, ih hrest]
    · cases h

end Listing

-- ════════════════════════════════
-- Headers
-- ════════════════════════════════

/-- The header of something found below the directory. -/
structure Describes (header : Header) (above : List Name) (name : Name) (attributes : Attributes) :
    Prop where
  name_eq : header.name = text false (above ++ [name])
  mode_eq : permissions header.mode = attributes.mode &&& 0o777
  uid_eq : header.uid.setWidth 32 = attributes.uid
  gid_eq : header.gid.setWidth 32 = attributes.gid

theorem describes (above : List Name) (name : Name) (attributes : Attributes) (typeflag : UInt8)
    (size : ℕ) :
    Describes
      { name := text false (above ++ [name]), typeflag := typeflag
        mode := attributes.mode.setWidth 64, uid := attributes.uid.setWidth 64
        gid := attributes.gid.setWidth 64, size := size }
      above name attributes where
  name_eq := rfl
  mode_eq := by rw [permissions, BitVec.setWidth_setWidth_of_le _ (by decide), BitVec.setWidth_eq]
  uid_eq := by rw [BitVec.setWidth_setWidth_of_le _ (by decide), BitVec.setWidth_eq]
  gid_eq := by rw [BitVec.setWidth_setWidth_of_le _ (by decide), BitVec.setWidth_eq]

section Entry

variable {user : User} {above : List Name} {name : Name} {attributes : Attributes}
  {header : Header} {body : List UInt8}

theorem archiveEntry_directory
    (h : archiveEntry user above name attributes .directory = .ok (header, body)) :
    Describes header above name attributes ∧ header.typeflag = typeDir := by
  obtain ⟨rfl, rfl⟩ := Prod.mk.inj (Except.ok.inj h)
  exact ⟨describes _ _ _ _ _, rfl⟩

theorem archiveEntry_regular {bytes : List UInt8}
    (h : archiveEntry user above name attributes (.file (.regular bytes)) = .ok (header, body)) :
    Describes header above name attributes ∧ header.typeflag = typeReg ∧
      header.size = bytes.length ∧ body = bytes := by
  change (if user.may .read attributes then Except.ok (_, bytes) else _) = _ at h
  split at h
  · obtain ⟨rfl, rfl⟩ := Prod.mk.inj (Except.ok.inj h)
    exact ⟨describes _ _ _ _ _, rfl, rfl, rfl⟩
  · cases h

/-- What is neither a directory nor a regular file has a type of its own in the archive. -/
theorem archiveEntry_other {content : Content} (hcontent : ∀ bytes, content ≠ .regular bytes)
    (h : archiveEntry user above name attributes (.file content) = .ok (header, body)) :
    Describes header above name attributes ∧ header.typeflag ≠ typeDir ∧
      header.typeflag ≠ typeReg := by
  cases content with
  | regular bytes => exact absurd rfl (hcontent bytes)
  | symlink target => cases h
  | socket => cases h
  | fifo =>
    obtain ⟨rfl, rfl⟩ := Prod.mk.inj (Except.ok.inj h)
    exact ⟨describes _ _ _ _ _, (by decide : typeFifo ≠ typeDir), (by decide : typeFifo ≠ typeReg)⟩
  | charDevice =>
    obtain ⟨rfl, rfl⟩ := Prod.mk.inj (Except.ok.inj h)
    exact ⟨describes _ _ _ _ _, (by decide : typeChar ≠ typeDir), (by decide : typeChar ≠ typeReg)⟩
  | blockDevice =>
    obtain ⟨rfl, rfl⟩ := Prod.mk.inj (Except.ok.inj h)
    exact ⟨describes _ _ _ _ _, (by decide : typeBlock ≠ typeDir),
      (by decide : typeBlock ≠ typeReg)⟩

end Entry

-- ════════════════════════════════
-- What is taken out
-- ════════════════════════════════

/-- Below a place, the names of a listing hold what another listing says. -/
structure Planted (place : Place) (listing later : Listing) (host host' : Host) : Prop where
  elsewhere : ∀ other, (∀ name ∈ listing.names, ¬place ++ [name] <+: other) →
    host'.tree.node? other = host.tree.node? other
  there : ∀ name ∈ listing.names, ∀ below,
    host'.tree.node? (place ++ name :: below) = later.node? (name :: below)

theorem not_prefix_of_ne {place : Place} {a b : Name} (below : List Name) (hne : a ≠ b) :
    ¬place ++ [a] <+: place ++ b :: below := by
  rw [List.prefix_append_right_inj, List.cons_prefix_cons]
  exact fun h => hne h.1

theorem Planted.nil (place : Place) (host : Host) : Planted place .nil .nil host host :=
  ⟨fun _ _ => rfl, fun _ hmem => nomatch hmem⟩

section Planted

variable {place : Place} {name : Name} {attributes given : Attributes} {rest rest' : Listing}
  {host host₁ host₂ host₃ : Host}

theorem Planted.file {content : Content} (hname : name ∉ rest.names)
    (habsent : ∀ below, host.tree.node? (place ++ name :: below) = none)
    (hbecomes : Becomes host host₁ (place ++ [name]) { given with kind := .file content })
    (hnames : rest'.names = rest.names) (hrest : Planted place rest rest' host₁ host₂) :
    Planted place (.file name attributes content rest) (.file name given content rest') host
      host₂ where
  elsewhere other hother := by
    rw [Listing.names, List.forall_mem_cons] at hother
    rw [hrest.elsewhere other hother.2]
    exact hbecomes.other fun heq => hother.1 (heq ▸ List.prefix_refl _)
  there other hmem below := by
    rcases List.mem_cons.mp hmem with rfl | hmem
    · have hnot : ∀ second ∈ rest.names, ¬place ++ [second] <+: place ++ other :: below :=
        fun second hsecond => not_prefix_of_ne below fun heq => hname (heq ▸ hsecond)
      rw [hrest.elsewhere _ hnot, Listing.node?]
      by_cases hnil : below = []
      · subst hnil
        rw [if_pos rfl, hbecomes.self]
      · rw [if_neg fun heq => hnil (List.cons.inj heq).2,
          Listing.node?_notMem below (hnames ▸ hname), ← habsent below]
        exact hbecomes.other fun heq => hnil (List.cons.inj (List.append_cancel_left heq)).2
    · have hne : other ≠ name := fun heq => hname (heq ▸ hmem)
      rw [hrest.there other hmem below, Listing.node?, if_neg fun heq => hne (List.cons.inj heq).1]

theorem Planted.directory {children children' : Listing} (hname : name ∉ rest.names)
    (habsent : ∀ below, host.tree.node? (place ++ name :: below) = none)
    (hbecomes : Becomes host host₁ (place ++ [name]) { given with kind := .directory })
    (hnames : children'.names = children.names)
    (hinner : Planted (place ++ [name]) children children' host₁ host₂)
    (hrest : Planted place rest rest' host₂ host₃) :
    Planted place (.directory name attributes children rest)
      (.directory name given children' rest') host host₃ where
  elsewhere other hother := by
    rw [Listing.names, List.forall_mem_cons] at hother
    have hinside : ∀ second ∈ children.names, ¬place ++ [name] ++ [second] <+: other :=
      fun second _ hstarts => hother.1 ((List.prefix_append _ _).trans hstarts)
    rw [hrest.elsewhere other hother.2, hinner.elsewhere other hinside]
    exact hbecomes.other fun heq => hother.1 (heq ▸ List.prefix_refl _)
  there other hmem below := by
    rcases List.mem_cons.mp hmem with rfl | hmem
    · have hnot : ∀ second ∈ rest.names, ¬place ++ [second] <+: place ++ other :: below :=
        fun second hsecond => not_prefix_of_ne below fun heq => hname (heq ▸ hsecond)
      rw [hrest.elsewhere _ hnot, Listing.node?, if_pos rfl]
      cases below with
      | nil =>
        have hinside : ∀ second ∈ children.names,
            ¬place ++ [other] ++ [second] <+: place ++ [other] := by
          intro second _ hstarts
          have hle := hstarts.length_le
          simp at hle
        rw [if_pos rfl, hinner.elsewhere _ hinside, hbecomes.self]
      | cons second below =>
        rw [if_neg (List.cons_ne_nil _ _)]
        by_cases hsecond : second ∈ children.names
        · rw [← hinner.there second hsecond below, List.append_assoc, List.singleton_append]
        · have hinside : ∀ third ∈ children.names,
              ¬place ++ [other] ++ [third] <+: place ++ other :: second :: below := by
            intro third hthird
            have hsplit : place ++ other :: second :: below = place ++ [other] ++ second :: below := by
              simp
            rw [hsplit]
            exact not_prefix_of_ne below fun heq => hsecond (heq ▸ hthird)
          rw [hinner.elsewhere _ hinside, Listing.node?_notMem below (hnames ▸ hsecond),
            ← habsent (second :: below)]
          exact hbecomes.other fun heq =>
            List.cons_ne_nil _ _ (List.cons.inj (List.append_cancel_left heq)).2
    · have hne : other ≠ name := fun heq => hname (heq ▸ hmem)
      rw [hrest.there other hmem below, Listing.node?, if_neg hne]

end Planted

-- ════════════════════════════════
-- Entry after entry
-- ════════════════════════════════

def extractAll (kernel : Kernel) (root : List UInt8) : List (Header × List UInt8) → Act Unit
  | [] => return ()
  | entry :: rest => do
    restoreEntry kernel root entry.1 entry.2
    extractAll kernel root rest

theorem extract_assemble (kernel : Kernel) (root : List UInt8)
    (entries : List (Header × List UInt8)) :
    extract kernel root (assemble entries) = extractAll kernel root entries := by
  induction entries with
  | nil => rfl
  | cons entry rest ih =>
    rw [extractAll, ← ih]
    rfl

theorem extractAll_append (kernel : Kernel) (root : List UInt8)
    (entries later : List (Header × List UInt8)) :
    extractAll kernel root (entries ++ later) =
      extractAll kernel root entries >>= fun _ => extractAll kernel root later := by
  induction entries with
  | nil => exact (pure_bind _ _).symm
  | cons entry rest ih => rw [List.cons_append, extractAll, extractAll, ih, bind_assoc]

/-- How a listing comes out of the archive. -/
def Follows (place : Place) (listing : Listing) (host : Host) :
    Option Listing → Except Failure Unit × Host → Prop
  | none, outcome => ∃ failure, outcome.1 = .error failure
  | some later, outcome => outcome.1 = .ok () ∧ Planted place listing later host outcome.2

theorem Act.seq_error {α : Type} {act : Act Unit} {next : Act α} {host : Host} {failure : Failure}
    (h : (act host).1 = .error failure) : ((act >>= fun _ => next) host).1 = .error failure := by
  rw [Act.bind_eq]
  rcases hrun : act host with ⟨result, later⟩
  rw [hrun] at h
  obtain rfl : result = .error failure := h
  rfl

theorem Act.seq_ok {α : Type} {act : Act Unit} {next : Act α} {host later : Host}
    (h : act host = (.ok (), later)) : (act >>= fun _ => next) host = next later := by
  rw [Act.bind_eq, h]

section Follows

variable {kernel : Kernel} {before : Tree} {root above : List Name} {base : Place}
  {parent : Attributes} {host later : Host} {name : Name}

/-- The directory is the same after something has been restored elsewhere. -/
theorem Site.after (site : Site kernel before root base above parent host)
    (hconfined : Confined base before later)
    (hsame : ∀ front, front <+: above →
      later.tree.node? (base ++ front) = host.tree.node? (base ++ front)) :
    Site kernel before root base above parent later where
  ground := site.ground
  confined := hconfined
  normal := site.normal
  reaches front hstarts hne := by
    rw [Kernel.enters_congr (hsame front hstarts)]
    exact site.reaches front hstarts hne
  directory := by
    rw [hsame above (List.prefix_refl _)]
    exact site.directory

/-- The directory just restored. -/
theorem Site.down (site : Site kernel before root base above parent host) (hname : Normal name)
    (henters : kernel.user.may .search parent = true) {given : Attributes}
    (hconfined : Confined base before later)
    (hbecomes : Becomes host later (base ++ above ++ [name]) { given with kind := .directory }) :
    Site kernel before root base (above ++ [name]) given later where
  ground := site.ground
  confined := hconfined
  normal := site.normal_below hname
  reaches front hstarts hne := by
    have hfront : front <+: above := (List.prefix_concat_iff.mp hstarts).resolve_left hne
    rw [Kernel.enters_congr (hbecomes.other (place_ne hfront))]
    by_cases heq : front = above
    · rw [heq, site.enters, henters]
    · exact site.reaches front hfront heq
  directory := by
    rw [← List.append_assoc]
    exact hbecomes.self

theorem restoreEntry_confined (site : Site kernel before root base above parent host)
    {header : Header} {body : List UInt8}
    (h : restoreEntry kernel (text true root) header body host = (.ok (), later)) :
    Confined base before later := by
  have hkept := (restoreEntry_leads site.ground header body host site.confined).1
  rwa [h] at hkept

theorem extractAll_confined (ground : Ground kernel before root base)
    (entries : List (Header × List UInt8)) (hconfined : Confined base before host) :
    Confined base before (extractAll kernel (text true root) entries host).2 := by
  rw [← extract_assemble]
  exact (extract_leads ground (assemble entries) host hconfined).1

/-- The entry of a file, and then the rest of its directory. -/
theorem Follows.file {content : Content} {attributes : Attributes} {rest : Listing}
    {header : Header} {body : List UInt8} {entries : List (Header × List UInt8)}
    (calm : kernel.Calm) (site : Site kernel before root base above parent host)
    (hname : Normal name) (hfresh : name ∉ rest.names)
    (habsent : ∀ below, host.tree.node? (base ++ above ++ name :: below) = none)
    (hfirst : archiveEntry kernel.user above name attributes (.file content) = .ok (header, body))
    (ih : ∀ {later}, Site kernel before root base above parent later →
      (∀ other ∈ rest.names, ∀ below,
        later.tree.node? (base ++ above ++ other :: below) =
          host.tree.node? (base ++ above ++ other :: below)) →
      Follows (base ++ above) rest later (rest.restored kernel parent)
        (extractAll kernel (text true root) entries later)) :
    Follows (base ++ above) (.file name attributes content rest) host
      ((Listing.file name attributes content rest).restored kernel parent)
      (extractAll kernel (text true root) ((header, body) :: entries) host) := by
  rw [extractAll]
  by_cases hcontent : ∃ bytes, content = .regular bytes
  · obtain ⟨bytes, rfl⟩ := hcontent
    obtain ⟨hdescribes, htype, hsize, rfl⟩ := archiveEntry_regular hfirst
    have hrefused := site.restore_file_refused calm hname hdescribes.name_eq htype hsize (habsent [])
    rw [hdescribes.mode_eq, hdescribes.uid_eq, hdescribes.gid_eq] at hrefused
    rw [Listing.restored]
    cases haccepts : accepts kernel parent with
    | false =>
      obtain ⟨failure, hfailure⟩ := hrefused (.inl haccepts)
      exact ⟨failure, Act.seq_error hfailure⟩
    | true =>
      rw [if_pos rfl]
      cases hgives : kernel.user.gives (madeFile kernel parent (attributes.mode &&& 0o777) body)
        attributes.uid attributes.gid with
      | none =>
        obtain ⟨failure, hfailure⟩ := hrefused (.inr hgives)
        exact ⟨failure, Act.seq_error hfailure⟩
      | some given =>
        have hgiven := hgives
        rw [← hdescribes.mode_eq, ← hdescribes.uid_eq, ← hdescribes.gid_eq] at hgiven
        obtain ⟨later, hrun, hbecomes⟩ := site.restore_file calm hname hdescribes.name_eq htype hsize
          (habsent []) haccepts hgiven
        have hsite := site.after (restoreEntry_confined site hrun) fun front hfront =>
          hbecomes.other (place_ne hfront)
        have hfollows := ih hsite fun other hmem below => hbecomes.other fun heq =>
          hfresh ((List.cons.inj (List.append_cancel_left heq)).1 ▸ hmem)
        rw [Act.seq_ok hrun]
        cases hrest : rest.restored kernel parent with
        | none =>
          rw [hrest] at hfollows
          exact hfollows
        | some rest' =>
          rw [hrest] at hfollows
          exact ⟨hfollows.1, hfollows.2.file hfresh habsent hbecomes
            (Listing.names_restored hrest)⟩
  · have hother : ∀ bytes, content ≠ .regular bytes := fun bytes heq => hcontent ⟨bytes, heq⟩
    obtain ⟨hdescribes, hdirectory, hregular⟩ := archiveEntry_other hother hfirst
    obtain ⟨failure, hfailure⟩ :=
      site.restore_unsupported hname body hdescribes.name_eq hdirectory hregular
    have hnone : (Listing.file name attributes content rest).restored kernel parent = none := by
      cases content with
      | regular bytes => exact absurd rfl (hother bytes)
      | _ => rfl
    rw [hnone]
    exact ⟨failure, Act.seq_error hfailure⟩

/-- The entry of a directory, those of what it holds, and then the rest of the directory it is in. -/
theorem Follows.directory {attributes : Attributes} {children rest : Listing} {header : Header}
    {body : List UInt8} {inner entries : List (Header × List UInt8)}
    (calm : kernel.Calm) (site : Site kernel before root base above parent host)
    (hname : Normal name) (hfresh : name ∉ rest.names)
    (habsent : ∀ below, host.tree.node? (base ++ above ++ name :: below) = none)
    (hfirst : archiveEntry kernel.user above name attributes .directory = .ok (header, body))
    (ihInner : ∀ {given later}, Site kernel before root base (above ++ [name]) given later →
      (∀ other ∈ children.names, ∀ below,
        later.tree.node? (base ++ (above ++ [name]) ++ other :: below) = none) →
      Follows (base ++ (above ++ [name])) children later (children.restored kernel given)
        (extractAll kernel (text true root) inner later))
    (ih : ∀ {later}, Site kernel before root base above parent later →
      (∀ other ∈ rest.names, ∀ below,
        later.tree.node? (base ++ above ++ other :: below) =
          host.tree.node? (base ++ above ++ other :: below)) →
      Follows (base ++ above) rest later (rest.restored kernel parent)
        (extractAll kernel (text true root) entries later)) :
    Follows (base ++ above) (.directory name attributes children rest) host
      ((Listing.directory name attributes children rest).restored kernel parent)
      (extractAll kernel (text true root) ((header, body) :: inner ++ entries) host) := by
  obtain ⟨hdescribes, htype⟩ := archiveEntry_directory hfirst
  have hrefused := site.restore_directory_refused calm hname body hdescribes.name_eq htype
    (habsent [])
  rw [hdescribes.mode_eq, hdescribes.uid_eq, hdescribes.gid_eq] at hrefused
  rw [List.cons_append, extractAll, Listing.restored]
  cases haccepts : accepts kernel parent with
  | false =>
    obtain ⟨failure, hfailure⟩ := hrefused (.inl haccepts)
    exact ⟨failure, Act.seq_error hfailure⟩
  | true =>
    rw [if_pos rfl]
    cases hgives : kernel.user.gives (madeDirectory kernel parent (attributes.mode &&& 0o777))
      attributes.uid attributes.gid with
    | none =>
      obtain ⟨failure, hfailure⟩ := hrefused (.inr hgives)
      exact ⟨failure, Act.seq_error hfailure⟩
    | some given =>
      have hgiven := hgives
      rw [← hdescribes.mode_eq, ← hdescribes.uid_eq, ← hdescribes.gid_eq] at hgiven
      obtain ⟨made, hrun, hbecomes⟩ := site.restore_directory calm hname body
        hdescribes.name_eq htype (habsent []) haccepts hgiven
      have henters : kernel.user.may .search parent = true := (Bool.and_eq_true _ _ ▸ haccepts).1
      have hconfined := restoreEntry_confined site hrun
      have hinner := ihInner (site.down hname henters hconfined hbecomes) fun other _ below => by
        rw [← List.append_assoc, List.append_assoc (base ++ above), List.singleton_append,
          ← habsent (other :: below)]
        exact hbecomes.other fun heq =>
          List.cons_ne_nil _ _ (List.cons.inj (List.append_cancel_left heq)).2
      rw [Act.seq_ok hrun, extractAll_append]
      cases hchildren : children.restored kernel given with
      | none =>
        rw [hchildren] at hinner
        obtain ⟨failure, hfailure⟩ := hinner
        simp only [Option.bind_eq_bind, Option.bind_some, hchildren, Option.bind_none]
        exact ⟨failure, Act.seq_error hfailure⟩
      | some children' =>
        rw [hchildren] at hinner
        rcases hextract : extractAll kernel (text true root) inner made with ⟨result, done⟩
        have hkept := extractAll_confined site.ground inner hconfined
        rw [hextract] at hinner hkept
        obtain ⟨rfl, hplanted⟩ : result = .ok () ∧ _ := hinner
        rw [← List.append_assoc] at hplanted
        have hsame : ∀ other, ¬base ++ above ++ [name] <+: other →
            done.tree.node? other = host.tree.node? other := by
          intro other hnot
          rw [hplanted.elsewhere other fun second _ hstarts =>
            hnot ((List.prefix_append _ _).trans hstarts)]
          exact hbecomes.other fun heq => hnot (heq ▸ List.prefix_refl _)
        have hsite := site.after hkept fun front hfront => hsame _ fun hstarts => by
          have hle := hstarts.length_le
          have hshort := hfront.length_le
          simp only [List.length_append, List.length_singleton] at hle
          omega
        have hfollows := ih hsite fun other hmem below => hsame _
          (not_prefix_of_ne below fun heq => hfresh (heq ▸ hmem))
        rw [Act.seq_ok hextract]
        cases hrest : rest.restored kernel parent with
        | none =>
          rw [hrest] at hfollows
          simp only [Option.bind_eq_bind, Option.bind_some, hchildren, Option.bind_none]
          exact hfollows
        | some rest' =>
          rw [hrest] at hfollows
          simp only [Option.bind_eq_bind, Option.bind_some, hchildren]
          exact ⟨hfollows.1, Planted.directory hfresh habsent hbecomes
            (Listing.names_restored hchildren) hplanted hfollows.2⟩

/-- Taking out the entries of a listing makes of it what it says, or fails. -/
theorem extractAll_follows (calm : kernel.Calm) {listing : Listing}
    {entries : List (Header × List UInt8)}
    (site : Site kernel before root base above parent host) (hvalid : listing.Valid)
    (habsent : ∀ name ∈ listing.names, ∀ below,
      host.tree.node? (base ++ above ++ name :: below) = none)
    (hwalk : walkDir kernel.user above listing = .ok entries) :
    Follows (base ++ above) listing host (listing.restored kernel parent)
      (extractAll kernel (text true root) entries host) := by
  induction listing generalizing above parent host entries with
  | nil =>
    obtain rfl := Except.ok.inj hwalk
    exact ⟨rfl, Planted.nil _ _⟩
  | file name attributes content rest ih =>
    obtain ⟨hname, hfresh, hrest⟩ := hvalid
    rw [Listing.names, List.forall_mem_cons] at habsent
    rw [walkDir] at hwalk
    obtain ⟨⟨header, body⟩, hfirst, hwalk⟩ := except_bind_eq_ok.mp hwalk
    obtain ⟨after, hafter, hwalk⟩ := except_bind_eq_ok.mp hwalk
    obtain rfl := Except.ok.inj hwalk
    refine Follows.file calm site hname hfresh habsent.1 hfirst fun hsite hsame => ?_
    exact ih hsite hrest (fun other hmem below =>
      (hsame other hmem below).trans (habsent.2 other hmem below)) hafter
  | directory name attributes children rest ihInner ih =>
    obtain ⟨hname, hfresh, hchildren, hrest⟩ := hvalid
    rw [Listing.names, List.forall_mem_cons] at habsent
    rw [walkDir] at hwalk
    obtain ⟨⟨header, body⟩, hfirst, hwalk⟩ := except_bind_eq_ok.mp hwalk
    obtain ⟨⟨⟩, -, hwalk⟩ := except_bind_eq_ok.mp hwalk
    obtain ⟨inner, hinner, hwalk⟩ := except_bind_eq_ok.mp hwalk
    obtain ⟨after, hafter, hwalk⟩ := except_bind_eq_ok.mp hwalk
    obtain rfl := Except.ok.inj hwalk
    refine Follows.directory calm site hname hfresh habsent.1 hfirst
      (fun hsite hnone => ihInner hsite hchildren hnone hinner) fun hsite hsame => ?_
    exact ih hsite hrest (fun other hmem below =>
      (hsame other hmem below).trans (habsent.2 other hmem below)) hafter

end Follows

end VolumeArchive
