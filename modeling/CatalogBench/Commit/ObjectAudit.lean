import CatalogBench.Commit.Store
import CatalogBench.Common.Redaction
import CatalogBench.Library.Interaction
import CatalogBench.Library.MachineInt

/-!
# The object audit

An audit lists the objects under a table root and adds up how many metadata and data files there
are, and their bytes. What it finds does not depend on the order of the listing; only which overflow
it names does.
-/

set_option linter.all false

namespace CatalogBench.Commit
open Interaction MachineInt CatalogBench.Conformance

-- ════════════════════════════════
-- The audit
-- ════════════════════════════════

/-- `object_store::ObjectMeta`, whose size is an `usize`. -/
structure ObjectMeta where
  location : ObjectPath
  size : ℕ
  size_lt : size < 2 ^ 64
  deriving DecidableEq

/-- The stream of a listing: objects, and the text of what went wrong. -/
abbrev Listing := List (Except String ObjectMeta)

structure ObjectStoreAuditor where
  /-- `ObjectStore::list` below a path. -/
  list : ObjectPath → Listing
  bucket : String
  sensitiveValues : List String

def ObjectStoreFailure.listing (detail : String) : ObjectStoreFailure := ⟨.list, detail⟩

/-- `checked_add` of two `u64`. -/
def addOr (detail : String) (left right : ℕ) : Except ObjectStoreFailure ℕ :=
  match checkedAdd 64 left right with
  | some sum => .ok sum
  | none => .error (.listing detail)

/-- What the loop of the audit counts. -/
structure AuditTally where
  metadataObjects : ℕ
  metadataBytes : ℕ
  parquetObjects : ℕ
  parquetBytes : ℕ
  referencedMetadataExists : Bool
  deriving DecidableEq

def AuditTally.zero : AuditTally := ⟨0, 0, 0, 0, false⟩

namespace ObjectMeta

def isMetadata (object : ObjectMeta) : Bool :=
  ".metadata.json".toList.isSuffixOf object.location.asRef.toList

def isParquet (object : ObjectMeta) : Bool :=
  ".parquet".toList.isSuffixOf object.location.asRef.toList

end ObjectMeta

/-- The body of the loop. -/
def auditObject (referenced : ObjectPath) (tally : AuditTally) (object : ObjectMeta) :
    Except ObjectStoreFailure AuditTally :=
  if object.isMetadata then do
    let metadataObjects ← addOr "metadata object count overflowed u64" tally.metadataObjects 1
    let metadataBytes ←
      addOr "metadata byte count overflowed u64" tally.metadataBytes object.size
    pure { tally with
      metadataObjects, metadataBytes
      referencedMetadataExists := tally.referencedMetadataExists || object.location = referenced }
  else if object.isParquet then do
    let parquetObjects ← addOr "Parquet object count overflowed u64" tally.parquetObjects 1
    let parquetBytes ← addOr "Parquet byte count overflowed u64" tally.parquetBytes object.size
    pure { tally with parquetObjects, parquetBytes }
  else pure tally

namespace ObjectStoreAuditor

/-- The loop, up to the first error of the stream or of an addition. -/
def auditObjects (auditor : ObjectStoreAuditor) (referenced : ObjectPath) :
    Listing → AuditTally → Except ObjectStoreFailure AuditTally
  | [], tally => .ok tally
  | .error error :: _, _ =>
    .error (.listing (redactAndBound ("failed to list table objects: " ++ error)
      auditor.sensitiveValues))
  | .ok object :: objects, tally => do
    let tally ← auditObject referenced tally object
    auditor.auditObjects referenced objects tally

def auditTable (crates : Crates) (auditor : ObjectStoreAuditor) (root : TableRoot)
    (metadataLocation : String) : Except ObjectStoreFailure TableObjectAuditSnapshot :=
  if root.bucket ≠ auditor.bucket then
    .error (.configuration ("table root bucket `" ++ root.bucket ++
      "` does not match auditor bucket `" ++ auditor.bucket ++ "`"))
  else do
    let referenced ← root.metadataPath crates metadataLocation
    let tally ← auditor.auditObjects referenced (auditor.list root.path) .zero
    pure
      { tableRoot := root.location
        metadataObjects := tally.metadataObjects
        metadataBytes := tally.metadataBytes
        parquetObjects := tally.parquetObjects
        parquetBytes := tally.parquetBytes
        referencedMetadataLocation := metadataLocation
        referencedMetadataExists := tally.referencedMetadataExists }

end ObjectStoreAuditor

/-- `From<TableObjectAuditSnapshot>`. -/
def ObjectAuditSnapshot.from (audit : TableObjectAuditSnapshot) : ObjectAuditSnapshot where
  tableRoot := audit.tableRoot
  metadataObjects := audit.metadataObjects
  metadataBytes := audit.metadataBytes
  referencedMetadataLocation := audit.referencedMetadataLocation
  referencedMetadataExists := audit.referencedMetadataExists

def ObjectStoreAuditor.audit (crates : Crates) (auditor : ObjectStoreAuditor) (root : TableRoot)
    (metadataLocation : String) : Except ObjectStoreFailure ObjectAuditSnapshot :=
  (auditor.auditTable crates root metadataLocation).map .from

-- ════════════════════════════════
-- What an audit counts
-- ════════════════════════════════

theorem addOr_eq_ok {detail : String} {left right sum : ℕ} :
    addOr detail left right = .ok sum ↔ left + right = sum ∧ left + right < 2 ^ 64 := by
  rw [← checkedAdd_eq_some, addOr]
  cases checkedAdd 64 left right with
  | none => simp
  | some found => simp

/-- No object is a metadata and a data file. -/
theorem ObjectMeta.not_isParquet {object : ObjectMeta} (h : object.isMetadata = true) :
    object.isParquet = false := by
  rw [isMetadata, List.isSuffixOf_iff_suffix] at h
  rw [Bool.eq_false_iff, ne_eq, isParquet, List.isSuffixOf_iff_suffix]
  rintro ⟨before, hparquet⟩
  obtain ⟨start, hstart⟩ := h
  have hlast := congrArg List.getLast? (hstart.trans hparquet.symm)
  rw [List.getLast?_append_of_ne_nil _ (by decide), List.getLast?_append_of_ne_nil _ (by decide)]
    at hlast
  exact absurd hlast (by decide)

namespace AuditTally

/-- What a listing adds up to. -/
def ofObjects (referenced : ObjectPath) (objects : List ObjectMeta) : AuditTally where
  metadataObjects := (objects.filter (·.isMetadata)).length
  metadataBytes := ((objects.filter (·.isMetadata)).map (·.size)).sum
  parquetObjects := (objects.filter (·.isParquet)).length
  parquetBytes := ((objects.filter (·.isParquet)).map (·.size)).sum
  referencedMetadataExists :=
    (objects.filter (·.isMetadata)).any fun object => object.location = referenced

def add (left right : AuditTally) : AuditTally where
  metadataObjects := left.metadataObjects + right.metadataObjects
  metadataBytes := left.metadataBytes + right.metadataBytes
  parquetObjects := left.parquetObjects + right.parquetObjects
  parquetBytes := left.parquetBytes + right.parquetBytes
  referencedMetadataExists := left.referencedMetadataExists || right.referencedMetadataExists

/-- Every number of the tally is an `u64`. -/
structure Fits (tally : AuditTally) : Prop where
  metadataObjects : tally.metadataObjects < 2 ^ 64
  metadataBytes : tally.metadataBytes < 2 ^ 64
  parquetObjects : tally.parquetObjects < 2 ^ 64
  parquetBytes : tally.parquetBytes < 2 ^ 64

theorem zero_fits : Fits .zero := by constructor <;> decide

@[simp] theorem zero_add (tally : AuditTally) : add .zero tally = tally := by
  simp [add, zero]

theorem add_assoc (a b c : AuditTally) : add (add a b) c = add a (add b c) := by
  simp [add, Nat.add_assoc, Bool.or_assoc]

theorem Fits.left {a b : AuditTally} (h : Fits (add a b)) : Fits a :=
  ⟨(Nat.le_add_right _ _).trans_lt h.metadataObjects,
    (Nat.le_add_right _ _).trans_lt h.metadataBytes,
    (Nat.le_add_right _ _).trans_lt h.parquetObjects,
    (Nat.le_add_right _ _).trans_lt h.parquetBytes⟩

theorem ofObjects_cons (referenced : ObjectPath) (object : ObjectMeta) (objects : List ObjectMeta) :
    ofObjects referenced (object :: objects) =
      add (ofObjects referenced [object]) (ofObjects referenced objects) := by
  cases hmetadata : object.isMetadata <;> cases hparquet : object.isParquet <;>
    simp [ofObjects, add, hmetadata, hparquet, Nat.add_comm]

theorem ofObjects_perm {referenced : ObjectPath} {objects objects' : List ObjectMeta}
    (h : objects.Perm objects') : ofObjects referenced objects = ofObjects referenced objects' := by
  have hmetadata := h.filter (·.isMetadata)
  have hparquet := h.filter (·.isParquet)
  simp only [ofObjects, hmetadata.length_eq, hparquet.length_eq, (hmetadata.map (·.size)).sum_nat,
    (hparquet.map (·.size)).sum_nat, hmetadata.any_eq]

end AuditTally

/-- One turn of the loop adds its object, if the sum fits. -/
theorem auditObject_eq_ok {referenced : ObjectPath} {tally found : AuditTally} {object : ObjectMeta}
    (htally : tally.Fits) :
    auditObject referenced tally object = .ok found ↔
      (tally.add (.ofObjects referenced [object])).Fits ∧
        found = tally.add (.ofObjects referenced [object]) := by
  cases hmetadata : object.isMetadata with
  | true =>
    have hparquet := object.not_isParquet hmetadata
    have hsum : tally.add (.ofObjects referenced [object]) =
        ⟨tally.metadataObjects + 1, tally.metadataBytes + object.size, tally.parquetObjects,
          tally.parquetBytes,
          tally.referencedMetadataExists || object.location = referenced⟩ := by
      simp [AuditTally.add, AuditTally.ofObjects, hmetadata, hparquet]
    rw [hsum, auditObject, if_pos hmetadata]
    constructor
    · intro h
      obtain ⟨count, hcount, h⟩ := except_bind_eq_ok.mp h
      obtain ⟨bytes, hbytes, h⟩ := except_bind_eq_ok.mp h
      cases h
      obtain ⟨rfl, hcountLt⟩ := addOr_eq_ok.mp hcount
      obtain ⟨rfl, hbytesLt⟩ := addOr_eq_ok.mp hbytes
      exact ⟨⟨hcountLt, hbytesLt, htally.parquetObjects, htally.parquetBytes⟩, rfl⟩
    · rintro ⟨hfits, rfl⟩
      exact except_bind_eq_ok.mpr ⟨_, addOr_eq_ok.mpr ⟨rfl, hfits.metadataObjects⟩,
        except_bind_eq_ok.mpr ⟨_, addOr_eq_ok.mpr ⟨rfl, hfits.metadataBytes⟩, rfl⟩⟩
  | false =>
    cases hparquet : object.isParquet with
    | true =>
      have hsum : tally.add (.ofObjects referenced [object]) =
          ⟨tally.metadataObjects, tally.metadataBytes, tally.parquetObjects + 1,
            tally.parquetBytes + object.size, tally.referencedMetadataExists⟩ := by
        simp [AuditTally.add, AuditTally.ofObjects, hmetadata, hparquet]
      rw [hsum, auditObject, if_neg (by simp [hmetadata]), if_pos hparquet]
      constructor
      · intro h
        obtain ⟨count, hcount, h⟩ := except_bind_eq_ok.mp h
        obtain ⟨bytes, hbytes, h⟩ := except_bind_eq_ok.mp h
        cases h
        obtain ⟨rfl, hcountLt⟩ := addOr_eq_ok.mp hcount
        obtain ⟨rfl, hbytesLt⟩ := addOr_eq_ok.mp hbytes
        exact ⟨⟨htally.metadataObjects, htally.metadataBytes, hcountLt, hbytesLt⟩, rfl⟩
      · rintro ⟨hfits, rfl⟩
        exact except_bind_eq_ok.mpr ⟨_, addOr_eq_ok.mpr ⟨rfl, hfits.parquetObjects⟩,
          except_bind_eq_ok.mpr ⟨_, addOr_eq_ok.mpr ⟨rfl, hfits.parquetBytes⟩, rfl⟩⟩
    | false =>
      have hsum : tally.add (.ofObjects referenced [object]) = tally := by
        simp [AuditTally.add, AuditTally.ofObjects, hmetadata, hparquet]
      rw [hsum, auditObject, if_neg (by simp [hmetadata]), if_neg (by simp [hparquet])]
      constructor
      · intro h
        cases h
        exact ⟨htally, rfl⟩
      · rintro ⟨-, rfl⟩
        rfl

/-- The run adds all objects, if the sum fits. -/
theorem auditObjects_eq_ok {auditor : ObjectStoreAuditor} {referenced : ObjectPath}
    {tally found : AuditTally} {objects : List ObjectMeta} (htally : tally.Fits) :
    auditor.auditObjects referenced (objects.map .ok) tally = .ok found ↔
      (tally.add (.ofObjects referenced objects)).Fits ∧
        found = tally.add (.ofObjects referenced objects) := by
  induction objects generalizing tally with
  | nil =>
    have hsum : tally.add (.ofObjects referenced []) = tally := by
      simp [AuditTally.add, AuditTally.ofObjects]
    rw [hsum]
    constructor
    · intro h
      cases h
      exact ⟨htally, rfl⟩
    · rintro ⟨-, rfl⟩
      rfl
  | cons object objects ih =>
    rw [AuditTally.ofObjects_cons, ← AuditTally.add_assoc]
    constructor
    · intro h
      obtain ⟨next, hnext, hrest⟩ := except_bind_eq_ok.mp h
      obtain ⟨hfits, rfl⟩ := (auditObject_eq_ok htally).mp hnext
      exact (ih hfits).mp hrest
    · rintro ⟨hfits, hfound⟩
      exact except_bind_eq_ok.mpr ⟨_, (auditObject_eq_ok htally).mpr ⟨hfits.left, rfl⟩,
        (ih hfits.left).mpr ⟨hfits, hfound⟩⟩

-- ════════════════════════════════
-- Paths below a root
-- ════════════════════════════════

/-- The names in the path of an object. -/
def pathSegments (path : ObjectPath) : List (List Char) :=
  if path.asRef.toList = [] then [] else path.asRef.toList.splitOn '/'

theorem pathSegments_injective {path path' : ObjectPath}
    (h : pathSegments path = pathSegments path') : path = path' := by
  have htext : path.asRef.toList = path'.asRef.toList := by
    unfold pathSegments at h
    split at h
    · next hempty =>
      split at h
      · next hempty' => rw [hempty, hempty']
      · exact absurd h.symm (List.splitOn_ne_nil _ _)
    · split at h
      · exact absurd h (List.splitOn_ne_nil _ _)
      · have hjoined : ∀ text : List Char, ['/'].intercalate (text.splitOn '/') = text :=
          fun text => List.intercalate_splitOn '/'
        rw [← hjoined path.asRef.toList, h, hjoined]
  cases path
  cases path'
  exact congrArg ObjectPath.mk (String.toList_injective htext)

/-- `Path::prefix_matches` compares the paths name by name. -/
def MatchesSegments (crates : Crates) : Prop :=
  ∀ path start, crates.pathPrefixMatches path start = true →
    pathSegments start <+: pathSegments path

theorem metadataPath_eq_ok {crates : Crates} {root : TableRoot} {location : String}
    {path : ObjectPath} :
    root.metadataPath crates location = .ok path ↔
      parseS3Location crates location "metadata location" = .ok (root.bucket, path) ∧
        crates.pathPrefixMatches path root.path = true ∧ path ≠ root.path ∧
        ".metadata.json".toList <:+ path.asRef.toList := by
  unfold TableRoot.metadataPath
  cases hparse : parseS3Location crates location "metadata location" with
  | error failure =>
    constructor
    · intro h
      cases h
    · rintro ⟨h, -⟩
      cases h
  | ok parsed =>
    obtain ⟨bucket, found⟩ := parsed
    simp only [bind, Except.bind]
    constructor
    · intro h
      split at h
      · cases h
      next hinside =>
      split at h
      · cases h
      next hsuffix =>
      cases h
      simp only [ne_eq, Bool.or_eq_true, decide_eq_true_eq, Bool.not_eq_true', not_or, not_not,
        Bool.not_eq_false] at hinside
      obtain ⟨⟨rfl, hstarts⟩, hne⟩ := hinside
      exact ⟨rfl, hstarts, hne, by simpa using hsuffix⟩
    · rintro ⟨h, hstarts, hne, hsuffix⟩
      cases h
      rw [if_neg (by simp [hstarts, hne]), if_neg (by simpa using hsuffix)]
      rfl

-- ════════════════════════════════
-- Audits of a table
-- ════════════════════════════════

/-- A location that a root accepts names an object properly below it. -/
theorem metadataPath_below {crates : Crates} (hsegments : MatchesSegments crates) {root : TableRoot}
    {location : String} {path : ObjectPath} (h : root.metadataPath crates location = .ok path) :
    parseS3Location crates location "metadata location" = .ok (root.bucket, path) ∧
      pathSegments root.path <+: pathSegments path ∧ pathSegments path ≠ pathSegments root.path ∧
      ".metadata.json".toList <:+ path.asRef.toList := by
  obtain ⟨hparse, hstarts, hne, hsuffix⟩ := metadataPath_eq_ok.mp h
  exact ⟨hparse, hsegments _ _ hstarts, mt pathSegments_injective hne, hsuffix⟩

theorem containsMetadataLocation_iff {crates : Crates} {root : TableRoot} {location : String} :
    root.containsMetadataLocation crates location = true ↔
      ∃ path, root.metadataPath crates location = .ok path := by
  rw [TableRoot.containsMetadataLocation]
  cases root.metadataPath crates location with
  | error failure => simp [Except.isOk, Except.toBool]
  | ok path => simp [Except.isOk, Except.toBool]

/-- A count or a sum of the listing is no `u64`. -/
def AuditOverflows (objects : List ObjectMeta) : Prop :=
  2 ^ 64 ≤ (objects.filter (·.isMetadata)).length ∨
    2 ^ 64 ≤ ((objects.filter (·.isMetadata)).map (·.size)).sum ∨
    2 ^ 64 ≤ (objects.filter (·.isParquet)).length ∨
    2 ^ 64 ≤ ((objects.filter (·.isParquet)).map (·.size)).sum

theorem fits_iff {referenced : ObjectPath} {objects : List ObjectMeta} :
    (AuditTally.ofObjects referenced objects).Fits ↔ ¬AuditOverflows objects := by
  simp only [AuditOverflows, not_or, not_le]
  constructor
  · rintro ⟨hmetadata, hmetadataBytes, hparquet, hparquetBytes⟩
    exact ⟨hmetadata, hmetadataBytes, hparquet, hparquetBytes⟩
  · rintro ⟨hmetadata, hmetadataBytes, hparquet, hparquetBytes⟩
    exact ⟨hmetadata, hmetadataBytes, hparquet, hparquetBytes⟩

/-- What an audit reports of a listing. -/
def auditSnapshot (root : TableRoot) (metadataLocation : String) (tally : AuditTally) :
    TableObjectAuditSnapshot where
  tableRoot := root.location
  metadataObjects := tally.metadataObjects
  metadataBytes := tally.metadataBytes
  parquetObjects := tally.parquetObjects
  parquetBytes := tally.parquetBytes
  referencedMetadataLocation := metadataLocation
  referencedMetadataExists := tally.referencedMetadataExists

section Audit

variable {crates : Crates} {auditor : ObjectStoreAuditor} {root : TableRoot}
  {metadataLocation : String} {referenced : ObjectPath} {objects : List ObjectMeta}

theorem auditTable_eq_ok {audit : TableObjectAuditSnapshot} (hbucket : root.bucket = auditor.bucket)
    (hreferenced : root.metadataPath crates metadataLocation = .ok referenced)
    (hlisting : auditor.list root.path = objects.map .ok) :
    auditor.auditTable crates root metadataLocation = .ok audit ↔
      ¬AuditOverflows objects ∧
        audit = auditSnapshot root metadataLocation (.ofObjects referenced objects) := by
  have hrun {tally : AuditTally} :
      auditor.auditObjects referenced (objects.map .ok) .zero = .ok tally ↔
        ¬AuditOverflows objects ∧ tally = .ofObjects referenced objects := by
    rw [auditObjects_eq_ok AuditTally.zero_fits, AuditTally.zero_add, fits_iff]
  rw [ObjectStoreAuditor.auditTable, if_neg (not_not.mpr hbucket), hlisting]
  constructor
  · intro h
    obtain ⟨path, hpath, h⟩ := except_bind_eq_ok.mp h
    obtain rfl := Except.ok.inj (hreferenced.symm.trans hpath)
    obtain ⟨tally, htally, h⟩ := except_bind_eq_ok.mp h
    cases h
    obtain ⟨hfits, rfl⟩ := hrun.mp htally
    exact ⟨hfits, rfl⟩
  · rintro ⟨hfits, rfl⟩
    exact except_bind_eq_ok.mpr ⟨referenced, hreferenced,
      except_bind_eq_ok.mpr ⟨_, hrun.mpr ⟨hfits, rfl⟩, rfl⟩⟩

theorem addOr_error {detail : String} {left right : ℕ} {failure : ObjectStoreFailure}
    (h : addOr detail left right = .error failure) : failure.kind = .list := by
  unfold addOr at h
  split at h
  · cases h
  · cases h
    rfl

theorem auditObject_error {tally : AuditTally} {object : ObjectMeta} {failure : ObjectStoreFailure}
    (h : auditObject referenced tally object = .error failure) : failure.kind = .list := by
  unfold auditObject at h
  split at h
  · obtain hcount | ⟨_, -, h⟩ := except_bind_eq_error.mp h
    · exact addOr_error hcount
    obtain hbytes | ⟨_, -, h⟩ := except_bind_eq_error.mp h
    · exact addOr_error hbytes
    cases h
  · split at h
    · obtain hcount | ⟨_, -, h⟩ := except_bind_eq_error.mp h
      · exact addOr_error hcount
      obtain hbytes | ⟨_, -, h⟩ := except_bind_eq_error.mp h
      · exact addOr_error hbytes
      cases h
    · cases h

theorem auditObjects_error {tally : AuditTally} {listing : Listing} {failure : ObjectStoreFailure}
    (h : auditor.auditObjects referenced listing tally = .error failure) :
    failure.kind = .list := by
  induction listing generalizing tally with
  | nil => cases h
  | cons entry listing ih =>
    cases entry with
    | error error =>
      cases h
      rfl
    | ok object =>
      obtain hobject | ⟨next, -, hrest⟩ := except_bind_eq_error.mp h
      · exact auditObject_error hobject
      · exact ih hrest

theorem auditTable_error {failure : ObjectStoreFailure} (hbucket : root.bucket = auditor.bucket)
    (hreferenced : root.metadataPath crates metadataLocation = .ok referenced)
    (h : auditor.auditTable crates root metadataLocation = .error failure) :
    failure.kind = .list := by
  rw [ObjectStoreAuditor.auditTable, if_neg (not_not.mpr hbucket)] at h
  obtain hpath | ⟨path, -, h⟩ := except_bind_eq_error.mp h
  · rw [hreferenced] at hpath
    cases hpath
  obtain htally | ⟨tally, -, h⟩ := except_bind_eq_error.mp h
  · exact auditObjects_error htally
  · cases h

/-- The referenced path names a metadata object, so it is listed if and only if it is found. -/
theorem referencedMetadataExists_iff
    (hreferenced : root.metadataPath crates metadataLocation = .ok referenced) :
    (AuditTally.ofObjects referenced objects).referencedMetadataExists = true ↔
      ∃ object ∈ objects, object.location = referenced := by
  obtain ⟨-, -, -, hsuffix⟩ := metadataPath_eq_ok.mp hreferenced
  rw [AuditTally.ofObjects, List.any_eq_true]
  constructor
  · rintro ⟨object, hobject, hlocation⟩
    exact ⟨object, (List.mem_filter.mp hobject).1, of_decide_eq_true hlocation⟩
  · rintro ⟨object, hobject, rfl⟩
    refine ⟨object, List.mem_filter.mpr ⟨hobject, ?_⟩, decide_eq_true rfl⟩
    rw [ObjectMeta.isMetadata, List.isSuffixOf_iff_suffix]
    exact hsuffix

end Audit

/-- The objects of a bucket that are below a path. -/
def objectsBelow (stored : List ObjectMeta) (path : ObjectPath) : List ObjectMeta :=
  stored.filter fun object => pathSegments path <+: pathSegments object.location

/-- Up to which overflow an error names, the order of a listing does not matter. -/
theorem auditTable_perm {crates : Crates} {auditor auditor' : ObjectStoreAuditor} {root : TableRoot}
    {metadataLocation : String} {objects objects' : List ObjectMeta}
    (hbucket : root.bucket = auditor.bucket) (hbucket' : root.bucket = auditor'.bucket)
    (haccepted : root.containsMetadataLocation crates metadataLocation = true)
    (hlisting : auditor.list root.path = objects.map .ok)
    (hlisting' : auditor'.list root.path = objects'.map .ok) (hperm : objects.Perm objects') :
    (auditor.auditTable crates root metadataLocation).mapError (·.kind) =
      (auditor'.auditTable crates root metadataLocation).mapError (·.kind) := by
  obtain ⟨referenced, hreferenced⟩ := containsMetadataLocation_iff.mp haccepted
  have htally : AuditTally.ofObjects referenced objects = AuditTally.ofObjects referenced objects' :=
    AuditTally.ofObjects_perm hperm
  have hoverflows : AuditOverflows objects ↔ AuditOverflows objects' := by
    rw [← not_iff_not, ← @fits_iff referenced, htally, fits_iff]
  cases h : auditor.auditTable crates root metadataLocation with
  | ok audit =>
    obtain ⟨hfits, haudit⟩ := (auditTable_eq_ok hbucket hreferenced hlisting).mp h
    have h' := (auditTable_eq_ok hbucket' hreferenced hlisting').mpr
      ⟨mt hoverflows.mpr hfits, haudit.trans (congrArg _ htally)⟩
    rw [h']
  | error failure =>
    cases h' : auditor'.auditTable crates root metadataLocation with
    | ok audit =>
      obtain ⟨hfits, haudit⟩ := (auditTable_eq_ok hbucket' hreferenced hlisting').mp h'
      have hok := (auditTable_eq_ok hbucket hreferenced hlisting).mpr
        ⟨mt hoverflows.mp hfits, haudit.trans (congrArg _ htally.symm)⟩
      rw [h] at hok
      cases hok
    | error failure' =>
      have hkind := auditTable_error hbucket hreferenced h
      have hkind' := auditTable_error hbucket' hreferenced h'
      simp only [Except.mapError, hkind, hkind']

/-- An audit fails if and only if a number overflows, and otherwise reports the objects below the
root, in whatever order they are listed. A root accepts only locations of metadata properly below
it, name by name. -/
theorem auditTable_exact {crates : Crates} (hsegments : MatchesSegments crates) :
    (∀ (auditor : ObjectStoreAuditor) (root : TableRoot) (metadataLocation : String)
        (stored objects : List ObjectMeta), root.bucket = auditor.bucket →
      root.containsMetadataLocation crates metadataLocation = true →
      auditor.list root.path = objects.map .ok → objects.Perm (objectsBelow stored root.path) →
      ((∃ failure, auditor.auditTable crates root metadataLocation = .error failure) ↔
        AuditOverflows objects) ∧
      (∀ audit, auditor.auditTable crates root metadataLocation = .ok audit →
        ∃ referenced, root.metadataPath crates metadataLocation = .ok referenced ∧
          audit.metadataObjects = (objects.filter (·.isMetadata)).length ∧
          audit.metadataBytes = ((objects.filter (·.isMetadata)).map (·.size)).sum ∧
          audit.parquetObjects = (objects.filter (·.isParquet)).length ∧
          audit.parquetBytes = ((objects.filter (·.isParquet)).map (·.size)).sum ∧
          (audit.referencedMetadataExists = true ↔
            ∃ object ∈ objects, object.location = referenced) ∧
          audit = auditSnapshot root metadataLocation
            (.ofObjects referenced (objectsBelow stored root.path))) ∧
      ∀ (auditor' : ObjectStoreAuditor) (objects' : List ObjectMeta),
        root.bucket = auditor'.bucket → auditor'.list root.path = objects'.map .ok →
        objects.Perm objects' →
        (auditor.auditTable crates root metadataLocation).mapError (·.kind) =
          (auditor'.auditTable crates root metadataLocation).mapError (·.kind)) ∧
    (∀ (root : TableRoot) (location : String),
      root.containsMetadataLocation crates location = true →
      ∃ path, parseS3Location crates location "metadata location" = .ok (root.bucket, path) ∧
        pathSegments root.path <+: pathSegments path ∧ pathSegments path ≠ pathSegments root.path ∧
        ".metadata.json".toList <:+ path.asRef.toList ∧
        ∀ parent name name' rest, pathSegments root.path = parent ++ [name] →
          pathSegments path = parent ++ name' :: rest → name' = name) ∧
    ∀ (location metadataLocation bucket : String) (root : TableRoot),
      TableRoot.new crates location metadataLocation bucket = .ok root →
      root.bucket = bucket ∧ root.containsMetadataLocation crates metadataLocation = true := by
  refine ⟨fun auditor root metadataLocation stored objects hbucket haccepted hlisting hstored => ?_,
    fun root location haccepted => ?_, fun _ _ _ _ hnew => (TableRoot.new_ok hnew).2⟩
  · obtain ⟨referenced, hreferenced⟩ := containsMetadataLocation_iff.mp haccepted
    refine ⟨?_, fun audit haudit => ?_, fun auditor' objects' hbucket' hlisting' hperm =>
      auditTable_perm hbucket hbucket' haccepted hlisting hlisting' hperm⟩
    · constructor
      · rintro ⟨failure, hfailure⟩
        by_contra hfits
        have hok := (auditTable_eq_ok hbucket hreferenced hlisting).mpr ⟨hfits, rfl⟩
        rw [hfailure] at hok
        cases hok
      · intro hoverflows
        cases h : auditor.auditTable crates root metadataLocation with
        | ok audit =>
          exact absurd hoverflows ((auditTable_eq_ok hbucket hreferenced hlisting).mp h).1
        | error failure => exact ⟨failure, rfl⟩
    · obtain ⟨-, rfl⟩ := (auditTable_eq_ok hbucket hreferenced hlisting).mp haudit
      exact ⟨referenced, hreferenced, rfl, rfl, rfl, rfl, referencedMetadataExists_iff hreferenced,
        congrArg _ (AuditTally.ofObjects_perm hstored)⟩
  · obtain ⟨path, hpath⟩ := containsMetadataLocation_iff.mp haccepted
    obtain ⟨hparse, hbelow, hproper, hsuffix⟩ := metadataPath_below hsegments hpath
    refine ⟨path, hparse, hbelow, hproper, hsuffix, fun parent name name' rest hroot hrest => ?_⟩
    rw [hroot, hrest, List.prefix_append_right_inj] at hbelow
    exact (List.cons_prefix_cons.mp hbelow).1.symm

-- ════════════════════════════════
-- Two orders of one listing
-- ════════════════════════════════

def segmentCrates : Crates :=
  { sampleCrates with
    pathPrefixMatches := fun path start => (pathSegments start).isPrefixOf (pathSegments path) }

theorem segmentCrates_matches : MatchesSegments segmentCrates :=
  fun _ _ h => List.isPrefixOf_iff_prefix.mp h

def auditedRoot : TableRoot := ⟨"s3://bench/t1", "bench", ⟨"t1"⟩⟩

def halfObject (name : String) : ObjectMeta := ⟨⟨name⟩, 2 ^ 63, by decide⟩

/-- The objects of one kind are more than an `u64` holds. -/
def halfMetadata : List ObjectMeta :=
  [halfObject "t1/a.metadata.json", halfObject "t1/b.metadata.json"]

def halfParquet : List ObjectMeta := [halfObject "t1/a.parquet", halfObject "t1/b.parquet"]

def listingAuditor (objects : List ObjectMeta) : ObjectStoreAuditor :=
  ⟨fun _ => objects.map .ok, "bench", []⟩

/-- The error names the overflow that the order of the listing reaches first. -/
theorem auditTable_order :
    auditedRoot.containsMetadataLocation segmentCrates "s3://bench/t1/a.metadata.json" = true ∧
      (halfMetadata ++ halfParquet).Perm (halfParquet ++ halfMetadata) ∧
      (listingAuditor (halfMetadata ++ halfParquet)).auditTable segmentCrates auditedRoot
        "s3://bench/t1/a.metadata.json" ≠
      (listingAuditor (halfParquet ++ halfMetadata)).auditTable segmentCrates auditedRoot
        "s3://bench/t1/a.metadata.json" := by
  refine ⟨by decide, List.perm_append_comm, ?_⟩
  have hmetadata : (listingAuditor (halfMetadata ++ halfParquet)).auditTable segmentCrates
      auditedRoot "s3://bench/t1/a.metadata.json" =
      .error (.listing "metadata byte count overflowed u64") := by
    rfl
  have hparquet : (listingAuditor (halfParquet ++ halfMetadata)).auditTable segmentCrates
      auditedRoot "s3://bench/t1/a.metadata.json" =
      .error (.listing "Parquet byte count overflowed u64") := by
    rfl
  rw [hmetadata, hparquet]
  decide

theorem auditTable_exact_half :
    (∃ failure, (listingAuditor halfMetadata).auditTable segmentCrates auditedRoot
      "s3://bench/t1/a.metadata.json" = .error failure) ↔ AuditOverflows halfMetadata := by
  have hbelow : objectsBelow halfMetadata auditedRoot.path = halfMetadata := by decide
  exact ((auditTable_exact segmentCrates_matches).1 (listingAuditor halfMetadata) auditedRoot
    "s3://bench/t1/a.metadata.json" halfMetadata halfMetadata rfl (by decide) rfl
    (hbelow ▸ .refl _)).1

end CatalogBench.Commit
