import CatalogBench.Crates

/-!
# Table roots and object audits

A table root is only built for a location inside the expected bucket that holds its own
metadata object. Every audit of the object store takes one.
-/

set_option linter.all false

namespace CatalogBench.Commit

inductive ObjectStoreFailureKind
  | configuration | authentication | list | read
  deriving DecidableEq

structure ObjectStoreFailure where
  kind : ObjectStoreFailureKind
  detail : String
  deriving DecidableEq

def ObjectStoreFailure.configuration (detail : String) : ObjectStoreFailure :=
  ⟨.configuration, detail⟩

structure ObjectAuditSnapshot where
  tableRoot : String
  metadataObjects : ℕ
  metadataBytes : ℕ
  referencedMetadataLocation : String
  referencedMetadataExists : Bool
  deriving DecidableEq

structure TableObjectAuditSnapshot where
  tableRoot : String
  metadataObjects : ℕ
  metadataBytes : ℕ
  parquetObjects : ℕ
  parquetBytes : ℕ
  referencedMetadataLocation : String
  referencedMetadataExists : Bool
  deriving DecidableEq

def parseS3Location (crates : Crates) (location label : String) :
    Except ObjectStoreFailure (String × ObjectPath) :=
  match crates.parseUrl location with
  | .error e => throw (.configuration ("invalid " ++ label ++ ": " ++ e))
  | .ok url =>
    match url.hostStr with
    | none => throw (.configuration (label ++ " must be a credential-free absolute s3 URI"))
    | some host =>
      if url.scheme ≠ "s3" || !url.username.isEmpty || url.password.isSome || url.query.isSome ||
          url.fragment.isSome then
        throw (.configuration (label ++ " must be a credential-free absolute s3 URI"))
      else
        match crates.pathFromUrlPath url.path with
        | .error e => throw (.configuration ("invalid " ++ label ++ " path: " ++ e))
        | .ok path => return (host, path)

structure TableRoot where
  location : String
  bucket : String
  path : ObjectPath
  deriving DecidableEq

namespace TableRoot

def metadataPath (crates : Crates) (root : TableRoot) (location : String) :
    Except ObjectStoreFailure ObjectPath := do
  let (bucket, path) ← parseS3Location crates location "metadata location"
  if bucket ≠ root.bucket || !crates.pathPrefixMatches path root.path || path = root.path then
    throw (.configuration "metadata location is outside the returned table root")
  if !".metadata.json".toList.isSuffixOf path.asRef.toList then
    throw (.configuration "metadata location does not end in `.metadata.json`")
  return path

def new (crates : Crates) (location metadataLocation expectedBucket : String) :
    Except ObjectStoreFailure TableRoot := do
  let (bucket, path) ← parseS3Location crates location "table location"
  if bucket ≠ expectedBucket then
    throw (.configuration ("table location uses bucket `" ++ bucket ++ "` instead of `" ++
      expectedBucket ++ "`"))
  if path.asRef.isEmpty then
    throw (.configuration "table location must identify a run-owned path")
  let root : TableRoot := { location := location, bucket := bucket, path := path }
  let _ ← root.metadataPath crates metadataLocation
  return root

def containsMetadataLocation (crates : Crates) (root : TableRoot) (location : String) : Bool :=
  (root.metadataPath crates location).isOk

/-- What a root is built for: its own location in the expected bucket, around its metadata. -/
theorem new_ok {crates : Crates} {location metadataLocation expectedBucket : String}
    {root : TableRoot} (h : new crates location metadataLocation expectedBucket = .ok root) :
    root.location = location ∧ root.bucket = expectedBucket ∧
      root.containsMetadataLocation crates metadataLocation = true := by
  unfold new at h
  cases hparse : parseS3Location crates location "table location" with
  | error e => rw [hparse] at h; cases h
  | ok parsed =>
  obtain ⟨bucket, path⟩ := parsed
  simp only [hparse, bind, Except.bind] at h
  split at h
  · cases h
  next hbucket =>
  split at h
  · cases h
  cases hmetadata : metadataPath crates ⟨location, bucket, path⟩ metadataLocation with
  | error e => rw [hmetadata] at h; cases h
  | ok _ =>
    rw [hmetadata] at h
    obtain rfl := Except.ok.inj h
    refine ⟨rfl, not_not.mp hbucket, ?_⟩
    simp [containsMetadataLocation, hmetadata, Except.isOk, Except.toBool]

end TableRoot

end CatalogBench.Commit
