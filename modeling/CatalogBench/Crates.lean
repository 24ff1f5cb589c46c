import CatalogBench.Library.Utf8
import Mathlib.Algebra.Group.Int.Defs
import Mathlib.Algebra.GroupWithZero.Nat
import Mathlib.Data.List.Infix
import Mathlib.Data.Rat.Defs
import Mathlib.Tactic.Common

/-!
# Third-party functions

The repository calls a handful of library functions whose source it does not hold. They
are bundled here and passed to every definition that calls one. No result assumes more
about them than its own hypotheses say.
-/

set_option linter.all false

namespace CatalogBench

/-- A `BTreeMap` with string keys. -/
abbrev StringMap (α : Type) := Std.ExtTreeMap String α compare

/-- A map built from entries with distinct keys holds those entries. -/
theorem getElem?_ofList_iff {α : Type} {entries : List (String × α)}
    (hdistinct : (entries.map Prod.fst).Nodup) (key : String) (value : α) :
    (Std.ExtTreeMap.ofList entries compare : StringMap α)[key]? = some value ↔
      (key, value) ∈ entries := by
  have hpairwise : entries.Pairwise fun a b => ¬compare a.1 b.1 = .eq := by
    refine (List.pairwise_map.mp hdistinct).imp fun hne heq => hne ?_
    exact Std.LawfulEqCmp.eq_of_compare heq
  constructor
  · intro h
    by_cases hmem : key ∈ entries.map Prod.fst
    · obtain ⟨⟨key', value'⟩, hentry, rfl⟩ := List.mem_map.mp hmem
      have hget := Std.ExtTreeMap.getElem?_ofList_of_mem (Std.ReflCmp.compare_self) hpairwise hentry
      rw [hget] at h
      exact Option.some.inj h ▸ hentry
    · rw [Std.ExtTreeMap.getElem?_ofList_of_contains_eq_false (by simpa using hmem)] at h
      cases h
  · intro h
    exact Std.ExtTreeMap.getElem?_ofList_of_mem Std.ReflCmp.compare_self hpairwise h

/-- Whatever a map built from entries holds is one of them. -/
theorem mem_of_getElem?_ofList {α : Type} {entries : List (String × α)} {key : String} {value : α}
    (h : (Std.ExtTreeMap.ofList entries compare : StringMap α)[key]? = some value) :
    (key, value) ∈ entries := by
  rw [Std.ExtTreeMap.ofList_eq_insertMany_empty] at h
  have hinsert : ∀ map : StringMap α, (map.insertMany entries)[key]? = some value →
      (key, value) ∈ entries ∨ map[key]? = some value := by
    clear h
    induction entries with
    | nil => exact fun map h => .inr h
    | cons entry entries ih =>
      intro map h
      rw [Std.ExtTreeMap.insertMany_cons] at h
      rcases ih _ h with hmem | hget
      · exact .inl (List.mem_cons_of_mem _ hmem)
      · rw [Std.ExtTreeMap.getElem?_insert] at hget
        split at hget
        · next heq =>
          obtain rfl := Std.LawfulEqCmp.eq_of_compare heq
          obtain rfl := Option.some.inj hget
          exact .inl List.mem_cons_self
        · exact .inr hget
  rcases hinsert ∅ h with hmem | hget
  · exact hmem
  · simp at hget

/-- The Unicode property `White_Space`. -/
def isWhiteSpace (c : Char) : Bool :=
  let n := c.toNat
  (0x09 ≤ n && n ≤ 0x0d) || n = 0x20 || n = 0x85 || n = 0xa0 || n = 0x1680 ||
    (0x2000 ≤ n && n ≤ 0x200a) || n = 0x2028 || n = 0x2029 || n = 0x202f || n = 0x205f ||
    n = 0x3000

/-- The bytes of a text. -/
def utf8 (text : String) : List UInt8 := text.toUTF8.data.toList

theorem utf8_eq_flatMap (text : String) :
    utf8 text = text.toList.flatMap String.utf8EncodeChar := by
  have h : text.toUTF8 = (text.toList.flatMap String.utf8EncodeChar).toByteArray :=
    String.utf8Encode_toList.symm
  rw [utf8, h, List.toList_data_toByteArray]

theorem decode_utf8 (text : String) : Utf8.decode (utf8 text) = text.toList := by
  rw [utf8_eq_flatMap, Utf8.decode_encode]

theorem utf8_injective {a b : String} (h : utf8 a = utf8 b) : a = b := by
  have hdecode := congrArg Utf8.decode h
  rw [decode_utf8, decode_utf8] at hdecode
  exact String.toList_inj.mp hdecode

theorem utf8_singleton (c : Char) : utf8 (String.singleton c) = String.utf8EncodeChar c := by
  simp [utf8_eq_flatMap]

/-- What the accessors of `url::Url` return. -/
structure Url where
  scheme : String
  hostStr : Option String
  port : Option ℕ
  username : String
  password : Option String
  query : Option String
  fragment : Option String
  path : String
  deriving DecidableEq

/-- `object_store::path::Path`, known by its text. -/
structure ObjectPath where
  asRef : String
  deriving DecidableEq

/-- `uuid::Uuid`. -/
abbrev Uuid := BitVec 128

def Uuid.isNil (uuid : Uuid) : Bool := uuid = 0

/-- `serde_json::Number`. -/
inductive JsonNumber
  | posInt (n : ℕ)
  | negInt (n : ℤ)
  | float (value : ℚ)
  deriving DecidableEq

/-- `serde_json::Value`. -/
inductive Json
  | null
  | bool (value : Bool)
  | number (value : JsonNumber)
  | string (value : String)
  | array (values : List Json)
  | object (fields : List (String × Json))

namespace Json

/-- `Value::get` with a field name. -/
def get (value : Json) (field : String) : Option Json :=
  match value with
  | .object fields => fields.lookup field
  | _ => none

def asStr : Json → Option String
  | .string value => some value
  | _ => none

def asU64 : Json → Option ℕ
  | .number (.posInt n) => some n
  | _ => none

def isObject : Json → Bool
  | .object _ => true
  | _ => false

end Json

/-- Lowercase hexadecimal text of a byte string. -/
def hex (bytes : List UInt8) : String :=
  let digit (n : ℕ) : Char := if n < 10 then Char.ofNat (48 + n) else Char.ofNat (87 + n)
  String.ofList (bytes.flatMap fun byte => [digit (byte.toNat / 16), digit (byte.toNat % 16)])

/-- The library functions the repository calls. -/
structure Crates where
  /-- `sha2::Sha256` of a whole message. -/
  sha256 : List UInt8 → List UInt8
  /-- `url::Url::parse`, with the text of its error. -/
  parseUrl : String → Except String Url
  /-- `object_store::path::Path::from_url_path`, with the text of its error. -/
  pathFromUrlPath : String → Except String ObjectPath
  /-- `object_store::path::Path::prefix_matches`. -/
  pathPrefixMatches : ObjectPath → ObjectPath → Bool
  /-- `uuid::Uuid::parse_str`. -/
  parseUuid : String → Option Uuid
  /-- `serde_json::to_writer` of an array of values. -/
  writeJson : List Json → Except Unit (List UInt8)
  /-- `f64::sqrt`, over exact numbers. -/
  sqrt : ℚ → ℚ

/-- `sha256_hex`. -/
def Crates.sha256Hex (crates : Crates) (bytes : List UInt8) : String := hex (crates.sha256 bytes)

/-- The SHA-256 digests of three texts, for evaluating the model on a small round. -/
def sampleDigests : List (String × List UInt8) :=
  [("bench/fixture/1/warmup/0",
      [127, 228, 56, 48, 23, 70, 160, 28, 194, 43, 64, 211, 235, 246, 114, 90, 70, 70, 133, 241,
        109, 54, 52, 11, 24, 28, 136, 37, 70, 200, 157, 169]),
    ("bench/fixture/1/sequential/0",
      [56, 153, 4, 242, 69, 120, 122, 219, 253, 139, 67, 10, 37, 8, 117, 251, 8, 122, 62, 235, 51,
        62, 99, 91, 38, 169, 229, 213, 134, 130, 172, 40]),
    ("bench/fixture/1/concurrent/0/0",
      [51, 248, 110, 17, 216, 34, 188, 236, 99, 212, 31, 167, 209, 48, 64, 89, 42, 43, 136, 121,
        33, 217, 41, 43, 162, 218, 40, 222, 242, 118, 216, 62])]

/-- The library functions on the few inputs of the sample runs. -/
def sampleCrates : Crates where
  sha256 bytes := ((sampleDigests.find? fun digest => utf8 digest.1 = bytes).map (·.2)).getD []
  parseUrl url :=
    if url = "http://catalog:8181" then
      .ok ⟨"http", some "catalog", some 8181, "", none, none, none, "/"⟩
    else if url = "http://store:9000" then
      .ok ⟨"http", some "store", some 9000, "", none, none, none, "/"⟩
    else
      let bucket := "s3://bench"
      if bucket.toList.isPrefixOf url.toList then
        .ok ⟨"s3", some "bench", none, "", none, none, none,
          String.ofList (url.toList.drop bucket.length)⟩
      else .error "relative URL without a base"
  pathFromUrlPath path := .ok ⟨String.ofList (path.toList.drop 1)⟩
  pathPrefixMatches path start := (start.asRef ++ "/").toList.isPrefixOf path.asRef.toList
  parseUuid text :=
    if text = "00000000-0000-4000-8000-000000000001" then some 0x00000000000040008000000000000001#128
    else none
  writeJson _ := .error ()
  sqrt q := q

end CatalogBench
