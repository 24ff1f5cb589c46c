import CatalogBench.Library.UrlPath

/-!
# The paths of `net/url`

How Go's `net/url` keeps the path of a URL: decoded, and next to it the text that it was read from
where that is not the default encoding. A path that is written as the default encoding has it is
called canonical.
-/

set_option linter.all false

namespace NetUrl

open Percent (percent)
open UrlPath (slash)

abbrev Bytes := List UInt8

def asterisk : UInt8 := 0x2A
def question : UInt8 := 0x3F

def isAlphanumeric (byte : UInt8) : Bool :=
  (0x30 ≤ byte && byte ≤ 0x39) || (0x41 ≤ byte && byte ≤ 0x5A) || (0x61 ≤ byte && byte ≤ 0x7A)

/-- `-_.~` and `$&+,/:;=@`: what else a path keeps. -/
def pathMarks : Bytes :=
  [0x2D, 0x5F, 0x2E, 0x7E, 0x24, 0x26, 0x2B, 0x2C, 0x2F, 0x3A, 0x3B, 0x3D, 0x40]

/-- `shouldEscape` in the mode of paths, turned around. -/
def isKept (byte : UInt8) : Bool := isAlphanumeric byte || pathMarks.contains byte

/-- `escape` in the mode of paths. -/
def escape (path : Bytes) : Bytes := UrlPath.encode isKept path

/-- `unescape` in the mode of paths. -/
def unescape : Bytes → Option Bytes
  | [] => some []
  | byte :: rest =>
    if byte = percent then
      match rest with
      | high :: low :: rest => do
        let value ← Percent.escaped high low
        let path ← unescape rest
        some (value :: path)
      | _ => none
    else do
      let path ← unescape rest
      some (byte :: path)

/-- `!$&'()*+,;=:@` and `[]`, and the percent sign. -/
def encodedMarks : Bytes :=
  [0x21, 0x24, 0x26, 0x27, 0x28, 0x29, 0x2A, 0x2B, 0x2C, 0x3B, 0x3D, 0x3A, 0x40, 0x5B, 0x5D, 0x25]

/-- `validEncoded` in the mode of paths. -/
def validEncoded (path : Bytes) : Bool :=
  path.all fun byte => encodedMarks.contains byte || isKept byte

/-- `URL`, without what only other kinds of URLs have. -/
structure Url where
  scheme : Bytes
  host : Bytes
  path : Bytes
  rawPath : Bytes
  rawQuery : Bytes
  forceQuery : Bool
  deriving DecidableEq

def Url.empty : Url := ⟨[], [], [], [], [], false⟩

namespace Url

def setPath (url : Url) (text : Bytes) : Option Url := do
  let path ← unescape text
  some { url with path, rawPath := if text = escape path then [] else text }

def escapedPath (url : Url) : Bytes :=
  if url.rawPath ≠ [] ∧ validEncoded url.rawPath = true ∧ unescape url.rawPath = some url.path then
    url.rawPath
  else if url.path = [asterisk] then [asterisk]
  else escape url.path

/-- What follows the question mark, if there is one. -/
def query (url : Url) : Option Bytes :=
  if url.rawQuery = [] ∧ url.forceQuery = false then none else some url.rawQuery

/-- The path and the query as they are written in a request line. -/
def target (url : Url) : Bytes := url.escapedPath ++ (url.query.map (question :: ·)).getD []

end Url

def isControl (byte : UInt8) : Bool := byte < 0x20 || byte = 0x7F

/-- `ParseRequestURI` of a target that starts with a slash: there is no scheme and no host. -/
def parseOriginForm (target : Bytes) : Option Url :=
  if target.head? ≠ some slash ∨ target.any isControl = true then none
  else if target.getLast? = some question ∧ target.count question = 1 then
    { Url.empty with forceQuery := true }.setPath target.dropLast
  else
    { Url.empty with rawQuery := (Percent.cut question target).2 }.setPath
      (Percent.cut question target).1

-- ════════════════════════════════
-- Canonical paths
-- ════════════════════════════════

/-- Every byte that is kept is written as it is, and every other one as an escape with capital
digits. -/
inductive Canonical : Bytes → Prop
  | nil : Canonical []
  | kept {byte : UInt8} {path : Bytes} : isKept byte = true → Canonical path →
      Canonical (byte :: path)
  | escaped {byte : UInt8} {path : Bytes} : isKept byte = false → Canonical path →
      Canonical (percent :: UrlPath.digit (byte.toNat / 16) :: UrlPath.digit (byte.toNat % 16) ::
        path)

theorem escape_cons (byte : UInt8) (path : Bytes) : escape (byte :: path) =
    (if isKept byte then [byte]
      else [percent, UrlPath.digit (byte.toNat / 16), UrlPath.digit (byte.toNat % 16)]) ++
        escape path := by
  rw [escape, UrlPath.encode, List.flatMap_cons]
  rfl

theorem escape_cons_kept {byte : UInt8} (h : isKept byte = true) (path : Bytes) :
    escape (byte :: path) = byte :: escape path := by
  rw [escape_cons, if_pos h, List.singleton_append]

theorem escape_canonical (path : Bytes) : Canonical (escape path) := by
  induction path with
  | nil => exact .nil
  | cons byte path ih =>
    rw [escape_cons]
    by_cases h : isKept byte = true
    · rw [if_pos h]
      exact .kept h ih
    · rw [if_neg h]
      exact .escaped (Bool.not_eq_true _ ▸ h) ih

theorem ne_percent_of_isKept {byte : UInt8} (h : isKept byte = true) : byte ≠ percent := by
  rintro rfl
  exact absurd h (by decide)

theorem unescape_cons {byte : UInt8} (h : byte ≠ percent) (path : Bytes) :
    unescape (byte :: path) = (unescape path).map (byte :: ·) := by
  rw [unescape.eq_def]
  simp only [if_neg h]
  cases unescape path <;> rfl

theorem unescape_escape_byte (byte : UInt8) (path : Bytes) :
    unescape (percent :: UrlPath.digit (byte.toNat / 16) :: UrlPath.digit (byte.toNat % 16) ::
      path) = (unescape path).map (byte :: ·) := by
  rw [unescape.eq_def]
  simp only [if_true, UrlPath.escaped_digits]
  cases unescape path <;> rfl

/-- What was escaped is read back. -/
theorem unescape_escape (path : Bytes) : unescape (escape path) = some path := by
  induction path with
  | nil => rfl
  | cons byte path ih =>
    rw [escape_cons]
    by_cases h : isKept byte = true
    · rw [if_pos h, List.singleton_append, unescape_cons (ne_percent_of_isKept h), ih]
      rfl
    · rw [if_neg h]
      have hbyte := unescape_escape_byte byte (escape path)
      rw [ih] at hbyte
      exact hbyte

/-- A canonical path is the encoding of the path that it denotes. -/
theorem Canonical.exists_escape {path : Bytes} (h : Canonical path) :
    ∃ decoded, path = escape decoded := by
  induction h with
  | nil => exact ⟨[], rfl⟩
  | @kept byte _ hkept _ ih =>
    obtain ⟨decoded, rfl⟩ := ih
    exact ⟨byte :: decoded, (escape_cons_kept hkept decoded).symm⟩
  | @escaped byte _ hkept _ ih =>
    obtain ⟨decoded, rfl⟩ := ih
    refine ⟨byte :: decoded, ?_⟩
    rw [escape_cons, if_neg (by rw [hkept]; decide)]
    rfl

theorem Canonical.escape_eq {path decoded : Bytes} (h : Canonical path)
    (hdecoded : unescape path = some decoded) : escape decoded = path := by
  obtain ⟨original, rfl⟩ := h.exists_escape
  rw [unescape_escape, Option.some.injEq] at hdecoded
  rw [hdecoded]

theorem canonical_iff (path : Bytes) : Canonical path ↔ (unescape path).map escape = some path := by
  constructor
  · intro h
    obtain ⟨decoded, rfl⟩ := h.exists_escape
    rw [unescape_escape]
    rfl
  · intro h
    obtain ⟨decoded, -, rfl⟩ := Option.map_eq_some_iff.mp h
    exact escape_canonical decoded

instance (path : Bytes) : Decidable (Canonical path) := decidable_of_iff _ (canonical_iff path).symm

-- ════════════════════════════════
-- The escaped path
-- ════════════════════════════════

/-- The escaped path of a URL denotes its path. -/
theorem Url.unescape_escapedPath (url : Url) : unescape url.escapedPath = some url.path := by
  unfold escapedPath
  split
  · next h => exact h.2.2
  · split
    · next h =>
      rw [h]
      rfl
    · exact unescape_escape url.path

/-- Without a text of its own, a path that is not an asterisk is encoded. -/
theorem Url.escapedPath_of_rawPath {url : Url} (hraw : url.rawPath = [])
    (hpath : url.path ≠ [asterisk]) : url.escapedPath = escape url.path := by
  rw [escapedPath, if_neg (fun h => h.1 hraw), if_neg hpath]

theorem unescape_slash {text path : Bytes} (h : unescape (slash :: text) = some path) :
    ∃ decoded, unescape text = some decoded ∧ path = slash :: decoded := by
  rw [unescape_cons (by decide)] at h
  obtain ⟨decoded, hdecoded, rfl⟩ := Option.map_eq_some_iff.mp h
  exact ⟨decoded, hdecoded, rfl⟩

theorem digit_isKept : ∀ {n : ℕ}, n < 16 → isKept (UrlPath.digit n) = true := by
  decide

theorem Canonical.validEncoded {path : Bytes} (h : Canonical path) :
    NetUrl.validEncoded path = true := by
  induction h with
  | nil => rfl
  | kept hkept _ ih =>
    rw [NetUrl.validEncoded, List.all_cons, hkept, Bool.or_true, Bool.true_and]
    exact ih
  | @escaped byte _ _ _ ih =>
    have hlt : byte.toNat < 256 := byte.toNat_lt
    rw [NetUrl.validEncoded, List.all_cons, List.all_cons, List.all_cons,
      digit_isKept (by omega), digit_isKept (by omega), Bool.or_true, Bool.or_true]
    exact ih

/-- An absolute path that was set is given back as it was written, unless a byte of it belongs in
an escape. -/
theorem Url.escapedPath_of_setPath {url url' : Url} {text : Bytes}
    (h : url.setPath (slash :: text) = some url') :
    url'.escapedPath = slash :: text ↔ NetUrl.validEncoded (slash :: text) = true := by
  obtain ⟨path, hpath, hurl⟩ := Option.bind_eq_some_iff.mp h
  obtain ⟨decoded, -, rfl⟩ := unescape_slash hpath
  have hasterisk : slash :: decoded ≠ [asterisk] := by
    intro heq
    exact absurd (List.cons.inj heq).1 (by decide)
  obtain rfl := Option.some.inj hurl
  by_cases hdefault : slash :: text = escape (slash :: decoded)
  · have hvalid : NetUrl.validEncoded (slash :: text) = true := by
      rw [hdefault]
      exact (escape_canonical _).validEncoded
    rw [escapedPath_of_rawPath (if_pos hdefault) hasterisk]
    exact ⟨fun _ => hvalid, fun _ => hdefault.symm⟩
  · simp only [escapedPath, if_neg hdefault, hpath, if_neg hasterisk]
    by_cases hvalid : NetUrl.validEncoded (slash :: text) = true
    · simp [hvalid]
    · rw [if_neg (fun hraw => hvalid hraw.2.1)]
      exact ⟨fun heq => absurd heq.symm hdefault, fun heq => absurd heq hvalid⟩

-- ════════════════════════════════
-- Request targets
-- ════════════════════════════════

theorem Url.setPath_query {url url' : Url} {text : Bytes} (h : url.setPath text = some url') :
    url'.query = url.query := by
  obtain ⟨path, -, hurl⟩ := Option.bind_eq_some_iff.mp h
  obtain rfl := Option.some.inj hurl
  rfl

/-- A target is its path and its query. -/
theorem parseOriginForm_eq_some {target : Bytes} {url : Url}
    (h : parseOriginForm target = some url) : ∃ text query,
      (∃ base : Url, base.setPath (slash :: text) = some url) ∧ url.query = query ∧
      slash :: text = (Percent.cut question target).1 ∧
      target = slash :: text ++ (query.map (question :: ·)).getD [] := by
  unfold parseOriginForm at h
  split at h
  · nomatch h
  next hstart =>
  rw [not_or, not_not] at hstart
  obtain ⟨rest, rfl⟩ : ∃ rest, target = slash :: rest := List.head?_eq_some_iff.mp hstart.1
  split at h
  · next hforce =>
    obtain ⟨hlast, hcount⟩ := hforce
    obtain ⟨front, hfront⟩ := List.getLast?_eq_some_iff.mp hlast
    have hnotin : question ∉ front := by
      rw [hfront, List.count_append, List.count_singleton_self] at hcount
      exact List.count_eq_zero.mp (by omega)
    rw [hfront, List.dropLast_concat] at h
    obtain ⟨text, rfl⟩ : ∃ text, front = slash :: text := by
      cases front with
      | nil => exact absurd (List.cons.inj hfront).1 (by decide)
      | cons byte text => exact ⟨text, by rw [(List.cons.inj hfront).1]⟩
    refine ⟨text, some [], ⟨_, h⟩, Url.setPath_query h, ?_, hfront⟩
    rw [hfront, Percent.cut_append hnotin]
  · next hforce =>
    have hhead : (Percent.cut question (slash :: rest)).1 =
        slash :: (Percent.cut question rest).1 := rfl
    rw [hhead] at h
    by_cases hmem : question ∈ slash :: rest
    · obtain ⟨hbytes, hbefore⟩ := Percent.eq_cut_of_mem hmem
      have hne : (Percent.cut question (slash :: rest)).2 ≠ [] := by
        intro hnil
        rw [hnil] at hbytes
        rw [hbytes, List.getLast?_concat, List.count_append, List.count_singleton_self,
          List.count_eq_zero.mpr hbefore] at hforce
        exact hforce ⟨rfl, rfl⟩
      refine ⟨_, some _, ⟨_, h⟩, (Url.setPath_query h).trans ?_, hhead.symm, hbytes⟩
      exact if_neg fun hnil => hne hnil.1
    · have hall := Percent.cut_fst_of_not_mem hmem
      have hnil : (Percent.cut question (slash :: rest)).2 = [] := Percent.cut_snd_of_not_mem hmem
      refine ⟨_, none, ⟨_, h⟩, (Url.setPath_query h).trans ?_, hhead.symm, ?_⟩
      · exact if_pos ⟨hnil, rfl⟩
      · rw [← hhead, hall, Option.map_none, Option.getD_none, List.append_nil]

/-- A target that the proxy of a server reads is written out again as it was, unless a byte of its
path belongs in an escape. -/
theorem target_of_parseOriginForm {target : Bytes} {url : Url}
    (h : parseOriginForm target = some url) :
    url.target = target ↔ validEncoded (Percent.cut question target).1 = true := by
  obtain ⟨text, query, ⟨base, hset⟩, hquery, hcut, htarget⟩ := parseOriginForm_eq_some h
  rw [← hcut, ← Url.escapedPath_of_setPath hset, Url.target, hquery]
  conv_lhs => rw [htarget]
  exact List.append_left_inj _

end NetUrl
