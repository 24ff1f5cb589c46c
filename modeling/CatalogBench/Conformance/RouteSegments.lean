import CatalogBench.Contract.Profile
import CatalogBench.Conformance.Separator
import CatalogBench.Library.UrlPath

/-!
# The segments of routes

The URL of a resource is made of segments that are pushed onto the base URL. The route prefix and
the separator come from the config of the catalog: which of them make URLs that say what they
are of.
-/

set_option linter.all false

namespace CatalogBench.Conformance
open Contract

-- ════════════════════════════════
-- URLs
-- ════════════════════════════════

/-- The URL crate on the URLs of routes: a URL is read back as it was written, HTTP URLs carry
segments below a root, and `push` percent-encodes a segment that is not dots. -/
structure PushesSegments (web : WebCrates) (kept : UInt8 → Bool) : Prop where
  encodes : kept Percent.percent = false ∧ kept UrlPath.slash = false
  read_back : ∀ text url, web.parseUrl text = .ok url →
    ∃ written, web.normalizeUrl text = .ok written ∧ web.parseUrl written = .ok url
  carries : ∀ written url, web.parseUrl written = .ok url →
    url.scheme = "http" ∨ url.scheme = "https" →
      web.cannotBeABase written = false ∧ ∃ rest, utf8 url.path = UrlPath.slash :: rest
  pushes : ∀ written url pushed, web.parseUrl written = .ok url →
    web.cannotBeABase written = false →
      ∃ result, web.parseUrl (web.pushSegments written pushed) = .ok result ∧
        utf8 result.path = UrlPath.pushAll kept (utf8 url.path) (pushed.map utf8)

/-- The decoded segments of the path of a URL. -/
def decodedSegments (web : WebCrates) (url : String) : Option (List (List UInt8)) :=
  (web.parseUrl url).toOption.map fun url =>
    (UrlPath.segments (utf8 url.path)).map Percent.decode

/-- The decoded segments under which a base URL has its routes. -/
def decodedBase (web : WebCrates) (url : String) : Option (List (List UInt8)) :=
  (web.parseUrl url).toOption.map fun url =>
    (UrlPath.baseSegments (utf8 url.path)).map Percent.decode

-- ════════════════════════════════
-- Resources
-- ════════════════════════════════

/-- What the routes of a catalog lead to. -/
inductive CatalogResource
  | namespaces
  | «namespace» (identifier : NamespaceIdentifier)
  | properties (identifier : NamespaceIdentifier)
  | tables (identifier : NamespaceIdentifier)
  | table (identifier : NamespaceIdentifier) (name : String)
  | register (identifier : NamespaceIdentifier)
  | rename
  deriving DecidableEq

namespace CatalogResource

/-- The segments after the prefix. -/
def tail (codec : NamespaceCodec) : CatalogResource → List String
  | namespaces => ["namespaces"]
  | «namespace» identifier => ["namespaces", codec.join identifier]
  | properties identifier => ["namespaces", codec.join identifier, "properties"]
  | tables identifier => ["namespaces", codec.join identifier, "tables"]
  | table identifier name => ["namespaces", codec.join identifier, "tables", name]
  | register identifier => ["namespaces", codec.join identifier, "register"]
  | rename => ["tables", "rename"]

def url (web : WebCrates) (routes : CatalogRoutes) : CatalogResource → Except String String
  | namespaces => routes.namespaceCollection web
  | «namespace» identifier => routes.namespace web identifier
  | properties identifier => routes.namespaceProperties web identifier
  | tables identifier => routes.tableCollection web identifier
  | table identifier name => routes.table web identifier name
  | register identifier => routes.tableRegister web identifier
  | rename => routes.tableRename web

theorem url_eq (web : WebCrates) (routes : CatalogRoutes) (resource : CatalogResource) :
    resource.url web routes = routes.resourceUrl web (resource.tail routes.codec) := by
  cases resource <;> rfl

end CatalogResource

/-- The characters of fixture names. -/
def isFixtureChar (c : Char) : Bool :=
  ('a' ≤ c && c ≤ 'z') || ('0' ≤ c && c ≤ '9') || c = '_'

def FixtureName (name : String) : Prop := name ≠ "" ∧ ∀ c ∈ name.toList, isFixtureChar c = true

def FixtureNamespace (identifier : NamespaceIdentifier) : Prop :=
  ∀ part ∈ identifier.parts, FixtureName part

/-- A resource of a fixture. -/
def CatalogResource.OfFixture : CatalogResource → Prop
  | .namespaces | .rename => True
  | .namespace identifier | .properties identifier | .tables identifier | .register identifier =>
    FixtureNamespace identifier
  | .table identifier name => FixtureNamespace identifier ∧ FixtureName name

/-- The parts of a joined namespace, split at the separator. -/
def NamespaceCodec.split (codec : NamespaceCodec) (joined : String) : List String :=
  match codec.separator.toList with
  | [c] => (joined.toList.splitOn c).map String.ofList
  | _ => [joined]

/-- The URL of each resource says what it is of, and no other has the same. -/
structure CatalogRoutes.Faithful (web : WebCrates) (routes : CatalogRoutes) : Prop where
  segments : ∀ resource : CatalogResource, resource.OfFixture →
    ∃ url base, resource.url web routes = .ok url ∧
      decodedBase web routes.baseUrl = some base ∧
      decodedSegments web url = some (base ++
        (["v1"] ++ routes.routePrefix.toList ++ resource.tail routes.codec).map utf8)
  splits : ∀ identifier, FixtureNamespace identifier →
    routes.codec.split (routes.codec.join identifier) = identifier.parts
  injective : ∀ a b : CatalogResource, a.OfFixture → b.OfFixture →
    a.url web routes = b.url web routes → a = b

-- ════════════════════════════════
-- Joining
-- ════════════════════════════════

theorem split_join {codec : NamespaceCodec} {c : Char} (hc : codec.separator.toList = [c])
    (hfixture : isFixtureChar c = false) {identifier : NamespaceIdentifier}
    (h : FixtureNamespace identifier) : codec.split (codec.join identifier) = identifier.parts := by
  rw [NamespaceCodec.split, hc]
  dsimp only
  rw [NamespaceCodec.join, String.toList_intercalate, hc, List.splitOn_intercalate]
  · rw [List.map_map]
    refine (List.map_congr_left fun part _ => ?_).trans (List.map_id _)
    exact String.ofList_toList
  · intro part hpart hmem
    obtain ⟨text, htext, rfl⟩ := List.mem_map.mp hpart
    rw [(h text htext).2 c hmem] at hfixture
    cases hfixture
  · simpa using identifier.valid.1

/-- A joined namespace of a fixture holds a character of its names. -/
theorem exists_fixtureChar {codec : NamespaceCodec} {identifier : NamespaceIdentifier}
    (h : FixtureNamespace identifier) :
    ∃ c ∈ (codec.join identifier).toList, isFixtureChar c = true := by
  obtain ⟨part, parts, hparts⟩ := List.exists_cons_of_ne_nil identifier.valid.1
  have hpart : FixtureName part := h part (hparts ▸ List.mem_cons_self)
  obtain ⟨c, rest, hchars⟩ := List.exists_cons_of_ne_nil
    fun hnil => hpart.1 (String.toList_inj.mp (hnil.trans rfl))
  refine ⟨c, ?_, hpart.2 c (hchars ▸ List.mem_cons_self)⟩
  rw [NamespaceCodec.join, String.toList_intercalate, hparts, List.map_cons, hchars]
  cases parts with
  | nil => simp
  | cons next parts =>
    rw [List.map_cons, List.intercalate_cons_cons]
    simp

theorem isDots_utf8 {text : String} : UrlPath.IsDots (utf8 text) ↔ text = "." ∨ text = ".." := by
  have hone : [UrlPath.dot] = utf8 "." := by decide
  have htwo : [UrlPath.dot, UrlPath.dot] = utf8 ".." := by decide
  rw [UrlPath.IsDots, htwo, hone]
  exact or_congr ⟨utf8_injective, congrArg utf8⟩ ⟨utf8_injective, congrArg utf8⟩

/-- A text with a character of fixture names is not dots. -/
theorem not_isDots {text : String} (h : ∃ c ∈ text.toList, isFixtureChar c = true) :
    ¬UrlPath.IsDots (utf8 text) := by
  obtain ⟨c, hc, hfixture⟩ := h
  rw [isDots_utf8]
  rintro (rfl | rfl)
  · rw [List.mem_singleton.mp hc] at hfixture
    cases hfixture
  · rw [or_self_iff.mp (List.mem_pair.mp hc)] at hfixture
    cases hfixture

theorem exists_fixtureChar_name {name : String} (h : FixtureName name) :
    ∃ c ∈ name.toList, isFixtureChar c = true := by
  obtain ⟨c, rest, hchars⟩ := List.exists_cons_of_ne_nil
    fun hnil => h.1 (String.toList_inj.mp (hnil.trans rfl))
  have hc : c ∈ name.toList := hchars ▸ List.mem_cons_self
  exact ⟨c, hc, h.2 c hc⟩

/-- No segment of a resource is dots. -/
theorem CatalogResource.tail_not_isDots {codec : NamespaceCodec} {resource : CatalogResource}
    (h : resource.OfFixture) : ∀ text ∈ resource.tail codec, ¬UrlPath.IsDots (utf8 text) := by
  have hwords : ∀ word ∈ ["namespaces", "properties", "tables", "register", "rename"],
      ¬UrlPath.IsDots (utf8 word) := by decide
  intro text htext
  cases resource with
  | namespaces => exact hwords text (by simp_all [tail])
  | «namespace» identifier =>
    rcases List.mem_pair.mp htext with rfl | rfl
    · exact hwords _ (by decide)
    · exact not_isDots (exists_fixtureChar h)
  | properties identifier =>
    simp only [tail, List.mem_cons, List.not_mem_nil, or_false] at htext
    rcases htext with rfl | rfl | rfl
    · exact hwords _ (by decide)
    · exact not_isDots (exists_fixtureChar h)
    · exact hwords _ (by decide)
  | tables identifier =>
    simp only [tail, List.mem_cons, List.not_mem_nil, or_false] at htext
    rcases htext with rfl | rfl | rfl
    · exact hwords _ (by decide)
    · exact not_isDots (exists_fixtureChar h)
    · exact hwords _ (by decide)
  | table identifier name =>
    simp only [tail, List.mem_cons, List.not_mem_nil, or_false] at htext
    rcases htext with rfl | rfl | rfl | rfl
    · exact hwords _ (by decide)
    · exact not_isDots (exists_fixtureChar h.1)
    · exact hwords _ (by decide)
    · exact not_isDots (exists_fixtureChar_name h.2)
  | register identifier =>
    simp only [tail, List.mem_cons, List.not_mem_nil, or_false] at htext
    rcases htext with rfl | rfl | rfl
    · exact hwords _ (by decide)
    · exact not_isDots (exists_fixtureChar h)
    · exact hwords _ (by decide)
  | rename =>
    rcases List.mem_pair.mp htext with rfl | rfl <;> exact hwords _ (by decide)

/-- Resources with the same segments are the same, where joined namespaces are. -/
theorem CatalogResource.tail_injective {codec : NamespaceCodec}
    (hjoin : ∀ i j, FixtureNamespace i → FixtureNamespace j → codec.join i = codec.join j → i = j)
    {a b : CatalogResource} (ha : a.OfFixture) (hb : b.OfFixture)
    (h : a.tail codec = b.tail codec) : a = b := by
  cases a <;> cases b <;> simp [tail] at h ⊢
  · exact hjoin _ _ ha hb h
  · exact hjoin _ _ ha hb h
  · exact hjoin _ _ ha hb h
  · exact ⟨hjoin _ _ ha.1 hb.1 h.1, h.2⟩
  · exact hjoin _ _ ha hb h

-- ════════════════════════════════
-- Building
-- ════════════════════════════════

theorem validateHttpBaseUrl_parse {crates : Crates} {value path : String}
    (h : validateHttpBaseUrl crates value path = []) :
    ∃ url, crates.parseUrl value = .ok url ∧ (url.scheme = "http" ∨ url.scheme = "https") := by
  unfold validateHttpBaseUrl at h
  cases hparse : crates.parseUrl value with
  | error error =>
    rw [hparse] at h
    cases h
  | ok url =>
    rw [hparse] at h
    simp only [issueWhen_eq_nil, Bool.not_eq_false', Bool.and_eq_true, Bool.or_eq_true,
      decide_eq_true_eq] at h
    exact ⟨url, rfl, h.1.1⟩

theorem resolve_separator {web : WebCrates} {config : Option Json} {codec : NamespaceCodec}
    (h : (NamespaceCodec.resolve web config).2 = some codec) :
    ∃ c, codec.separator.toList = [c] := by
  have hdecode : ∀ {resolution encoded},
      (NamespaceCodec.decode web resolution encoded).2 = some codec →
        codec.separator.length = 1 := by
    intro resolution encoded hcodec
    unfold NamespaceCodec.decode at hcodec
    cases hseparator : decodeSeparator web encoded with
    | error error =>
      rw [hseparator] at hcodec
      cases hcodec
    | ok separator =>
      rw [hseparator] at hcodec
      cases hcodec
      exact (decodeSeparator_eq_ok.mp hseparator).2.1
  refine List.length_eq_one_iff.mp (String.length_toList.trans ?_)
  unfold NamespaceCodec.resolve at h
  split at h
  · exact hdecode h
  · cases h
  split at h
  · exact hdecode h
  · cases h

section Building

variable {web : WebCrates} {kept : UInt8 → Bool} (hweb : PushesSegments web kept)
  {routes : CatalogRoutes} {path : String}
  (hbase : validateHttpBaseUrl web.toCrates routes.baseUrl path = [])

include hweb hbase

/-- A URL has the segments of the base URL and those pushed, but for dots. -/
theorem resourceUrl_segments (tail : List String) :
    ∃ url base, routes.resourceUrl web tail = .ok url ∧
      decodedBase web routes.baseUrl = some base ∧
      decodedSegments web url = some (base ++
        (((["v1"] ++ routes.routePrefix.toList ++ tail).map utf8).filter fun segment =>
          !decide (UrlPath.IsDots segment))) := by
  obtain ⟨url, hparse, hscheme⟩ := validateHttpBaseUrl_parse hbase
  obtain ⟨written, hwritten, hread⟩ := hweb.read_back _ _ hparse
  obtain ⟨hcarries, hroot⟩ := hweb.carries _ _ hread hscheme
  obtain ⟨result, hresult, hpath⟩ :=
    hweb.pushes _ _ (["v1"] ++ routes.routePrefix.toList ++ tail) hread hcarries
  refine ⟨web.pushSegments written (["v1"] ++ routes.routePrefix.toList ++ tail),
    (UrlPath.baseSegments (utf8 url.path)).map Percent.decode, ?_, ?_, ?_⟩
  · rw [CatalogRoutes.resourceUrl, hwritten]
    simp [hcarries]
  · rw [decodedBase, hparse]
    rfl
  · have hfirst : utf8 "v1" ≠ [] := by decide
    have hv1 : ¬UrlPath.IsDots (utf8 "v1") := by decide
    rw [decodedSegments, hresult]
    refine congrArg some ?_
    dsimp only
    rw [hpath, UrlPath.pushAll_filter, List.append_assoc, List.singleton_append, List.map_cons,
      List.filter_cons_of_pos (by simpa using hv1),
      UrlPath.segments_pushAll hweb.encodes.2 hroot hfirst, List.map_append, List.map_map]
    · congr 1
      refine (List.map_congr_left fun segment _ => ?_).trans (List.map_id _)
      exact UrlPath.decode_encode hweb.encodes.1 segment
    · intro segment hsegment
      rcases List.mem_cons.mp hsegment with rfl | hmem
      · exact hv1
      · simpa using (List.mem_filter.mp hmem).2

/-- The routes are faithful when the prefix is not dots and no fixture name has the separator. -/
theorem routes_faithful_of {c : Char} (hc : routes.codec.separator.toList = [c])
    (hstarts : ∀ value ∈ routes.routePrefix, value ≠ "." ∧ value ≠ "..")
    (hfixture : isFixtureChar c = false) : routes.Faithful web := by
  have hsplit := fun {identifier} => @split_join routes.codec c hc hfixture identifier
  have hsegments : ∀ resource : CatalogResource, resource.OfFixture →
      ∃ url base, resource.url web routes = .ok url ∧
        decodedBase web routes.baseUrl = some base ∧
        decodedSegments web url = some (base ++
          (["v1"] ++ routes.routePrefix.toList ++ resource.tail routes.codec).map utf8) := by
    intro resource hresource
    obtain ⟨url, base, hurl, hbase, hdecoded⟩ :=
      resourceUrl_segments hweb hbase (resource.tail routes.codec)
    refine ⟨url, base, (resource.url_eq web routes).trans hurl, hbase, ?_⟩
    rw [hdecoded, List.filter_eq_self.mpr]
    intro segment hsegment
    obtain ⟨text, htext, rfl⟩ := List.mem_map.mp hsegment
    simp only [Bool.not_eq_eq_eq_not, Bool.not_true, decide_eq_false_iff_not]
    rcases List.mem_append.mp htext with hhead | htail
    · rcases List.mem_append.mp hhead with hv1 | hvalue
      · rw [List.mem_singleton.mp hv1]
        decide
      · rw [isDots_utf8]
        exact not_or.mpr (hstarts text (Option.mem_toList.mp hvalue))
    · exact CatalogResource.tail_not_isDots hresource text htail
  refine ⟨hsegments, fun _ => hsplit, fun a b ha hb h => ?_⟩
  obtain ⟨url, base, hurl, hbase', hdecoded⟩ := hsegments a ha
  obtain ⟨url', base', hurl', hbase'', hdecoded'⟩ := hsegments b hb
  rw [hurl, hurl'] at h
  cases h
  rw [hbase'] at hbase''
  cases hbase''
  rw [hdecoded] at hdecoded'
  have htexts := List.append_cancel_left (Option.some.inj hdecoded')
  have htail := List.append_cancel_left
    ((List.map_injective_iff.mpr fun _ _ => utf8_injective) htexts)
  refine CatalogResource.tail_injective (fun i j hi hj hij => ?_) ha hb htail
  have hparts := (hsplit hi).symm.trans ((congrArg routes.codec.split hij).trans (hsplit hj))
  cases i
  cases j
  cases hparts
  rfl

/-- Faithful routes push the prefix. -/
theorem CatalogRoutes.Faithful.prefix_not_dots (h : routes.Faithful web) :
    ∀ value ∈ routes.routePrefix, value ≠ "." ∧ value ≠ ".." := by
  intro value hvalue
  obtain ⟨url, base, hurl, hbase', hdecoded⟩ := h.segments .namespaces trivial
  obtain ⟨url', base', hurl', hbase'', hdecoded'⟩ := resourceUrl_segments hweb hbase ["namespaces"]
  obtain rfl := Except.ok.inj (hurl.symm.trans hurl')
  obtain rfl := Option.some.inj (hbase'.symm.trans hbase'')
  have hkept := List.append_cancel_left (Option.some.inj (hdecoded.symm.trans hdecoded'))
  have hmem : value ∈ ["v1"] ++ routes.routePrefix.toList ++ ["namespaces"] := by
    simp [Option.mem_def.mp hvalue]
  have hdots := List.filter_eq_self.mp hkept.symm (utf8 value) (List.mem_map_of_mem hmem)
  rw [Bool.not_eq_eq_eq_not, Bool.not_true, decide_eq_false_iff_not, isDots_utf8, not_or] at hdots
  exact hdots

end Building

/-- A namespace of one part. -/
def soloNamespace (part : String) (h : part ≠ "") : NamespaceIdentifier :=
  ⟨[part], List.cons_ne_nil _ _, fun _ hmem => List.mem_singleton.mp hmem ▸ h⟩

/-- A separator of fixture names splits the namespace that is named after it. -/
theorem separator_not_fixtureChar {codec : NamespaceCodec} {c : Char}
    (hc : codec.separator.toList = [c])
    (h : ∀ identifier, FixtureNamespace identifier →
      codec.split (codec.join identifier) = identifier.parts) : isFixtureChar c = false := by
  by_contra hfixture
  rw [Bool.not_eq_false] at hfixture
  have hne : String.singleton c ≠ "" := fun heq => by
    have := congrArg String.toList heq
    simp at this
  have hname : FixtureName (String.singleton c) := by
    refine ⟨hne, fun other hother => ?_⟩
    rw [String.toList_singleton, List.mem_singleton] at hother
    rw [hother, hfixture]
  have hsplit := h (soloNamespace _ hne) fun part hpart => List.mem_singleton.mp hpart ▸ hname
  have hjoin : (codec.join (soloNamespace _ hne)).toList = [c] := by
    simp [NamespaceCodec.join, soloNamespace]
  rw [NamespaceCodec.split, hc] at hsplit
  dsimp only at hsplit
  have hpieces : [c].splitOn c = [[], []] := List.splitOn_append_cons_self [] []
  rw [hjoin, hpieces] at hsplit
  exact absurd (congrArg List.length hsplit) (by simp [soloNamespace])

/-- The routes are faithful exactly when the prefix is not dots and the separator is no character
of fixture names. -/
theorem routes_faithful_iff {web : WebCrates} {kept : UInt8 → Bool} {routes : CatalogRoutes}
    {path : String} {config : Option Json} (hweb : PushesSegments web kept)
    (hbase : validateHttpBaseUrl web.toCrates routes.baseUrl path = [])
    (hcodec : (NamespaceCodec.resolve web config).2 = some routes.codec) :
    routes.Faithful web ↔
      (∀ value ∈ routes.routePrefix, value ≠ "." ∧ value ≠ "..") ∧
        ∀ c ∈ routes.codec.separator.toList, isFixtureChar c = false := by
  obtain ⟨c, hc⟩ := resolve_separator hcodec
  rw [hc, List.forall_mem_singleton]
  constructor
  · exact fun h => ⟨h.prefix_not_dots hweb hbase, separator_not_fixtureChar hc h.splits⟩
  · rintro ⟨hstarts, hfixture⟩
    exact routes_faithful_of hweb hbase hc hstarts hfixture

-- ════════════════════════════════
-- A sample catalog
-- ════════════════════════════════

/-- The bytes of fixture names. -/
def isNameByte (byte : UInt8) : Bool :=
  (0x61 ≤ byte && byte ≤ 0x7A) || (0x30 ≤ byte && byte ≤ 0x39) || byte == 0x5F

/-- The bytes of paths built from fixture names. -/
def isRouteByte (byte : UInt8) : Bool :=
  isNameByte byte || (0x41 ≤ byte && byte ≤ 0x46) || byte == Percent.percent ||
    byte == UrlPath.slash

def routeHost : List UInt8 := utf8 "http://catalog:8181"

def asciiText (bytes : List UInt8) : String :=
  String.ofList (bytes.map fun byte => Char.ofNat byte.toNat)

def routePath (text : String) : Option (List UInt8) :=
  if routeHost.isPrefixOf (utf8 text) then
    match (utf8 text).drop routeHost.length with
    | [] => some [UrlPath.slash]
    | byte :: rest =>
      if byte == UrlPath.slash && rest.all isRouteByte then some (byte :: rest) else none
  else none

def routeUrl (path : List UInt8) : Url :=
  ⟨"http", some "catalog", some 8181, "", none, none, none, asciiText path⟩

/-- The form parser, and URLs of one host whose paths are built from fixture names. -/
def routeWeb : WebCrates :=
  { formWeb with
    parseUrl := fun text =>
      match routePath text with
      | some path => .ok (routeUrl path)
      | none => .error "relative URL without a base"
    normalizeUrl := fun text =>
      match routePath text with
      | some path => .ok (asciiText (routeHost ++ path))
      | none => .error "relative URL without a base"
    pushSegments := fun written pushed =>
      match routePath written with
      | some path =>
        asciiText (routeHost ++ UrlPath.pushAll isNameByte path (pushed.map utf8))
      | none => written }

theorem encode_ofNat : ∀ {n : ℕ}, n < 0x80 → String.utf8EncodeChar (Char.ofNat n) = [.ofNat n] := by
  decide

theorem utf8_asciiText {bytes : List UInt8} (h : ∀ byte ∈ bytes, byte.toNat < 0x80) :
    utf8 (asciiText bytes) = bytes := by
  rw [utf8_eq_flatMap, asciiText, String.toList_ofList, List.flatMap_map]
  induction bytes with
  | nil => rfl
  | cons byte bytes ih =>
    rw [List.flatMap_cons, encode_ofNat (h byte List.mem_cons_self),
      ih fun other hother => h other (List.mem_cons_of_mem _ hother)]
    exact congrArg (· :: bytes) (UInt8.ofNat_toNat)

/-- A path that the sample host serves. -/
def IsRoutePath (path : List UInt8) : Prop :=
  ∃ rest, path = UrlPath.slash :: rest ∧ rest.all isRouteByte = true

theorem isRouteByte_ascii {byte : UInt8} (h : isRouteByte byte = true) : byte.toNat < 0x80 := by
  simp only [isRouteByte, isNameByte, Bool.or_eq_true, Bool.and_eq_true, decide_eq_true_eq,
    beq_iff_eq, UInt8.le_iff_toNat_le, ← UInt8.toNat_inj] at h
  simp only [Percent.percent, UrlPath.slash, UInt8.reduceToNat] at h
  omega

theorem IsRoutePath.ascii {path : List UInt8} (h : IsRoutePath path) :
    ∀ byte ∈ path, byte.toNat < 0x80 := by
  obtain ⟨rest, rfl, hrest⟩ := h
  intro byte hbyte
  rcases List.mem_cons.mp hbyte with rfl | hmem
  · decide
  · exact isRouteByte_ascii (List.all_eq_true.mp hrest byte hmem)

theorem isRoutePath_of_routePath {text : String} {path : List UInt8}
    (h : routePath text = some path) : IsRoutePath path := by
  unfold routePath at h
  split at h
  · split at h
    · cases h
      exact ⟨[], rfl, rfl⟩
    split at h
    · next hroute =>
      cases h
      rw [Bool.and_eq_true, beq_iff_eq] at hroute
      exact ⟨_, congrArg (· :: _) hroute.1, hroute.2⟩
    · cases h
  · cases h

/-- A path is read back from its text. -/
theorem routeHost_ascii : routeHost.all (fun byte => decide (byte.toNat < 0x80)) = true := by
  decide

theorem routePath_asciiText {path : List UInt8} (h : IsRoutePath path) :
    routePath (asciiText (routeHost ++ path)) = some path := by
  have hhost : ∀ byte ∈ routeHost, byte.toNat < 0x80 := fun byte hbyte =>
    decide_eq_true_eq.mp (List.all_eq_true.mp routeHost_ascii byte hbyte)
  have hbytes : utf8 (asciiText (routeHost ++ path)) = routeHost ++ path :=
    utf8_asciiText fun byte hbyte => (List.mem_append.mp hbyte).elim (hhost byte) (h.ascii byte)
  obtain ⟨rest, rfl, hrest⟩ := h
  rw [routePath, hbytes, if_pos (List.isPrefixOf_iff_prefix.mpr (List.prefix_append _ _)),
    List.drop_left]
  simp [hrest]

theorem isRouteByte_digit : ∀ {n : ℕ}, n < 16 → isRouteByte (UrlPath.digit n) = true := by
  decide

theorem encode_isRouteByte (bytes : List UInt8) :
    (UrlPath.encode isNameByte bytes).all isRouteByte = true := by
  refine List.all_eq_true.mpr fun byte hbyte => ?_
  obtain ⟨original, -, hmem⟩ := List.mem_flatMap.mp hbyte
  have hlt : original.toNat < 256 := original.toNat_lt
  split at hmem
  · next hname =>
    rw [List.mem_singleton.mp hmem, isRouteByte, hname]
    rfl
  · simp only [List.mem_cons, List.not_mem_nil, or_false] at hmem
    rcases hmem with rfl | rfl | rfl
    · decide
    · exact isRouteByte_digit (by omega)
    · exact isRouteByte_digit (by omega)

theorem IsRoutePath.push {path : List UInt8} (h : IsRoutePath path) (segment : List UInt8) :
    IsRoutePath (UrlPath.push isNameByte path segment) := by
  unfold UrlPath.push
  split
  · exact h
  obtain ⟨rest, rfl, hrest⟩ := h
  have hsegment := encode_isRouteByte segment
  have hslash : isRouteByte UrlPath.slash = true := by decide
  split
  · refine ⟨rest ++ UrlPath.encode isNameByte segment, rfl, ?_⟩
    rw [List.all_append, hrest, hsegment]
    rfl
  · refine ⟨rest ++ [UrlPath.slash] ++ UrlPath.encode isNameByte segment, rfl, ?_⟩
    rw [List.all_append, List.all_append, hrest, hsegment, List.all_cons, hslash]
    rfl

theorem IsRoutePath.pushAll {path : List UInt8} (h : IsRoutePath path)
    (pushed : List (List UInt8)) : IsRoutePath (UrlPath.pushAll isNameByte path pushed) := by
  induction pushed generalizing path with
  | nil => exact h
  | cons segment pushed ih => exact ih (h.push segment)

theorem routeWeb_parseUrl {text : String} {url : Url} (h : routeWeb.parseUrl text = .ok url) :
    ∃ path, routePath text = some path ∧ url = routeUrl path := by
  change (match routePath text with
    | some path => Except.ok (routeUrl path)
    | none => .error "relative URL without a base") = _ at h
  split at h
  · next path hpath =>
    cases h
    exact ⟨path, hpath, rfl⟩
  · cases h

theorem routeWeb_asciiText {path : List UInt8} (h : IsRoutePath path) :
    routeWeb.parseUrl (asciiText (routeHost ++ path)) = .ok (routeUrl path) := by
  change (match routePath (asciiText (routeHost ++ path)) with
    | some path => Except.ok (routeUrl path)
    | none => .error "relative URL without a base") = _
  rw [routePath_asciiText h]

theorem routeWeb_pushesSegments : PushesSegments routeWeb isNameByte where
  encodes := by decide
  read_back text url h := by
    obtain ⟨path, hpath, rfl⟩ := routeWeb_parseUrl h
    refine ⟨asciiText (routeHost ++ path), ?_,
      routeWeb_asciiText (isRoutePath_of_routePath hpath)⟩
    change (match routePath text with
      | some path => Except.ok (asciiText (routeHost ++ path))
      | none => .error "relative URL without a base") = _
    rw [hpath]
  carries written url h _ := by
    obtain ⟨path, hpath, rfl⟩ := routeWeb_parseUrl h
    have hroute := isRoutePath_of_routePath hpath
    refine ⟨rfl, ?_⟩
    rw [routeUrl, utf8_asciiText hroute.ascii]
    obtain ⟨rest, rfl, -⟩ := hroute
    exact ⟨rest, rfl⟩
  pushes written url pushed h _ := by
    obtain ⟨path, hpath, rfl⟩ := routeWeb_parseUrl h
    have hroute := isRoutePath_of_routePath hpath
    have hpushed := hroute.pushAll (pushed.map utf8)
    refine ⟨routeUrl (UrlPath.pushAll isNameByte path (pushed.map utf8)), ?_, ?_⟩
    · change routeWeb.parseUrl (match routePath written with
        | some path =>
          asciiText (routeHost ++ UrlPath.pushAll isNameByte path (pushed.map utf8))
        | none => written) = _
      rw [hpath]
      exact routeWeb_asciiText hpushed
    · rw [routeUrl, utf8_asciiText hpushed.ascii, routeUrl, utf8_asciiText hroute.ascii]

/-- The routes of the sample host under a prefix, with the default separator. -/
def hostRoutes (routePrefix : String) : CatalogRoutes :=
  ⟨"http://catalog:8181", some routePrefix, ⟨"\x1f"⟩⟩

theorem hostRoutes_base (routePrefix : String) :
    validateHttpBaseUrl routeWeb.toCrates (hostRoutes routePrefix).baseUrl "base_url" = [] := by
  have h : validateHttpBaseUrl routeWeb.toCrates "http://catalog:8181" "base_url" = [] := by decide
  exact h

theorem hostRoutes_codec (routePrefix : String) :
    (NamespaceCodec.resolve routeWeb (some (.object []))).2 =
      some (hostRoutes routePrefix).codec := by
  have h : (NamespaceCodec.resolve routeWeb (some (.object []))).2 = some ⟨"\x1f"⟩ := by decide
  exact h

/-- Routes under an ordinary prefix. -/
theorem routes_faithful_iff_main :
    (hostRoutes "main").Faithful routeWeb ↔
      (∀ value ∈ (hostRoutes "main").routePrefix, value ≠ "." ∧ value ≠ "..") ∧
        ∀ c ∈ (hostRoutes "main").codec.separator.toList, isFixtureChar c = false :=
  routes_faithful_iff routeWeb_pushesSegments (hostRoutes_base _) (hostRoutes_codec _)

/-- Two dots are accepted as a prefix, which no URL then holds. -/
theorem routes_unfaithful :
    ¬∀ (web : WebCrates) (kept : UInt8 → Bool) (routes : CatalogRoutes) (path : String)
        (config : Option Json), PushesSegments web kept →
      validateHttpBaseUrl web.toCrates routes.baseUrl path = [] →
      (∀ value ∈ routes.routePrefix,
        validateRoutePrefix (.static value) path = [] ∨ validPathSegment value = true) →
      (NamespaceCodec.resolve web config).2 = some routes.codec → routes.Faithful web := by
  intro h
  have hfaithful := h routeWeb isNameByte (hostRoutes "..") "base_url" (some (.object []))
    routeWeb_pushesSegments (hostRoutes_base _)
    (fun value hvalue => .inl (Option.some.inj hvalue ▸ by decide)) (hostRoutes_codec _)
  exact (hfaithful.prefix_not_dots routeWeb_pushesSegments (hostRoutes_base _) ".." rfl).2 rfl

end CatalogBench.Conformance
