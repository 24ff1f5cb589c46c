import CatalogBench.Crates
import CatalogBench.FaultProxy.Handlers
import CatalogBench.Library.NetUrl

/-!
# The target that the fault proxy forwards

`serveProxy` builds the target of the upstream request from the decoded path and clears the text
that the path was read from. What arrives is the default encoding of the path.
-/

set_option linter.all false

namespace CatalogBench.FaultProxy

open NetUrl UrlPath

def trimSuffix (text suffix : Bytes) : Bytes :=
  if suffix <:+ text then text.take (text.length - suffix.length) else text

def trimPrefix (text start : Bytes) : Bytes :=
  if start <+: text then text.drop start.length else text

def joinPath (base request : Bytes) : Bytes :=
  trimSuffix base [slash] ++ [slash] ++ trimPrefix request [slash]

/-- The URL of the upstream request: what `serveProxy` sets in its clone of the URL. -/
def upstreamUrl (upstream url : NetUrl.Url) : NetUrl.Url :=
  { url with
    scheme := upstream.scheme
    host := upstream.host
    path := joinPath upstream.path url.path
    rawPath := [] }

/-- The URL that `serveProxy` hands to the client, if it comes so far. -/
def handedUrl (upstream : NetUrl.Url) (selection : Selection) (hasBody : Bool)
    (url : NetUrl.Url) : Option NetUrl.Url :=
  if selection.disconnectsBefore then none
  else if selection.pauses && !hasBody then none
  else some (upstreamUrl upstream url)

/-- A matched request goes to the client when there is a URL to hand over. -/
theorem handedUrl_isSome_iff {go : GoLibrary} {memory : Memory go} {exchange : Exchange}
    {selection : Selection} (hmatched : exchange.progress = .matched)
    (hselection : exchange.selection = some selection) (upstream url : NetUrl.Url) :
    (handedUrl upstream selection exchange.request.hasBody url).isSome = true ↔
      ∃ memory' exchange', Exchange.Step memory exchange memory' exchange' ∧
        exchange'.dispatched = exchange.dispatched + 1 := by
  have hexclusive : selection.pauses = true → selection.disconnectsBefore = false := by
    intro hpauses
    simp only [Selection.pauses, Bool.and_eq_true, decide_eq_true_eq] at hpauses
    simp only [Selection.disconnectsBefore, hpauses.2, Bool.and_eq_false_iff]
    exact .inl (.inr (by decide))
  unfold handedUrl
  constructor
  · intro hsome
    split at hsome
    · cases hsome
    next hbefore =>
    rw [Bool.not_eq_true] at hbefore
    split at hsome
    · cases hsome
    next hbody =>
    by_cases hpauses : selection.pauses = true
    · rw [hpauses, Bool.true_and, Bool.not_eq_true, Bool.not_eq_false'] at hbody
      exact ⟨_, _, .gate hmatched hselection hpauses hbody, rfl⟩
    · rw [Bool.not_eq_true] at hpauses
      exact ⟨_, _, .forward hmatched hselection hbefore hpauses, rfl⟩
  · rintro ⟨memory', exchange', hstep, hdispatched⟩
    cases hstep with
    | gate _ hselection' hpauses hbody =>
      obtain rfl := Option.some.inj (hselection.symm.trans hselection')
      simp [hexclusive hpauses, hbody]
    | forward _ hselection' hbefore hpauses =>
      obtain rfl := Option.some.inj (hselection.symm.trans hselection')
      simp [hbefore, hpauses]
    | _ => exact absurd hdispatched (by simp)

theorem upstreamUrl_query (upstream url : NetUrl.Url) :
    (upstreamUrl upstream url).query = url.query :=
  rfl

/-- Below an upstream without a path, the path of a request has one slash in front. -/
theorem joinPath_nil (path : Bytes) : joinPath [] path = slash :: trimPrefix path [slash] := by
  rw [joinPath, trimSuffix, if_neg (by decide)]
  rfl

theorem trimPrefix_slash (path : Bytes) : trimPrefix (slash :: path) [slash] = path :=
  if_pos ⟨path, rfl⟩

theorem upstreamUrl_escapedPath {upstream : NetUrl.Url} (hupstream : upstream.path = [])
    (url : NetUrl.Url) :
    (upstreamUrl upstream url).escapedPath = escape (slash :: trimPrefix url.path [slash]) := by
  rw [← joinPath_nil, ← hupstream]
  refine NetUrl.Url.escapedPath_of_rawPath rfl ?_
  show joinPath upstream.path url.path ≠ [asterisk]
  rw [hupstream, joinPath_nil]
  intro heq
  exact absurd (List.cons.inj heq).1 (by decide)

theorem escape_slash (path : Bytes) : escape (slash :: path) = slash :: escape path :=
  escape_cons_kept (by decide) path

/-- The encoding of a decoded path is the path as it came in when that starts with a slash and is
canonical. -/
theorem escape_trimPrefix_iff {text path : Bytes} (h : unescape text = some path) :
    escape (slash :: trimPrefix path [slash]) = text ↔
      text.head? = some slash ∧ Canonical text := by
  constructor
  · rintro rfl
    exact ⟨by rw [escape_slash, List.head?_cons], escape_canonical _⟩
  · rintro ⟨hhead, hcanonical⟩
    obtain ⟨rest, rfl⟩ := List.head?_eq_some_iff.mp hhead
    obtain ⟨decoded, -, rfl⟩ := unescape_slash h
    rw [trimPrefix_slash]
    exact hcanonical.escape_eq h

/-- The target of a request reaches an upstream without a path unchanged exactly when its path
starts with a slash and is canonical. -/
theorem handedUrl_target_iff {upstream url handed : NetUrl.Url} {selection : Selection}
    {hasBody : Bool} {path : Bytes} {query : Option Bytes} (hupstream : upstream.path = [])
    (hpath : url.escapedPath = path) (hquery : url.query = query)
    (hhanded : handedUrl upstream selection hasBody url = some handed) :
    (handed.escapedPath = path ∧ handed.query = query) ↔
      path.head? = some slash ∧ Canonical path := by
  have hurl : upstreamUrl upstream url = handed := by
    unfold handedUrl at hhanded
    split at hhanded
    · nomatch hhanded
    split at hhanded
    · nomatch hhanded
    exact Option.some.inj hhanded
  have hdenotes : unescape path = some url.path := hpath ▸ url.unescape_escapedPath
  rw [← hurl, upstreamUrl_escapedPath hupstream, upstreamUrl_query, and_iff_left hquery]
  exact escape_trimPrefix_iff hdenotes

/-- The store behind the proxy. -/
def store : NetUrl.Url := { NetUrl.Url.empty with scheme := utf8 "http", host := utf8 "minio:9000" }

/-- `/warehouse/a%20b` reaches the store as it is. -/
theorem handedUrl_target_space :
    let url := { NetUrl.Url.empty with path := utf8 "/warehouse/a b" }
    (upstreamUrl store url).escapedPath = utf8 "/warehouse/a%20b" ∧
      (upstreamUrl store url).query = none :=
  have hhanded : handedUrl store Memory.unmatched false
      { NetUrl.Url.empty with path := utf8 "/warehouse/a b" } = some _ := rfl
  (handedUrl_target_iff rfl (by decide +kernel) rfl hhanded).mpr
    ⟨by decide +kernel, by decide +kernel⟩

/-- `/v1/namespaces/a%2Fb` reaches the store as a namespace and a table. -/
theorem target_slash_forwarded_decoded :
    ∃ url handed, parseOriginForm (utf8 "/v1/namespaces/a%2Fb") = some url ∧
      url.escapedPath = utf8 "/v1/namespaces/a%2Fb" ∧
      handedUrl store Memory.unmatched false url = some handed ∧
      handed.escapedPath = utf8 "/v1/namespaces/a/b" ∧ handed.escapedPath ≠ url.escapedPath :=
  ⟨{ NetUrl.Url.empty with
      path := utf8 "/v1/namespaces/a/b"
      rawPath := utf8 "/v1/namespaces/a%2Fb" },
    { store with path := utf8 "/v1/namespaces/a/b" }, by decide +kernel, by decide +kernel,
    by decide +kernel, by decide +kernel, by decide +kernel⟩

end CatalogBench.FaultProxy
