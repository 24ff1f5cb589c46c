import CatalogBench.Conformance.Wire

/-!
# Sanitized evidence

What a probe writes down of a JSON value or a text is first stripped of what looks like a secret:
the values under sensitive keys, the texts that hold a runtime secret of at least four bytes, and
the credentials in URLs.
-/

set_option linter.all false

namespace CatalogBench.Conformance

def redacted : String := "<redacted>"

def containsSensitiveValue (bytes : List UInt8) (sensitiveValues : List String) : Bool :=
  sensitiveValues.any fun sensitive =>
    4 ≤ (utf8 sensitive).length && decide (utf8 sensitive <:+: bytes)

def sensitiveWords : List String :=
  ["password", "secret", "token", "privatekey", "accesskey", "credential", "cookie",
    "authorization", "apikey", "clientid", "bearer", "sessionid", "signature"]

def isSensitiveKey (key : String) : Bool :=
  let normalized := (key.toList.filter fun c => c.isAlphanum).map Char.toLower
  sensitiveWords.any fun needle => decide (needle.toList <:+: normalized)

def escapePointerSegment (segment : String) : String :=
  String.ofList (segment.toList.flatMap fun c =>
    if c = '~' then ['~', '0'] else if c = '/' then ['~', '1'] else [c])

def sanitizeUrl (web : WebCrates) (text : String) : Option String :=
  match web.parseUrl text with
  | .error _ => none
  | .ok url =>
    if url.hostStr.isNone then none
    else
      let credentials := !url.username.isEmpty || url.password.isSome
      let fragment := url.fragment.isSome
      let pairs := web.queryPairs url
      if !(credentials || fragment || pairs.any fun pair => isSensitiveKey pair.1) then none
      else
        let query := pairs.map fun pair =>
          (pair.1, if isSensitiveKey pair.1 then redacted else pair.2)
        some (web.rewriteUrl url credentials fragment (if url.query.isSome then some query else none))

/-- `text.strip_prefix("Bearer ")` leaves something. -/
def isBearer (text : String) : Bool :=
  "Bearer ".toList.isPrefixOf text.toList && "Bearer ".length < text.length

def sanitizeText (web : WebCrates) (sensitiveValues : List String) (pointer text : String) :
    String × List String :=
  if containsSensitiveValue (utf8 text) sensitiveValues || isBearer text then (redacted, [pointer])
  else
    match sanitizeUrl web text with
    | some url => (url, [pointer])
    | none => (text, [])

mutual

/-- The sanitized value and the pointers of what was redacted. -/
def sanitizeValue (web : WebCrates) (sensitiveValues : List String) (pointer : String) :
    Json → Json × List String
  | .object fields =>
    let sanitized := sanitizeFields web sensitiveValues pointer fields
    (.object sanitized.1, sanitized.2)
  | .array values =>
    let sanitized := sanitizeValues web sensitiveValues pointer 0 values
    (.array sanitized.1, sanitized.2)
  | .string text =>
    let sanitized := sanitizeText web sensitiveValues pointer text
    (.string sanitized.1, sanitized.2)
  | .null => (.null, [])
  | .bool value => (.bool value, [])
  | .number value => (.number value, [])

def sanitizeFields (web : WebCrates) (sensitiveValues : List String) (pointer : String) :
    List (String × Json) → List (String × Json) × List String
  | [] => ([], [])
  | (key, child) :: fields =>
    let childPointer := pointer ++ "/" ++ escapePointerSegment key
    let rest := sanitizeFields web sensitiveValues pointer fields
    if isSensitiveKey key then ((key, .string redacted) :: rest.1, childPointer :: rest.2)
    else
      let sanitized := sanitizeValue web sensitiveValues childPointer child
      ((key, sanitized.1) :: rest.1, sanitized.2 ++ rest.2)

def sanitizeValues (web : WebCrates) (sensitiveValues : List String) (pointer : String)
    (index : ℕ) : List Json → List Json × List String
  | [] => ([], [])
  | child :: values =>
    let sanitized := sanitizeValue web sensitiveValues (pointer ++ "/" ++ toString index) child
    let rest := sanitizeValues web sensitiveValues pointer (index + 1) values
    (sanitized.1 :: rest.1, sanitized.2 ++ rest.2)

end

/-- `sort` and then `dedup`. -/
def sortDedup (texts : List String) : List String := (texts.mergeSort (· ≤ ·)).eraseDups

def sanitizeJson (web : WebCrates) (value : Json) (sensitiveValues : List String) :
    Json × List String :=
  let sanitized := sanitizeValue web sensitiveValues "" value
  (sanitized.1, sortDedup sanitized.2)

/-- `str::replace`. The pattern is not empty. -/
def replaceText (pattern replacement : List Char) : List Char → List Char
  | [] => []
  | c :: rest =>
    if pattern.isPrefixOf (c :: rest) then
      replacement ++ replaceText pattern replacement (rest.drop (pattern.length - 1))
    else c :: replaceText pattern replacement rest
  termination_by text => text.length

def redactText (text : String) (sensitiveValues : List String) : String :=
  (sensitiveValues.filter fun value => 4 ≤ (utf8 value).length).foldl
    (fun text value => String.ofList (replaceText value.toList redacted.toList text.toList)) text

end CatalogBench.Conformance
