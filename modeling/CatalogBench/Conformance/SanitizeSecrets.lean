import CatalogBench.Common.Sanitization
import CatalogBench.Conformance.SanitizeFrame
import CatalogBench.Library.Percent

/-!
# What sanitizing removes

A sanitized value has the keys of the value it was made from, and no text of it but a rewritten
URL holds a runtime secret. Keys are left to the audit of the whole evidence.
-/

set_option linter.all false

namespace CatalogBench.Conformance

-- ════════════════════════════════
-- URLs
-- ════════════════════════════════

/-- The query of a rewritten URL. -/
def sanitizedQuery (web : WebCrates) (url : Url) : Option (List (String × String)) :=
  if url.query.isSome then
    some ((web.queryPairs url).map fun pair =>
      (pair.1, if isSensitiveKey pair.1 then redacted else pair.2))
  else none

def hasCredentials (url : Url) : Bool := !url.username.isEmpty || url.password.isSome

/-- A URL as `sanitize_url` writes it. -/
def rewritten (web : WebCrates) (url : Url) : String :=
  web.rewriteUrl url (hasCredentials url) url.fragment.isSome (sanitizedQuery web url)

/-- A URL that `sanitize_url` has something to remove from. -/
def isRevealing (web : WebCrates) (url : Url) : Bool :=
  hasCredentials url || url.fragment.isSome ||
    (web.queryPairs url).any fun pair => isSensitiveKey pair.1

/-- What the URL Standard says of parsing and writing URLs, for the URLs that are rewritten. -/
structure UrlStandard (web : WebCrates) : Prop where
  /-- A URL begins with a scheme, which has no angle bracket and no space. -/
  begins_with_scheme : ∀ text url, web.parseUrl text = .ok url →
    text ≠ redacted ∧ isBearer text = false
  /-- A written URL is read back with what was written, and written again as it is. -/
  read_back : ∀ text url, web.parseUrl text = .ok url → url.hostStr.isSome →
    ∃ again, web.parseUrl (rewritten web url) = .ok again ∧ again.hostStr = url.hostStr ∧
      again.username = (if hasCredentials url then "redacted" else url.username) ∧
      again.password = (if hasCredentials url then none else url.password) ∧
      again.fragment = none ∧ again.query.isSome = url.query.isSome ∧
      web.queryPairs again = (sanitizedQuery web url).getD [] ∧
      web.rewriteUrl again (hasCredentials url) false (sanitizedQuery web url) = rewritten web url

theorem sanitizeUrl_of_parse {web : WebCrates} {text : String} {url : Url}
    (h : web.parseUrl text = .ok url) :
    sanitizeUrl web text =
      if url.hostStr.isNone then none
      else if !isRevealing web url then none else some (rewritten web url) := by
  rw [sanitizeUrl, h]
  rfl

theorem sanitizeUrl_eq_some {web : WebCrates} {text out : String} :
    sanitizeUrl web text = some out ↔
      ∃ url, web.parseUrl text = .ok url ∧ url.hostStr.isSome ∧ isRevealing web url ∧
        rewritten web url = out := by
  cases hparse : web.parseUrl text with
  | error error => simp [sanitizeUrl, hparse]
  | ok url =>
    rw [sanitizeUrl_of_parse hparse]
    constructor
    · intro h
      split at h
      · cases h
      next hhost =>
      split at h
      · cases h
      next hrevealing =>
      exact ⟨url, rfl, by simpa [Option.isSome_iff_ne_none] using hhost, by simpa using hrevealing,
        Option.some.inj h⟩
    · rintro ⟨url', hurl, hhost, hrevealing, hout⟩
      cases hurl
      rw [if_neg (by simpa [Option.isSome_iff_ne_none] using hhost), if_neg (by simpa using hrevealing)]
      exact congrArg some hout

/-- What a rewritten query is made of has nothing more to remove. -/
theorem sanitizedQuery_again {web : WebCrates} {url again : Url}
    (hquery : again.query.isSome = url.query.isSome)
    (hpairs : web.queryPairs again = (sanitizedQuery web url).getD []) :
    sanitizedQuery web again = sanitizedQuery web url := by
  rw [sanitizedQuery, hquery, hpairs, sanitizedQuery]
  split
  · rw [Option.getD_some, List.map_map]
    refine congrArg some (List.map_congr_left fun pair _ => Prod.ext rfl ?_)
    dsimp only [Function.comp]
    split <;> rfl
  · rfl

/-- A rewritten URL has nothing more to remove. -/
theorem sanitizeUrl_rewritten {web : WebCrates} (hweb : UrlStandard web) {text out : String}
    (h : sanitizeUrl web text = some out) :
    sanitizeUrl web out = none ∨ sanitizeUrl web out = some out := by
  obtain ⟨url, hparse, hhost, -, rfl⟩ := sanitizeUrl_eq_some.mp h
  obtain ⟨again, hagain, hhost', husername, hpassword, hfragment, hquery, hpairs, hwritten⟩ :=
    hweb.read_back text url hparse hhost
  have hcredentials : hasCredentials again = hasCredentials url := by
    rw [hasCredentials, husername, hpassword]
    split
    · next h => rw [h]; rfl
    · rfl
  have hsame := sanitizedQuery_again hquery hpairs
  have hrewritten : rewritten web again = rewritten web url := by
    rw [rewritten, hcredentials, hfragment, hsame]
    exact hwritten
  cases hout : sanitizeUrl web (rewritten web url) with
  | none => exact .inl rfl
  | some out =>
    obtain ⟨url', hparse', -, -, rfl⟩ := sanitizeUrl_eq_some.mp hout
    rw [hagain] at hparse'
    cases hparse'
    exact .inr (congrArg some hrewritten)

-- ════════════════════════════════
-- Texts
-- ════════════════════════════════

/-- Runtime secrets of at least four bytes that share no character with the marker or its
percent-encoding. -/
def Unlike (sensitiveValues : List String) : Prop :=
  ∀ value ∈ sensitiveValues, 4 ≤ (utf8 value).length ∧
    ∀ c ∈ value.toList, c ∉ "<redacted>%3Credacted%3E".toList

/-- A text in which a runtime secret stands. -/
def HoldsSecret (sensitiveValues : List String) (text : String) : Prop :=
  ∃ value ∈ sensitiveValues, utf8 value <:+: utf8 text

theorem containsSensitiveValue_iff {sensitiveValues : List String} (h : Unlike sensitiveValues)
    {text : String} :
    containsSensitiveValue (utf8 text) sensitiveValues = true ↔
      HoldsSecret sensitiveValues text := by
  rw [containsSensitiveValue, List.any_eq_true]
  refine exists_congr fun value => and_congr_right fun hvalue => ?_
  rw [Bool.and_eq_true, decide_eq_true_eq, decide_eq_true_eq]
  exact and_iff_right (h value hvalue).1

/-- A character of a text of which an ASCII text has the bytes is one of its own. -/
theorem mem_of_bytes_subset {text ascii : String} (hascii : ∀ byte ∈ utf8 ascii, byte.toNat < 0x80)
    (hsub : utf8 text ⊆ utf8 ascii) {c : Char} (hc : c ∈ text.toList) : c ∈ ascii.toList := by
  cases hencode : String.utf8EncodeChar c with
  | nil =>
    have hlength := congrArg List.length hencode
    rw [String.length_utf8EncodeChar] at hlength
    exact absurd hlength (Nat.pos_iff_ne_zero.mp c.utf8Size_pos)
  | cons byte bytes =>
    have hbyte : byte ∈ String.utf8EncodeChar c := hencode ▸ List.mem_cons_self
    have hmem : byte ∈ utf8 ascii := by
      refine hsub ?_
      rw [utf8_eq_flatMap]
      exact List.mem_flatMap.mpr ⟨c, hc, hbyte⟩
    have hlow := hascii byte hmem
    rw [utf8_eq_flatMap] at hmem
    obtain ⟨d, hd, hbyte'⟩ := List.mem_flatMap.mp hmem
    have hsame := (Utf8.encode_of_ascii_mem hlow hbyte).trans
      (Utf8.encode_of_ascii_mem hlow hbyte').symm
    exact Utf8.encode_injective hsame ▸ hd

/-- The marker holds no secret. -/
theorem redacted_holds_no_secret {sensitiveValues : List String} (h : Unlike sensitiveValues) :
    ¬HoldsSecret sensitiveValues redacted := by
  rintro ⟨value, hvalue, hinside⟩
  obtain ⟨hlength, hunlike⟩ := h value hvalue
  cases hchars : value.toList with
  | nil =>
    rw [utf8_eq_flatMap, hchars] at hlength
    exact absurd hlength (by decide)
  | cons c chars =>
    have hc : c ∈ value.toList := hchars ▸ List.mem_cons_self
    have hascii : (utf8 redacted).all (fun byte => decide (byte.toNat < 0x80)) = true := by decide
    have hmem := mem_of_bytes_subset
      (fun byte hbyte => decide_eq_true_eq.mp (List.all_eq_true.mp hascii byte hbyte))
      hinside.subset hc
    exact hunlike c hc ((by decide : redacted.toList ⊆ "<redacted>%3Credacted%3E".toList) hmem)

variable {web : WebCrates} {sensitiveValues : List String}

/-- A text after sanitizing holds no secret, unless it is a rewritten URL. -/
theorem textRedaction_holds_no_secret (hvalues : Unlike sensitiveValues) {text out : String}
    (h : (textRedaction web sensitiveValues text).getD text = out)
    (hsecret : HoldsSecret sensitiveValues out) : sanitizeUrl web text = some out := by
  unfold textRedaction at h
  split at h
  · rw [Option.getD_some] at h
    subst h
    exact absurd hsecret (redacted_holds_no_secret hvalues)
  · next hclean =>
    cases hurl : sanitizeUrl web text with
    | some url =>
      rw [hurl] at h
      exact congrArg some h
    | none =>
      rw [hurl, Option.getD_none] at h
      subst h
      simp only [Bool.or_eq_true, not_or] at hclean
      exact absurd ((containsSensitiveValue_iff hvalues).mpr hsecret) hclean.1

/-- A text that was sanitized and holds no secret stays. -/
theorem textRedaction_again (hweb : UrlStandard web) (hvalues : Unlike sensitiveValues)
    {text out : String} (h : (textRedaction web sensitiveValues text).getD text = out)
    (hclean : ¬HoldsSecret sensitiveValues out) :
    (textRedaction web sensitiveValues out).getD out = out := by
  have hcontains : containsSensitiveValue (utf8 out) sensitiveValues = false :=
    Bool.eq_false_iff.mpr fun hmem => hclean ((containsSensitiveValue_iff hvalues).mp hmem)
  have hagain : isBearer out = false ∧ (sanitizeUrl web out = none ∨ sanitizeUrl web out = some out) := by
    unfold textRedaction at h
    split at h
    · -- The marker is no URL.
      obtain rfl : redacted = out := h
      refine ⟨by decide, .inl (Option.eq_none_iff_forall_ne_some.mpr fun url hurl => ?_)⟩
      obtain ⟨url, hparse, -⟩ := sanitizeUrl_eq_some.mp hurl
      exact (hweb.begins_with_scheme _ _ hparse).1 rfl
    · next hplain =>
      cases hurl : sanitizeUrl web text with
      | some url =>
        rw [hurl, Option.getD_some] at h
        subst h
        obtain ⟨parsed, hparse, hhost, -, rfl⟩ := sanitizeUrl_eq_some.mp hurl
        obtain ⟨again, hread, -⟩ := hweb.read_back text parsed hparse hhost
        exact ⟨(hweb.begins_with_scheme _ _ hread).2, sanitizeUrl_rewritten hweb hurl⟩
      | none =>
        rw [hurl, Option.getD_none] at h
        subst h
        simp only [Bool.or_eq_true, not_or, Bool.not_eq_true] at hplain
        exact ⟨hplain.2, .inl hurl⟩
  rw [textRedaction, hcontains, hagain.1]
  rcases hagain.2 with hurl | hurl <;> rw [hurl] <;> rfl

theorem sanitizeText_fst (pointer text : String) :
    (sanitizeText web sensitiveValues pointer text).1 =
      (textRedaction web sensitiveValues text).getD text := by
  rw [sanitizeText_eq]
  cases textRedaction web sensitiveValues text <;> rfl

theorem sanitizeJson_string (text : String) :
    (sanitizeJson web (.string text) sensitiveValues).1 =
      .string ((textRedaction web sensitiveValues text).getD text) := by
  rw [sanitizeJson, sanitizeValue]
  exact congrArg Json.string (sanitizeText_fst "" text)

-- ════════════════════════════════
-- Values
-- ════════════════════════════════

mutual

/-- The texts of a sanitized value that hold a secret are rewritten URLs. -/
theorem sanitizeValue_strings (hvalues : Unlike sensitiveValues) (pointer : String) :
    ∀ value : Json, ∀ text ∈ (sanitizeValue web sensitiveValues pointer value).1.strings,
      HoldsSecret sensitiveValues text →
        ∃ original ∈ value.strings, sanitizeUrl web original = some text
  | .object fields, text, htext, hsecret => by
    rw [sanitizeValue] at htext
    exact sanitizeFields_strings hvalues pointer fields text htext hsecret
  | .array values, text, htext, hsecret => by
    rw [sanitizeValue] at htext
    exact sanitizeValues_strings hvalues pointer 0 values text htext hsecret
  | .string original, text, htext, hsecret => by
    rw [sanitizeValue, Json.strings_string, List.mem_singleton, sanitizeText_fst] at htext
    exact ⟨original, List.mem_singleton_self _,
      textRedaction_holds_no_secret hvalues htext.symm hsecret⟩
  | .null, text, htext, _ => by cases htext
  | .bool _, text, htext, _ => by cases htext
  | .number _, text, htext, _ => by cases htext

theorem sanitizeFields_strings (hvalues : Unlike sensitiveValues) (pointer : String) :
    ∀ fields : List (String × Json),
      ∀ text ∈ Json.fieldStrings (sanitizeFields web sensitiveValues pointer fields).1,
        HoldsSecret sensitiveValues text →
          ∃ original ∈ Json.fieldStrings fields, sanitizeUrl web original = some text
  | [], text, htext, _ => by cases htext
  | (key, child) :: fields, text, htext, hsecret => by
    rw [sanitizeFields] at htext
    dsimp only at htext
    split at htext
    · rcases List.mem_append.mp htext with hhead | hrest
      · rw [List.mem_singleton.mp hhead] at hsecret
        exact absurd hsecret (redacted_holds_no_secret hvalues)
      · obtain ⟨original, hmem, hurl⟩ :=
          sanitizeFields_strings hvalues pointer fields text hrest hsecret
        exact ⟨original, List.mem_append_right _ hmem, hurl⟩
    · rcases List.mem_append.mp htext with hhead | hrest
      · obtain ⟨original, hmem, hurl⟩ := sanitizeValue_strings hvalues _ child text hhead hsecret
        exact ⟨original, List.mem_append_left _ hmem, hurl⟩
      · obtain ⟨original, hmem, hurl⟩ :=
          sanitizeFields_strings hvalues pointer fields text hrest hsecret
        exact ⟨original, List.mem_append_right _ hmem, hurl⟩

theorem sanitizeValues_strings (hvalues : Unlike sensitiveValues) (pointer : String)
    (index : ℕ) : ∀ values : List Json,
      ∀ text ∈ Json.elementStrings (sanitizeValues web sensitiveValues pointer index values).1,
        HoldsSecret sensitiveValues text →
          ∃ original ∈ Json.elementStrings values, sanitizeUrl web original = some text
  | [], text, htext, _ => by cases htext
  | child :: values, text, htext, hsecret => by
    rw [sanitizeValues] at htext
    rcases List.mem_append.mp htext with hhead | hrest
    · obtain ⟨original, hmem, hurl⟩ := sanitizeValue_strings hvalues _ child text hhead hsecret
      exact ⟨original, List.mem_append_left _ hmem, hurl⟩
    · obtain ⟨original, hmem, hurl⟩ :=
        sanitizeValues_strings hvalues pointer (index + 1) values text hrest hsecret
      exact ⟨original, List.mem_append_right _ hmem, hurl⟩

end

mutual

/-- A sanitized value has no other keys. -/
theorem sanitizeValue_keys (pointer : String) : ∀ value : Json,
    (sanitizeValue web sensitiveValues pointer value).1.keys ⊆ value.keys
  | .object fields => by
    rw [sanitizeValue]
    exact sanitizeFields_keys pointer fields
  | .array values => by
    rw [sanitizeValue]
    exact sanitizeValues_keys pointer 0 values
  | .string _ => List.Subset.refl _
  | .null => List.Subset.refl _
  | .bool _ => List.Subset.refl _
  | .number _ => List.Subset.refl _

theorem sanitizeFields_keys (pointer : String) : ∀ fields : List (String × Json),
    Json.fieldKeys (sanitizeFields web sensitiveValues pointer fields).1 ⊆ Json.fieldKeys fields
  | [] => List.Subset.refl _
  | (key, child) :: fields => by
    have hrest := sanitizeFields_keys pointer fields
    rw [sanitizeFields]
    dsimp only
    split
    · exact List.cons_subset_cons key (List.Subset.trans hrest (List.subset_append_right _ _))
    · refine List.cons_subset_cons key (List.append_subset.mpr ⟨?_, ?_⟩)
      · exact List.Subset.trans (sanitizeValue_keys _ child) (List.subset_append_left _ _)
      · exact List.Subset.trans hrest (List.subset_append_right _ _)

theorem sanitizeValues_keys (pointer : String) (index : ℕ) : ∀ values : List Json,
    Json.elementKeys (sanitizeValues web sensitiveValues pointer index values).1 ⊆
      Json.elementKeys values
  | [] => List.Subset.refl _
  | child :: values => by
    rw [sanitizeValues]
    refine List.append_subset.mpr ⟨?_, ?_⟩
    · exact List.Subset.trans (sanitizeValue_keys _ child) (List.subset_append_left _ _)
    · exact List.Subset.trans (sanitizeValues_keys pointer (index + 1) values)
        (List.subset_append_right _ _)

end

mutual

/-- Sanitizing a sanitized value that holds no secret changes nothing. -/
theorem sanitizeValue_again (hweb : UrlStandard web) (hvalues : Unlike sensitiveValues)
    (pointer pointer' : String) : ∀ value : Json,
      (∀ text ∈ (sanitizeValue web sensitiveValues pointer value).1.strings,
        ¬HoldsSecret sensitiveValues text) →
      (sanitizeValue web sensitiveValues pointer'
        (sanitizeValue web sensitiveValues pointer value).1).1 =
          (sanitizeValue web sensitiveValues pointer value).1
  | .object fields, h => by
    simp only [sanitizeValue] at h ⊢
    exact congrArg Json.object (sanitizeFields_again hweb hvalues pointer pointer' fields h)
  | .array values, h => by
    simp only [sanitizeValue] at h ⊢
    exact congrArg Json.array (sanitizeValues_again hweb hvalues pointer pointer' 0 0 values h)
  | .string text, h => by
    simp only [sanitizeValue, sanitizeText_fst] at h ⊢
    exact congrArg Json.string
      (textRedaction_again hweb hvalues rfl (h _ (List.mem_singleton_self _)))
  | .null, _ => rfl
  | .bool _, _ => rfl
  | .number _, _ => rfl

theorem sanitizeFields_again (hweb : UrlStandard web) (hvalues : Unlike sensitiveValues)
    (pointer pointer' : String) : ∀ fields : List (String × Json),
      (∀ text ∈ Json.fieldStrings (sanitizeFields web sensitiveValues pointer fields).1,
        ¬HoldsSecret sensitiveValues text) →
      (sanitizeFields web sensitiveValues pointer'
        (sanitizeFields web sensitiveValues pointer fields).1).1 =
          (sanitizeFields web sensitiveValues pointer fields).1
  | [], _ => rfl
  | (key, child) :: fields, h => by
    rw [sanitizeFields] at h ⊢
    dsimp only at h ⊢
    by_cases hkey : isSensitiveKey key
    · rw [if_pos hkey] at h ⊢
      have hrest := sanitizeFields_again hweb hvalues pointer pointer' fields fun text htext =>
        h text (List.mem_append_right _ htext)
      rw [sanitizeFields]
      dsimp only
      rw [if_pos hkey, hrest]
    · rw [if_neg hkey] at h ⊢
      have hhead := sanitizeValue_again hweb hvalues (pointer ++ "/" ++ escapePointerSegment key)
        (pointer' ++ "/" ++ escapePointerSegment key) child fun text htext =>
          h text (List.mem_append_left _ htext)
      have hrest := sanitizeFields_again hweb hvalues pointer pointer' fields fun text htext =>
        h text (List.mem_append_right _ htext)
      rw [sanitizeFields]
      dsimp only
      rw [if_neg hkey, hhead, hrest]

theorem sanitizeValues_again (hweb : UrlStandard web) (hvalues : Unlike sensitiveValues)
    (pointer pointer' : String) (index index' : ℕ) : ∀ values : List Json,
      (∀ text ∈ Json.elementStrings (sanitizeValues web sensitiveValues pointer index values).1,
        ¬HoldsSecret sensitiveValues text) →
      (sanitizeValues web sensitiveValues pointer' index'
        (sanitizeValues web sensitiveValues pointer index values).1).1 =
          (sanitizeValues web sensitiveValues pointer index values).1
  | [], _ => rfl
  | child :: values, h => by
    rw [sanitizeValues] at h ⊢
    dsimp only at h ⊢
    have hhead := sanitizeValue_again hweb hvalues (pointer ++ "/" ++ toString index)
      (pointer' ++ "/" ++ toString index') child fun text htext =>
        h text (List.mem_append_left _ htext)
    have hrest := sanitizeValues_again hweb hvalues pointer pointer' (index + 1) (index' + 1)
      values fun text htext => h text (List.mem_append_right _ htext)
    rw [sanitizeValues]
    dsimp only
    rw [hhead, hrest]

end

/-- A sanitized value has no keys that the value had not, no text of it holds a secret but a
rewritten URL, and where no text does, sanitizing it again changes nothing. -/
theorem sanitizeJson_removes {web : WebCrates} (hweb : UrlStandard web)
    {sensitiveValues : List String} (hvalues : Unlike sensitiveValues) (value : Json) :
    (sanitizeJson web value sensitiveValues).1.keys ⊆ value.keys ∧
      (∀ text ∈ (sanitizeJson web value sensitiveValues).1.strings,
        HoldsSecret sensitiveValues text →
          ∃ original ∈ value.strings, sanitizeUrl web original = some text) ∧
      ((∀ text ∈ (sanitizeJson web value sensitiveValues).1.strings,
          ¬HoldsSecret sensitiveValues text) →
        (sanitizeJson web (sanitizeJson web value sensitiveValues).1 sensitiveValues).1 =
          (sanitizeJson web value sensitiveValues).1) :=
  ⟨sanitizeValue_keys "" value, sanitizeValue_strings hvalues "" value,
    sanitizeValue_again hweb hvalues "" "" value⟩

-- ════════════════════════════════
-- What sanitizing leaves
-- ════════════════════════════════

/-- A URL with a sensitive pair and an encoded secret. -/
def leakyText : String := "http://h/?token=t&note=%6Doon"

/-- The URL written again. -/
def leakedText : String := "http://h/?token=%3Credacted%3E&note=moon"

def leakyUrl (query : String) : Url := ⟨"http", some "h", none, "", none, some query, none, "/"⟩

/-- The URL crate on these two texts. -/
def leakyWeb : WebCrates :=
  { sampleWeb [] with
    parseUrl := fun text =>
      if text = leakyText then .ok (leakyUrl "token=t&note=%6Doon")
      else if text = leakedText then .ok (leakyUrl "token=%3Credacted%3E&note=moon")
      else .error "relative URL without a base"
    queryPairs := fun url => (url.query.map fun query => Percent.formPairs (utf8 query)).getD []
    rewriteUrl := fun url _ _ query =>
      url.scheme ++ "://" ++ url.hostStr.getD "" ++ url.path ++
        (query.map fun pairs => "?" ++ String.intercalate "&" (pairs.map fun pair =>
          pair.1 ++ "=" ++ if pair.2 = redacted then "%3Credacted%3E" else pair.2)).getD "" }

theorem leakyWeb_parse {text : String} {url : Url} (h : leakyWeb.parseUrl text = .ok url) :
    text = leakyText ∧ url = leakyUrl "token=t&note=%6Doon" ∨
      text = leakedText ∧ url = leakyUrl "token=%3Credacted%3E&note=moon" := by
  change (if text = leakyText then _ else _) = _ at h
  split at h
  · next htext => exact .inl ⟨htext, (Except.ok.inj h).symm⟩
  split at h
  · next htext => exact .inr ⟨htext, (Except.ok.inj h).symm⟩
  · cases h

theorem leakyWeb_pairs :
    leakyWeb.queryPairs (leakyUrl "token=t&note=%6Doon") =
        [("token", "t"), ("note", "moon")] ∧
      leakyWeb.queryPairs (leakyUrl "token=%3Credacted%3E&note=moon") =
        [("token", redacted), ("note", "moon")] := by
  decide

theorem leakyWeb_query {query : String}
    (h : query = "token=t&note=%6Doon" ∨ query = "token=%3Credacted%3E&note=moon") :
    sanitizedQuery leakyWeb (leakyUrl query) =
      some [("token", redacted), ("note", "moon")] := by
  have htoken : isSensitiveKey "token" = true := by decide
  have hnote : isSensitiveKey "note" = false := by decide
  rcases h with rfl | rfl
  · rw [sanitizedQuery, leakyWeb_pairs.1]
    simp [leakyUrl, htoken, hnote]
  · rw [sanitizedQuery, leakyWeb_pairs.2]
    simp [leakyUrl, htoken, hnote]

theorem leakyWeb_rewrite (url : Url) (credentials fragment : Bool) (hscheme : url.scheme = "http")
    (hhost : url.hostStr = some "h") (hpath : url.path = "/") :
    leakyWeb.rewriteUrl url credentials fragment
      (some [("token", redacted), ("note", "moon")]) = leakedText := by
  change url.scheme ++ "://" ++ url.hostStr.getD "" ++ url.path ++ _ = _
  rw [hscheme, hhost, hpath]
  decide

theorem leakyWeb_rewritten {query : String}
    (h : query = "token=t&note=%6Doon" ∨ query = "token=%3Credacted%3E&note=moon") :
    rewritten leakyWeb (leakyUrl query) = leakedText := by
  rw [rewritten, leakyWeb_query h]
  exact leakyWeb_rewrite _ _ _ rfl rfl rfl

theorem leakyWeb_standard : UrlStandard leakyWeb where
  begins_with_scheme text url h := by
    rcases leakyWeb_parse h with ⟨rfl, -⟩ | ⟨rfl, -⟩ <;> decide
  read_back text url h _ := by
    have hquery : ∃ query, url = leakyUrl query ∧
        (query = "token=t&note=%6Doon" ∨ query = "token=%3Credacted%3E&note=moon") := by
      rcases leakyWeb_parse h with ⟨-, rfl⟩ | ⟨-, rfl⟩
      · exact ⟨_, rfl, .inl rfl⟩
      · exact ⟨_, rfl, .inr rfl⟩
    obtain ⟨query, rfl, hquery⟩ := hquery
    refine ⟨leakyUrl "token=%3Credacted%3E&note=moon", ?_⟩
    rw [leakyWeb_rewritten hquery, leakyWeb_query hquery]
    exact ⟨rfl, rfl, rfl, rfl, rfl, rfl, leakyWeb_pairs.2, leakyWeb_rewrite _ _ _ rfl rfl rfl⟩

def leakySecrets : List String := ["moon"]

theorem leakySecrets_unlike : Unlike leakySecrets := by
  intro value hvalue
  rw [List.mem_singleton.mp hvalue]
  have hapart : "moon".toList.all
      (fun c => decide (c ∉ "<redacted>%3Credacted%3E".toList)) = true := by
    decide
  exact ⟨by decide, fun c hc => decide_eq_true_eq.mp (List.all_eq_true.mp hapart c hc)⟩

theorem leakyText_redaction :
    textRedaction leakyWeb leakySecrets leakyText = some leakedText := by
  have hclean : containsSensitiveValue (utf8 leakyText) leakySecrets = false := by decide
  have hbearer : isBearer leakyText = false := by decide
  have hparse : leakyWeb.parseUrl leakyText = .ok (leakyUrl "token=t&note=%6Doon") := rfl
  have hrevealing : isRevealing leakyWeb (leakyUrl "token=t&note=%6Doon") = true := by
    rw [isRevealing, leakyWeb_pairs.1]
    decide
  rw [textRedaction, hclean, hbearer, sanitizeUrl_of_parse hparse, hrevealing]
  exact congrArg some (leakyWeb_rewritten (.inl rfl))

/-- A URL that does not hold the secret until it is written again. -/
theorem sanitizeJson_removes_url :
    (sanitizeJson leakyWeb (.string leakyText) leakySecrets).1.keys ⊆
        (Json.string leakyText).keys ∧
      (∀ text ∈ (sanitizeJson leakyWeb (.string leakyText) leakySecrets).1.strings,
        HoldsSecret leakySecrets text →
          ∃ original ∈ (Json.string leakyText).strings,
            sanitizeUrl leakyWeb original = some text) ∧
      ((∀ text ∈ (sanitizeJson leakyWeb (.string leakyText) leakySecrets).1.strings,
          ¬HoldsSecret leakySecrets text) →
        (sanitizeJson leakyWeb (sanitizeJson leakyWeb (.string leakyText) leakySecrets).1
          leakySecrets).1 = (sanitizeJson leakyWeb (.string leakyText) leakySecrets).1) :=
  sanitizeJson_removes leakyWeb_standard leakySecrets_unlike (.string leakyText)

theorem leakedText_holds_secret : HoldsSecret leakySecrets leakedText :=
  ⟨"moon", List.mem_cons_self, utf8 "http://h/?token=%3Credacted%3E&note=", [], by decide⟩

/-- A secret stays in a key, and comes up in a URL that is written again. -/
theorem sanitizeJson_leaves_secrets :
    (¬∀ web, UrlStandard web → ∀ sensitiveValues, Unlike sensitiveValues → ∀ value : Json,
      ∀ key ∈ (sanitizeJson web value sensitiveValues).1.keys,
        ¬HoldsSecret sensitiveValues key) ∧
    (¬∀ web, UrlStandard web → ∀ sensitiveValues, Unlike sensitiveValues → ∀ value : Json,
      ∀ text ∈ (sanitizeJson web value sensitiveValues).1.strings,
        ¬HoldsSecret sensitiveValues text) := by
  constructor
  · intro h
    have hclean := h leakyWeb leakyWeb_standard leakySecrets leakySecrets_unlike
      (.object [("moon", .null)])
    have hkey : isSensitiveKey "moon" = false := by decide
    simp only [sanitizeJson, sanitizeValue, sanitizeFields, hkey] at hclean
    exact hclean "moon" List.mem_cons_self ⟨"moon", List.mem_cons_self, List.infix_rfl⟩
  · intro h
    have hclean := h leakyWeb leakyWeb_standard leakySecrets leakySecrets_unlike (.string leakyText)
    rw [sanitizeJson_string, leakyText_redaction] at hclean
    exact hclean leakedText (List.mem_singleton_self _) leakedText_holds_secret

end CatalogBench.Conformance
