import CatalogBench.Conformance.Routes

/-!
# Pagination and cleanup

The namespace and the table probe walk the pages of a listing with one loop, and all workflows
end in a block that drops what they own and checks that it is gone. Both are written once here,
with the parts in which the probes differ as parameters.
-/

set_option linter.all false

namespace CatalogBench.Conformance
open Interaction Workflow

-- ════════════════════════════════
-- Pagination
-- ════════════════════════════════

def pageSize : ℕ := 1
def maximumPages : ℕ := 64

inductive PaginationTranscript
  | paginated (pages unique : ℕ)
  | unpaginatedFallback (unique : ℕ)
  | failed (explanation : String)
  | notEvaluated (reason : String)
  deriving DecidableEq

/-- `format!("list-page-{page_index:03}")`. -/
def pageId (pageIndex : ℕ) : String :=
  let digits := toString pageIndex
  "list-page-" ++ String.ofList (List.replicate (3 - digits.length) '0') ++ digits

/-- What a probe lists page by page. -/
structure Pager (ι : Type) where
  capability : String
  /-- What the items are called. -/
  items : String
  pageUrl : String → Except String String
  /-- The distinct items of a page and the token of the next. -/
  parse : Observation → Except String (List ι × Option String)
  debug : ι → String
  /-- What an item is called when it is seen twice. -/
  item : String
  complete : List ι → Except String Unit

def paginationFailure (explanation : String) : PaginationTranscript × Except String Unit :=
  (.failed explanation, .error explanation)

/-- Add the items of a page to those seen, or stop at one seen before. -/
def insertAll {ι : Type} [DecidableEq ι] : List ι → List ι → Except ι (List ι)
  | seen, [] => .ok seen
  | seen, item :: items => if item ∈ seen then .error item else insertAll (item :: seen) items

/-- One iteration of `traverse_pages` after its request: leave the loop with a result, or go on
with the next token and the items seen so far. -/
def readPage {ι : Type} [DecidableEq ι] (pager : Pager ι) (pageIndex : ℕ) (tokens : List String)
    (seen : List ι) (observation : Observation) :
    (PaginationTranscript × Except String Unit) ⊕ (String × List ι) :=
  match pager.parse observation with
  | .error error => .inl (paginationFailure error)
  | .ok (items, nextPageToken) =>
    if items.length > pageSize then
      if pageIndex = 1 && nextPageToken.isNone then
        .inl (.unpaginatedFallback items.length, pager.complete items)
      else
        .inl (paginationFailure ("page " ++ toString pageIndex ++ " returned " ++
          toString items.length ++ " " ++ pager.items ++ " above pageSize " ++ toString pageSize))
    else
      match insertAll seen items with
      | .error item =>
        .inl (paginationFailure ("pagination returned duplicate " ++ pager.item ++ " " ++
          pager.debug item))
      | .ok seen =>
        match nextPageToken with
        | some next =>
          if next.isEmpty then
            .inl (paginationFailure "pagination returned an empty next-page-token")
          else if next ∈ tokens then
            .inl (paginationFailure "pagination repeated a next-page-token")
          else .inr (next, seen)
        | none => .inl (.paginated pageIndex seen.length, pager.complete seen)

/-- `traverse_pages` from a page on, with the tokens and the items seen so far. -/
def traversePagesFrom {ι : Type} [DecidableEq ι] (setting : Setting) (pager : Pager ι) :
    (fuel pageIndex : ℕ) → (token : String) → (tokens : List String) → (seen : List ι) →
      Workflow (PaginationTranscript × Except String Unit)
  | 0, _, _, _, _ =>
    return paginationFailure ("pagination exceeded the " ++ toString maximumPages ++
      "-page safety bound")
  | fuel + 1, pageIndex, token, tokens, seen => do
    let observation ← setting.request (pageId pageIndex) pager.capability .get
      (pager.pageUrl token) none
    match readPage pager pageIndex tokens seen observation with
    | .inl result => return result
    | .inr (next, seen) =>
      traversePagesFrom setting pager fuel (pageIndex + 1) next (next :: tokens) seen

def traversePages {ι : Type} [DecidableEq ι] (setting : Setting) (pager : Pager ι) :
    Workflow (PaginationTranscript × Except String Unit) :=
  traversePagesFrom setting pager maximumPages 1 "" [] []

/-- The IDs of consecutive pages. -/
def pageIds (first count : ℕ) : List String := (List.range' first count).map pageId

/-- A traversal that reports its pages reports the page it stopped at. -/
theorem readPage_pages {ι : Type} [DecidableEq ι] {pager : Pager ι} {pageIndex : ℕ}
    {tokens : List String} {seen : List ι} {observation : Observation} {pages unique : ℕ}
    {result : Except String Unit}
    (h : readPage pager pageIndex tokens seen observation =
      .inl (.paginated pages unique, result)) : pages = pageIndex := by
  unfold readPage at h
  repeat' split at h
  all_goals simp_all [paginationFailure]

/-- `count` pages, from `pageIndex` on, lead to this report. -/
def PagesFrom (pageIndex count : ℕ) (transcript : PaginationTranscript) : Prop :=
  ∀ pages unique, transcript = .paginated pages unique → pages + 1 = pageIndex + count

/-- From a page on, the pages are requested one after the other, within the bound. -/
theorem traversePagesFrom_emits {ι : Type} [DecidableEq ι] (setting : Setting) (pager : Pager ι)
    (hurl : ∀ token, ∃ url, pager.pageUrl token = .ok url) (fuel pageIndex : ℕ) (token : String)
    (tokens : List String) (seen : List ι) :
    Emits (traversePagesFrom setting pager fuel pageIndex token tokens seen) fun result calls =>
      ∃ count, count ≤ fuel ∧ (0 < fuel → 0 < count) ∧ PagesFrom pageIndex count result.1 ∧
        ids calls = pageIds pageIndex count := by
  induction fuel generalizing pageIndex token tokens seen with
  | zero =>
    refine emits_pure.mpr ⟨0, Nat.le_refl 0, fun h => h, ?_, rfl⟩
    rintro pages unique ⟨⟩
  | succ fuel ih =>
    obtain ⟨url, hpage⟩ := hurl token
    rw [traversePagesFrom, emits_bind, emits_request hpage]
    intro reply
    cases hread : readPage pager pageIndex tokens seen _ with
    | inl result =>
      refine emits_pure.mpr ⟨1, by omega, fun _ => Nat.one_pos, ?_, rfl⟩
      intro pages unique hpages
      obtain ⟨transcript, checked⟩ := result
      obtain rfl : transcript = _ := hpages
      rw [readPage_pages hread]
    | inr next =>
      refine (ih (pageIndex + 1) next.1 (next.1 :: tokens) next.2).mono ?_
      rintro _ calls ⟨count, hcount, -, hpages, hids⟩
      refine ⟨count + 1, by omega, fun _ => Nat.succ_pos count, ?_, ?_⟩
      · intro pages unique htranscript
        have := hpages pages unique htranscript
        omega
      · rw [ids_append, hids, pageIds, pageIds, List.range'_succ]
        rfl

/-- The pages requested: at least one, at most 64, and as many as the report says. -/
structure PageCount (transcript : PaginationTranscript) (pages : ℕ) : Prop where
  one_le : 1 ≤ pages
  le_maximum : pages ≤ maximumPages
  reported : ∀ reported unique, transcript = .paginated reported unique → reported = pages

/-- A traversal requests the pages `list-page-001` to `list-page-k`, with `1 ≤ k ≤ 64`. -/
theorem traversePages_emits {ι : Type} [DecidableEq ι] (setting : Setting) (pager : Pager ι)
    (hurl : ∀ token, ∃ url, pager.pageUrl token = .ok url) :
    Emits (traversePages setting pager) fun result calls =>
      ∃ pages, PageCount result.1 pages ∧ ids calls = pageIds 1 pages := by
  refine (traversePagesFrom_emits setting pager hurl maximumPages 1 "" [] []).mono ?_
  rintro _ _ ⟨count, hcount, hpos, hpages, hids⟩
  refine ⟨count, ⟨hpos (by decide), hcount, fun reported unique htranscript => ?_⟩, hids⟩
  have := hpages reported unique htranscript
  omega

-- ════════════════════════════════
-- Cleanup
-- ════════════════════════════════

/-- One request of a preflight or a cleanup and the check of its answer. -/
structure CheckedRequest where
  id : String
  capability : String
  method : Method
  url : Except String String
  check : Observation → Except String Unit

/-- Every step is taken, whatever the answers; the result is the first failed check. -/
def cleanup (setting : Setting) (steps : List CheckedRequest) : Workflow (Except String Unit) := do
  let results ← steps.mapM fun step => do
    let observation ← setting.request step.id step.capability step.method step.url none
    return step.check observation
  return allResults results

namespace CheckedRequest

/-- The entry of a step that got this reply. -/
def issued (step : CheckedRequest) (reply : HttpReply) : Recorded :=
  sent step.id step.capability step.method (CatalogRoutes.built step.url) none reply

/-- The reply passes the check of the step. -/
def Passes (setting : Setting) (step : CheckedRequest) (reply : HttpReply) : Prop :=
  step.check (observe setting.web setting.context step.id none reply) = .ok ()

end CheckedRequest

theorem attemptAll_emits (setting : Setting) {steps : List CheckedRequest}
    (hurls : ∀ step ∈ steps, step.url = .ok (CatalogRoutes.built step.url)) :
    Emits (steps.mapM fun step => do
        let observation ← setting.request step.id step.capability step.method step.url none
        return step.check observation) fun results calls =>
      ∃ replies : List HttpReply, replies.length = steps.length ∧
        calls = List.zipWith CheckedRequest.issued steps replies ∧
        results = List.zipWith (fun step reply =>
          step.check (observe setting.web setting.context step.id none reply)) steps replies := by
  induction steps with
  | nil => exact emits_pure.mpr ⟨[], rfl, rfl, rfl⟩
  | cons step steps ih =>
    obtain ⟨hstep, hsteps⟩ := List.forall_mem_cons.mp hurls
    rw [List.mapM_cons, emits_bind, emits_bind, emits_request hstep]
    intro reply
    rw [emits_pure, emits_bind]
    refine (ih hsteps).mono ?_
    rintro results calls ⟨replies, hlength, rfl, rfl⟩
    exact emits_pure.mpr ⟨reply :: replies, by simp [hlength], by simp [CheckedRequest.issued], rfl⟩

/-- The checks of all requests succeed if every reply passes its check. -/
theorem allResults_checks (setting : Setting) (steps : List CheckedRequest)
    (replies : List HttpReply) :
    allResults (List.zipWith (fun step reply =>
      step.check (observe setting.web setting.context step.id none reply)) steps replies) = .ok () ↔
    ∀ entry ∈ steps.zip replies, entry.1.Passes setting entry.2 := by
  rw [allResults_eq_ok, ← List.map_uncurry_zip_eq_zipWith, List.forall_mem_map]
  rfl

/-- A cleanup issues every step in order, and succeeds if every reply passes its check. -/
theorem cleanup_emits (setting : Setting) {steps : List CheckedRequest}
    (hurls : ∀ step ∈ steps, step.url = .ok (CatalogRoutes.built step.url)) :
    Emits (cleanup setting steps) fun result calls =>
      ∃ replies : List HttpReply, replies.length = steps.length ∧
        calls = List.zipWith CheckedRequest.issued steps replies ∧
        (result = .ok () ↔ ∀ entry ∈ steps.zip replies, entry.1.Passes setting entry.2) := by
  rw [cleanup, emits_bind]
  refine (attemptAll_emits setting hurls).mono ?_
  rintro results calls ⟨replies, hlength, rfl, rfl⟩
  exact emits_pure.mpr ⟨replies, hlength, by simp, allResults_checks setting steps replies⟩

theorem ids_issued {steps : List CheckedRequest} {replies : List HttpReply}
    (h : replies.length = steps.length) :
    ids (List.zipWith CheckedRequest.issued steps replies) = steps.map CheckedRequest.id := by
  induction steps generalizing replies with
  | nil => simp [ids]
  | cons step steps ih =>
    obtain ⟨reply, replies, rfl⟩ := List.exists_cons_of_length_eq_add_one h
    rw [List.zipWith_cons_cons, List.map_cons, ← ih (Nat.succ.inj h)]
    rfl

theorem cleanup_logs (setting : Setting) {steps : List CheckedRequest}
    (hurls : ∀ step ∈ steps, step.url = .ok (CatalogRoutes.built step.url)) :
    Logs (cleanup setting steps) (steps.map CheckedRequest.id) := by
  refine (cleanup_emits setting hurls).mono ?_
  rintro _ _ ⟨replies, hlength, rfl, -⟩
  exact ids_issued hlength

end CatalogBench.Conformance
