import CatalogBench.Conformance.Namespace
import CatalogBench.Conformance.Table
import Mathlib.Data.List.Lex
import Mathlib.Data.String.Basic

/-!
# Exact listings

Which sequences of pages a traversal accepts. The pages that it reads before the last one are
linked: each is small, repeats no item and carries a fresh token, with which the next one is asked
for. The first page that is not linked to another one decides.
-/

set_option linter.all false

namespace CatalogBench.Conformance
open Interaction Workflow

structure Page (ι : Type) where
  items : List ι
  next : Option String

/-- The items of consecutive pages. -/
def listed {ι : Type} (crawl : List (Page ι)) : List ι := crawl.flatMap (·.items)

/-- Every page is within the limit, repeats no item, and carries a token that leads to another
page. -/
structure Linked {ι : Type} (crawl : List (Page ι)) : Prop where
  small : ∀ page ∈ crawl, page.items.length ≤ pageSize
  distinct : (listed crawl).Nodup
  tokens : ∃ tokens : List String, crawl.map (·.next) = tokens.map some ∧ "" ∉ tokens ∧
    tokens.Nodup

/-- The listing starts with these pages. -/
def StartsWith {ι : Type} (pages : ℕ → Option (Page ι)) (crawl : List (Page ι)) : Prop :=
  ∀ i < crawl.length, pages i = crawl[i]?

/-- The pages that a traversal has to accept: one page that ignores the limit, or linked pages
and a last one without a token; complete either way. -/
def AcceptedPages {ι : Type} (pages : ℕ → Option (Page ι)) (complete : List ι → Prop) : Prop :=
  (∃ page, pages 0 = some page ∧ pageSize < page.items.length ∧ page.items.Nodup ∧
    page.next = none ∧ complete page.items) ∨
  ∃ (crawl : List (Page ι)) (last : Page ι), crawl.length < maximumPages ∧
    StartsWith pages (crawl ++ [last]) ∧ Linked crawl ∧ last.items.length ≤ pageSize ∧
    last.next = none ∧ (listed (crawl ++ [last])).Nodup ∧ complete (listed (crawl ++ [last]))

section Pages

variable {ι : Type} {pages : ℕ → Option (Page ι)} {crawl crawl' : List (Page ι)} {page last : Page ι}
  {complete : List ι → Prop}

theorem startsWith_append :
    StartsWith pages (crawl ++ [page]) ↔
      StartsWith pages crawl ∧ pages crawl.length = some page := by
  constructor
  · intro h
    constructor
    · intro i hi
      rw [h i (by simp; omega), List.getElem?_append_left hi]
    · rw [h crawl.length (by simp), List.getElem?_concat_length]
  · rintro ⟨h, hpage⟩ i hi
    rw [List.length_append, List.length_singleton] at hi
    by_cases hlt : i < crawl.length
    · rw [h i hlt, List.getElem?_append_left hlt]
    · obtain rfl : i = crawl.length := by omega
      rw [hpage, List.getElem?_concat_length]

/-- The pages that two readings of one listing have in common. -/
theorem StartsWith.take_eq (h : StartsWith pages crawl) (h' : StartsWith pages crawl')
    (hlength : crawl.length ≤ crawl'.length) : crawl'.take crawl.length = crawl := by
  apply List.ext_getElem?
  intro i
  by_cases hi : i < crawl.length
  · rw [List.getElem?_take_of_lt hi, ← h' i (by omega), h i hi]
  · rw [List.getElem?_eq_none (by simp; omega), List.getElem?_eq_none (by omega)]

theorem Linked.take (h : Linked crawl) (n : ℕ) : Linked (crawl.take n) := by
  obtain ⟨tokens, htokens, hempty, hdistinct⟩ := h.tokens
  refine ⟨fun page hpage => h.small page (List.mem_of_mem_take hpage), ?_, tokens.take n, ?_, ?_, ?_⟩
  · have hdistinct := h.distinct
    rw [listed, ← List.take_append_drop n crawl, List.flatMap_append] at hdistinct
    exact hdistinct.sublist (List.sublist_append_left _ _)
  · rw [List.map_take, htokens, List.map_take]
  · exact fun hmem => hempty (List.mem_of_mem_take hmem)
  · exact hdistinct.sublist (List.take_sublist n tokens)

/-- A linked page has a token. -/
theorem Linked.next_ne_none (h : Linked crawl) (hpage : page ∈ crawl) : page.next ≠ none := by
  obtain ⟨tokens, htokens, -, -⟩ := h.tokens
  have hmem : page.next ∈ tokens.map some := htokens ▸ List.mem_map_of_mem hpage
  obtain ⟨token, -, hnext⟩ := List.mem_map.mp hmem
  rw [← hnext]
  exact Option.some_ne_none token

theorem linked_nil : Linked ([] : List (Page ι)) :=
  ⟨fun _ hpage => absurd hpage List.not_mem_nil, List.nodup_nil, [], rfl, List.not_mem_nil,
    List.nodup_nil⟩

/-- What makes one more page linked. -/
theorem linked_append :
    Linked (crawl ++ [page]) ↔ Linked crawl ∧ page.items.length ≤ pageSize ∧
      (listed (crawl ++ [page])).Nodup ∧
        ∃ token, page.next = some token ∧ token ≠ "" ∧ some token ∉ crawl.map (·.next) := by
  constructor
  · intro h
    have hcrawl := h.take crawl.length
    rw [List.take_left' rfl] at hcrawl
    refine ⟨hcrawl, h.small page (by simp), h.distinct, ?_⟩
    obtain ⟨tokens, htokens, hempty, hdistinct⟩ := h.tokens
    rw [List.map_append, List.map_singleton, List.append_eq_map_iff] at htokens
    obtain ⟨before, after, rfl, hbefore, hafter⟩ := htokens
    obtain ⟨token, rfl, hnext⟩ := List.map_eq_singleton_iff.mp hafter
    refine ⟨token, hnext.symm, fun h => hempty (by simp [h]), ?_⟩
    rw [← hbefore]
    intro hmem
    obtain ⟨other, hother, heq⟩ := List.mem_map.mp hmem
    cases heq
    exact (List.nodup_append.mp hdistinct).2.2 _ hother _ (List.mem_singleton_self _) rfl
  · rintro ⟨h, hsmall, hitems, token, hnext, hne, hfresh⟩
    obtain ⟨tokens, htokens, hempty, hdistinct⟩ := h.tokens
    refine ⟨?_, hitems, tokens ++ [token], ?_, ?_, ?_⟩
    · intro other hother
      rcases List.mem_append.mp hother with hmem | hmem
      · exact h.small other hmem
      · rwa [List.mem_singleton.mp hmem]
    · rw [List.map_append, List.map_append, htokens, List.map_singleton, List.map_singleton, hnext]
    · simp only [List.mem_append, List.mem_singleton, not_or]
      exact ⟨hempty, hne.symm⟩
    · rw [List.nodup_append]
      refine ⟨hdistinct, by simp, ?_⟩
      rintro a ha b hb rfl
      obtain rfl := List.mem_singleton.mp hb
      exact hfresh (htokens ▸ List.mem_map_of_mem ha)

/-- Once the page after linked pages cannot be linked, it decides: either it is the only page, or
it is the last one. -/
theorem acceptedPages_iff (hstart : StartsWith pages crawl) (hlinked : Linked crawl)
    (hbound : crawl.length ≤ maximumPages)
    (hdecides : crawl.length < maximumPages →
      ∀ page, pages crawl.length = some page → ¬Linked (crawl ++ [page])) :
    AcceptedPages pages complete ↔ crawl.length < maximumPages ∧
      ∃ page, pages crawl.length = some page ∧ page.next = none ∧
        ((crawl = [] ∧ pageSize < page.items.length ∧ page.items.Nodup ∧ complete page.items) ∨
          (page.items.length ≤ pageSize ∧ (listed (crawl ++ [page])).Nodup ∧
            complete (listed (crawl ++ [page])))) := by
  constructor
  · rintro (⟨page, hpage, hlarge, hdistinct, hnext, hcomplete⟩ |
      ⟨crawl', last, hbound', hstart', hlinked', hsmall, hnext, hdistinct, hcomplete⟩)
    · -- The first page is too large to be linked.
      have hempty : crawl = [] := by
        by_contra hne
        have hpos := List.length_pos_iff.mpr hne
        have hfirst := hstart 0 hpos
        rw [hpage, List.getElem?_eq_getElem hpos] at hfirst
        have hsmall := hlinked.small crawl[0] (List.getElem_mem hpos)
        rw [← Option.some.inj hfirst] at hsmall
        omega
      subst hempty
      exact ⟨Nat.zero_lt_of_ne_zero (by decide), page, hpage, hnext, .inl ⟨rfl, hlarge, hdistinct, hcomplete⟩⟩
    · obtain ⟨hstart', hlast⟩ := startsWith_append.mp hstart'
      rcases Nat.lt_trichotomy crawl'.length crawl.length with hlt | heq | hgt
      · -- The last page has no token, but it is linked.
        have hpage := hstart _ hlt
        rw [hlast, List.getElem?_eq_getElem hlt] at hpage
        refine absurd hnext (hlinked.next_ne_none ?_)
        rw [Option.some.inj hpage]
        exact List.getElem_mem hlt
      · have hcrawl := StartsWith.take_eq hstart hstart' (by omega)
        rw [List.take_of_length_le (by omega)] at hcrawl
        subst hcrawl
        exact ⟨hbound', last, hlast, hnext, .inr ⟨hsmall, hdistinct, hcomplete⟩⟩
      · -- The page that decides is linked.
        have hcrawl := StartsWith.take_eq hstart hstart' (by omega)
        have hlinkedNext := hlinked'.take (crawl.length + 1)
        rw [List.take_add_one, hcrawl, List.getElem?_eq_getElem hgt, Option.toList_some] at hlinkedNext
        refine absurd hlinkedNext (hdecides (by omega) _ ?_)
        rw [hstart' _ hgt, List.getElem?_eq_getElem hgt]
  · rintro ⟨hlt, page, hpage, hnext, ⟨rfl, hlarge, hdistinct, hcomplete⟩ | ⟨hsmall, hdistinct, hcomplete⟩⟩
    · exact .inl ⟨page, hpage, hlarge, hdistinct, hnext, hcomplete⟩
    · exact .inr ⟨crawl, page, hlt, startsWith_append.mpr ⟨hstart, hpage⟩, hlinked, hsmall, hnext,
        hdistinct, hcomplete⟩

end Pages

-- ════════════════════════════════
-- One page
-- ════════════════════════════════

theorem insertAll_eq_ok {ι : Type} [DecidableEq ι] {seen items found : List ι} :
    insertAll seen items = .ok found ↔
      (items.Nodup ∧ ∀ item ∈ items, item ∉ seen) ∧ found = items.reverse ++ seen := by
  induction items generalizing seen with
  | nil => simp [insertAll, eq_comm]
  | cons item items ih =>
    rw [insertAll]
    split
    · next hmem => simp [hmem]
    · next hfresh =>
      rw [ih]
      constructor
      · rintro ⟨⟨hdistinct, hdisjoint⟩, rfl⟩
        refine ⟨⟨List.nodup_cons.mpr ⟨fun h => hdisjoint item h List.mem_cons_self, hdistinct⟩, ?_⟩,
          by simp⟩
        rintro other hother hseen
        rcases List.mem_cons.mp hother with rfl | hother
        · exact hfresh hseen
        · exact hdisjoint other hother (List.mem_cons_of_mem _ hseen)
      · rintro ⟨⟨hdistinct, hdisjoint⟩, rfl⟩
        obtain ⟨hitem, hdistinct⟩ := List.nodup_cons.mp hdistinct
        refine ⟨⟨hdistinct, fun other hother hseen => ?_⟩, by simp⟩
        rcases List.mem_cons.mp hseen with rfl | hseen
        · exact hitem hother
        · exact hdisjoint other (List.mem_cons_of_mem _ hother) hseen

/-- What a page says, if it is well formed. -/
def Pager.page {ι : Type} (pager : Pager ι) (observation : Observation) : Option (Page ι) :=
  match pager.parse observation with
  | .ok (items, next) => some ⟨items, next⟩
  | .error _ => none

/-- What the loop knows of the pages it has read. -/
structure Crawled {ι : Type} (crawl : List (Page ι)) (tokens : List String) (seen : List ι) :
    Prop where
  linked : Linked crawl
  tokens : crawl.map (·.next) = tokens.reverse.map some
  seen : seen.Perm (listed crawl)

/-- The completeness check is a predicate on the set of the items. -/
structure Pager.Checks {ι : Type} (pager : Pager ι) (complete : List ι → Prop) : Prop where
  distinct : ∀ observation items next, pager.parse observation = .ok (items, next) → items.Nodup
  checked : ∀ items, items.Nodup → (pager.complete items = .ok () ↔ complete items)
  perm : ∀ items items', items.Perm items' → complete items → complete items'

/-- The counts that a traversal reports after these pages. -/
def Counts {ι : Type} (crawl : List (Page ι)) : PaginationTranscript → Prop
  | .paginated pages unique =>
    pages = crawl.length ∧ (listed crawl).Nodup ∧ unique = (listed crawl).length
  | .unpaginatedFallback unique =>
    crawl.length = 1 ∧ (listed crawl).Nodup ∧ unique = (listed crawl).length
  | .failed _ | .notEvaluated _ => True

theorem listed_append {ι : Type} {crawl : List (Page ι)} {page : Page ι} :
    listed (crawl ++ [page]) = listed crawl ++ page.items := by
  simp [listed]

theorem Crawled.mem_tokens {ι : Type} {crawl : List (Page ι)} {tokens : List String} {seen : List ι}
    (hcrawled : Crawled crawl tokens seen) {token : String} :
    some token ∈ crawl.map (·.next) ↔ token ∈ tokens := by
  simp [hcrawled.tokens]

section Read

variable {ι : Type} {pager : Pager ι} {complete : List ι → Prop}
  {crawl : List (Page ι)} {tokens : List String} {seen : List ι} {observation : Observation}

/-- The items of a page are new exactly if the pages with it repeat none. -/
theorem insertAll_seen (hcrawled : Crawled crawl tokens seen) {page : Page ι} :
    (page.items.Nodup ∧ ∀ item ∈ page.items, item ∉ seen) ↔ (listed (crawl ++ [page])).Nodup := by
  rw [listed_append, List.nodup_append]
  constructor
  · rintro ⟨hdistinct, hfresh⟩
    refine ⟨hcrawled.linked.distinct, hdistinct, ?_⟩
    rintro a ha b hb rfl
    exact hfresh a hb (hcrawled.seen.mem_iff.mpr ha)
  · rintro ⟨-, hdistinct, hdisjoint⟩
    exact ⟨hdistinct, fun item hitem hseen =>
      hdisjoint item (hcrawled.seen.mem_iff.mp hseen) item hitem rfl⟩

/-- A page that is not the last one is linked to the pages before it. -/
theorem readPage_inr [DecidableEq ι] (hcrawled : Crawled crawl tokens seen) {pageIndex : ℕ} {next : String}
    {seen' : List ι} (h : readPage pager pageIndex tokens seen observation = .inr (next, seen')) :
    ∃ page, pager.page observation = some page ∧ page.next = some next ∧
      Crawled (crawl ++ [page]) (next :: tokens) seen' := by
  unfold readPage at h
  split at h
  · cases h
  next items token hparse =>
  refine ⟨⟨items, token⟩, by simp [Pager.page, hparse], ?_⟩
  split at h
  · split at h <;> cases h
  next hsmall =>
  split at h
  · cases h
  next found hinsert =>
  obtain ⟨hfresh, rfl⟩ := insertAll_eq_ok.mp hinsert
  have hdistinct := (@insertAll_seen _ _ _ _ hcrawled ⟨items, token⟩).mp hfresh
  split at h
  · next token' =>
    split at h
    · cases h
    next hne =>
    split at h
    · cases h
    next hunseen =>
    cases h
    refine ⟨rfl, linked_append.mpr ⟨hcrawled.linked, by simpa using hsmall, hdistinct, next, rfl, ?_, ?_⟩,
      ?_, ?_⟩
    · simpa using hne
    · rwa [hcrawled.mem_tokens]
    · simp [hcrawled.tokens]
    · rw [listed_append]
      exact ((List.reverse_perm items).append hcrawled.seen).trans List.perm_append_comm
  · cases h

/-- What is known when the loop ends at a page. -/
structure Decided (pager : Pager ι) (complete : List ι → Prop) (crawl : List (Page ι))
    (observation : Observation) (result : PaginationTranscript × Except String Unit) : Prop where
  notLinked : ∀ page, pager.page observation = some page → ¬Linked (crawl ++ [page])
  verdict : result.2 = .ok () ↔ ∃ page, pager.page observation = some page ∧ page.next = none ∧
    ((crawl = [] ∧ pageSize < page.items.length ∧ page.items.Nodup ∧ complete page.items) ∨
      (page.items.length ≤ pageSize ∧ (listed (crawl ++ [page])).Nodup ∧
        complete (listed (crawl ++ [page]))))
  counts : ∀ page, pager.page observation = some page → Counts (crawl ++ [page]) result.1
  unread : pager.page observation = none → ∃ explanation, result.1 = .failed explanation

/-- A failure is right where no page can be accepted. -/
theorem decided_failure {explanation : String} {items : List ι} {next : Option String}
    (hparse : pager.parse observation = .ok (items, next))
    (hlinked : ¬Linked (crawl ++ [⟨items, next⟩]))
    (hrefused : next = none → ¬(crawl = [] ∧ pageSize < items.length) ∧
      ¬(items.length ≤ pageSize ∧ (listed (crawl ++ [⟨items, next⟩])).Nodup)) :
    Decided pager complete crawl observation (paginationFailure explanation) := by
  have hpage : pager.page observation = some ⟨items, next⟩ := by simp [Pager.page, hparse]
  refine ⟨?_, ?_, ?_, fun hnone => by simp [hpage] at hnone⟩
  · rintro page hfound
    rwa [Option.some.inj (hfound.symm.trans hpage)]
  · simp only [paginationFailure, reduceCtorEq, false_iff, not_exists, not_and]
    rintro page hfound hnext
    obtain rfl := Option.some.inj (hfound.symm.trans hpage)
    obtain ⟨hlarge, hsmall⟩ := hrefused hnext
    rintro (⟨hempty, hsize, -⟩ | ⟨hsize, hdistinct, -⟩)
    · exact hlarge ⟨hempty, hsize⟩
    · exact hsmall ⟨hsize, hdistinct⟩
  · exact fun page _ => trivial

/-- A page that ends the loop is not linked, and is judged with the pages before it. -/
theorem readPage_inl [DecidableEq ι] (hchecks : pager.Checks complete) (hcrawled : Crawled crawl tokens seen)
    {result : PaginationTranscript × Except String Unit}
    (h : readPage pager (crawl.length + 1) tokens seen observation = .inl result) :
    Decided pager complete crawl observation result := by
  unfold readPage at h
  split at h
  · next error hparse =>
    cases h
    have hpage : pager.page observation = none := by simp [Pager.page, hparse]
    refine ⟨by simp [hpage], by simp [hpage, paginationFailure], by simp [hpage], fun _ => ⟨error, rfl⟩⟩
  next items token hparse =>
  have hpage : pager.page observation = some ⟨items, token⟩ := by simp [Pager.page, hparse]
  have hfound (page : Page ι) (h : pager.page observation = some page) : page = ⟨items, token⟩ :=
    Option.some.inj (h.symm.trans hpage)
  have hitems : items.Nodup := hchecks.distinct observation items token hparse
  split at h
  · next hlarge =>
    have hlinked : ¬Linked (crawl ++ [⟨items, token⟩]) := fun hlinked => by
      have := (linked_append.mp hlinked).2.1
      dsimp only at this
      omega
    split at h
    · next hfirst =>
      obtain ⟨hindex, hnext⟩ := (Bool.and_eq_true _ _).mp hfirst
      obtain rfl : crawl = [] := by simpa using hindex
      obtain rfl := Option.isNone_iff_eq_none.mp hnext
      cases h
      refine ⟨fun page hread => hfound page hread ▸ hlinked, ?_, ?_, by simp [hpage]⟩
      · rw [hchecks.checked items hitems]
        constructor
        · exact fun hcomplete => ⟨_, hpage, rfl, .inl ⟨rfl, hlarge, hitems, hcomplete⟩⟩
        · rintro ⟨page, hread, -, ⟨-, -, -, hcomplete⟩ | ⟨hsmall, -⟩⟩
          · rwa [hfound page hread] at hcomplete
          · rw [hfound page hread] at hsmall
            dsimp only at hsmall
            omega
      · rintro page hread
        rw [hfound page hread]
        simpa [Counts, listed] using hitems
    · next hfirst =>
      cases h
      refine decided_failure hparse hlinked fun hnext => ⟨?_, fun hsmall => by omega⟩
      rintro ⟨rfl, -⟩
      simp [hnext] at hfirst
  next hsmall =>
  split at h
  · next item hinsert =>
    cases h
    have hrepeated : ¬(listed (crawl ++ [⟨items, token⟩])).Nodup := fun hdistinct => by
      have hfresh := (insertAll_seen hcrawled).mpr hdistinct
      rw [insertAll_eq_ok.mpr ⟨hfresh, rfl⟩] at hinsert
      cases hinsert
    exact decided_failure hparse (fun hlinked => hrepeated (linked_append.mp hlinked).2.2.1)
      fun _ => ⟨fun hlarge => hsmall hlarge.2, fun h => hrepeated h.2⟩
  next found hinsert =>
  obtain ⟨hfresh, rfl⟩ := insertAll_eq_ok.mp hinsert
  have hdistinct := (@insertAll_seen _ _ _ _ hcrawled ⟨items, token⟩).mp hfresh
  split at h
  · next next =>
    have hunlinked (hbad : next = "" ∨ next ∈ tokens) : ¬Linked (crawl ++ [⟨items, some next⟩]) := by
      intro hlinked
      obtain ⟨-, -, -, token, heq, hne, hunseen⟩ := linked_append.mp hlinked
      obtain rfl := Option.some.inj heq
      rcases hbad with hempty | hmem
      · exact hne hempty
      · exact hunseen (hcrawled.mem_tokens.mpr hmem)
    split at h
    · next hempty =>
      cases h
      exact decided_failure hparse (hunlinked (.inl (by simpa using hempty)))
        fun hnone => by cases hnone
    split at h
    · next hmem =>
      cases h
      exact decided_failure hparse (hunlinked (.inr hmem)) fun hnone => by cases hnone
    · cases h
  · cases h
    have hperm : (items.reverse ++ seen).Perm (listed (crawl ++ [⟨items, none⟩])) := by
      rw [listed_append]
      exact ((List.reverse_perm items).append hcrawled.seen).trans List.perm_append_comm
    have hseen : (items.reverse ++ seen).Nodup := hperm.nodup_iff.mpr hdistinct
    refine ⟨fun page hread => ?_, ?_, ?_, by simp [hpage]⟩
    · rw [hfound page hread]
      intro hlinked
      obtain ⟨-, -, -, token, heq, -⟩ := linked_append.mp hlinked
      cases heq
    · rw [hchecks.checked _ hseen]
      constructor
      · exact fun hcomplete =>
          ⟨_, hpage, rfl, .inr ⟨by simpa using hsmall, hdistinct, hchecks.perm _ _ hperm hcomplete⟩⟩
      · rintro ⟨page, hread, -, ⟨-, hlarge, -⟩ | ⟨-, -, hcomplete⟩⟩
        · rw [hfound page hread] at hlarge
          exact absurd hlarge hsmall
        · rw [hfound page hread] at hcomplete
          exact hchecks.perm _ _ hperm.symm hcomplete
    · rintro page hread
      rw [hfound page hread]
      exact ⟨by simp, hdistinct, hperm.length_eq⟩

end Read

-- ════════════════════════════════
-- The traversal
-- ════════════════════════════════

/-- A server that answers the requests one after the other. -/
def answerInOrder (replies : ℕ → HttpReply) (calls : List Recorded) :
    (call : RecorderCall) → call.Reply × List Recorded
  | .attempt id capability method url body key =>
    (replies calls.length,
      calls ++ [⟨.attempt id capability method url body key, replies calls.length⟩])
  | .skip id capability reason => ((), calls ++ [⟨.skip id capability reason, ()⟩])

/-- The result of a workflow and the calls it makes, against such a server. -/
def Workflow.outcome {α : Type} (workflow : Workflow α) (replies : ℕ → HttpReply) :
    Except String α × List Recorded :=
  workflow.run.exec (answerInOrder replies) []

/-- The pages that the replies hold. -/
def Pager.pages {ι : Type} (pager : Pager ι) (setting : Setting) (replies : ℕ → HttpReply) (i : ℕ) :
    Option (Page ι) :=
  pager.page (observe setting.web setting.context (pageId (i + 1)) none (replies i))

/-- The token of the page before. -/
def requestToken {ι : Type} (pages : ℕ → Option (Page ι)) : ℕ → String
  | 0 => ""
  | i + 1 => ((pages i).bind (·.next)).getD ""

/-- Each request carries the token of the page before, and was answered in order. -/
def PageRequests {ι : Type} (pager : Pager ι) (setting : Setting) (replies : ℕ → HttpReply)
    (calls : List Recorded) : Prop :=
  ∀ i < calls.length, ∃ url,
    pager.pageUrl (requestToken (pager.pages setting replies) i) = .ok url ∧
      calls[i]? = some (sent (pageId (i + 1)) pager.capability .get url none (replies i))

/-- A traversal requests page after page until one decides, and its result is exact. -/
structure ExactTraversal {ι : Type} (pager : Pager ι) (setting : Setting)
    (complete : List ι → Prop) (replies : ℕ → HttpReply)
    (result : PaginationTranscript × Except String Unit) (calls : List Recorded) : Prop where
  verdict : result.2 = .ok () ↔ AcceptedPages (pager.pages setting replies) complete
  bound : calls.length ≤ maximumPages
  requests : PageRequests pager setting replies calls
  undecided : ∃ crawl, crawl.length + 1 = calls.length ∧
    StartsWith (pager.pages setting replies) crawl ∧ Linked crawl
  counts : (∃ explanation, result.1 = .failed explanation) ∨ ∃ crawl, crawl.length = calls.length ∧
    StartsWith (pager.pages setting replies) crawl ∧ Counts crawl result.1

section Traversal

variable {ι : Type} [DecidableEq ι] {setting : Setting} {pager : Pager ι}
  {complete : List ι → Prop} {replies : ℕ → HttpReply}

theorem request_exec {β : Type} {id capability url : String} {method : Method}
    {built : Except String String} {body : Option Json} {f : Observation → Workflow β}
    {calls : List Recorded} (h : built = .ok url) :
    (setting.request id capability method built body >>= f).run.exec (answerInOrder replies) calls =
      (f (observe setting.web setting.context id none (replies calls.length))).run.exec
        (answerInOrder replies)
        (calls ++ [sent id capability method url body (replies calls.length)]) := by
  subst h
  rfl

omit [DecidableEq ι] in
theorem PageRequests.append {calls : List Recorded} {url : String}
    (h : PageRequests pager setting replies calls)
    (hurl : pager.pageUrl (requestToken (pager.pages setting replies) calls.length) = .ok url) :
    PageRequests pager setting replies (calls ++
      [sent (pageId (calls.length + 1)) pager.capability .get url none (replies calls.length)]) := by
  intro i hi
  rw [List.length_append, List.length_singleton] at hi
  by_cases hlt : i < calls.length
  · rw [List.getElem?_append_left hlt]
    exact h i hlt
  · obtain rfl : i = calls.length := by omega
    exact ⟨url, hurl, List.getElem?_concat_length⟩

/-- From a page on, a traversal is exact if it was undecided so far. -/
theorem traversePagesFrom_exec (hchecks : pager.Checks complete)
    (hurl : ∀ token, ∃ url, pager.pageUrl token = .ok url) (fuel : ℕ) {crawl : List (Page ι)}
    {tokens : List String} {seen : List ι} {calls : List Recorded}
    (hcrawled : Crawled crawl tokens seen) (hstart : StartsWith (pager.pages setting replies) crawl)
    (hfuel : crawl.length + fuel = maximumPages) (hcalls : calls.length = crawl.length)
    (hrequests : PageRequests pager setting replies calls) :
    ∃ result calls', (traversePagesFrom setting pager fuel (crawl.length + 1)
        (requestToken (pager.pages setting replies) crawl.length) tokens seen).run.exec
          (answerInOrder replies) calls = (.ok result, calls') ∧
      ExactTraversal pager setting complete replies result calls' := by
  induction fuel generalizing crawl tokens seen calls with
  | zero =>
    refine ⟨_, calls, rfl, ?_, by omega, hrequests, ?_, .inl ⟨_, rfl⟩⟩
    · rw [acceptedPages_iff hstart hcrawled.linked (by omega) (fun h => by omega)]
      simp only [paginationFailure, reduceCtorEq, false_iff, not_and]
      exact fun h => by omega
    · have hpos : 0 < maximumPages := by decide
      refine ⟨crawl.take (crawl.length - 1), by rw [List.length_take]; omega, ?_,
        hcrawled.linked.take _⟩
      intro i hi
      rw [List.length_take] at hi
      rw [List.getElem?_take_of_lt (by omega), hstart i (by omega)]
  | succ fuel ih =>
    obtain ⟨url, hbuilt⟩ := hurl (requestToken (pager.pages setting replies) crawl.length)
    rw [traversePagesFrom, request_exec hbuilt]
    have hrequests := hrequests.append (hcalls ▸ hbuilt)
    rw [hcalls] at hrequests ⊢
    cases hread : readPage pager (crawl.length + 1) tokens seen (observe setting.web
        setting.context (pageId (crawl.length + 1)) none (replies crawl.length)) with
    | inl result =>
      have hdecided := readPage_inl hchecks hcrawled hread
      refine ⟨result, _, by rfl, ?_, by simp; omega, hrequests, ⟨crawl, by simp [hcalls], hstart,
        hcrawled.linked⟩, ?_⟩
      · rw [acceptedPages_iff hstart hcrawled.linked (by omega) fun _ => hdecided.notLinked,
          hdecided.verdict]
        exact (and_iff_right (by omega)).symm
      · cases hpage : pager.pages setting replies crawl.length with
        | none => exact .inl (hdecided.unread hpage)
        | some page =>
          exact .inr ⟨crawl ++ [page], by simp [hcalls], startsWith_append.mpr ⟨hstart, hpage⟩,
            hdecided.counts page hpage⟩
    | inr next =>
      obtain ⟨page, hpage, hnext, hcrawled⟩ := readPage_inr hcrawled hread
      have htoken : requestToken (pager.pages setting replies) (crawl.length + 1) = next.1 := by
        have hfound : pager.pages setting replies crawl.length = some page := hpage
        simp [requestToken, hfound, hnext]
      have hstep := ih hcrawled (startsWith_append.mpr ⟨hstart, hpage⟩) (by simp; omega)
        (by simp [hcalls]) hrequests
      rwa [List.length_append, List.length_singleton, htoken] at hstep

/-- A traversal is exact against every sequence of replies. -/
theorem traversePages_exact (hchecks : pager.Checks complete)
    (hurl : ∀ token, ∃ url, pager.pageUrl token = .ok url) (replies : ℕ → HttpReply) :
    ∃ result calls, (traversePages setting pager).outcome replies = (.ok result, calls) ∧
      ExactTraversal pager setting complete replies result calls := by
  have hcrawled : Crawled ([] : List (Page ι)) [] [] := ⟨linked_nil, rfl, List.Perm.nil⟩
  have hnone (i : ℕ) : ¬i < ([] : List (Page ι)).length := Nat.not_lt_zero i
  have hrun := @traversePagesFrom_exec _ _ setting pager complete replies hchecks hurl maximumPages
    [] [] [] [] hcrawled (fun i hi => absurd hi (hnone i)) (Nat.zero_add _) rfl
    (fun i hi => absurd hi (hnone i))
  rw [List.length_nil, Nat.zero_add, requestToken] at hrun
  rw [Workflow.outcome, traversePages]
  exact hrun

end Traversal

-- ════════════════════════════════
-- The two probes
-- ════════════════════════════════

theorem validateCompleteNamespaceSet_eq_ok {web : WebCrates} {namespaces expected : List NamespaceIdentifier} :
    Namespace.validateCompleteNamespaceSet web namespaces expected = .ok () ↔
      ∀ identifier ∈ expected, identifier ∈ namespaces := by
  induction expected with
  | nil => simp [Namespace.validateCompleteNamespaceSet]
  | cons identifier rest ih =>
    rw [Namespace.validateCompleteNamespaceSet, List.forall_mem_cons]
    split
    · next hmem => simp [ih, hmem]
    · next hmissing => simp [hmissing]

/-- The fixture's two top-level namespaces are in a listing. -/
def ListsNamespaces (fixture : NamespaceFixture) (items : List NamespaceIdentifier) : Prop :=
  fixture.primary ∈ items ∧ fixture.sibling ∈ items

theorem namespacePager_checks (setting : Setting) (routes : CatalogRoutes)
    (fixture : NamespaceFixture) :
    (Namespace.pager setting routes fixture).Checks (ListsNamespaces fixture) where
  distinct observation items next h := by
    obtain ⟨page, -, h⟩ := except_bind_eq_ok.mp h
    obtain ⟨namespaces, hparse, h⟩ := except_bind_eq_ok.mp h
    cases h
    obtain ⟨parsed, -, hparse⟩ := except_bind_eq_ok.mp hparse
    split at hparse
    · next hdistinct =>
      cases hparse
      exact (List.mergeSort_perm _ _).nodup_iff.mpr hdistinct
    · cases hparse
  checked items _ := by
    rw [Namespace.pager, validateCompleteNamespaceSet_eq_ok]
    simp [ListsNamespaces]
  perm items items' hperm := by
    rw [ListsNamespaces, ListsNamespaces, hperm.mem_iff, hperm.mem_iff]
    exact id

/-- A listing holds exactly the fixture's two tables. -/
def ListsTables (fixture : TableFixture) (items : List TableIdentifier) : Prop :=
  ∀ table, table ∈ items ↔ table = fixture.primary ∨ table = fixture.sibling

theorem tableLe_trans (a b c : TableIdentifier) (hab : Table.tableLe a b = true)
    (hbc : Table.tableLe b c = true) : Table.tableLe a c = true := by
  simp only [Table.tableLe, Bool.or_eq_true, Bool.and_eq_true, decide_eq_true_eq] at *
  rcases hab with hab | ⟨hab, hname⟩ <;> rcases hbc with hbc | ⟨hbc, hname'⟩
  · exact .inl (lt_trans hab hbc)
  · exact .inl (hbc ▸ hab)
  · exact .inl (hab ▸ hbc)
  · exact .inr ⟨hab.trans hbc, le_trans hname hname'⟩

theorem tableLe_total (a b : TableIdentifier) :
    (Table.tableLe a b || Table.tableLe b a) = true := by
  simp only [Table.tableLe, Bool.or_eq_true, Bool.and_eq_true, decide_eq_true_eq]
  rcases lt_trichotomy a.namespace.parts b.namespace.parts with h | h | h
  · exact .inl (.inl h)
  · rcases le_total a.name b.name with hname | hname
    · exact .inl (.inr ⟨h, hname⟩)
    · exact .inr (.inr ⟨h.symm, hname⟩)
  · exact .inr (.inl h)

theorem tableLe_antisymm (a b : TableIdentifier) (hab : Table.tableLe a b = true)
    (hba : Table.tableLe b a = true) : a = b := by
  simp only [Table.tableLe, Bool.or_eq_true, Bool.and_eq_true, decide_eq_true_eq] at *
  rcases hab with hab | ⟨hparts, hab⟩ <;> rcases hba with hba | ⟨hparts', hba⟩
  · exact absurd hba (lt_asymm hab)
  · exact absurd (hparts' ▸ hab) (lt_irrefl _)
  · exact absurd (hparts ▸ hba) (lt_irrefl _)
  · obtain ⟨⟨parts, _⟩, name, _⟩ := a
    obtain ⟨⟨parts', _⟩, name', _⟩ := b
    obtain rfl : parts = parts' := hparts
    obtain rfl : name = name' := le_antisymm hab hba
    rfl

theorem validateCompleteTableSet_eq_ok {web : WebCrates} {items expected : List TableIdentifier} :
    Table.validateCompleteTableSet web items expected = .ok () ↔ items.Perm expected := by
  have hsorted (tables : List TableIdentifier) :
      (tables.mergeSort Table.tableLe).Pairwise fun a b => Table.tableLe a b = true :=
    List.pairwise_mergeSort tableLe_trans tableLe_total tables
  rw [Table.validateCompleteTableSet]
  simp only [ite_eq_left_iff, reduceCtorEq, imp_false, not_not]
  constructor
  · intro heq
    have hexpected := List.mergeSort_perm expected Table.tableLe
    rw [← heq] at hexpected
    exact (List.mergeSort_perm items Table.tableLe).symm.trans hexpected
  · intro hperm
    refine List.Perm.eq_of_pairwise (fun a b _ _ => tableLe_antisymm a b) (hsorted _) (hsorted _) ?_
    exact (List.mergeSort_perm _ _).trans (hperm.trans (List.mergeSort_perm _ _).symm)

theorem tablePager_checks (setting : Setting) (routes : CatalogRoutes) (fixture : TableFixture) :
    (Table.pager setting routes fixture).Checks (ListsTables fixture) where
  distinct observation items next h := by
    obtain ⟨page, -, h⟩ := except_bind_eq_ok.mp h
    obtain ⟨identifiers, hparse, h⟩ := except_bind_eq_ok.mp h
    cases h
    obtain ⟨parsed, -, hparse⟩ := except_bind_eq_ok.mp hparse
    split at hparse
    · next hdistinct =>
      cases hparse
      exact (List.mergeSort_perm _ _).nodup_iff.mpr hdistinct
    · cases hparse
  checked items hdistinct := by
    have hfixture : [fixture.primary, fixture.sibling].Nodup := by
      simp [TableFixture.primary, TableFixture.sibling]
    rw [Table.pager, validateCompleteTableSet_eq_ok, List.perm_ext_iff_of_nodup hdistinct hfixture]
    simp [ListsTables]
  perm items items' hperm h table := by rw [← hperm.mem_iff, h]

/-- **Exact pagination.** Against every sequence of replies both traversals accept exactly the
complete listings, request no page after the one that decides, and count what they were shown. -/
theorem pagination_exact (setting : Setting) (routes : CatalogRoutes)
    (hroutes : routes.Buildable setting.web) (namespaces : NamespaceFixture) (tables : TableFixture)
    (replies : ℕ → HttpReply) :
    (∃ result calls,
      (traversePages setting (Namespace.pager setting routes namespaces)).outcome replies =
        (.ok result, calls) ∧
      ExactTraversal (Namespace.pager setting routes namespaces) setting (ListsNamespaces namespaces)
        replies result calls) ∧
    ∃ result calls, (traversePages setting (Table.pager setting routes tables)).outcome replies =
        (.ok result, calls) ∧
      ExactTraversal (Table.pager setting routes tables) setting (ListsTables tables) replies result
        calls :=
  ⟨traversePages_exact (namespacePager_checks setting routes namespaces)
      (fun token => ⟨_, CatalogRoutes.namespacePage_eq hroutes token pageSize⟩) replies,
    traversePages_exact (tablePager_checks setting routes tables)
      (fun token => ⟨_, CatalogRoutes.tablePage_eq hroutes tables.namespace token pageSize⟩) replies⟩

def listedNamespaces : NamespaceFixture where
  id := "run"
  primary := ⟨["catalog_bench_run_a"], by decide⟩
  sibling := ⟨["catalog_bench_run_b"], by decide⟩
  child := ⟨["catalog_bench_run_a", "child"], by decide⟩
  missingParent := ⟨["catalog_bench_run_missing"], by decide⟩

def listedTables : TableFixture :=
  ⟨"run", sampleNamespace, ⟨["catalog_bench_run_missing"], by decide⟩⟩

theorem pagination_exact_unavailable :
    let setting := sampleSetting [errorDocument 503 "ServiceUnavailableException"]
    let replies := fun _ => errorReply 503 "ServiceUnavailableException"
    (∃ result calls,
      (traversePages setting (Namespace.pager setting sampleRoutes listedNamespaces)).outcome
        replies = (.ok result, calls) ∧
      ExactTraversal (Namespace.pager setting sampleRoutes listedNamespaces) setting
        (ListsNamespaces listedNamespaces) replies result calls) ∧
    ∃ result calls,
      (traversePages setting (Table.pager setting sampleRoutes listedTables)).outcome replies =
        (.ok result, calls) ∧
      ExactTraversal (Table.pager setting sampleRoutes listedTables) setting
        (ListsTables listedTables) replies result calls :=
  pagination_exact _ sampleRoutes (sampleRoutes_buildable _) listedNamespaces listedTables _

end CatalogBench.Conformance
