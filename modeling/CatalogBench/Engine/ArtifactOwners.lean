import CatalogBench.Engine.SparkAdmission
import Mathlib.Data.String.Basic

/-!
# The owners of runtime artifacts

Which components own the artifacts of an engine image. An artifact of a connector is found in the
engine image by its content, one of a runner by its path as well; neither search looks at the owners
that an earlier one added, so the order of the artifacts does not matter.
-/

set_option linter.all false

namespace CatalogBench.Engine
open Interaction ListRel CatalogBench.Contract

-- ════════════════════════════════
-- What identifies an artifact
-- ════════════════════════════════

/-- The media type, digest and byte count of an artifact. -/
abbrev ArtifactContent := String × Digest × Option ℕ

def referenceContent (artifact : ArtifactReference) : ArtifactContent :=
  (artifact.mediaType, artifact.digest, artifact.bytes)

/-- The path of an artifact in its image, and its content. -/
def referencePlace (artifact : ArtifactReference) : String × ArtifactContent :=
  (artifact.location, referenceContent artifact)

namespace RuntimeArtifactExpectation

def content (expectation : RuntimeArtifactExpectation) : ArtifactContent :=
  (expectation.mediaType, ⟨.sha256, expectation.sha256⟩, some expectation.bytes)

def place (expectation : RuntimeArtifactExpectation) : String × ArtifactContent :=
  ("image:" ++ expectation.location, expectation.content)

end RuntimeArtifactExpectation

theorem stripPrefix_eq_some {text start rest : String} :
    stripPrefix text start = some rest ↔ text = start ++ rest := by
  rw [stripPrefix, Option.ite_none_right_eq_some, List.isPrefixOf_iff_prefix]
  constructor
  · rintro ⟨⟨tail, htail⟩, hrest⟩
    cases hrest
    apply String.toList_injective
    rw [String.toList_append, String.toList_ofList, ← htail, List.drop_left]
  · rintro rfl
    refine ⟨⟨rest.toList, String.toList_append.symm⟩, congrArg some ?_⟩
    rw [String.toList_append, List.drop_left, String.ofList_toList]

/-- What the checks of an artifact ask, whoever owns it. -/
def Describable (artifact : ArtifactReference) : Prop :=
  ∃ location, artifact.location = "image:" ++ location ∧
    location.toList.head? = some '/' ∧ isTraversalFree location = true ∧
    artifact.digest.algorithm = .sha256 ∧ validSha256 artifact.digest.value = true ∧
    artifact.bytes.isSome = true

theorem expectation_eq_ok {artifact : ArtifactReference} {owners : List ComponentId}
    {found : RuntimeArtifactExpectation} :
    expectation artifact owners = .ok found ↔
      Describable artifact ∧ found.place = referencePlace artifact ∧ found.components = owners := by
  constructor
  · intro h
    obtain ⟨location, hlocation, h⟩ := except_bind_eq_ok.mp h
    obtain ⟨hroot, h⟩ := except_seq_eq_ok.mp h
    obtain ⟨hpath, h⟩ := except_seq_eq_ok.mp h
    obtain ⟨hdigest, h⟩ := except_seq_eq_ok.mp h
    obtain ⟨bytes, hbytes, h⟩ := except_bind_eq_ok.mp h
    cases h
    rw [Commit.requireSome_eq_ok, stripPrefix_eq_some] at hlocation
    rw [Commit.requireSome_eq_ok] at hbytes
    simp only [Commit.rejectWhen_eq_ok, decide_eq_false_iff_not, not_not, Bool.not_eq_false',
      Bool.or_eq_false_iff] at hroot hpath hdigest
    refine ⟨⟨location, hlocation, hroot, hpath, rfl, hdigest.2, by rw [hbytes]; rfl⟩, ?_, rfl⟩
    rw [RuntimeArtifactExpectation.place, referencePlace, RuntimeArtifactExpectation.content,
      referenceContent, hlocation, hbytes]
  · rintro ⟨⟨location, hlocation, hroot, hpath, halgorithm, hsha, -⟩, hplace, rfl⟩
    simp only [RuntimeArtifactExpectation.place, RuntimeArtifactExpectation.content, referencePlace,
      referenceContent, Prod.mk.injEq] at hplace
    obtain ⟨hfound, htype, hdigest, hbytes⟩ := hplace
    have hsame : location = found.location :=
      (String.append_right_inj _).mp (hlocation.symm.trans hfound.symm)
    subst hsame
    refine except_bind_eq_ok.mpr
      ⟨found.location, Commit.requireSome_eq_ok.mpr (stripPrefix_eq_some.mpr hlocation), ?_⟩
    refine except_seq_eq_ok.mpr ⟨by simp [hroot], except_seq_eq_ok.mpr ⟨by simp [hpath], ?_⟩⟩
    refine except_seq_eq_ok.mpr ⟨by simp [halgorithm, hsha], ?_⟩
    refine except_bind_eq_ok.mpr ⟨found.bytes, Commit.requireSome_eq_ok.mpr hbytes.symm, ?_⟩
    rw [← htype, ← hdigest]
    rfl

theorem Describable.expectation_eq_ok {artifact : ArtifactReference} (h : Describable artifact)
    (owners : List ComponentId) : ∃ found, expectation artifact owners = .ok found := by
  obtain ⟨location, hlocation, -, -, -, -, hbytes⟩ := id h
  obtain ⟨bytes, hbytes⟩ := Option.isSome_iff_exists.mp hbytes
  refine ⟨⟨location, artifact.mediaType, artifact.digest.value, bytes, owners⟩,
    CatalogBench.Engine.expectation_eq_ok.mpr ⟨h, ?_, rfl⟩⟩
  rw [RuntimeArtifactExpectation.place, referencePlace, RuntimeArtifactExpectation.content,
    referenceContent, hlocation, hbytes]

/-- Two expectations have the same content. -/
theorem sameArtifact_iff {left right : RuntimeArtifactExpectation} :
    sameArtifact left right = true ↔ left.content = right.content := by
  simp [sameArtifact, RuntimeArtifactExpectation.content, and_assoc]

-- ════════════════════════════════
-- Adding owners
-- ════════════════════════════════

theorem mem_sortDedup {texts : List String} {text : String} :
    text ∈ sortDedup texts ↔ text ∈ texts := by
  rw [sortDedup, List.mem_eraseDups, (List.perm_insertionSort _ _).mem_iff]

/-- A sorted list without its duplicates grows strictly. -/
theorem pairwise_eraseDups : ∀ texts : List String, texts.Pairwise (· ≤ ·) →
    texts.eraseDups.Pairwise (· < ·)
  | [], _ => List.Pairwise.nil
  | text :: texts, h => by
    obtain ⟨hhead, htail⟩ := List.pairwise_cons.mp h
    have hlength : (texts.filter fun other => !other == text).length < (text :: texts).length :=
      Nat.lt_succ_of_le (List.length_filter_le _ _)
    rw [List.eraseDups_cons, List.pairwise_cons]
    refine ⟨fun other hother => ?_, pairwise_eraseDups _ (htail.sublist List.filter_sublist)⟩
    obtain ⟨hmem, hne⟩ := List.mem_filter.mp (List.mem_eraseDups.mp hother)
    have hne : text ≠ other := fun heq => by simp [heq] at hne
    exact @lt_of_le_of_ne String _ text other (hhead other hmem) hne
  termination_by texts => texts.length
  decreasing_by exact hlength

theorem pairwise_sortDedup (texts : List String) : (sortDedup texts).Pairwise (· < ·) :=
  pairwise_eraseDups _ (List.pairwise_insertionSort _ _)

/-- Sorting without duplicates looks at the members only. -/
theorem sortDedup_eq {texts others : List String} (h : ∀ text, text ∈ texts ↔ text ∈ others) :
    sortDedup texts = sortDedup others := by
  have hperm : (sortDedup texts).Perm (sortDedup others) :=
    (List.perm_ext_iff_of_nodup (pairwise_sortDedup texts).nodup
      (pairwise_sortDedup others).nodup).mpr fun text => by rw [mem_sortDedup, mem_sortDedup, h]
  have hasymm : ∀ left right : String, left < right → right < left → left = right :=
    fun left right hlt hgt => absurd hlt (@lt_asymm String _ right left hgt)
  exact hperm.eq_of_pairwise (fun left right _ _ => hasymm left right)
    (pairwise_sortDedup texts) (pairwise_sortDedup others)

namespace RuntimeArtifactExpectation

/-- The artifact also belongs to the component. -/
def own (owner : ComponentId) (expectation : RuntimeArtifactExpectation) :
    RuntimeArtifactExpectation :=
  { expectation with components := sortDedup (expectation.components ++ [owner]) }

variable {owner : ComponentId} {expectation : RuntimeArtifactExpectation}

theorem own_own : (expectation.own owner).own owner = expectation.own owner := by
  have hsame : sortDedup (sortDedup (expectation.components ++ [owner]) ++ [owner]) =
      sortDedup (expectation.components ++ [owner]) :=
    sortDedup_eq fun text => by simp [mem_sortDedup]
  rw [own, own, hsame]

/-- The artifact also belongs to the component, if its key is one of the keys. -/
def claim {κ : Type} [DecidableEq κ] (key : RuntimeArtifactExpectation → κ) (keys : List κ)
    (owner : ComponentId) (expectation : RuntimeArtifactExpectation) : RuntimeArtifactExpectation :=
  if key expectation ∈ keys then expectation.own owner else expectation

section Claim

variable {κ : Type} [DecidableEq κ] {key : RuntimeArtifactExpectation → κ} {keys : List κ}

theorem claim_content : (claim key keys owner expectation).content = expectation.content := by
  unfold claim
  split <;> rfl

theorem claim_place : (claim key keys owner expectation).place = expectation.place := by
  unfold claim
  split <;> rfl

/-- Who owns the artifact after the claim. -/
theorem claim_components (key : RuntimeArtifactExpectation → κ) (keys : List κ)
    (owner : ComponentId) (h : expectation.components.Pairwise (· < ·)) :
    (claim key keys owner expectation).components.Pairwise (· < ·) ∧
      ∀ id, id ∈ (claim key keys owner expectation).components ↔
        id ∈ expectation.components ∨ (id = owner ∧ key expectation ∈ keys) := by
  by_cases hkey : key expectation ∈ keys
  · rw [claim, if_pos hkey, own]
    exact ⟨pairwise_sortDedup _, fun id => by simp [mem_sortDedup, hkey]⟩
  · rw [claim, if_neg hkey]
    exact ⟨h, fun id => by simp [hkey]⟩

/-- The order of the keys does not matter. -/
theorem claim_perm {keys' : List κ} (hperm : keys'.Perm keys) :
    claim key keys' owner expectation = claim key keys owner expectation := by
  simp only [claim, hperm.mem_iff]

/-- Claims for the same owner add up. -/
theorem claim_claim {head : κ} :
    claim key keys owner (claim key [head] owner expectation) =
      claim key (head :: keys) owner expectation := by
  by_cases hhead : key expectation = head
  · have hfirst : claim key [head] owner expectation = expectation.own owner :=
      if_pos (List.mem_singleton.mpr hhead)
    rw [hfirst, claim, claim, own_own, ite_self, if_pos (hhead ▸ List.mem_cons_self)]
  · have hfirst : claim key [head] owner expectation = expectation :=
      if_neg (mt List.mem_singleton.mp hhead)
    rw [hfirst]
    simp only [claim, List.mem_cons, hhead, false_or]

end Claim

end RuntimeArtifactExpectation

-- ════════════════════════════════
-- Searching for a copy
-- ════════════════════════════════

section Search

variable {expectations : List RuntimeArtifactExpectation}
  {isMatch : RuntimeArtifactExpectation → Bool} {position : ℕ}

theorem mem_matchPositions : position ∈ matchPositions expectations isMatch ↔
    ∃ expectation, expectations[position]? = some expectation ∧ isMatch expectation = true := by
  simp only [matchPositions, List.mem_map, List.mem_filter, Prod.exists,
    List.mem_zipIdx_iff_getElem?]
  constructor
  · rintro ⟨expectation, _, ⟨hget, hmatch⟩, rfl⟩
    exact ⟨expectation, hget, hmatch⟩
  · rintro ⟨expectation, hget, hmatch⟩
    exact ⟨expectation, position, ⟨hget, hmatch⟩, rfl⟩

theorem length_matchPositions :
    (matchPositions expectations isMatch).length = (expectations.filter isMatch).length := by
  have hfilter : (expectations.zipIdx.filter fun entry => isMatch entry.1).map (·.1) =
      expectations.filter isMatch := by
    conv_rhs => rw [← List.zipIdx_map_fst 0 expectations]
    rw [List.filter_map]
    rfl
  rw [← hfilter, matchPositions, List.length_map, List.length_map]

/-- One position is found if and only if one expectation is. -/
theorem matchPositions_eq_singleton :
    (∃ position, matchPositions expectations isMatch = [position]) ↔
      ∃ expectation, expectations.filter isMatch = [expectation] := by
  rw [← List.length_eq_one_iff, length_matchPositions, List.length_eq_one_iff]

/-- The only match also belongs to the component. -/
theorem addOwner_eq_map (owner : ComponentId)
    (h : matchPositions expectations isMatch = [position]) :
    addOwner expectations position owner =
      expectations.map fun expectation =>
        if isMatch expectation then expectation.own owner else expectation := by
  refine List.ext_getElem? fun index => ?_
  have hmatch : (∃ expectation, expectations[index]? = some expectation ∧
      isMatch expectation = true) ↔ index = position := by
    rw [← mem_matchPositions, h, List.mem_singleton]
  rw [addOwner, List.getElem?_modify, List.getElem?_map]
  cases hget : expectations[index]? with
  | none => simp
  | some expectation =>
    have hmatch : isMatch expectation = true ↔ index = position := by simpa [hget] using hmatch
    by_cases hindex : index = position
    · simp [hmatch.mpr hindex, hindex, RuntimeArtifactExpectation.own]
    · simp [mt hmatch.mp hindex, Ne.symm hindex]

end Search

/-- Exactly one entry has the key. -/
def OnlyOne {α κ : Type} [DecidableEq κ] (key : α → κ) (entries : List α) (sought : κ) : Prop :=
  ∃ entry, (entries.filter fun entry => key entry = sought) = [entry]

section OnlyOne

variable {α β κ : Type} [DecidableEq κ] {key : α → κ} {key' : β → κ} {entries : List α} {sought : κ}

theorem onlyOne_iff :
    OnlyOne key entries sought ↔ (entries.map key).count sought = 1 := by
  rw [OnlyOne, ← List.length_eq_one_iff, ← List.countP_eq_length_filter, List.count,
    List.countP_map]
  exact Iff.of_eq (congrArg (· = 1) (List.countP_congr fun entry _ => by simp))

/-- The number of entries with a key depends on the keys only, in any order. -/
theorem OnlyOne.of_perm {others : List β} (h : OnlyOne key entries sought)
    (hperm : (others.map key').Perm (entries.map key)) : OnlyOne key' others sought := by
  rw [onlyOne_iff] at h ⊢
  rw [hperm.count_eq, h]

/-- The only entry for each of several items. -/
def Correspond {ι : Type} (key : α → κ) (sought : ι → κ) (entries : List α) (items : List ι)
    (found : List α) : Prop :=
  List.Forall₂ (fun item entry => (entries.filter fun entry => key entry = sought item) = [entry])
    items found

/-- Items that each have one entry correspond to their entries, one to one if the items can be told
apart. -/
theorem exists_correspond {ι : Type} {sought : ι → κ} {items : List ι}
    (h : ∀ item ∈ items, OnlyOne key entries (sought item)) :
    ∃ found, Correspond key sought entries items found ∧
      ((items.map sought).Nodup → found.Nodup) ∧
      ∀ entry ∈ entries, entry ∈ found ↔ key entry ∈ items.map sought := by
  have hfound : ∃ found, Correspond key sought entries items found := by
    induction items with
    | nil => exact ⟨[], .nil⟩
    | cons item items ih =>
      obtain ⟨⟨entry, hentry⟩, hrest⟩ := List.forall_mem_cons.mp h
      obtain ⟨found, hfound⟩ := ih hrest
      exact ⟨entry :: found, .cons hentry hfound⟩
  obtain ⟨found, hfound⟩ := hfound
  have hkeys : found.map key = items.map sought := forall₂_map_eq hfound fun item entry hentry => by
    have hmem := hentry ▸ List.mem_singleton_self entry
    simpa using (List.mem_filter.mp hmem).2
  refine ⟨found, hfound, fun hnodup => ?_, fun entry hentry => ⟨fun hmem => ?_, fun hmem => ?_⟩⟩
  · rw [← hkeys] at hnodup
    exact hnodup.of_map
  · exact hkeys ▸ List.mem_map_of_mem hmem
  · obtain ⟨item, hitem, hsought⟩ := List.mem_map.mp hmem
    obtain ⟨only, honly, hfilter⟩ := forall₂_mem_left hfound hitem
    have hsame : entry ∈ [only] :=
      hfilter ▸ List.mem_filter.mpr ⟨hentry, decide_eq_true hsought.symm⟩
    rwa [List.mem_singleton.mp hsame]

end OnlyOne

-- ════════════════════════════════
-- The artifacts of the connector
-- ════════════════════════════════

namespace RuntimeArtifactExpectation

theorem map_claim_content {κ : Type} [DecidableEq κ] (key : RuntimeArtifactExpectation → κ)
    (keys : List κ) (owner : ComponentId) (expectations : List RuntimeArtifactExpectation) :
    (expectations.map (claim key keys owner)).map content = expectations.map content := by
  rw [List.map_map]
  exact List.map_congr_left fun _ _ => claim_content

theorem map_claim_place {κ : Type} [DecidableEq κ] (key : RuntimeArtifactExpectation → κ)
    (keys : List κ) (owner : ComponentId) (expectations : List RuntimeArtifactExpectation) :
    (expectations.map (claim key keys owner)).map place = expectations.map place := by
  rw [List.map_map]
  exact List.map_congr_left fun _ _ => claim_place

end RuntimeArtifactExpectation

open RuntimeArtifactExpectation

section Connector

variable {connector : ComponentId} {expectations : List RuntimeArtifactExpectation}
  {taken : List ℕ} {artifact : ArtifactReference}

theorem matchConnectorArtifact_eq_ok {state : List RuntimeArtifactExpectation × List ℕ} :
    matchConnectorArtifact connector (expectations, taken) artifact = .ok state ↔
      Describable artifact ∧ ∃ position,
        (matchPositions expectations fun expectation =>
          expectation.content = referenceContent artifact) = [position] ∧
        position ∉ taken ∧
        state = (expectations.map (claim content [referenceContent artifact] connector),
          position :: taken) := by
  have hclaim : claim content [referenceContent artifact] connector = fun expectation =>
      if decide (expectation.content = referenceContent artifact) then expectation.own connector
      else expectation := funext fun expectation => by simp [claim]
  have hsame : ∀ {sought : RuntimeArtifactExpectation}, sought.place = referencePlace artifact →
      (sameArtifact · sought) = fun expectation : RuntimeArtifactExpectation =>
        decide (expectation.content = referenceContent artifact) := fun {sought} hplace =>
    funext fun expectation => by
      have hcontent : sought.content = referenceContent artifact := (Prod.mk.inj hplace).2
      rw [Bool.eq_iff_iff, sameArtifact_iff, hcontent, decide_eq_true_iff]
  constructor
  · intro h
    obtain ⟨sought, hsought, h⟩ := except_bind_eq_ok.mp h
    obtain ⟨position, hposition, h⟩ := except_bind_eq_ok.mp h
    obtain ⟨hfree, h⟩ := except_seq_eq_ok.mp h
    obtain ⟨hdescribable, hplace, -⟩ := expectation_eq_ok.mp hsought
    rw [hsame hplace, requireOnly_eq_ok] at hposition
    cases h
    refine ⟨hdescribable, position, hposition, by simpa using hfree, ?_⟩
    rw [hclaim, addOwner_eq_map connector hposition]
  · rintro ⟨hdescribable, position, hposition, hfree, rfl⟩
    obtain ⟨sought, hsought⟩ := hdescribable.expectation_eq_ok [connector]
    refine except_bind_eq_ok.mpr ⟨sought, hsought, except_bind_eq_ok.mpr ⟨position, ?_, ?_⟩⟩
    · rw [hsame (expectation_eq_ok.mp hsought).2.1, requireOnly_eq_ok, hposition]
    · refine except_seq_eq_ok.mpr ⟨by simpa using hfree, ?_⟩
      rw [hclaim, addOwner_eq_map connector hposition]
      rfl

theorem getElem?_content_eq_some {position index : ℕ}
    (h : (matchPositions expectations fun expectation =>
      expectation.content = referenceContent artifact) = [position]) :
    (expectations.map content)[index]? = some (referenceContent artifact) ↔ index = position := by
  have hsingle : index ∈ [position] ↔ index = position := List.mem_singleton
  rw [← hsingle, ← h, mem_matchPositions, List.getElem?_map]
  simp

theorem map_claim_claim {κ : Type} [DecidableEq κ] {key : RuntimeArtifactExpectation → κ}
    {head : κ} {keys : List κ} {owner : ComponentId} :
    (expectations.map (claim key [head] owner)).map (claim key keys owner) =
      expectations.map (claim key (head :: keys) owner) := by
  rw [List.map_map]
  exact List.map_congr_left fun _ _ => claim_claim

/-- The run over the artifacts of the connector: the positions that are taken keep two of them from
having one content. -/
theorem matchConnectorArtifacts_eq_ok {artifacts : List ArtifactReference}
    {found : List RuntimeArtifactExpectation} :
    (∃ taken', artifacts.foldlM (matchConnectorArtifact connector) (expectations, taken) =
        .ok (found, taken')) ↔
      (∀ artifact ∈ artifacts,
        Describable artifact ∧ OnlyOne content expectations (referenceContent artifact)) ∧
      (∀ artifact ∈ artifacts, ∀ index ∈ taken,
        (expectations.map content)[index]? ≠ some (referenceContent artifact)) ∧
      (artifacts.map referenceContent).Nodup ∧
      found = expectations.map (claim content (artifacts.map referenceContent) connector) := by
  induction artifacts generalizing expectations taken with
  | nil =>
    have hnone : claim content [] connector = id := funext fun _ => if_neg List.not_mem_nil
    rw [List.map_nil, hnone, List.map_id]
    constructor
    · rintro ⟨taken', h⟩
      cases h
      exact ⟨nofun, nofun, List.nodup_nil, rfl⟩
    · rintro ⟨-, -, -, rfl⟩
      exact ⟨taken, rfl⟩
  | cons artifact artifacts ih =>
    have honly : ∀ sought : ArtifactContent, OnlyOne content
        (expectations.map (claim content [referenceContent artifact] connector)) sought ↔
        OnlyOne content expectations sought := fun sought => by
      rw [onlyOne_iff, onlyOne_iff, map_claim_content]
    constructor
    · rintro ⟨taken', h⟩
      rw [List.foldlM_cons] at h
      obtain ⟨state, hstep, hrun⟩ := except_bind_eq_ok.mp h
      obtain ⟨hdescribable, position, hposition, hfree, rfl⟩ :=
        matchConnectorArtifact_eq_ok.mp hstep
      obtain ⟨hrest, hfresh, hnodup, hfound⟩ := ih.mp ⟨taken', hrun⟩
      rw [map_claim_content] at hfresh
      refine ⟨?_, ?_, ?_, hfound.trans map_claim_claim⟩
      · rw [List.forall_mem_cons]
        exact ⟨⟨hdescribable, matchPositions_eq_singleton.mp ⟨position, hposition⟩⟩,
          fun other hother => (hrest other hother).imp_right (honly _).mp⟩
      · rw [List.forall_mem_cons]
        refine ⟨fun index hindex hget => ?_, fun other hother index hindex =>
          hfresh other hother index (List.mem_cons_of_mem _ hindex)⟩
        rw [(getElem?_content_eq_some hposition).mp hget] at hindex
        exact hfree hindex
      · refine List.nodup_cons.mpr ⟨fun hmem => ?_, hnodup⟩
        obtain ⟨other, hother, hsame⟩ := List.mem_map.mp hmem
        exact hfresh other hother position List.mem_cons_self
          (hsame ▸ (getElem?_content_eq_some hposition).mpr rfl)
    · rintro ⟨hall, hfresh, hnodup, rfl⟩
      obtain ⟨⟨hdescribable, hfirst⟩, hrest⟩ := List.forall_mem_cons.mp hall
      obtain ⟨hfreshFirst, hfreshRest⟩ := List.forall_mem_cons.mp hfresh
      obtain ⟨hnotin, hnodup⟩ := List.nodup_cons.mp hnodup
      obtain ⟨position, hposition⟩ := matchPositions_eq_singleton.mpr hfirst
      have hfree : position ∉ taken := fun htaken =>
        hfreshFirst position htaken ((getElem?_content_eq_some hposition).mpr rfl)
      have hfreshNext : ∀ other ∈ artifacts, ∀ index ∈ position :: taken,
          ((expectations.map (claim content [referenceContent artifact] connector)).map
            content)[index]? ≠ some (referenceContent other) := by
        intro other hother index hindex hget
        rw [map_claim_content] at hget
        rcases List.mem_cons.mp hindex with rfl | hindex
        · rw [(getElem?_content_eq_some hposition).mpr rfl] at hget
          exact hnotin (List.mem_map.mpr ⟨other, hother, (Option.some.inj hget).symm⟩)
        · exact hfreshRest other hother index hindex hget
      obtain ⟨taken', hrun⟩ := ih.mpr
        ⟨fun other hother => (hrest other hother).imp_right (honly _).mpr, hfreshNext, hnodup,
          map_claim_claim.symm⟩
      refine ⟨taken', ?_⟩
      rw [List.foldlM_cons]
      exact except_bind_eq_ok.mpr ⟨_, matchConnectorArtifact_eq_ok.mpr
        ⟨hdescribable, position, hposition, hfree, rfl⟩, hrun⟩

end Connector

-- ════════════════════════════════
-- The artifacts of the runner
-- ════════════════════════════════

section Runner

variable {runner : ComponentId} {expectations found : List RuntimeArtifactExpectation}

theorem matchRunnerArtifact_eq_ok {artifact : ArtifactReference} :
    matchRunnerArtifact runner expectations artifact = .ok found ↔
      Describable artifact ∧ OnlyOne place expectations (referencePlace artifact) ∧
        found = expectations.map (claim place [referencePlace artifact] runner) := by
  have hclaim : claim place [referencePlace artifact] runner = fun expectation =>
      if decide (expectation.place = referencePlace artifact) then expectation.own runner
      else expectation := funext fun expectation => by simp [claim]
  have hsame : ∀ {sought : RuntimeArtifactExpectation}, sought.place = referencePlace artifact →
      (fun expectation : RuntimeArtifactExpectation =>
        decide (expectation.location = sought.location) && sameArtifact expectation sought) =
        fun expectation => decide (expectation.place = referencePlace artifact) :=
    fun {sought} hplace => funext fun expectation => by
      rw [← hplace, Bool.eq_iff_iff, Bool.and_eq_true, sameArtifact_iff]
      simp [place]
  constructor
  · intro h
    obtain ⟨sought, hsought, h⟩ := except_bind_eq_ok.mp h
    obtain ⟨position, hposition, h⟩ := except_bind_eq_ok.mp h
    obtain ⟨hdescribable, hplace, -⟩ := expectation_eq_ok.mp hsought
    rw [hsame hplace, requireOnly_eq_ok] at hposition
    cases h
    refine ⟨hdescribable, matchPositions_eq_singleton.mp ⟨position, hposition⟩, ?_⟩
    rw [hclaim, addOwner_eq_map runner hposition]
  · rintro ⟨hdescribable, honly, rfl⟩
    obtain ⟨sought, hsought⟩ := hdescribable.expectation_eq_ok [runner]
    obtain ⟨position, hposition⟩ := matchPositions_eq_singleton.mpr honly
    refine except_bind_eq_ok.mpr ⟨sought, hsought, except_bind_eq_ok.mpr ⟨position, ?_, ?_⟩⟩
    · rw [hsame (expectation_eq_ok.mp hsought).2.1, requireOnly_eq_ok, hposition]
    · rw [hclaim, addOwner_eq_map runner hposition]
      rfl

theorem foldRunnerArtifacts_eq_ok {artifacts : List ArtifactReference} :
    artifacts.foldlM (matchRunnerArtifact runner) expectations = .ok found ↔
      (∀ artifact ∈ artifacts,
        Describable artifact ∧ OnlyOne place expectations (referencePlace artifact)) ∧
      found = expectations.map (claim place (artifacts.map referencePlace) runner) := by
  induction artifacts generalizing expectations with
  | nil =>
    have hnone : claim place [] runner = id := funext fun _ => if_neg List.not_mem_nil
    rw [List.map_nil, hnone, List.map_id]
    constructor
    · intro h
      cases h
      exact ⟨nofun, rfl⟩
    · rintro ⟨-, rfl⟩
      rfl
  | cons artifact artifacts ih =>
    have honly : ∀ sought, OnlyOne place
        (expectations.map (claim place [referencePlace artifact] runner)) sought ↔
        OnlyOne place expectations sought := fun sought => by
      rw [onlyOne_iff, onlyOne_iff, map_claim_place]
    rw [List.foldlM_cons, List.forall_mem_cons]
    constructor
    · intro h
      obtain ⟨state, hstep, hrun⟩ := except_bind_eq_ok.mp h
      obtain ⟨hdescribable, hfirst, rfl⟩ := matchRunnerArtifact_eq_ok.mp hstep
      obtain ⟨hrest, hfound⟩ := ih.mp hrun
      exact ⟨⟨⟨hdescribable, hfirst⟩, fun other hother =>
        (hrest other hother).imp_right (honly _).mp⟩, hfound.trans map_claim_claim⟩
    · rintro ⟨⟨⟨hdescribable, hfirst⟩, hrest⟩, rfl⟩
      exact except_bind_eq_ok.mpr ⟨_, matchRunnerArtifact_eq_ok.mpr ⟨hdescribable, hfirst, rfl⟩,
        ih.mpr ⟨fun other hother => (hrest other hother).imp_right (honly _).mpr,
          map_claim_claim.symm⟩⟩

end Runner

-- ════════════════════════════════
-- All artifacts
-- ════════════════════════════════

/-- The artifacts that an image embeds. -/
def imageArtifacts (component : Component) : List ArtifactReference :=
  (embeddedArtifacts component).toOption.getD []

/-- The artifacts of the runner, if there is one. -/
def runnerArtifacts (runner : Option Component) : List ArtifactReference :=
  (runner.map imageArtifacts).getD []

/-- The component is an image that embeds an artifact. -/
def Embeds (component : Component) : Prop :=
  ∃ artifacts, embeddedArtifacts component = .ok artifacts ∧ artifacts ≠ []

theorem embeds_iff {component : Component} :
    Embeds component ↔ ∃ artifacts, embeddedArtifacts component = .ok artifacts ∧
      artifacts.isEmpty = false ∧ artifacts = imageArtifacts component := by
  constructor
  · rintro ⟨artifacts, hartifacts, hne⟩
    exact ⟨artifacts, hartifacts, by simpa using hne, by rw [imageArtifacts, hartifacts]; rfl⟩
  · rintro ⟨artifacts, hartifacts, hne, -⟩
    exact ⟨artifacts, hartifacts, by simpa using hne⟩

/-- What the three images must be for their artifacts to be traced. -/
structure Traceable (runner : Option Component) (engine connector : Component) : Prop where
  engineEmbeds : Embeds engine
  connectorEmbeds : Embeds connector
  runnerEmbeds : ∀ image, runner = some image → Embeds image
  described : ∀ artifact ∈ imageArtifacts engine, Describable artifact
  copied : ∀ artifact ∈ imageArtifacts connector, Describable artifact ∧
    OnlyOne referenceContent (imageArtifacts engine) (referenceContent artifact)
  distinct : ((imageArtifacts connector).map referenceContent).Nodup
  run : ∀ artifact ∈ runnerArtifacts runner, Describable artifact ∧
    OnlyOne referencePlace (imageArtifacts engine) (referencePlace artifact)

/-- The artifact of the engine also belongs to the runner, if there is one that has it. -/
def claimRunner (runner : Option Component) (expectation : RuntimeArtifactExpectation) :
    RuntimeArtifactExpectation :=
  match runner with
  | none => expectation
  | some runner =>
    claim place ((imageArtifacts runner).map referencePlace) runner.id expectation

/-- The artifact of the engine also belongs to the connector and the runner, if they have it. -/
def owned (runner : Option Component) (connector : Component)
    (expectation : RuntimeArtifactExpectation) : RuntimeArtifactExpectation :=
  claimRunner runner
    (claim content ((imageArtifacts connector).map referenceContent) connector.id expectation)

section Owned

variable {runner : Option Component} {engine connector : Component}
  {expectations result : List RuntimeArtifactExpectation}

theorem owned_place (expectation : RuntimeArtifactExpectation) :
    (owned runner connector expectation).place = expectation.place := by
  cases runner with
  | none => exact claim_place
  | some runner => exact claim_place.trans claim_place

theorem map_owned_place :
    (expectations.map (owned runner connector)).map place = expectations.map place := by
  rw [List.map_map]
  exact List.map_congr_left fun expectation _ => owned_place expectation

/-- The expectations of the engine image describe its artifacts. -/
theorem map_place {owners : List ComponentId} {artifacts : List ArtifactReference}
    (h : (artifacts.mapM fun artifact => expectation artifact owners) = .ok expectations) :
    expectations.map place = artifacts.map referencePlace := by
  exact forall₂_map_eq (except_mapM_forall₂ h) fun _ _ hfound => (expectation_eq_ok.mp hfound).2.1

theorem map_content {owners : List ComponentId} {artifacts : List ArtifactReference}
    (h : (artifacts.mapM fun artifact => expectation artifact owners) = .ok expectations) :
    expectations.map content = artifacts.map referenceContent := by
  have hplaces := congrArg (List.map Prod.snd) (map_place h)
  rw [List.map_map, List.map_map] at hplaces
  exact hplaces

theorem matchRunnerArtifacts_eq_ok :
    matchRunnerArtifacts runner expectations = .ok result ↔
      (∀ image, runner = some image → Embeds image) ∧
      (∀ artifact ∈ runnerArtifacts runner,
        Describable artifact ∧ OnlyOne place expectations (referencePlace artifact)) ∧
      result = expectations.map (claimRunner runner) := by
  cases runner with
  | none =>
    have hnone : claimRunner none = id := rfl
    have hempty : runnerArtifacts none = [] := rfl
    rw [hnone, List.map_id, hempty]
    constructor
    · intro h
      cases h
      refine ⟨fun _ himage => ?_, fun _ hmem => absurd hmem List.not_mem_nil, rfl⟩
      cases himage
    · rintro ⟨-, -, rfl⟩
      rfl
  | some image =>
    constructor
    · intro h
      obtain ⟨artifacts, hartifacts, h⟩ := except_bind_eq_ok.mp h
      obtain ⟨hne, h⟩ := except_seq_eq_ok.mp h
      have hne : artifacts ≠ [] := by simpa using hne
      have himage : imageArtifacts image = artifacts := by rw [imageArtifacts, hartifacts]; rfl
      obtain ⟨hall, hresult⟩ := foldRunnerArtifacts_eq_ok.mp h
      rw [← himage] at hall hresult
      refine ⟨?_, hall, hresult⟩
      rintro _ ⟨⟩
      exact ⟨artifacts, hartifacts, hne⟩
    · rintro ⟨hembeds, hall, hresult⟩
      obtain ⟨artifacts, hartifacts, hne, rfl⟩ := embeds_iff.mp (hembeds image rfl)
      have hfold := foldRunnerArtifacts_eq_ok.mpr ⟨hall, hresult⟩
      refine except_bind_eq_ok.mpr ⟨_, hartifacts, ?_⟩
      exact except_seq_eq_ok.mpr ⟨Commit.rejectWhen_eq_ok.mpr hne, hfold⟩

/-- The artifacts of an engine are traced, or there is an error. -/
theorem runtimeArtifacts_eq_ok :
    Engine.runtimeArtifacts runner engine connector = .ok result ↔
      Traceable runner engine connector ∧ ∃ expectations,
        ((imageArtifacts engine).mapM fun artifact => expectation artifact [engine.id]) =
          .ok expectations ∧
        result = (expectations.map (owned runner connector)).insertionSort
          fun left right => left.location ≤ right.location := by
  constructor
  · intro h
    obtain ⟨engineArtifacts, hengine, h⟩ := except_bind_eq_ok.mp h
    obtain ⟨connectorArtifacts, hconnector, h⟩ := except_bind_eq_ok.mp h
    obtain ⟨hne, h⟩ := except_seq_eq_ok.mp h
    obtain ⟨expectations, hexpectations, h⟩ := except_bind_eq_ok.mp h
    obtain ⟨⟨matched, taken⟩, hmatched, h⟩ := except_bind_eq_ok.mp h
    obtain ⟨found, hfound, h⟩ := except_bind_eq_ok.mp h
    cases h
    have himageEngine : imageArtifacts engine = engineArtifacts := by
      rw [imageArtifacts, hengine]; rfl
    have himageConnector : imageArtifacts connector = connectorArtifacts := by
      rw [imageArtifacts, hconnector]; rfl
    simp only [Commit.rejectWhen_eq_ok, Bool.or_eq_false_iff, List.isEmpty_eq_false_iff] at hne
    subst himageEngine himageConnector
    obtain ⟨hcopied, -, hdistinct, rfl⟩ := matchConnectorArtifacts_eq_ok.mp ⟨taken, hmatched⟩
    obtain ⟨hembeds, hrun, rfl⟩ := matchRunnerArtifacts_eq_ok.mp hfound
    refine ⟨⟨⟨_, hengine, hne.1⟩, ⟨_, hconnector, hne.2⟩, hembeds, fun artifact hmem => ?_,
      fun artifact hmem => ?_, hdistinct, fun artifact hmem => ?_⟩, expectations, hexpectations, ?_⟩
    · obtain ⟨_, -, hfound⟩ := forall₂_mem_left (except_mapM_forall₂ hexpectations) hmem
      exact (expectation_eq_ok.mp hfound).1
    · refine (hcopied artifact hmem).imp_right fun honly => honly.of_perm ?_
      rw [map_content hexpectations]
    · refine (hrun artifact hmem).imp_right fun honly => honly.of_perm ?_
      rw [map_claim_place, map_place hexpectations]
    · rw [List.map_map]
      rfl
  · rintro ⟨htraceable, expectations, hexpectations, rfl⟩
    obtain ⟨engineArtifacts, hengine, hengineNe, rfl⟩ := embeds_iff.mp htraceable.engineEmbeds
    obtain ⟨connectorArtifacts, hconnector, hconnectorNe, rfl⟩ :=
      embeds_iff.mp htraceable.connectorEmbeds
    have hcopied : ∀ artifact ∈ imageArtifacts connector,
        Describable artifact ∧ OnlyOne content expectations (referenceContent artifact) :=
      fun artifact hmem => (htraceable.copied artifact hmem).imp_right fun honly =>
        honly.of_perm (by rw [map_content hexpectations])
    have hnone : ∀ artifact ∈ imageArtifacts connector, ∀ index ∈ ([] : List ℕ),
        (expectations.map content)[index]? ≠ some (referenceContent artifact) :=
      fun _ _ index hindex => absurd hindex List.not_mem_nil
    obtain ⟨taken, hmatched⟩ := matchConnectorArtifacts_eq_ok.mpr
      ⟨hcopied, hnone, htraceable.distinct, rfl⟩
    refine except_bind_eq_ok.mpr ⟨_, hengine, except_bind_eq_ok.mpr ⟨_, hconnector, ?_⟩⟩
    refine except_seq_eq_ok.mpr ⟨by simp [hengineNe, hconnectorNe], ?_⟩
    refine except_bind_eq_ok.mpr ⟨_, hexpectations, except_bind_eq_ok.mpr ⟨_, hmatched, ?_⟩⟩
    refine except_bind_eq_ok.mpr ⟨expectations.map (owned runner connector),
      matchRunnerArtifacts_eq_ok.mpr ⟨htraceable.runnerEmbeds, fun artifact hmem => ?_, ?_⟩, rfl⟩
    · refine (htraceable.run artifact hmem).imp_right fun honly => honly.of_perm ?_
      rw [map_claim_place, map_place hexpectations]
    · rw [List.map_map]
      rfl

theorem owned_components {owner : ComponentId} {expectation : RuntimeArtifactExpectation}
    (h : expectation.components = [owner]) :
    (owned runner connector expectation).components.Pairwise (· < ·) ∧
      ∀ id, id ∈ (owned runner connector expectation).components ↔
        id = owner ∨
        (id = connector.id ∧
          expectation.content ∈ (imageArtifacts connector).map referenceContent) ∨
        (runner.map (·.id) = some id ∧
          expectation.place ∈ (runnerArtifacts runner).map referencePlace) := by
  have hstart : expectation.components.Pairwise (· < ·) := h ▸ List.pairwise_singleton _ _
  obtain ⟨hsorted, hmem⟩ :=
    claim_components content ((imageArtifacts connector).map referenceContent) connector.id hstart
  rw [h] at hmem
  cases runner with
  | none => exact ⟨hsorted, fun id => by simp [owned, claimRunner, hmem]⟩
  | some image =>
    obtain ⟨hsorted', hmem'⟩ :=
      claim_components place ((imageArtifacts image).map referencePlace) image.id hsorted
    refine ⟨hsorted', fun id => ?_⟩
    rw [owned, claimRunner, hmem', hmem, claim_place, List.mem_singleton, or_assoc]
    simp [runnerArtifacts, eq_comm]

end Owned

-- ════════════════════════════════
-- The order of the artifacts
-- ════════════════════════════════

/-- The same image, whose artifacts are listed in another order. -/
def Reordered (component component' : Component) : Prop :=
  component'.id = component.id ∧ ∃ artifacts artifacts',
    embeddedArtifacts component = .ok artifacts ∧ embeddedArtifacts component' = .ok artifacts' ∧
      artifacts'.Perm artifacts

namespace Reordered

variable {component component' : Component}

theorem imageArtifacts_perm (h : Reordered component component') :
    (imageArtifacts component').Perm (imageArtifacts component) := by
  obtain ⟨-, artifacts, artifacts', hartifacts, hartifacts', hperm⟩ := h
  rw [imageArtifacts, imageArtifacts, hartifacts, hartifacts']
  exact hperm

theorem embeds (h : Reordered component component') (hembeds : Embeds component) :
    Embeds component' := by
  obtain ⟨-, artifacts, artifacts', hartifacts, hartifacts', hperm⟩ := h
  obtain ⟨found, hfound, hne⟩ := hembeds
  rw [hartifacts] at hfound
  cases hfound
  exact ⟨artifacts', hartifacts', fun hnil => hne (by rw [hnil] at hperm; exact hperm.nil_eq.symm)⟩

end Reordered

section Order

variable {runner runner' : Option Component} {engine engine' connector connector' : Component}

theorem runnerArtifacts_perm (h : Option.Rel Reordered runner runner') :
    (runnerArtifacts runner').Perm (runnerArtifacts runner) := by
  cases h with
  | none => exact .refl _
  | some h => exact h.imageArtifacts_perm

theorem traceable_reordered (hrunner : Option.Rel Reordered runner runner')
    (hengine : Reordered engine engine') (hconnector : Reordered connector connector')
    (h : Traceable runner engine connector) : Traceable runner' engine' connector' where
  engineEmbeds := hengine.embeds h.engineEmbeds
  connectorEmbeds := hconnector.embeds h.connectorEmbeds
  runnerEmbeds := by
    rintro image rfl
    cases hrunner with
    | some hrunner => exact hrunner.embeds (h.runnerEmbeds _ rfl)
  described artifact hmem := h.described artifact (hengine.imageArtifacts_perm.mem_iff.mp hmem)
  copied artifact hmem :=
    (h.copied artifact (hconnector.imageArtifacts_perm.mem_iff.mp hmem)).imp_right fun honly =>
      honly.of_perm (hengine.imageArtifacts_perm.map _)
  distinct := (hconnector.imageArtifacts_perm.map _).nodup_iff.mpr h.distinct
  run artifact hmem :=
    (h.run artifact ((runnerArtifacts_perm hrunner).mem_iff.mp hmem)).imp_right fun honly =>
      honly.of_perm (hengine.imageArtifacts_perm.map _)

theorem owned_reordered (hrunner : Option.Rel Reordered runner runner')
    (hconnector : Reordered connector connector') :
    owned runner' connector' = owned runner connector := by
  have hclaim : ∀ expectation,
      claim content ((imageArtifacts connector').map referenceContent) connector'.id expectation =
        claim content ((imageArtifacts connector).map referenceContent) connector.id expectation :=
    fun expectation => by
      rw [hconnector.1]
      exact claim_perm (hconnector.imageArtifacts_perm.map _)
  funext expectation
  rw [owned, owned, hclaim]
  cases hrunner with
  | none => rfl
  | some hrunner =>
    rw [claimRunner, claimRunner, hrunner.1]
    exact claim_perm (hrunner.imageArtifacts_perm.map _)

theorem runtimeArtifacts_reordered {result : List RuntimeArtifactExpectation}
    (hrunner : Option.Rel Reordered runner runner') (hengine : Reordered engine engine')
    (hconnector : Reordered connector connector')
    (h : Engine.runtimeArtifacts runner engine connector = .ok result) :
    ∃ result', Engine.runtimeArtifacts runner' engine' connector' = .ok result' ∧
      result'.Perm result := by
  obtain ⟨htraceable, expectations, hexpectations, rfl⟩ := runtimeArtifacts_eq_ok.mp h
  have htraceable' := traceable_reordered hrunner hengine hconnector htraceable
  obtain ⟨expectations', hexpectations'⟩ := except_mapM_of_exists fun artifact hmem =>
    (htraceable'.described artifact hmem).expectation_eq_ok [engine'.id]
  refine ⟨_, runtimeArtifacts_eq_ok.mpr ⟨htraceable', expectations', hexpectations', rfl⟩, ?_⟩
  rw [hengine.1] at hexpectations'
  have hperm : expectations'.Perm expectations :=
    except_mapM_perm hengine.imageArtifacts_perm hexpectations' hexpectations
  rw [owned_reordered hrunner hconnector]
  exact (List.perm_insertionSort _ _).trans
    ((hperm.map _).trans (List.perm_insertionSort _ _).symm)

end Order

-- ════════════════════════════════
-- Owners
-- ════════════════════════════════

section Owners

variable {runner : Option Component} {engine connector : Component}
  {result : List RuntimeArtifactExpectation}

theorem runtimeArtifacts_sorted (h : Engine.runtimeArtifacts runner engine connector = .ok result) :
    result.Pairwise fun left right => left.location ≤ right.location := by
  obtain ⟨-, expectations, -, rfl⟩ := runtimeArtifacts_eq_ok.mp h
  have htotal : Std.Total fun left right : RuntimeArtifactExpectation =>
      left.location ≤ right.location := ⟨fun left right => le_total left.location right.location⟩
  have htrans : IsTrans RuntimeArtifactExpectation fun left right =>
      left.location ≤ right.location := ⟨fun _ _ _ hleft hright => le_trans hleft hright⟩
  exact List.pairwise_insertionSort _ _

theorem runtimeArtifacts_place (h : Engine.runtimeArtifacts runner engine connector = .ok result) :
    (result.map place).Perm ((imageArtifacts engine).map referencePlace) := by
  obtain ⟨-, expectations, hexpectations, rfl⟩ := runtimeArtifacts_eq_ok.mp h
  rw [← map_place hexpectations, ← @map_owned_place runner connector expectations]
  exact List.Perm.map _ (List.perm_insertionSort _ _)

/-- Every entry has its owners, told by its content and its place. -/
theorem runtimeArtifacts_components
    (h : Engine.runtimeArtifacts runner engine connector = .ok result)
    {entry : RuntimeArtifactExpectation} (hentry : entry ∈ result) :
    entry.components.Pairwise (· < ·) ∧ ∀ id, id ∈ entry.components ↔
      id = engine.id ∨
      (id = connector.id ∧ entry.content ∈ (imageArtifacts connector).map referenceContent) ∨
      (runner.map (·.id) = some id ∧
        entry.place ∈ (runnerArtifacts runner).map referencePlace) := by
  obtain ⟨-, expectations, hexpectations, rfl⟩ := runtimeArtifacts_eq_ok.mp h
  rw [(List.perm_insertionSort _ _).mem_iff, List.mem_map] at hentry
  obtain ⟨expectation, hmem, rfl⟩ := hentry
  obtain ⟨artifact, -, hfound⟩ := forall₂_mem_right (except_mapM_forall₂ hexpectations) hmem
  have hplace : (owned runner connector expectation).place = expectation.place := owned_place _
  have hcontent : (owned runner connector expectation).content = expectation.content :=
    (Prod.mk.inj hplace).2
  rw [hplace, hcontent]
  exact owned_components (expectation_eq_ok.mp hfound).2.2

/-- The artifacts of an engine image, sorted by path, each with exactly its owners: the engine, the
connector for the copies of its artifacts and the runner for the copies of its own. In which order
the images list them does not matter. -/
theorem runtimeArtifacts_owners (h : Engine.runtimeArtifacts runner engine connector = .ok result) :
    (result.Pairwise fun left right => left.location ≤ right.location) ∧
      (result.map place).Perm ((imageArtifacts engine).map referencePlace) ∧
      (∃ shared run,
        Correspond content referenceContent result (imageArtifacts connector) shared ∧
        shared.Nodup ∧
        Correspond place referencePlace result (runnerArtifacts runner) run ∧
        ∀ entry ∈ result, entry.components.Pairwise (· < ·) ∧
          ∀ id, id ∈ entry.components ↔
            id = engine.id ∨ (id = connector.id ∧ entry ∈ shared) ∨
              (runner.map (·.id) = some id ∧ entry ∈ run)) ∧
      ∀ runner' engine' connector', Option.Rel Reordered runner runner' →
        Reordered engine engine' → Reordered connector connector' →
        ∃ result', Engine.runtimeArtifacts runner' engine' connector' = .ok result' ∧
          result'.Perm result := by
  obtain ⟨htraceable, -⟩ := runtimeArtifacts_eq_ok.mp h
  have hplaces := runtimeArtifacts_place h
  have hcontents : (result.map content).Perm ((imageArtifacts engine).map referenceContent) := by
    have hsnd := hplaces.map Prod.snd
    rwa [List.map_map, List.map_map] at hsnd
  obtain ⟨shared, hshared, hdistinct, hmemShared⟩ := exists_correspond fun artifact hmem =>
    (htraceable.copied artifact hmem).2.of_perm hcontents
  obtain ⟨run, hrun, -, hmemRun⟩ := exists_correspond fun artifact hmem =>
    (htraceable.run artifact hmem).2.of_perm hplaces
  refine ⟨runtimeArtifacts_sorted h, hplaces,
    ⟨shared, run, hshared, hdistinct htraceable.distinct, hrun, fun entry hentry => ?_⟩,
    fun _ _ _ hrunner hengine hconnector =>
      runtimeArtifacts_reordered hrunner hengine hconnector h⟩
  rw [hmemShared entry hentry, hmemRun entry hentry]
  exact runtimeArtifacts_components h hentry

end Owners

/-- A Spark image with a runner in it. -/
def ownedEngine : Component :=
  sparkComponent "spark" .engine "Apache Spark" "4.1.3"
    [sparkArtifact "image:/opt/spark/jars/iceberg.jar" "application/java-archive" 205,
     sparkArtifact "image:/opt/bench/runner" "application/vnd.elf" 18]

def ownedRunner : Component :=
  sparkComponent "runner" .benchmarkHarness "Engine runner" "1.0"
    [sparkArtifact "image:/opt/bench/runner" "application/vnd.elf" 18]

def ownedArtifacts : List RuntimeArtifactExpectation :=
  [⟨"/opt/bench/runner", "application/vnd.elf", hex (List.replicate 32 18), 4096,
     ["runner", "spark"]⟩,
   ⟨"/opt/spark/jars/iceberg.jar", "application/java-archive", hex (List.replicate 32 205), 4096,
     ["iceberg", "spark"]⟩]

theorem ownedArtifacts_eq :
    Engine.runtimeArtifacts (some ownedRunner) ownedEngine sparkConnector = .ok ownedArtifacts := by
  decide +kernel

theorem runtimeArtifacts_owners_runner :
    (ownedArtifacts.map place).Perm ((imageArtifacts ownedEngine).map referencePlace) :=
  (runtimeArtifacts_owners ownedArtifacts_eq).2.1

end CatalogBench.Engine
