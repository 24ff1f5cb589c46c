import CatalogBench.FaultProxy.Exactness

/-!
# Events across a replacement

`match` and `record` take the mutex separately, and `PUT` and `DELETE` start the events afresh
in between. The recorded events are those of the installed rule as long as no selected request
still has its event to record when the rule changes.
-/

set_option linter.all false

namespace CatalogBench.FaultProxy

open Threads

variable {go : GoLibrary}

/-- Every recorded event belongs to the installed rule. -/
structure EventsOfRule (memory : Memory go) : Prop where
  no_rule : memory.proxy.rule = none → memory.proxy.events = []
  of_rule : ∀ rule ∈ memory.proxy.rule, ∀ event ∈ memory.proxy.events,
    event.ruleId = rule.val.id ∧ rule.val.Window event.matchNumber ∧
      event.matchNumber ≤ memory.proxy.matchCount
  distinct : (memory.proxy.events.map (·.matchNumber)).Nodup

/-- A selected request that has its event still to record, or may have. -/
def Exchange.mayRecord (exchange : Exchange) : Bool :=
  exchange.selection.any fun selection => selection.inject &&
    (exchange.progress = .matched ||
      (exchange.progress = .forwarding && selection.disconnectsAfter) ||
      exchange.body.any fun body => !body.once && !body.closed)

namespace Thread

def mayRecord : Thread → Bool
  | .proxied exchange => exchange.mayRecord
  | .control _ => false

/-- A control request that is about to change the rule. -/
def ChangesRule (go : GoLibrary) : Thread → Prop
  | .control ⟨.put (some rule), .received⟩ => rule.validate go = .ok ()
  | .control ⟨.delete, .received⟩ => True
  | _ => False

/-- A request whose match takes the counter back to zero. -/
def Overflows (memory : Memory go) : Thread → Prop
  | .proxied exchange =>
    exchange.progress = .received ∧ memory.proxy.matchCount.toNat = 2 ^ 64 - 1 ∧
      ∃ rule ∈ memory.proxy.rule, rule.val.matches exchange.request = true
  | .control _ => False

end Thread

/-- Nothing of the old count is left when a thread starts a new one. -/
def Settled (memory : Memory go) (others : List Thread) (thread : Thread) : Prop :=
  (thread.ChangesRule go ∨ thread.Overflows memory →
    ∀ other ∈ others, other.mayRecord = false) ∧
  (thread.Overflows memory → memory.proxy.events = [])

/-! ## What is booked against the installed rule -/

def Event.key (event : Event) : String × UInt64 := (event.ruleId, event.matchNumber)

def Selection.key (selection : Selection) : String × UInt64 :=
  (selection.rule.id, selection.matchNumber)

def Memory.keys (memory : Memory go) : List (String × UInt64) :=
  memory.proxy.events.map Event.key

/-- The event that an exchange has still to record. -/
def Exchange.pending (exchange : Exchange) : List (String × UInt64) :=
  if exchange.mayRecord then exchange.selection.toList.map Selection.key else []

def Thread.pending : Thread → List (String × UInt64)
  | .proxied exchange => exchange.pending
  | .control _ => []

/-- Rules and numbers that fit the installed rule and its count. -/
structure Booked (memory : Memory go) (keys : List (String × UInt64)) : Prop where
  no_rule : memory.proxy.rule = none → keys = []
  of_rule : ∀ rule ∈ memory.proxy.rule, ∀ key ∈ keys,
    key.1 = rule.val.id ∧ rule.val.Window key.2 ∧ key.2 ≤ memory.proxy.matchCount
  distinct : (keys.map Prod.snd).Nodup

namespace Booked

variable {memory memory' : Memory go} {keys keys' : List (String × UInt64)}

theorem nil : Booked memory [] := ⟨fun _ => rfl, by simp, by simp⟩

theorem of_subperm (h : Booked memory keys) (hkeys : keys'.Subperm keys)
    (hrule : memory'.proxy.rule = memory.proxy.rule)
    (hcount : memory'.proxy.matchCount = memory.proxy.matchCount) : Booked memory' keys' where
  no_rule hnone := by
    have := h.no_rule (hrule ▸ hnone)
    subst this
    exact List.subperm_nil.mp hkeys
  of_rule rule hmem key hkey := by
    rw [hcount]
    exact h.of_rule rule (hrule ▸ hmem) key (hkeys.subset hkey)
  distinct := by
    obtain ⟨kept, hperm, hsub⟩ := hkeys
    exact (hperm.map Prod.snd).nodup_iff.mp (h.distinct.sublist (hsub.map Prod.snd))

theorem eventsOfRule (h : Booked memory keys) (hkeys : memory.keys.Subperm keys) :
    EventsOfRule memory := by
  have hevents := h.of_subperm hkeys rfl rfl
  refine ⟨fun hnone => ?_, fun rule hrule event hevent => ?_, ?_⟩
  · simpa [Memory.keys] using hevents.no_rule hnone
  · exact hevents.of_rule rule hrule event.key (List.mem_map_of_mem hevent)
  · simpa [Memory.keys, Event.key, Function.comp_def] using hevents.distinct

/-- A number that the counter gives out next is new. -/
theorem count (h : Booked memory keys) {rule : ValidRule go} (hrule : memory.proxy.rule = some rule)
    (hroom : memory.proxy.matchCount.toNat < 2 ^ 64 - 1) (inject : Bool)
    (hinject : inject = true → rule.val.Window (memory.proxy.matchCount + 1)) :
    Booked memory.countMatch
      ((if inject then [(rule.val.id, memory.proxy.matchCount + 1)] else []) ++ keys) := by
  have hnext : (memory.proxy.matchCount + 1).toNat = memory.proxy.matchCount.toNat + 1 := by
    rw [UInt64.toNat_add, UInt64.toNat_one]
    omega
  have hold : Booked memory.countMatch keys := by
    refine ⟨h.no_rule, fun rule' hrule' key hkey => ?_, h.distinct⟩
    obtain ⟨hid, hwindow, hle⟩ := h.of_rule rule' hrule' key hkey
    refine ⟨hid, hwindow, ?_⟩
    rw [UInt64.le_iff_toNat_le] at hle ⊢
    rw [Memory.countMatch_matchCount, hnext]
    omega
  cases inject with
  | false => exact hold
  | true =>
    refine ⟨fun hnone => ?_, fun rule' hrule' key hkey => ?_, ?_⟩
    · exact absurd (hrule.symm.trans hnone) (by simp)
    · rcases List.mem_cons.mp hkey with rfl | hkey
      · obtain rfl := Option.some.inj (hrule.symm.trans hrule')
        exact ⟨rfl, hinject rfl, UInt64.le_refl _⟩
      · exact hold.of_rule rule' hrule' key hkey
    · refine List.nodup_cons.mpr ⟨fun hmem => ?_, h.distinct⟩
      obtain ⟨key, hkey, hnumber⟩ := List.mem_map.mp hmem
      have hle := (h.of_rule rule hrule key hkey).2.2
      rw [hnumber, UInt64.le_iff_toNat_le, hnext] at hle
      omega

end Booked

namespace Exchange

/-- An exchange that may not record more than before has no more to book. -/
theorem pending_subperm {exchange exchange' : Exchange}
    (hselection : exchange'.selection = exchange.selection)
    (hrecord : exchange'.mayRecord = true → exchange.mayRecord = true) :
    exchange'.pending.Subperm exchange.pending := by
  unfold pending
  split
  · next h => rw [if_pos (hrecord h), hselection]
  · exact List.nil_subperm

theorem pending_eq_nil {exchange : Exchange} (h : exchange.mayRecord = false) :
    exchange.pending = [] := by
  simp [pending, h]

/-- What an exchange books is at most what it had to book and what it recorded. -/
theorem Step.pending_subperm {memory memory' : Memory go} {exchange exchange' : Exchange}
    (step : Step memory exchange memory' exchange') (h : exchange.Reached)
    (hstarted : exchange.progress ≠ .received) :
    memory'.proxy.matchCount = memory.proxy.matchCount ∧
      (memory'.keys ++ exchange'.pending).Subperm (memory.keys ++ exchange.pending) := by
  have hrecord {selection : Selection} {exchange' : Exchange} (status : Option ℕ)
      (hselection : exchange.selection = some selection) (hbefore : exchange.mayRecord = true)
      (hafter : exchange'.mayRecord = false) :
      ((memory.record selection exchange.request status).keys ++ exchange'.pending).Subperm
        (memory.keys ++ exchange.pending) := by
    obtain ⟨event, hnumber, hid, hevents⟩ := memory.record_events selection exchange.request status
    have hkey : event.key = selection.key := by simp [Event.key, Selection.key, hnumber, hid]
    rw [pending_eq_nil hafter, Memory.keys, hevents]
    simp only [pending, hbefore, hselection, hkey, Memory.keys, if_true, Option.toList_some,
      List.map_append, List.map_cons, List.map_nil, List.append_nil]
    exact List.Subperm.refl _
  have hkeep {exchange' : Exchange} (hselection : exchange'.selection = exchange.selection)
      (hmay : exchange'.mayRecord = true → exchange.mayRecord = true) :
      (memory.keys ++ exchange'.pending).Subperm (memory.keys ++ exchange.pending) :=
    (List.subperm_append_left _).mpr (Exchange.pending_subperm hselection hmay)
  cases step with
  | matchRequest hprogress => exact absurd hprogress hstarted
  | disconnectBefore hprogress hselection hbefore =>
    obtain ⟨request, selection, matchRelease, hlawful, rfl⟩ := h.of_matched hprogress
    cases hselection
    refine ⟨rfl, hrecord none rfl ?_ ?_⟩
    · simp [mayRecord, Selection.inject_of_disconnectsBefore hbefore]
    · simp [mayRecord]
  | refuseBodiless hprogress hselection hpauses =>
    obtain ⟨request, selection, matchRelease, hlawful, rfl⟩ := h.of_matched hprogress
    cases hselection
    refine ⟨rfl, hrecord none rfl ?_ ?_⟩
    · simp [mayRecord, Selection.inject_of_pauses hpauses]
    · simp [mayRecord]
  | gate hprogress hselection hpauses =>
    obtain ⟨request, selection, matchRelease, hlawful, rfl⟩ := h.of_matched hprogress
    cases hselection
    exact ⟨rfl, hkeep rfl fun _ => by simp [mayRecord, Selection.inject_of_pauses hpauses]⟩
  | forward hprogress hselection =>
    obtain ⟨request, selection, matchRelease, hlawful, rfl⟩ := h.of_matched hprogress
    refine ⟨rfl, hkeep rfl fun hmay => ?_⟩
    simp only [mayRecord, Option.any_some, Bool.and_eq_true] at hmay
    simp [mayRecord, hmay.1]
  | disconnectAfter status hprogress hselection hafter =>
    rcases h.of_forwarding hprogress with
      ⟨request, selection, body, matchRelease, hlawful, hpauses, hhasBody, rfl⟩ |
      ⟨request, selection, matchRelease, hlawful, hbefore, hpauses, rfl⟩
    · cases hselection
      rw [Selection.disconnectsAfter_of_pauses hpauses] at hafter
      cases hafter
    · cases hselection
      refine ⟨rfl, hrecord (some status) rfl ?_ ?_⟩
      · simp [mayRecord, hafter, Selection.inject_of_disconnectsAfter hafter]
      · simp [mayRecord]
  | upstreamFails hprogress | respond status hprogress =>
    refine ⟨rfl, hkeep rfl fun hmay => ?_⟩
    simp only [mayRecord, Option.any_eq_true, Bool.and_eq_true, Bool.or_eq_true] at hmay ⊢
    obtain ⟨selection, hselection, hinject, hmay⟩ := hmay
    refine ⟨selection, hselection, hinject, .inr ?_⟩
    simpa using hmay
  | pause hbody hselection hfirst honce hwaiting hclosed =>
    obtain ⟨request, selection, progress, matchRelease, hlawful, hpauses, hhasBody, hreceived,
      hmatched, rfl⟩ := h.of_body hbody
    cases hselection
    refine ⟨rfl, hrecord none rfl ?_ ?_⟩
    · simp [mayRecord, Selection.inject_of_pauses hpauses, honce, hclosed]
    · simp [mayRecord, hmatched, Selection.disconnectsAfter_of_pauses hpauses]
  | readFirst hbody | readAgain hbody | receive hbody =>
    refine ⟨rfl, hkeep rfl fun hmay => ?_⟩
    simpa only [mayRecord, hbody, Option.any_some] using hmay
  | closeBody hbody =>
    refine ⟨rfl, hkeep rfl fun hmay => ?_⟩
    simp only [mayRecord, Option.any_eq_true, Bool.and_eq_true, Bool.or_eq_true] at hmay ⊢
    obtain ⟨selection, hselection, hinject, hmay⟩ := hmay
    exact ⟨selection, hselection, hinject, .inl (by simpa using hmay)⟩

/-- A request that just arrived can only be matched. -/
theorem Step.of_received {memory memory' : Memory go} {exchange exchange' : Exchange}
    (step : Step memory exchange memory' exchange') (h : exchange.Reached)
    (hprogress : exchange.progress = .received) :
    memory' = (memory.matchRequest exchange.request).1 ∧
      exchange' = { exchange with
        selection := some (memory.matchRequest exchange.request).2
        progress := .matched
        matchRelease := memory.proxy.release } := by
  obtain ⟨request, matchRelease, rfl⟩ := h.of_received hprogress
  cases step with
  | matchRequest => exact ⟨rfl, rfl⟩
  | pause hbody | readFirst hbody | readAgain hbody | receive hbody | closeBody hbody => cases hbody
  | disconnectBefore h | refuseBodiless h | gate h | forward h | upstreamFails h
  | disconnectAfter _ h | respond _ h => cases h

end Exchange

/-- The fact about one thread that every run keeps. -/
def Thread.Sound : Thread → Prop
  | .proxied exchange => exchange.Reached
  | .control _ => True

theorem Thread.Arrived.sound {thread : Thread} (h : thread.Arrived) : thread.Sound := by
  cases h with
  | request request => exact .received request none
  | control => trivial

theorem Thread.Step.sound {memory memory' : Memory go} {thread thread' : Thread}
    (step : Thread.Step memory thread memory' thread') (h : thread.Sound) : thread'.Sound := by
  cases step with
  | proxied step => exact step.reached h
  | control => trivial

/-! ## One step -/

/-- Nothing is outstanding among threads that may not record. -/
theorem flatMap_pending_eq_nil {threads : List Thread}
    (h : ∀ thread ∈ threads, thread.mayRecord = false) : threads.flatMap Thread.pending = [] := by
  refine List.flatMap_eq_nil_iff.mpr fun thread hthread => ?_
  cases thread with
  | proxied exchange => exact Exchange.pending_eq_nil (h _ hthread)
  | control => rfl

namespace Booked

variable {memory memory' : Memory go} {rest : List (String × UInt64)}

/-- A match books the number of a selected request and nothing else. -/
theorem of_match {exchange : Exchange} (h : Booked memory (memory.keys ++ rest))
    (hreached : exchange.Reached) (hprogress : exchange.progress = .received)
    (hroom : Thread.Overflows memory (.proxied exchange) → memory.keys ++ rest = []) :
    Booked (memory.matchRequest exchange.request).1
      ((memory.matchRequest exchange.request).1.keys ++
        (Exchange.pending { exchange with
          selection := some (memory.matchRequest exchange.request).2
          progress := .matched
          matchRelease := memory.proxy.release } ++ rest)) := by
  obtain ⟨request, matchRelease, rfl⟩ := hreached.of_received hprogress
  rcases memory.matchRequest_cases request with ⟨heq, -⟩ |
    ⟨rule, inject, hrule, hmatches, heq, hinject⟩
  · simpa [heq, Exchange.pending, Exchange.mayRecord, Memory.unmatched] using h
  · have hpending : Exchange.pending ⟨request, some ⟨rule.val, memory.proxy.matchCount + 1, inject⟩,
        .matched, none, memory.proxy.release, 0, 0⟩ =
          if inject then [(rule.val.id, memory.proxy.matchCount + 1)] else [] := by
      cases inject <;> simp [Exchange.pending, Exchange.mayRecord, Selection.key]
    simp only [heq, hpending]
    rw [show memory.countMatch.keys = memory.keys from rfl]
    by_cases hfull : memory.proxy.matchCount.toNat < 2 ^ 64 - 1
    · refine (h.count hrule hfull inject hinject.mp).of_subperm (List.Perm.subperm ?_) rfl rfl
      rw [← List.append_assoc, ← List.append_assoc]
      exact List.perm_append_comm.append_right rest
    · -- the counter is zero again, and zero is in no window
      have hlast : memory.proxy.matchCount.toNat = 2 ^ 64 - 1 := by
        have := memory.proxy.matchCount.toNat_lt
        omega
      have hnone := hroom ⟨rfl, hlast, rule, hrule, hmatches⟩
      have hzero : inject = false := by
        rw [Bool.eq_false_iff]
        intro htrue
        have hwindow := (hinject.mp htrue).1
        have hpos := (Rule.validated rule.property).occurrence_pos
        rw [UInt64.toNat_add, hlast] at hwindow
        simp only [UInt64.toNat_one] at hwindow
        omega
      simp only [List.append_eq_nil_iff] at hnone
      simp only [hzero, hnone.1, hnone.2]
      exact nil

/-- A new rule has nothing booked against it yet. -/
theorem of_no_events (hevents : memory.proxy.events = []) (hrest : rest = []) :
    Booked memory (memory.keys ++ rest) := by
  rw [Memory.keys, hevents, hrest]
  exact nil

theorem of_step {thread thread' : Thread} {before after : List Thread}
    (h : Booked memory (memory.keys ++ (before ++ thread :: after).flatMap Thread.pending))
    (hsound : thread.Sound) (allowed : Settled memory (before ++ after) thread)
    (step : Thread.Step memory thread memory' thread') :
    Booked memory' (memory'.keys ++ (before ++ thread' :: after).flatMap Thread.pending) := by
  have hmiddle := perm_flatMap_middle Thread.pending
  have hold : Booked memory (memory.keys ++
      (thread.pending ++ (before ++ after).flatMap Thread.pending)) :=
    h.of_subperm ((hmiddle thread before after).symm.append_left _).subperm rfl rfl
  suffices Booked memory' (memory'.keys ++
      (thread'.pending ++ (before ++ after).flatMap Thread.pending)) from
    this.of_subperm ((hmiddle thread' before after).append_left _).subperm rfl rfl
  cases step with
  | @proxied _ exchange exchange' step =>
    by_cases hprogress : exchange.progress = .received
    · obtain ⟨rfl, rfl⟩ := step.of_received hsound hprogress
      have hnone : Thread.pending (.proxied exchange) = [] := by
        obtain ⟨request, matchRelease, rfl⟩ := hsound.of_received hprogress
        rfl
      rw [hnone, List.nil_append] at hold
      refine hold.of_match hsound hprogress fun hfull => ?_
      rw [flatMap_pending_eq_nil (allowed.1 (.inr hfull)), Memory.keys, allowed.2 hfull]
      rfl
    · obtain ⟨hcount, hsubperm⟩ := step.pending_subperm hsound hprogress
      refine hold.of_subperm ?_ step.rule_eq hcount
      rw [← List.append_assoc, ← List.append_assoc]
      exact (List.subperm_append_right _).mpr hsubperm
  | control step =>
    cases step with
    | put valid =>
      exact of_no_events (Memory.putRule_events memory _)
        (flatMap_pending_eq_nil (allowed.1 (.inl valid)))
    | delete => exact of_no_events rfl (flatMap_pending_eq_nil (allowed.1 (.inl trivial)))
    | release hrelease =>
      obtain ⟨channel, -, -, rfl⟩ := Memory.releaseRule_eq_some.mp hrelease
      exact hold.of_subperm (List.Subperm.refl _) rfl rfl
    | _ => exact hold

end Booked

/-- In a run that changes the rule only when no selected request is outstanding, and that never
takes the counter past its end under recorded events, the events are those of the installed
rule. -/
theorem events_of_installed_rule {arrived threads : List Thread} {memory : Memory go}
    (harrived : ∀ thread ∈ arrived, thread.Arrived)
    (run : GuardedRun Settled Thread.Step (Memory.new, arrived) (memory, threads)) :
    EventsOfRule memory := by
  have hkeeps : ∀ {memory memory' : Memory go} {thread thread' : Thread} {others : List Thread},
      True → thread.Sound → Settled memory others thread →
      Thread.Step memory thread memory' thread' →
      True ∧ thread'.Sound ∧ ∀ other ∈ others, other.Sound → other.Sound :=
    fun _ hsound _ step => ⟨trivial, step.sound hsound, fun _ _ h => h⟩
  have hrun := run.strengthen (S := fun _ => True) (T := fun _ => Thread.Sound)
    hkeeps trivial fun thread hthread => (harrived thread hthread).sound
  have hbooked : Booked memory (memory.keys ++ threads.flatMap Thread.pending) := by
    refine hrun.preserves (I := fun memory threads =>
      Booked memory (memory.keys ++ threads.flatMap Thread.pending))
      (fun hbooked allowed step => hbooked.of_step allowed.2.2.1 allowed.1 step) ?_
    refine Booked.of_no_events rfl (List.flatMap_eq_nil_iff.mpr fun thread hthread => ?_)
    cases harrived thread hthread <;> rfl
  exact hbooked.eventsOfRule (List.sublist_append_left _ _).subperm

theorem Settled.of_proxied {memory : Memory go} {others : List Thread} {exchange : Exchange}
    (hroom : memory.proxy.matchCount.toNat ≠ 2 ^ 64 - 1) :
    Settled memory others (.proxied exchange) :=
  ⟨fun h => absurd (h.resolve_left id).2.1 hroom, fun h => absurd h.2.1 hroom⟩

theorem Settled.of_control {memory : Memory go} {others : List Thread} {handling : Control}
    (h : ∀ other ∈ others, other.mayRecord = false) : Settled memory others (.control handling) :=
  ⟨fun _ => h, nofun⟩

/-- A rule that is installed, spends its one injection and is deleted. -/
theorem events_of_installed_rule_deleted :
    ∃ threads, ∃ memory : Memory sampleGo,
      GuardedRun Settled Thread.Step (Memory.new, [.ofControl (.put disconnectRule.val),
        .ofRequest commitRequest, .ofControl .delete]) (memory, threads) ∧
      memory.proxy.rule = none ∧ EventsOfRule memory := by
  have run : GuardedRun Settled Thread.Step ((Memory.new : Memory sampleGo),
      [.ofControl (.put disconnectRule.val), .ofRequest commitRequest, .ofControl .delete])
      (_, _) :=
    .head (.mk [] [_, _] (.of_control (by decide)) (.control (.put disconnectRule.property))) <|
    .head (.mk [_] [_] (.of_proxied (by decide)) (.proxied (.matchRequest rfl))) <|
    .head (.mk [_] [_] (.of_proxied (by decide))
      (.proxied (.disconnectBefore rfl rfl (by decide)))) <|
    .head (.mk [_, _] [] (.of_control (by decide)) (.control .delete)) .refl
  refine ⟨_, _, run, rfl, events_of_installed_rule ?_ run⟩
  simp only [List.mem_cons, List.not_mem_nil, or_false]
  rintro thread (rfl | rfl | rfl)
  · exact .control _
  · exact .request _
  · exact .control _

/-- A request is matched, the rule is deleted, and then the request records its event. -/
theorem event_recorded_after_delete :
    ∃ arrived threads, ∃ memory : Memory sampleGo, (∀ thread ∈ arrived, thread.Arrived) ∧
      Run Thread.Step (Memory.new, arrived) (memory, threads) ∧ ¬EventsOfRule memory := by
  have run : Run Thread.Step ((Memory.new : Memory sampleGo),
      [.ofControl (.put disconnectRule.val), .ofRequest commitRequest, .ofControl .delete])
      (_, _) :=
    .head (.mk [] [_, _] trivial (.control (.put disconnectRule.property))) <|
    .head (.mk [_] [_] trivial (.proxied (.matchRequest rfl))) <|
    .head (.mk [_, _] [] trivial (.control .delete)) <|
    .head (.mk [_] [_] trivial (.proxied (.disconnectBefore rfl rfl (by decide)))) .refl
  refine ⟨_, _, _, ?_, run, fun h => ?_⟩
  · simp only [List.mem_cons, List.not_mem_nil, or_false]
    rintro thread (rfl | rfl | rfl)
    · exact .control _
    · exact .request _
    · exact .control _
  · exact absurd (h.no_rule rfl) (by simp [Memory.record])

end CatalogBench.FaultProxy
