import CatalogBench.Engine.Grammar
import CatalogBench.Library.LineReader

/-!
# Decoding the output of an engine process

The decoder reads bytes in chunks. Below its byte limit it is the bounded line
reader `reader`, so what it captures is a function of the lines of the whole
stream (`capture_eq_conclude`). From that follow the independence of the chunks and
the characterisation of the accepted streams by `EventWord`.
-/

set_option linter.all false

namespace CatalogBench.Engine
open MachineInt

/-- The payloads of the event lines of a stream, in order. -/
def eventPayloads (lines : List (List UInt8)) : List (List UInt8) :=
  (lines.filter engineEventPrefix.isPrefixOf).map (·.drop engineEventPrefix.length)

namespace EngineEventDecoder

variable (decode : List UInt8 → Option EngineEvent)

/-- The part of the decoder that lines act on. -/
def core (d : EngineEventDecoder) : EngineEventDecoder :=
  { d with line := [], stdoutBytesObserved := 0 }

/-- The decoder as a bounded line reader. -/
def reader : LineReader UInt8 EngineEventDecoder where
  sep := lineFeed
  limit := maximumEngineEventBytes
  onLine d line := core ({ d with line := line }.finishLine decode)
  overlong d := d.fail .eventLineTooLarge
  stuck d := d.failure.isSome

/-- What a decoder is as a state of `reader`: a failed decoder has no line. -/
def view (d : EngineEventDecoder) : EngineEventDecoder × List UInt8 :=
  (d.core, if d.failure.isSome then [] else d.line)

/-- The capture made of the final state of `reader`. -/
def conclude (d : EngineEventDecoder) (stdoutBytesObserved : ℕ) : EngineEventCapture where
  events := d.events
  failure := if d.failure.isNone && !d.terminal then some ⟨.missingTerminal⟩ else d.failure
  stdoutBytesObserved := stdoutBytesObserved

/-- Line-by-line decoding without any byte limit. -/
def unbounded (stream : List UInt8) : EngineEventDecoder :=
  (stream.splitOn lineFeed).foldl (reader decode).onLine new

@[simp] theorem reader_sep : (reader decode).sep = lineFeed := rfl

@[simp] theorem reader_limit : (reader decode).limit = maximumEngineEventBytes := rfl

theorem reader_overlong_stuck (d : EngineEventDecoder) :
    (reader decode).stuck ((reader decode).overlong d) = true :=
  d.fail_failure_isSome _

-- ════════════════════════════════
-- One line
-- ════════════════════════════════

@[simp] theorem core_events (d : EngineEventDecoder) : d.core.events = d.events := rfl

@[simp] theorem core_failure (d : EngineEventDecoder) : d.core.failure = d.failure := rfl

@[simp] theorem core_terminal (d : EngineEventDecoder) : d.core.terminal = d.terminal := rfl

theorem core_fail (d : EngineEventDecoder) (kind : EngineProtocolFailureKind) :
    core (d.fail kind) = (core d).fail kind := by
  unfold fail core
  split <;> rfl

theorem core_accept (d : EngineEventDecoder) (e : EngineEvent) :
    core (d.accept e) = (core d).accept e := by
  cases e with
  | fixturePreflight absent =>
    cases absent <;> simp only [accept, apply_ite core, core_fail] <;> rfl
  | _ => simp only [accept, apply_ite core, core_fail]; rfl

/-- `finish_line` reads the line and nothing else outside the core. -/
theorem core_finishLine (d : EngineEventDecoder) :
    core (d.finishLine decode) = (reader decode).onLine d.core d.line := by
  have hline : ({ d.core with line := d.line } : EngineEventDecoder).core = d.core := rfl
  simp only [reader, finishLine, apply_ite core, hline]
  cases decode (d.line.drop engineEventPrefix.length) with
  | none => simp only [core_fail, hline]; rfl
  | some e => simp only [core_accept, hline]; rfl

theorem finishLine_failed {d : EngineEventDecoder} (h : d.failure.isSome = true) :
    d.finishLine decode = d := by
  rw [finishLine, h, Bool.true_or, if_pos rfl]

theorem finishLine_nil {d : EngineEventDecoder} (h : d.line = []) : d.finishLine decode = d := by
  have hnoise : engineEventPrefix.isPrefixOf ([] : List UInt8) = false := by decide
  rw [finishLine, h, hnoise, Bool.not_false, Bool.or_true, if_pos rfl]

theorem accept_extends (d : EngineEventDecoder) (e : EngineEvent) :
    d.events <+: (d.accept e).events := by
  obtain ⟨kind, he⟩ | ⟨_, _, he⟩ | ⟨_, _, _, he⟩ := d.accept_cases e
  · simp [he]
  · simp [he]
  · simp [he]

theorem finishLine_extends (d : EngineEventDecoder) :
    d.events <+: (d.finishLine decode).events := by
  unfold finishLine
  split
  · exact List.prefix_rfl
  split
  · simp
  · exact accept_extends d _

theorem onLine_extends (d : EngineEventDecoder) (line : List UInt8) :
    d.events <+: ((reader decode).onLine d line).events :=
  finishLine_extends decode { d with line := line }

-- ════════════════════════════════
-- Chunks
-- ════════════════════════════════

theorem view_pushBytes (d : EngineEventDecoder) (bytes : List UInt8) :
    view (d.pushBytes decode bytes) = (reader decode).feed (view d) bytes := by
  induction bytes generalizing d with
  | nil => rfl
  | cons b bytes ih =>
    rw [pushBytes, LineReader.feed_cons]
    by_cases hf : d.failure.isSome = true
    · -- nothing a failed decoder does shows in its view
      have hview : view d = (d.core, []) := by simp [view, hf]
      have hstuck : (reader decode).stuck d.core = true := hf
      have hbyte : (reader decode).byte (d.core, []) b = (d.core, []) := if_pos hstuck
      rw [hview, hbyte]
      have hsame : ∀ e : EngineEventDecoder, e.core = d.core →
          view (e.pushBytes decode bytes) = (reader decode).feed (d.core, []) bytes := by
        intro e he
        have hfe : e.failure.isSome = true := by
          rw [← core_failure e, he]
          exact hf
        rw [ih, show view e = (d.core, []) by simp [view, hfe, he]]
      split_ifs
      · exact hsame _ (by rw [finishLine_failed decode hf]; rfl)
      · exact hsame _ rfl
      · rw [LineReader.feed_stuck _ hstuck]
        simp [fail, view, Option.isSome_iff_ne_none.mp hf, hf]
    · have hview : view d = (d.core, d.line) := by simp [view, hf]
      have hfree : ¬(reader decode).stuck d.core = true := hf
      rw [hview, LineReader.byte, if_neg hfree, reader_sep, reader_limit]
      by_cases hb : b = lineFeed
      · rw [if_pos hb, if_pos hb, ih]
        have : view { d.finishLine decode with line := [] } =
            ((reader decode).onLine d.core d.line, []) := by
          rw [← core_finishLine]
          simp [view, core]
        rw [this]
      · rw [if_neg hb, if_neg hb]
        by_cases hlen : d.line.length < maximumEngineEventBytes
        · rw [if_pos hlen, if_pos hlen, ih]
          simp [view, core, hf]
        · rw [if_neg hlen, if_neg hlen, LineReader.feed_stuck _ (reader_overlong_stuck decode _)]
          simp only [view, fail_failure_isSome, if_true, core_fail]
          rfl

@[simp] theorem accept_stdoutBytesObserved (d : EngineEventDecoder) (e : EngineEvent) :
    (d.accept e).stdoutBytesObserved = d.stdoutBytesObserved := by
  obtain ⟨kind, he⟩ | ⟨_, _, he⟩ | ⟨_, _, _, he⟩ := d.accept_cases e
  · simp [he]
  · rw [he]
  · rw [he]

@[simp] theorem finishLine_stdoutBytesObserved (d : EngineEventDecoder) :
    (d.finishLine decode).stdoutBytesObserved = d.stdoutBytesObserved := by
  unfold finishLine
  split
  · rfl
  split
  · simp
  · simp

@[simp] theorem pushBytes_stdoutBytesObserved (d : EngineEventDecoder) (bytes : List UInt8) :
    (d.pushBytes decode bytes).stdoutBytesObserved = d.stdoutBytesObserved := by
  induction bytes generalizing d with
  | nil => rfl
  | cons b bytes ih =>
    rw [pushBytes]
    split_ifs
    · rw [ih]
      simp
    · rw [ih]
    · simp

theorem push_within (d : EngineEventDecoder) (bytes : List UInt8)
    (h : d.stdoutBytesObserved + bytes.length ≤ maximumEngineStdoutBytes) :
    view (d.push decode bytes) = (reader decode).feed (view d) bytes ∧
      (d.push decode bytes).stdoutBytesObserved = d.stdoutBytesObserved + bytes.length := by
  have hsum : saturatingAdd 64 d.stdoutBytesObserved bytes.length =
      d.stdoutBytesObserved + bytes.length := by
    apply saturatingAdd_of_lt
    simp only [maximumEngineStdoutBytes] at h
    omega
  unfold push
  simp only [hsum]
  rw [if_neg (by omega)]
  split_ifs with hf
  · rw [show view d = (d.core, []) by simp [view, hf], LineReader.feed_stuck _ hf]
    exact ⟨by simp [view, hf, core], rfl⟩
  · exact ⟨view_pushBytes decode _ bytes, by simp⟩

theorem push_beyond (d : EngineEventDecoder) (bytes : List UInt8)
    (h : maximumEngineStdoutBytes < d.stdoutBytesObserved + bytes.length) :
    (d.push decode bytes).events = d.events ∧ (d.push decode bytes).failure.isSome = true := by
  unfold push
  have hgt : saturatingAdd 64 d.stdoutBytesObserved bytes.length > maximumEngineStdoutBytes := by
    simp only [saturatingAdd, maximumEngineStdoutBytes] at h ⊢
    omega
  rw [if_pos hgt]
  exact ⟨by simp, fail_failure_isSome _ _⟩

theorem foldl_push_within (d : EngineEventDecoder) (chunks : List (List UInt8))
    (h : d.stdoutBytesObserved + chunks.flatten.length ≤ maximumEngineStdoutBytes) :
    view (chunks.foldl (push decode) d) = (reader decode).feed (view d) chunks.flatten ∧
      (chunks.foldl (push decode) d).stdoutBytesObserved =
        d.stdoutBytesObserved + chunks.flatten.length := by
  induction chunks generalizing d with
  | nil => exact ⟨rfl, rfl⟩
  | cons chunk chunks ih =>
    simp only [List.flatten_cons, List.length_append] at h ⊢
    obtain ⟨hview, hobserved⟩ := push_within decode d chunk (by omega)
    obtain ⟨hview', hobserved'⟩ := ih (d.push decode chunk) (by omega)
    rw [List.foldl_cons, hview', hobserved', hview, hobserved, LineReader.feed_append]
    exact ⟨rfl, by omega⟩

theorem push_failed {d : EngineEventDecoder} (h : d.failure.isSome = true) (bytes : List UInt8) :
    (d.push decode bytes).events = d.events ∧ (d.push decode bytes).failure.isSome = true := by
  unfold push
  dsimp only
  split_ifs
  · exact ⟨by simp, fail_failure_isSome _ _⟩
  · exact ⟨rfl, h⟩

theorem foldl_push_failed {d : EngineEventDecoder} (h : d.failure.isSome = true)
    (chunks : List (List UInt8)) :
    (chunks.foldl (push decode) d).events = d.events ∧
      (chunks.foldl (push decode) d).failure.isSome = true := by
  induction chunks generalizing d with
  | nil => exact ⟨rfl, h⟩
  | cons chunk chunks ih =>
    obtain ⟨hevents, hfail⟩ := push_failed decode h chunk
    obtain ⟨hevents', hfail'⟩ := ih hfail
    exact ⟨hevents'.trans hevents, hfail'⟩

/-- A decoder that runs over the byte limit has failed with the events of some
beginning of the stream: the chunk that crosses the limit is not read. -/
theorem foldl_push_beyond (d : EngineEventDecoder) (chunks : List (List UInt8))
    (hd : d.stdoutBytesObserved ≤ maximumEngineStdoutBytes)
    (h : maximumEngineStdoutBytes < d.stdoutBytesObserved + chunks.flatten.length) :
    (chunks.foldl (push decode) d).failure.isSome = true ∧
      ∃ p, p <+: chunks.flatten ∧
        (chunks.foldl (push decode) d).events = ((reader decode).feed (view d) p).1.events := by
  induction chunks generalizing d with
  | nil => simp at h; omega
  | cons chunk chunks ih =>
    simp only [List.flatten_cons, List.length_append] at h ⊢
    by_cases hchunk : d.stdoutBytesObserved + chunk.length ≤ maximumEngineStdoutBytes
    · obtain ⟨hview, hobserved⟩ := push_within decode d chunk hchunk
      obtain ⟨hfail, p, hp, hevents⟩ := ih (d.push decode chunk) (by omega) (by omega)
      refine ⟨hfail, chunk ++ p, List.prefix_append_right_inj chunk |>.mpr hp, ?_⟩
      rw [List.foldl_cons, hevents, hview, LineReader.feed_append]
    · obtain ⟨hevents, hfail⟩ := push_beyond decode d chunk (by omega)
      obtain ⟨hevents', hfail'⟩ := foldl_push_failed decode hfail chunks
      exact ⟨hfail', [], List.nil_prefix, hevents'.trans hevents⟩

-- ════════════════════════════════
-- Whole streams
-- ════════════════════════════════

theorem finish_eq_conclude (d : EngineEventDecoder) :
    d.finish decode = conclude ((reader decode).close (view d)) d.stdoutBytesObserved := by
  by_cases hf : d.failure.isSome = true
  · have hne : d.failure.isNone = false := by simpa using hf
    rw [show view d = (d.core, []) by simp [view, hf], LineReader.close,
      if_pos (show (reader decode).stuck d.core = true from hf)]
    simp [finish, conclude, hne]
  · have hnone : d.failure.isNone = true := by simpa using hf
    have hlast : (if d.failure.isNone && !d.line.isEmpty then d.finishLine decode else d) =
        d.finishLine decode := by
      cases hline : d.line with
      | nil => simp [finishLine_nil decode hline]
      | cons _ _ => simp [hnone]
    rw [show view d = (d.core, d.line) by simp [view, hf], LineReader.close,
      if_neg (show ¬(reader decode).stuck d.core = true from hf), ← core_finishLine]
    unfold finish conclude
    simp only [hlast, core_events, core_failure, core_terminal]
    rw [← finishLine_stdoutBytesObserved decode d]
    generalize d.finishLine decode = e
    obtain ⟨line, events, failure, observed, nextStage, terminal⟩ := e
    cases failure <;> cases terminal <;> rfl

/-- Below the byte limit a capture is a function of the lines of the stream. -/
theorem capture_eq_conclude (chunks : List (List UInt8))
    (h : chunks.flatten.length ≤ maximumEngineStdoutBytes) :
    capture decode chunks =
      conclude ((chunks.flatten.splitOn lineFeed).foldl (reader decode).line new)
        chunks.flatten.length := by
  have hnew : (new : EngineEventDecoder).stdoutBytesObserved = 0 := rfl
  obtain ⟨hview, hobserved⟩ := foldl_push_within decode new chunks (by omega)
  rw [capture, finish_eq_conclude, hview, hobserved, hnew, Nat.zero_add]
  have hclose := (reader decode).close_feed (reader_overlong_stuck decode) new []
    chunks.flatten (Nat.zero_le _)
  rw [show view new = (new, []) from rfl, hclose]
  obtain ⟨first, rest, hsplit⟩ :=
    List.exists_cons_of_ne_nil (List.splitOn_ne_nil lineFeed chunks.flatten)
  simp [hsplit]

/-- Reading a beginning of a stream finds no events that decoding all its lines misses. -/
theorem feed_events_prefix {p stream : List UInt8} (hp : p <+: stream) :
    ((reader decode).feed (new, []) p).1.events <+: (unbounded decode stream).events := by
  obtain ⟨rest, rfl⟩ := hp
  let r := reader decode
  let grows : EngineEventDecoder → EngineEventDecoder → Prop := fun s t => s.events <+: t.events
  have hrefl : ∀ s, grows s s := fun _ => List.prefix_rfl
  have htrans : ∀ a b c, grows a b → grows b c → grows a c := fun _ _ _ => List.IsPrefix.trans
  have hline : ∀ s l, grows s (r.onLine s l) := onLine_extends decode
  have hlong : ∀ s, (r.overlong s).events = s.events := fun s => s.fail_events _
  have hfeed : grows (r.feed (new, []) p).1 (r.feed (new, []) (p ++ rest)).1 := by
    rw [LineReader.feed_append]
    exact r.feed_grows hrefl htrans hline (fun s => by simp [grows, hlong]) _ _
  have hclose := r.close_grows hrefl hline (r.feed (new, []) (p ++ rest))
  rw [r.close_feed (reader_overlong_stuck decode) new [] _ (Nat.zero_le _)] at hclose
  have hall := r.foldl_line_le_onLine hrefl htrans hline (reader_overlong_stuck decode)
    (fun s t hst => by simpa only [grows, hlong] using hst) new ((p ++ rest).splitOn lineFeed)
  refine hfeed.trans (hclose.trans ?_)
  obtain ⟨first, others, hsplit⟩ :=
    List.exists_cons_of_ne_nil (List.splitOn_ne_nil lineFeed (p ++ rest))
  simpa only [reader_sep, r, hsplit, List.modifyHead_cons, List.nil_append, unbounded] using hall

theorem capture_beyond (chunks : List (List UInt8))
    (h : maximumEngineStdoutBytes < chunks.flatten.length) :
    (capture decode chunks).failure.isSome = true ∧
      (capture decode chunks).events <+: (unbounded decode chunks.flatten).events := by
  have hnew : (new : EngineEventDecoder).stdoutBytesObserved = 0 := rfl
  obtain ⟨hfail, p, hp, hevents⟩ := foldl_push_beyond decode new chunks (by omega) (by omega)
  have hsame : (capture decode chunks).events = (chunks.foldl (push decode) new).events ∧
      (capture decode chunks).failure = (chunks.foldl (push decode) new).failure := by
    have hne := Option.isNone_eq_false_iff.mpr hfail
    simp [capture, finish, hne]
  rw [hsame.1, hsame.2, hevents]
  exact ⟨hfail, feed_events_prefix decode hp⟩

/-- What is captured does not depend on how the output was cut into chunks. Beyond the byte
limit the captures may differ, but both have failed and hold only events of the stream. -/
theorem capture_chunk_independent (xs ys : List (List UInt8)) (h : xs.flatten = ys.flatten) :
    (xs.flatten.length ≤ maximumEngineStdoutBytes → capture decode xs = capture decode ys) ∧
    (maximumEngineStdoutBytes < xs.flatten.length →
      (capture decode xs).failure.isSome = true ∧ (capture decode ys).failure.isSome = true ∧
      (capture decode xs).events <+: (unbounded decode xs.flatten).events ∧
      (capture decode ys).events <+: (unbounded decode xs.flatten).events) := by
  constructor
  · intro hle
    rw [capture_eq_conclude decode xs hle, capture_eq_conclude decode ys (h ▸ hle), h]
  · intro hgt
    obtain ⟨hfx, hex⟩ := capture_beyond decode xs hgt
    obtain ⟨hfy, hey⟩ := capture_beyond decode ys (h ▸ hgt)
    exact ⟨hfx, hfy, hex, h ▸ hey⟩

theorem capture_chunk_independent_split :
    capture (fun _ => none) [utf8 "CATALOG_BENCH_", [], utf8 "EVENT \nready"] =
      capture (fun _ => none) [utf8 "CATALOG_BENCH_EVENT \n", utf8 "ready"] ∧
    (capture (fun _ => none) [List.replicate 1048577 lineFeed]).failure.isSome = true := by
  have hlong : ([List.replicate 1048577 lineFeed] : List (List UInt8)).flatten.length =
      1048577 := by
    rw [List.flatten_cons, List.flatten_nil, List.append_nil, List.length_replicate]
  refine ⟨(capture_chunk_independent _ _ _ (by decide)).1 (by decide), ?_⟩
  exact ((capture_chunk_independent _ _ [List.replicate 1048577 lineFeed] rfl).2
    (by rw [hlong]; decide)).1

-- ════════════════════════════════
-- Accepted streams
-- ════════════════════════════════

section Lines

variable {d : EngineEventDecoder} {line : List UInt8}

theorem onLine_noise (h : engineEventPrefix.isPrefixOf line = false) :
    (reader decode).onLine d line = d.core := by
  change core (finishLine decode { d with line := line }) = d.core
  simp only [finishLine, h, Bool.not_false, Bool.or_true, if_true]
  rfl

theorem onLine_malformed (hf : d.failure = none) (h : engineEventPrefix.isPrefixOf line = true)
    (hd : decode (line.drop engineEventPrefix.length) = none) :
    ((reader decode).onLine d line).failure.isSome = true := by
  change (core (finishLine decode { d with line := line })).failure.isSome = true
  simp only [finishLine, h, hf, hd, Option.isSome_none, Bool.not_true, Bool.or_false,
    Bool.false_eq_true, if_false, core_failure]
  exact fail_failure_isSome _ _

theorem onLine_event (hf : d.failure = none) (h : engineEventPrefix.isPrefixOf line = true)
    {e : EngineEvent} (hd : decode (line.drop engineEventPrefix.length) = some e) :
    (reader decode).onLine d line = d.core.accept e := by
  change core (finishLine decode { d with line := line }) = d.core.accept e
  simp only [finishLine, h, hf, hd, Option.isSome_none, Bool.not_true, Bool.or_false,
    Bool.false_eq_true, if_false, core_accept]
  rw [← hf]
  rfl

end Lines

theorem eventPayloads_noise {line : List UInt8} (h : engineEventPrefix.isPrefixOf line = false)
    (lines : List (List UInt8)) : eventPayloads (line :: lines) = eventPayloads lines := by
  simp only [eventPayloads, List.filter_cons, h, Bool.false_eq_true, if_false]

theorem eventPayloads_event {line : List UInt8} (h : engineEventPrefix.isPrefixOf line = true)
    (lines : List (List UInt8)) :
    eventPayloads (line :: lines) =
      line.drop engineEventPrefix.length :: eventPayloads lines := by
  simp only [eventPayloads, List.filter_cons, h, if_true, List.map_cons]

theorem line_of_le {d : EngineEventDecoder} {line : List UInt8} (hf : d.failure = none)
    (hlen : line.length ≤ maximumEngineEventBytes) :
    (reader decode).line d line = (reader decode).onLine d line := by
  have hfree : ¬(reader decode).stuck d = true := by simp [reader, hf]
  rw [LineReader.line, if_neg hfree, reader_limit, if_pos hlen]

/-- Lines that were read without failure are the acceptance of the events they encode. -/
theorem foldl_line_ok {lines : List (List UInt8)}
    (hlen : ∀ l ∈ lines, l.length ≤ maximumEngineEventBytes)
    {d : EngineEventDecoder} (hcore : d.core = d)
    (hok : (lines.foldl (reader decode).line d).failure = none) :
    ∃ w, (eventPayloads lines).mapM decode = some w ∧
      lines.foldl (reader decode).line d = w.foldl accept d := by
  induction lines generalizing d with
  | nil => exact ⟨[], rfl, rfl⟩
  | cons line lines ih =>
    rw [List.forall_mem_cons] at hlen
    have hf : d.failure = none := by
      by_contra hne
      have hstuck : (reader decode).stuck d = true := Option.isSome_iff_ne_none.mpr hne
      rw [LineReader.foldl_line_stuck _ hstuck] at hok
      exact hne hok
    rw [List.foldl_cons, line_of_le decode hf hlen.1] at hok ⊢
    cases hstarts : engineEventPrefix.isPrefixOf line with
    | false =>
      rw [onLine_noise decode hstarts, hcore] at hok ⊢
      rw [eventPayloads_noise hstarts]
      exact ih hlen.2 hcore hok
    | true =>
      rw [eventPayloads_event hstarts]
      cases hd : decode (line.drop engineEventPrefix.length) with
      | none =>
        have hstuck := onLine_malformed decode hf hstarts hd
        rw [LineReader.foldl_line_stuck _ hstuck] at hok
        simp [hok] at hstuck
      | some e =>
        rw [onLine_event decode hf hstarts hd, hcore] at hok ⊢
        obtain ⟨w, hw, hfold⟩ := ih hlen.2 (by rw [core_accept, hcore]) hok
        exact ⟨e :: w, by simp [hd, hw], by rw [hfold, List.foldl_cons]⟩

/-- Conversely, events that are accepted without failure are read without failure. -/
theorem foldl_line_of_accept {lines : List (List UInt8)}
    (hlen : ∀ l ∈ lines, l.length ≤ maximumEngineEventBytes)
    {d : EngineEventDecoder} (hcore : d.core = d) {w : List EngineEvent}
    (hw : (eventPayloads lines).mapM decode = some w)
    (hok : (w.foldl accept d).failure = none) :
    lines.foldl (reader decode).line d = w.foldl accept d := by
  induction lines generalizing d w with
  | nil =>
    obtain rfl : [] = w := by simpa [eventPayloads] using hw
    rfl
  | cons line lines ih =>
    rw [List.forall_mem_cons] at hlen
    have hf : d.failure = none := by
      by_contra hne
      exact foldl_accept_failed hne w hok
    rw [List.foldl_cons, line_of_le decode hf hlen.1]
    cases hstarts : engineEventPrefix.isPrefixOf line with
    | false =>
      rw [onLine_noise decode hstarts, hcore]
      rw [eventPayloads_noise hstarts] at hw
      exact ih hlen.2 hcore hw hok
    | true =>
      rw [eventPayloads_event hstarts] at hw
      cases hd : decode (line.drop engineEventPrefix.length) with
      | none => simp [hd] at hw
      | some e =>
        rw [onLine_event decode hf hstarts hd, hcore]
        obtain ⟨w', hw', rfl⟩ : ∃ w', (eventPayloads lines).mapM decode = some w' ∧
            e :: w' = w := by simpa [hd, Option.bind_eq_some_iff] using hw
        exact ih hlen.2 (by rw [core_accept, hcore]) hw' hok

theorem conclude_failure_eq_none (d : EngineEventDecoder) (n : ℕ) :
    (conclude d n).failure = none ↔ d.failure = none ∧ d.terminal = true := by
  unfold conclude
  cases d.failure <;> cases d.terminal <;> simp

theorem Coherent.finishLine {d : EngineEventDecoder} (h : d.Coherent) :
    (d.finishLine decode).Coherent := by
  unfold EngineEventDecoder.finishLine
  split
  · exact h
  split
  · exact h.fail _
  · exact h.accept _

theorem Coherent.pushBytes {d : EngineEventDecoder} (h : d.Coherent) (bytes : List UInt8) :
    (d.pushBytes decode bytes).Coherent := by
  induction bytes generalizing d with
  | nil => exact h
  | cons b bytes ih =>
    rw [EngineEventDecoder.pushBytes]
    split_ifs
    · have hline := h.finishLine decode
      exact ih ⟨hline.running, hline.bound, hline.stopped⟩
    · exact ih ⟨h.running, h.bound, h.stopped⟩
    · exact h.fail _

theorem Coherent.push {d : EngineEventDecoder} (h : d.Coherent) (bytes : List UInt8) :
    (d.push decode bytes).Coherent := by
  unfold EngineEventDecoder.push
  have hcount : Coherent { d with
      stdoutBytesObserved := saturatingAdd 64 d.stdoutBytesObserved bytes.length } :=
    ⟨h.running, h.bound, h.stopped⟩
  dsimp only
  split_ifs
  · exact hcount.fail _
  · exact hcount
  · exact hcount.pushBytes decode bytes

theorem foldl_push_coherent {d : EngineEventDecoder} (h : d.Coherent)
    (chunks : List (List UInt8)) : (chunks.foldl (push decode) d).Coherent := by
  induction chunks generalizing d with
  | nil => exact h
  | cons chunk chunks ih => exact ih (h.push decode chunk)

/-- Whatever the output was, what was captured can be completed to a word. -/
theorem capture_extends (chunks : List (List UInt8)) :
    ∃ rest, EventWord ((capture decode chunks).events ++ rest) := by
  have hchunks := foldl_push_coherent decode coherent_new chunks
  have hlast : ∀ d : EngineEventDecoder, d.Coherent →
      ∃ rest, EventWord ((d.finish decode).events ++ rest) := by
    intro d hd
    unfold finish
    dsimp only
    split_ifs
    · exact ((hd.finishLine decode).fail _).extends
    · exact (hd.finishLine decode).extends
    · exact (hd.fail _).extends
    · exact hd.extends
  exact hlast _ hchunks

/-- A capture without failure holds a whole word. -/
theorem capture_word {chunks : List (List UInt8)} (h : (capture decode chunks).failure = none) :
    EventWord (capture decode chunks).events := by
  have hchunks := foldl_push_coherent decode coherent_new chunks
  unfold capture finish at h ⊢
  generalize chunks.foldl (push decode) new = d at hchunks h ⊢
  have hlast : (if d.failure.isNone && !d.line.isEmpty then d.finishLine decode else d).Coherent := by
    split_ifs
    · exact hchunks.finishLine decode
    · exact hchunks
  dsimp only at h ⊢
  generalize (if d.failure.isNone && !d.line.isEmpty then d.finishLine decode else d) = e
    at hlast h ⊢
  split_ifs at h ⊢ with hmissing
  · exact absurd h (fail_failure_ne_none _ _)
  · refine hlast.stopped ?_
    simpa [h] using hmissing

/-- A stream that encodes a word is captured as that word. -/
theorem capture_of_word {chunks : List (List UInt8)}
    (htotal : chunks.flatten.length ≤ maximumEngineStdoutBytes)
    (hlines : ∀ line ∈ chunks.flatten.splitOn lineFeed, line.length ≤ maximumEngineEventBytes)
    {w : List EngineEvent}
    (hw : (eventPayloads (chunks.flatten.splitOn lineFeed)).mapM decode = some w)
    (hword : EventWord w) :
    (capture decode chunks).failure = none ∧ (capture decode chunks).events = w := by
  obtain ⟨hok, hterm⟩ := (foldl_accept_iff w).mpr hword
  rw [capture_eq_conclude decode chunks htotal,
    foldl_line_of_accept decode hlines rfl hw hok, conclude_failure_eq_none]
  exact ⟨⟨hok, hterm⟩, foldl_accept_events hok⟩

/-- The decoder accepts the closed event grammar and nothing else, and what it captures of
any output is the beginning of a word. -/
theorem capture_accepts_iff (chunks : List (List UInt8)) :
    (chunks.flatten.length ≤ maximumEngineStdoutBytes →
      (∀ line ∈ chunks.flatten.splitOn lineFeed, line.length ≤ maximumEngineEventBytes) →
      ((capture decode chunks).failure = none ↔
        ∃ w, (eventPayloads (chunks.flatten.splitOn lineFeed)).mapM decode = some w ∧
          EventWord w) ∧
      ∀ w, (eventPayloads (chunks.flatten.splitOn lineFeed)).mapM decode = some w →
        EventWord w → (capture decode chunks).events = w) ∧
    ∃ rest, EventWord ((capture decode chunks).events ++ rest) := by
  refine ⟨fun htotal hlines => ⟨⟨fun h => ?_, ?_⟩, ?_⟩, capture_extends decode chunks⟩
  rotate_left
  · rintro ⟨w, hw, hword⟩
    exact (capture_of_word decode htotal hlines hw hword).1
  · intro w hw hword
    exact (capture_of_word decode htotal hlines hw hword).2
  rw [capture_eq_conclude decode chunks htotal, conclude_failure_eq_none] at h
  obtain ⟨w, hw, hfold⟩ := foldl_line_ok decode hlines rfl h.1
  exact ⟨w, hw, (foldl_accept_iff w).mp (hfold ▸ h)⟩

/-- The payload of a failed runtime check, as the child writes it. -/
def runtimeFailurePayload : List UInt8 :=
  utf8 "\x7b\"event\":\"failed\",\"stage\":\"verify-runtime\",\"category\":\"runtime\"\x7d"

/-- Decoding of that one payload. -/
def decodeRuntimeFailure (payload : List UInt8) : Option EngineEvent :=
  if payload = runtimeFailurePayload then some (.failed .verifyRuntime .runtime) else none

/-- A noise line and an event line, cut inside the prefix and without a final line feed. -/
def runtimeFailureChunks : List (List UInt8) :=
  [utf8 "starting\nCATALOG_", utf8 "BENCH_EVENT " ++ runtimeFailurePayload]

theorem capture_accepts_iff_runtime_failure :
    (capture decodeRuntimeFailure runtimeFailureChunks).failure = none ∧
    (capture decodeRuntimeFailure runtimeFailureChunks).events =
      [.failed .verifyRuntime .runtime] := by
  obtain ⟨hiff, hevents⟩ := (capture_accepts_iff decodeRuntimeFailure runtimeFailureChunks).1
    (by decide) (by decide)
  have hpayloads : (eventPayloads (runtimeFailureChunks.flatten.splitOn lineFeed)).mapM
      decodeRuntimeFailure = some [.failed .verifyRuntime .runtime] := by decide
  have hprogress : List.Forall₂ Succeeds (EngineStage.order.take 0) [] := .nil
  have hword : EventWord [.failed .verifyRuntime .runtime] := .failed rfl hprogress
  exact ⟨hiff.mpr ⟨_, hpayloads, hword⟩, hevents _ hpayloads hword⟩

end EngineEventDecoder

end CatalogBench.Engine
