import CatalogBench.Library.ListRel
import Mathlib.Data.List.Nodup
import Mathlib.Data.List.Perm.Subperm
import Mathlib.Data.List.TakeWhile

/-!
# The text format of `java.util.Properties`

Natural lines, logical lines, keys, elements and escapes, over UTF-16 code units, and when a file
of `key=value` lines is read back as the entries that it was written from.
-/

set_option linter.all false

namespace JavaProperties

abbrev JavaString := List UInt16

def lineFeed : UInt16 := 0x0A
def carriageReturn : UInt16 := 0x0D
def tab : UInt16 := 0x09
def formFeed : UInt16 := 0x0C
def space : UInt16 := 0x20
def exclamation : UInt16 := 0x21
def numberSign : UInt16 := 0x23
def colon : UInt16 := 0x3A
def equals : UInt16 := 0x3D
def backslash : UInt16 := 0x5C

def isTerminator (unit : UInt16) : Bool := unit = lineFeed || unit = carriageReturn

/-- White space that ends no line. -/
def isBlank (unit : UInt16) : Bool := unit = space || unit = tab || unit = formFeed

def isSeparator (unit : UInt16) : Bool := unit = equals || unit = colon

/-- The UTF-16 code units of a character. -/
def units (c : Char) : JavaString :=
  if c.toNat < 0x10000 then [.ofNat c.toNat]
  else
    [.ofNat (0xD800 + (c.toNat - 0x10000) / 0x400),
      .ofNat (0xDC00 + (c.toNat - 0x10000) % 0x400)]

def ofString (text : String) : JavaString := text.toList.flatMap units

/-- What a reader of ISO 8859-1 makes of bytes. -/
def ofBytes (bytes : List UInt8) : JavaString := bytes.map fun byte => .ofNat byte.toNat

-- ════════════════════════════════
-- Lines
-- ════════════════════════════════

/-- The lines of a text; a carriage return and a line feed end one line together. -/
def naturalLines : JavaString → List JavaString
  | [] => [[]]
  | unit :: rest =>
    if unit = carriageReturn ∧ rest.head? = some lineFeed then naturalLines rest
    else if isTerminator unit then [] :: naturalLines rest
    else
      match naturalLines rest with
      | [] => [[unit]]
      | line :: lines => (unit :: line) :: lines

/-- The line has a comment, or nothing. -/
def isSkipped (line : JavaString) : Bool :=
  match line with
  | [] => true
  | unit :: _ => unit = numberSign || unit = exclamation

/-- The backslash at the end is not itself escaped: the line goes on in the next one. -/
def continues (line : JavaString) : Bool :=
  (line.reverse.takeWhile (· = backslash)).length % 2 = 1

/-- The logical lines, after the one that was begun. -/
def logicalLines : Option JavaString → List JavaString → List JavaString
  | none, [] => []
  | some begun, [] => [begun]
  | none, line :: lines =>
    let line := line.dropWhile isBlank
    if isSkipped line then logicalLines none lines
    else if continues line then logicalLines (some line.dropLast) lines
    else line :: logicalLines none lines
  | some begun, line :: lines =>
    let line := line.dropWhile isBlank
    if continues line then logicalLines (some (begun ++ line.dropLast)) lines
    else (begun ++ line) :: logicalLines none lines

-- ════════════════════════════════
-- Keys and elements
-- ════════════════════════════════

/-- The key, up to the first separator or white space that is not escaped, and what follows. -/
def splitKey : JavaString → JavaString × JavaString
  | [] => ([], [])
  | [unit] => if isSeparator unit || isBlank unit then ([], [unit]) else ([unit], [])
  | unit :: next :: rest =>
    if isSeparator unit || isBlank unit then ([], unit :: next :: rest)
    else if unit = backslash then
      (unit :: next :: (splitKey rest).1, (splitKey rest).2)
    else (unit :: (splitKey (next :: rest)).1, (splitKey (next :: rest)).2)

/-- What follows the key, without the separator and the white space around it. -/
def element (text : JavaString) : JavaString :=
  match text.dropWhile isBlank with
  | [] => []
  | unit :: rest => if isSeparator unit then rest.dropWhile isBlank else unit :: rest

def hexValue (unit : UInt16) : Option ℕ :=
  let n := unit.toNat
  if 0x30 ≤ n ∧ n ≤ 0x39 then some (n - 0x30)
  else if 0x41 ≤ n ∧ n ≤ 0x46 then some (n - 0x41 + 10)
  else if 0x61 ≤ n ∧ n ≤ 0x66 then some (n - 0x61 + 10)
  else none

/-- The unit that four digits stand for. -/
def unicode (a b c d : UInt16) : Option UInt16 := do
  let a ← hexValue a
  let b ← hexValue b
  let c ← hexValue c
  let d ← hexValue d
  some (.ofNat (((a * 16 + b) * 16 + c) * 16 + d))

/-- The unit that a letter after a backslash stands for. -/
def escaped (unit : UInt16) : UInt16 :=
  if unit = 0x74 then tab
  else if unit = 0x6E then lineFeed
  else if unit = 0x72 then carriageReturn
  else if unit = 0x66 then formFeed
  else unit

/-- A text without its escapes, if they are well formed. -/
def unescape : JavaString → Option JavaString
  | [] => some []
  | unit :: rest =>
    if unit = backslash then
      match rest with
      | [] => some []
      | letter :: rest =>
        if letter = 0x75 then
          match rest with
          | a :: b :: c :: d :: rest => do
            let unit ← unicode a b c d
            let text ← unescape rest
            some (unit :: text)
          | _ => none
        else do
          let text ← unescape rest
          some (escaped letter :: text)
    else do
      let text ← unescape rest
      some (unit :: text)

def parseLine (line : JavaString) : Option (JavaString × JavaString) := do
  let key ← unescape (splitKey line).1
  let value ← unescape (element (splitKey line).2)
  some (key, value)

/-- `load`: the entries in the order in which they are put. -/
def load (text : JavaString) : Option (List (JavaString × JavaString)) :=
  (logicalLines none (naturalLines text)).mapM parseLine

/-- `getProperty`: the entry that was put last. -/
def getProperty (entries : List (JavaString × JavaString)) (key : JavaString) :
    Option JavaString :=
  entries.reverse.lookup key

-- ════════════════════════════════
-- Files of plain lines
-- ════════════════════════════════

/-- A unit that stands for itself wherever it is in a key. -/
def isPlain (unit : UInt16) : Bool :=
  !(isTerminator unit || isBlank unit || isSeparator unit || unit = backslash ||
    unit = numberSign || unit = exclamation)

/-- A key and a value that a writer may put in a line. -/
structure Writable (entry : JavaString × JavaString) : Prop where
  key_ne_nil : entry.1 ≠ []
  key_plain : ∀ unit ∈ entry.1, isPlain unit = true
  value_ne_nil : entry.2 ≠ []
  value_line : ∀ unit ∈ entry.2, isTerminator unit = false

/-- A value that is read as it is written. -/
structure Verbatim (value : JavaString) : Prop where
  no_backslash : backslash ∉ value
  no_blank : ∀ unit ∈ value.head?, isBlank unit = false

/-- The line of an entry. -/
def entryLine (entry : JavaString × JavaString) : JavaString := entry.1 ++ equals :: entry.2

def render (entries : List (JavaString × JavaString)) : JavaString :=
  entries.flatMap fun entry => entryLine entry ++ [lineFeed]

theorem ne_of_isPlain {unit : UInt16} (h : isPlain unit = true) :
    isTerminator unit = false ∧ isBlank unit = false ∧ isSeparator unit = false ∧
      unit ≠ backslash ∧ unit ≠ numberSign ∧ unit ≠ exclamation := by
  simpa [isPlain, and_assoc] using h

theorem naturalLines_append {line : JavaString} (h : ∀ unit ∈ line, isTerminator unit = false)
    (rest : JavaString) :
    naturalLines (line ++ lineFeed :: rest) = line :: naturalLines rest := by
  induction line with
  | nil =>
    rw [List.nil_append, naturalLines, if_neg (fun hreturn => absurd hreturn.1 (by decide))]
    rfl
  | cons unit line ih =>
    have hunit := h unit List.mem_cons_self
    have hne : unit ≠ carriageReturn := by
      rintro rfl
      exact absurd hunit (by decide)
    rw [List.cons_append, naturalLines, if_neg (fun hreturn => hne hreturn.1), hunit,
      ih fun unit hmem => h unit (List.mem_cons_of_mem _ hmem)]
    rfl

theorem entryLine_no_terminator {entry : JavaString × JavaString} (h : Writable entry) :
    ∀ unit ∈ entryLine entry, isTerminator unit = false := by
  intro unit hmem
  rcases List.mem_append.mp hmem with hkey | hvalue
  · exact (ne_of_isPlain (h.key_plain unit hkey)).1
  · rcases List.mem_cons.mp hvalue with rfl | hvalue
    · decide
    · exact h.value_line unit hvalue

/-- The natural lines are the written ones, and an empty one. -/
theorem naturalLines_render {entries : List (JavaString × JavaString)}
    (h : ∀ entry ∈ entries, Writable entry) :
    naturalLines (render entries) = entries.map entryLine ++ [[]] := by
  induction entries with
  | nil => rfl
  | cons entry entries ih =>
    rw [render, List.flatMap_cons, List.append_assoc, List.singleton_append,
      naturalLines_append (entryLine_no_terminator (h entry List.mem_cons_self)), ← render,
      ih fun entry hmem => h entry (List.mem_cons_of_mem _ hmem)]
    rfl

/-- A line that begins an entry. -/
def IsContent (line : JavaString) : Prop :=
  line.dropWhile isBlank = line ∧ isSkipped line = false

theorem entryLine_isContent {entry : JavaString × JavaString} (h : Writable entry) :
    IsContent (entryLine entry) := by
  obtain ⟨unit, key, hkey⟩ := List.exists_cons_of_ne_nil h.key_ne_nil
  have hplain := ne_of_isPlain (h.key_plain unit (hkey ▸ List.mem_cons_self))
  obtain ⟨-, hblank, -, -, hnumber, hexclamation⟩ := hplain
  rw [entryLine, hkey, List.cons_append]
  constructor
  · rw [List.dropWhile_cons_of_neg (by rw [hblank]; decide)]
  · simp [isSkipped, hnumber, hexclamation]

section Continued

variable {lines : List JavaString}

theorem logicalLines_content {line : JavaString} (h : IsContent line) (lines : List JavaString) :
    logicalLines none (line :: lines) =
      if continues line then logicalLines (some line.dropLast) lines
      else line :: logicalLines none lines := by
  rw [logicalLines, h.1, h.2]
  rfl

theorem logicalLines_begun {line : JavaString} (h : IsContent line) (begun : JavaString)
    (lines : List JavaString) : logicalLines (some begun) (line :: lines) =
      if continues line then logicalLines (some (begun ++ line.dropLast)) lines
      else (begun ++ line) :: logicalLines none lines := by
  rw [logicalLines, h.1]

/-- A line that goes on takes the next one with it. -/
theorem length_logicalLines (h : ∀ line ∈ lines, IsContent line) :
    (logicalLines none (lines ++ [[]])).length ≤ lines.length ∧
      ∀ begun, (logicalLines (some begun) (lines ++ [[]])).length ≤ max lines.length 1 := by
  induction lines with
  | nil => exact ⟨Nat.le_refl 0, fun begun => Nat.le_refl 1⟩
  | cons line lines ih =>
    have hline := h line List.mem_cons_self
    obtain ⟨hnone, hsome⟩ := ih fun line hmem => h line (List.mem_cons_of_mem _ hmem)
    constructor
    · rw [List.cons_append, logicalLines_content hline]
      split
      · have hbegun := hsome line.dropLast
        rw [List.length_cons]
        omega
      · rw [List.length_cons, List.length_cons]
        omega
    · intro begun
      rw [List.cons_append, logicalLines_begun hline]
      split
      · have hbegun := hsome (begun ++ line.dropLast)
        rw [List.length_cons]
        omega
      · rw [List.length_cons, List.length_cons]
        omega

/-- The line, where there is none to go on in. -/
def unfinished (line : JavaString) : JavaString := if continues line then line.dropLast else line

/-- As many logical lines as natural ones are the natural ones. -/
theorem logicalLines_of_length (h : ∀ line ∈ lines, IsContent line)
    (hlength : lines.length ≤ (logicalLines none (lines ++ [[]])).length) :
    logicalLines none (lines ++ [[]]) = lines.map unfinished := by
  induction lines with
  | nil => rfl
  | cons line lines ih =>
    have hline := h line List.mem_cons_self
    have hlines : ∀ line ∈ lines, IsContent line := fun line hmem =>
      h line (List.mem_cons_of_mem _ hmem)
    rw [List.cons_append, logicalLines_content hline] at hlength ⊢
    rw [List.map_cons, unfinished]
    split at hlength
    · next hcontinues =>
      rw [if_pos hcontinues, if_pos hcontinues]
      have hbegun := (length_logicalLines hlines).2 line.dropLast
      rw [List.length_cons] at hlength
      cases lines with
      | nil => exact congrArg (· :: []) (List.append_nil _)
      | cons next lines =>
        rw [List.length_cons] at hlength hbegun
        omega
    · next hends =>
      rw [if_neg hends, if_neg hends]
      rw [List.length_cons, List.length_cons] at hlength
      rw [ih hlines (by omega)]

end Continued

-- ════════════════════════════════
-- Reading an entry
-- ════════════════════════════════

theorem splitKey_entry {key : JavaString} (h : ∀ unit ∈ key, isPlain unit = true)
    (value : JavaString) : splitKey (key ++ equals :: value) = (key, equals :: value) := by
  induction key with
  | nil => cases value <;> rfl
  | cons unit key ih =>
    obtain ⟨-, hblank, hseparator, hbackslash, -, -⟩ := ne_of_isPlain (h unit List.mem_cons_self)
    have htail := ih fun unit hmem => h unit (List.mem_cons_of_mem _ hmem)
    obtain ⟨next, rest, hrest⟩ : ∃ next rest, key ++ equals :: value = next :: rest :=
      List.exists_cons_of_ne_nil (List.append_ne_nil_of_right_ne_nil _ (List.cons_ne_nil _ _))
    rw [hrest] at htail
    rw [List.cons_append, hrest, splitKey, hseparator, hblank, if_neg (by decide),
      if_neg hbackslash, htail]

theorem element_entry (value : JavaString) :
    element (equals :: value) = value.dropWhile isBlank := by
  rw [element, List.dropWhile_cons_of_neg (by decide)]
  rfl

theorem unescape_of_not_mem {text : JavaString} (h : backslash ∉ text) :
    unescape text = some text := by
  induction text with
  | nil => rfl
  | cons unit text ih =>
    rw [List.mem_cons, not_or] at h
    rw [unescape.eq_def]
    simp only [if_neg (Ne.symm h.1), ih h.2]
    rfl

/-- An escape is longer than what it stands for. -/
theorem length_unescape {text value : JavaString} (h : unescape text = some value) :
    value.length ≤ text.length ∧ (backslash ∈ text → value.length < text.length) := by
  fun_induction unescape text generalizing value with
  | case1 =>
    obtain rfl := Option.some.inj h
    exact ⟨Nat.le_refl 0, fun hmem => absurd hmem List.not_mem_nil⟩
  | case2 =>
    obtain rfl := Option.some.inj h
    exact ⟨Nat.zero_le 1, fun _ => Nat.zero_lt_one⟩
  | case3 a b c d rest ih =>
    obtain ⟨unit, -, h⟩ := Option.bind_eq_some_iff.mp h
    obtain ⟨tail, htail, hvalue⟩ := Option.bind_eq_some_iff.mp h
    obtain rfl := Option.some.inj hvalue
    have hlength := (ih htail).1
    simp only [List.length_cons]
    exact ⟨by omega, fun _ => by omega⟩
  | case4 => nomatch h
  | case5 letter rest _ ih =>
    obtain ⟨tail, htail, hvalue⟩ := Option.bind_eq_some_iff.mp h
    obtain rfl := Option.some.inj hvalue
    have hlength := (ih htail).1
    simp only [List.length_cons]
    exact ⟨by omega, fun _ => by omega⟩
  | case6 unit rest hunit ih =>
    obtain ⟨tail, htail, hvalue⟩ := Option.bind_eq_some_iff.mp h
    obtain rfl := Option.some.inj hvalue
    obtain ⟨hlength, hshorter⟩ := ih htail
    simp only [List.length_cons, List.mem_cons]
    refine ⟨by omega, fun hmem => ?_⟩
    have hlt := hshorter (hmem.resolve_left fun heq => hunit heq.symm)
    omega

theorem parseLine_entry {key : JavaString} (h : ∀ unit ∈ key, isPlain unit = true)
    (value : JavaString) : parseLine (key ++ equals :: value) =
      (unescape (value.dropWhile isBlank)).map fun value => (key, value) := by
  have hkey : backslash ∉ key := fun hmem => (ne_of_isPlain (h _ hmem)).2.2.2.1 rfl
  rw [parseLine, splitKey_entry h, element_entry, unescape_of_not_mem hkey]
  cases unescape (value.dropWhile isBlank) <;> rfl

/-- A line that goes on ends in a backslash. -/
theorem backslash_mem_of_continues {line : JavaString} (h : continues line = true) :
    backslash ∈ line := by
  rw [continues, decide_eq_true_eq] at h
  obtain ⟨unit, units, hunits⟩ : ∃ unit units,
      line.reverse.takeWhile (· = backslash) = unit :: units := by
    refine List.exists_cons_of_ne_nil fun hnil => ?_
    rw [hnil] at h
    exact absurd h (by decide)
  have hmem : unit ∈ line.reverse.takeWhile (· = backslash) := hunits ▸ List.mem_cons_self
  have hdecide := List.mem_takeWhile_imp (p := fun unit => decide (unit = backslash)) hmem
  have hunit : unit = backslash := of_decide_eq_true hdecide
  rw [← hunit, ← List.mem_reverse]
  exact (List.takeWhile_prefix _).subset hmem

/-- The line of an entry goes on in its value. -/
theorem unfinished_entryLine {entry : JavaString × JavaString} (h : Writable entry) :
    ∃ value, unfinished (entryLine entry) = entry.1 ++ equals :: value ∧
      value.length ≤ entry.2.length ∧
      (value = entry.2 ∧ continues (entryLine entry) = false ∨
        value.length < entry.2.length) := by
  rw [unfinished]
  by_cases hcontinues : continues (entryLine entry) = true
  · rw [if_pos hcontinues, entryLine, List.dropLast_append_cons,
      List.dropLast_cons_of_ne_nil h.value_ne_nil]
    have hpos := List.length_pos_iff.mpr h.value_ne_nil
    have hlength : entry.2.dropLast.length = entry.2.length - 1 := List.length_dropLast
    exact ⟨entry.2.dropLast, rfl, by omega, .inr (by omega)⟩
  · rw [if_neg hcontinues]
    exact ⟨entry.2, rfl, Nat.le_refl _, .inl ⟨rfl, Bool.not_eq_true _ ▸ hcontinues⟩⟩

/-- A line without a backslash and without white space before the value is read as it is. -/
theorem Verbatim.parseLine {entry : JavaString × JavaString} (hwritable : Writable entry)
    (h : Verbatim entry.2) : continues (entryLine entry) = false ∧
      JavaProperties.parseLine (entryLine entry) = some entry := by
  constructor
  · by_contra hcontinues
    rw [Bool.not_eq_false] at hcontinues
    rcases List.mem_append.mp (backslash_mem_of_continues hcontinues) with hmem | hmem
    · exact (ne_of_isPlain (hwritable.key_plain _ hmem)).2.2.2.1 rfl
    · exact h.no_backslash ((List.mem_cons.mp hmem).resolve_left (by decide))
  · have hdrop : entry.2.dropWhile isBlank = entry.2 := by
      obtain ⟨unit, rest, hvalue⟩ := List.exists_cons_of_ne_nil hwritable.value_ne_nil
      have hunit := h.no_blank unit (by rw [hvalue]; rfl)
      rw [hvalue, List.dropWhile_cons_of_neg (by rw [hunit]; decide)]
    rw [entryLine, parseLine_entry hwritable.key_plain, hdrop, unescape_of_not_mem h.no_backslash]
    rfl

/-- What is read as it was written has no backslash, and no white space in front. -/
theorem verbatim_of_parseLine {entry entry' : JavaString × JavaString} (hwritable : Writable entry)
    (h : JavaProperties.parseLine (unfinished (entryLine entry)) = some entry') :
    entry'.1 = entry.1 ∧ (entry' = entry → Verbatim entry.2) := by
  obtain ⟨value, hline, hle, hcases⟩ := unfinished_entryLine hwritable
  rw [hline, parseLine_entry hwritable.key_plain] at h
  obtain ⟨read, hread, rfl⟩ := Option.map_eq_some_iff.mp h
  refine ⟨rfl, fun heq => ?_⟩
  obtain ⟨hlength, hshorter⟩ := length_unescape hread
  have hsuffix : value.dropWhile isBlank <:+ value := List.dropWhile_suffix _
  have hdrop := hsuffix.length_le
  have hsame : read.length = entry.2.length := congrArg (fun entry => entry.2.length) heq
  have hvalue : value = entry.2 := by
    rcases hcases with hcase | hcase
    · exact hcase.1
    · omega
  subst hvalue
  have hall : entry.2.dropWhile isBlank = entry.2 := hsuffix.eq_of_length (by omega)
  rw [hall] at hshorter
  refine ⟨fun hmem => absurd (hshorter hmem) (by omega), fun unit hunit => ?_⟩
  obtain ⟨rest, hrest⟩ := List.head?_eq_some_iff.mp hunit
  by_contra hblank
  rw [Bool.not_eq_false] at hblank
  rw [hrest, List.dropWhile_cons_of_pos hblank] at hall
  have hshort : (rest.dropWhile isBlank).length ≤ rest.length :=
    (List.dropWhile_suffix _).length_le
  have hcons := congrArg List.length hall
  rw [List.length_cons] at hcons
  omega

-- ════════════════════════════════
-- Reading a file
-- ════════════════════════════════

theorem mem_of_getProperty {entries : List (JavaString × JavaString)} {key value : JavaString}
    (h : getProperty entries key = some value) : (key, value) ∈ entries := by
  obtain ⟨before, after, hentries, -⟩ := List.lookup_eq_some_iff.mp h
  rw [← List.mem_reverse, hentries]
  exact List.mem_append_right _ List.mem_cons_self

theorem getProperty_of_mem {entries : List (JavaString × JavaString)}
    (hdistinct : (entries.map Prod.fst).Nodup) {entry : JavaString × JavaString}
    (h : entry ∈ entries) : getProperty entries entry.1 = some entry.2 := by
  rw [← List.nodup_reverse, ← List.map_reverse] at hdistinct
  obtain ⟨before, after, hentries⟩ := List.append_of_mem (List.mem_reverse.mpr h)
  refine List.lookup_eq_some_iff.mpr ⟨before, after, hentries, fun other hother => ?_⟩
  rw [hentries, List.map_append, List.nodup_append] at hdistinct
  have hne := hdistinct.2.2 _ (List.mem_map_of_mem hother) entry.1 List.mem_cons_self
  exact bne_iff_ne.mpr hne.symm

/-- A file of lines is read as the entries that it was written from exactly when every value of
them is read as it is written. -/
theorem load_render_iff {entries : List (JavaString × JavaString)}
    (hwritable : ∀ entry ∈ entries, Writable entry) (hdistinct : (entries.map Prod.fst).Nodup) :
    (∃ loaded, load (render entries) = some loaded ∧
      ∀ key, getProperty loaded key = getProperty entries key) ↔
      ∀ entry ∈ entries, Verbatim entry.2 := by
  have hcontent : ∀ line ∈ entries.map entryLine, IsContent line := by
    intro line hline
    obtain ⟨entry, hentry, rfl⟩ := List.mem_map.mp hline
    exact entryLine_isContent (hwritable entry hentry)
  rw [load, naturalLines_render hwritable]
  constructor
  · rintro ⟨loaded, hload, hget⟩ entry hentry
    -- every entry is put by a line of its own, so that no line goes on in the next one
    have hsubset : entries ⊆ loaded := fun entry hentry =>
      mem_of_getProperty ((hget entry.1).trans (getProperty_of_mem hdistinct hentry))
    have hread := ListRel.option_mapM_forall₂ hload
    have hlength := (List.subperm_of_subset (List.Nodup.of_map _ hdistinct) hsubset).length_le
    rw [← hread.length_eq] at hlength
    rw [logicalLines_of_length hcontent (by rwa [List.length_map]), List.map_map] at hread
    obtain ⟨line, hline, hparse⟩ := ListRel.forall₂_mem_right hread (hsubset hentry)
    obtain ⟨other, hother, rfl⟩ := List.mem_map.mp hline
    obtain ⟨hkey, hverbatim⟩ := verbatim_of_parseLine (hwritable other hother) hparse
    obtain rfl := List.inj_on_of_nodup_map hdistinct hentry hother hkey
    exact hverbatim rfl
  · intro hverbatim
    refine ⟨entries, ?_, fun key => rfl⟩
    have hlines : logicalLines none (entries.map entryLine ++ [[]]) = entries.map entryLine := by
      clear hdistinct
      induction entries with
      | nil => rfl
      | cons entry entries ih =>
        have hends := ((hverbatim entry List.mem_cons_self).parseLine
          (hwritable entry List.mem_cons_self)).1
        rw [List.map_cons, List.cons_append,
          logicalLines_content (hcontent _ List.mem_cons_self), hends, if_neg (by decide),
          ih (fun entry hmem => hwritable entry (List.mem_cons_of_mem _ hmem))
            (fun line hmem => hcontent line (List.mem_cons_of_mem _ hmem))
            (fun entry hmem => hverbatim entry (List.mem_cons_of_mem _ hmem))]
    rw [hlines, ListRel.option_mapM_eq_some_iff, List.forall₂_map_left_iff, List.forall₂_same]
    exact fun entry hentry => ((hverbatim entry hentry).parseLine (hwritable entry hentry)).2

end JavaProperties
