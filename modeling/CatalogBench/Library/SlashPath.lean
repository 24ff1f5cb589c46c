import Mathlib.Data.List.Basic
import CatalogBench.Library.Lines

/-!
# Slash-separated paths

Paths as byte strings, and what is done to them without looking at any file: cleaning, joining, and
leaving out the last element. The names in a path are what stands between its slashes.
-/

set_option linter.all false

namespace SlashPath

abbrev Name := List UInt8

def slash : UInt8 := 0x2F
def dot : UInt8 := 0x2E

/-- The name of a directory for itself. -/
def here : Name := [dot]

/-- The name of a directory for the one above it. -/
def up : Name := [dot, dot]

/-- A name that only its directory can give a meaning. -/
structure Normal (name : Name) : Prop where
  ne_nil : name ≠ []
  ne_here : name ≠ here
  ne_up : name ≠ up
  no_slash : slash ∉ name

instance (name : Name) : Decidable (Normal name) :=
  decidable_of_iff (name ≠ [] ∧ name ≠ here ∧ name ≠ up ∧ slash ∉ name)
    ⟨fun ⟨a, b, c, d⟩ => ⟨a, b, c, d⟩, fun ⟨a, b, c, d⟩ => ⟨a, b, c, d⟩⟩

-- ════════════════════════════════
-- Elements
-- ════════════════════════════════

def isAbs (path : List UInt8) : Bool := path.head? = some slash

/-- The names in a path. -/
def elements (path : List UInt8) : List Name :=
  (path.splitOn slash).filter fun element => !element.isEmpty

/-- The path of the names. -/
def text (rooted : Bool) (names : List Name) : List UInt8 :=
  (if rooted then [slash] else []) ++ [slash].intercalate names

theorem elements_append (a b : List UInt8) :
    elements (a ++ slash :: b) = elements a ++ elements b := by
  rw [elements, List.splitOn_append_cons_self, List.filter_append]
  rfl

theorem elements_nil : elements [] = [] := rfl

theorem elements_singleton {name : Name} (hne : name ≠ []) (hslash : slash ∉ name) :
    elements name = [name] := by
  rw [elements, List.splitOn_eq_singleton hslash, List.filter_cons_of_pos (by simpa using hne)]
  rfl

theorem elements_intercalate {names : List Name} (h : ∀ name ∈ names, name ≠ [] ∧ slash ∉ name) :
    elements ([slash].intercalate names) = names := by
  induction names with
  | nil => rfl
  | cons name names ih =>
    rw [List.forall_mem_cons] at h
    by_cases hnil : names = []
    · rw [hnil, List.intercalate_singleton, elements_singleton h.1.1 h.1.2]
    · rw [List.intercalate_cons_of_ne_nil hnil, List.append_assoc, List.singleton_append,
        elements_append, elements_singleton h.1.1 h.1.2, ih h.2]
      rfl

theorem elements_text (rooted : Bool) {names : List Name}
    (h : ∀ name ∈ names, name ≠ [] ∧ slash ∉ name) : elements (text rooted names) = names := by
  cases rooted with
  | false => exact elements_intercalate h
  | true =>
    rw [text, if_pos rfl]
    exact (elements_append [] _).trans (elements_intercalate h)

theorem ne_nil_of_mem_elements {path : List UInt8} {name : Name} (h : name ∈ elements path) :
    name ≠ [] := by
  simpa using (List.mem_filter.mp h).2

theorem slash_notMem_elements {path : List UInt8} {name : Name} (h : name ∈ elements path) :
    slash ∉ name :=
  Lines.notMem_of_mem_splitOn (List.mem_filter.mp h).1

theorem isAbs_text_true (names : List Name) : isAbs (text true names) = true := by
  simp [isAbs, text]

theorem intercalate_concat {names : List Name} (last : Name) (hne : names ≠ []) :
    [slash].intercalate (names ++ [last]) = [slash].intercalate names ++ slash :: last := by
  induction names with
  | nil => exact absurd rfl hne
  | cons name names ih =>
    have hlast : names ++ [last] ≠ [] := List.append_ne_nil_of_right_ne_nil _ (List.cons_ne_nil _ _)
    rw [List.cons_append, List.intercalate_cons_of_ne_nil hlast]
    by_cases hnil : names = []
    · subst hnil
      simp
    · rw [ih hnil, List.intercalate_cons_of_ne_nil hnil]
      simp

/-- All names but the last stand before the last slash. -/
theorem exists_front {names : List Name} (last : Name)
    (h : ∀ name ∈ names, name ≠ [] ∧ slash ∉ name) :
    ∃ front, text true (names ++ [last]) = front ++ slash :: last ∧
      elements (front ++ [slash]) = names ∧ isAbs (front ++ [slash]) = true := by
  by_cases hnil : names = []
  · subst hnil
    exact ⟨[], by simp [text], rfl, rfl⟩
  · refine ⟨text true names, ?_, ?_, ?_⟩
    · simp [text, intercalate_concat last hnil]
    · rw [elements_append, elements_text true h, elements_nil, List.append_nil]
    · simp [isAbs, text]

-- ════════════════════════════════
-- Cleaning
-- ════════════════════════════════

/-- What names lead to, after those on the stack: the name of the directory above takes back the
name before it. -/
def reduce (rooted : Bool) : List Name → List Name → List Name
  | stack, [] => stack.reverse
  | stack, name :: rest =>
    if name = here then reduce rooted stack rest
    else if name = up then
      match stack with
      | [] => reduce rooted (if rooted then [] else [up]) rest
      | top :: below => reduce rooted (if top = up then up :: top :: below else below) rest
    else reduce rooted (name :: stack) rest

/-- The shortest path that is lexically the same. -/
def clean (path : List UInt8) : List UInt8 :=
  let names := reduce (isAbs path) [] (elements path)
  if !isAbs path && names.isEmpty then here else text (isAbs path) names

def join (a b : List UInt8) : List UInt8 :=
  if a ≠ [] then clean (a ++ slash :: b) else if b ≠ [] then clean b else []

/-- All but the last element of a path. -/
def dir (path : List UInt8) : List UInt8 :=
  clean (path.reverse.dropWhile fun byte => byte ≠ slash).reverse

/-- Names above come first, and there are none below the root. -/
def Climbs (rooted : Bool) (stack : List Name) : Prop :=
  ∃ names ups, stack = names ++ List.replicate ups up ∧ (rooted = true → ups = 0) ∧
    ∀ name ∈ names, name ≠ here ∧ name ≠ up

theorem Climbs.reduce {rooted : Bool} {names stack : List Name} (h : Climbs rooted stack) :
    Climbs rooted (reduce rooted stack names).reverse := by
  induction names generalizing stack with
  | nil =>
    rw [SlashPath.reduce, List.reverse_reverse]
    exact h
  | cons name rest ih =>
    unfold SlashPath.reduce
    split
    · exact ih h
    next hhere =>
    split
    · obtain ⟨names, ups, rfl, hups, hnames⟩ := h
      split
      · next hstack =>
        refine ih ?_
        cases rooted with
        | true => exact ⟨[], 0, rfl, fun _ => rfl, by simp⟩
        | false => exact ⟨[], 1, rfl, nofun, by simp⟩
      · next top below hstack =>
        refine ih ?_
        cases names with
        | nil =>
          cases ups with
          | zero => cases hstack
          | succ ups =>
            obtain ⟨rfl, rfl⟩ := List.cons.inj hstack
            rw [if_pos rfl]
            exact ⟨[], ups + 2, rfl, fun hrooted => absurd (hups hrooted) (by simp), by simp⟩
        | cons first names =>
          obtain ⟨rfl, rfl⟩ := List.cons.inj hstack
          rw [List.forall_mem_cons] at hnames
          rw [if_neg hnames.1.2]
          exact ⟨names, ups, rfl, hups, hnames.2⟩
    · next hup =>
      obtain ⟨names, ups, rfl, hups, hnames⟩ := h
      refine ih ⟨name :: names, ups, rfl, hups, ?_⟩
      rw [List.forall_mem_cons]
      exact ⟨⟨hhere, hup⟩, hnames⟩

/-- What names lead to is made of them, and of the name above. -/
theorem mem_reduce {rooted : Bool} {names stack : List Name} {name : Name}
    (h : name ∈ reduce rooted stack names) : name ∈ stack ∨ name ∈ names ∨ name = up := by
  induction names generalizing stack with
  | nil => exact .inl (List.mem_reverse.mp h)
  | cons first rest ih =>
    have hlater : ∀ {stack'}, name ∈ reduce rooted stack' rest →
        (name ∈ stack' → name ∈ stack ∨ name ∈ first :: rest ∨ name = up) →
          name ∈ stack ∨ name ∈ first :: rest ∨ name = up := by
      intro stack' hmem hstack
      rcases ih hmem with hin | hin | heq
      · exact hstack hin
      · exact .inr (.inl (List.mem_cons_of_mem _ hin))
      · exact .inr (.inr heq)
    unfold reduce at h
    split at h
    · exact hlater h .inl
    split at h
    · split at h
      · refine hlater h fun hin => ?_
        split at hin
        · cases hin
        · exact .inr (.inr (List.mem_singleton.mp hin))
      · refine hlater h fun hin => ?_
        split at hin
        · rcases List.mem_cons.mp hin with heq | hin
          · exact .inr (.inr heq)
          · exact .inl hin
        · exact .inl (List.mem_cons_of_mem _ hin)
    · refine hlater h fun hin => ?_
      rcases List.mem_cons.mp hin with rfl | hin
      · exact .inr (.inl List.mem_cons_self)
      · exact .inl hin

theorem reduce_normal {rooted : Bool} {names stack : List Name}
    (h : ∀ name ∈ names, Normal name) : reduce rooted stack names = stack.reverse ++ names := by
  induction names generalizing stack with
  | nil => exact (List.append_nil _).symm
  | cons name names ih =>
    rw [List.forall_mem_cons] at h
    unfold reduce
    rw [if_neg h.1.ne_here, if_neg h.1.ne_up, ih h.2]
    simp

theorem normal_of_mem_reduce {rooted : Bool} {path : List UInt8} {name : Name}
    (h : name ∈ reduce rooted [] (elements path)) (hhere : name ≠ here) (hup : name ≠ up) :
    Normal name := by
  rcases mem_reduce h with hmem | hmem | heq
  · cases hmem
  · exact ⟨ne_nil_of_mem_elements hmem, hhere, hup, slash_notMem_elements hmem⟩
  · exact absurd heq hup

/-- What cleaning leaves: names above, then names that only their directories give a meaning. -/
theorem exists_reduce (rooted : Bool) (path : List UInt8) :
    ∃ ups names, reduce rooted [] (elements path) = List.replicate ups up ++ names ∧
      (rooted = true → ups = 0) ∧ ∀ name ∈ names, Normal name := by
  have hclimbs : Climbs rooted (reduce rooted [] (elements path)).reverse :=
    Climbs.reduce ⟨[], 0, rfl, fun _ => rfl, by simp⟩
  obtain ⟨names, ups, hstack, hups, hnames⟩ := hclimbs
  have hreduce : reduce rooted [] (elements path) = List.replicate ups up ++ names.reverse := by
    rw [← List.reverse_reverse (reduce _ _ _), hstack, List.reverse_append, List.reverse_replicate]
  refine ⟨ups, names.reverse, hreduce, hups, fun name hmem => ?_⟩
  obtain ⟨hhere, hup⟩ := hnames name (List.mem_reverse.mp hmem)
  have hreduced : name ∈ reduce rooted [] (elements path) := by
    rw [hreduce]
    exact List.mem_append_right _ hmem
  exact normal_of_mem_reduce hreduced hhere hup

/-- An absolute path is cleaned to a rooted one without detours. -/
theorem clean_of_isAbs {path : List UInt8} (h : isAbs path = true) :
    ∃ names, (∀ name ∈ names, Normal name) ∧ clean path = text true names := by
  obtain ⟨ups, names, hreduce, hups, hnames⟩ := exists_reduce true path
  rw [hups rfl] at hreduce
  refine ⟨names, hnames, ?_⟩
  rw [clean, h, hreduce]
  rfl

theorem clean_of_normal {path : List UInt8} (h : ∀ name ∈ elements path, Normal name)
    (hne : elements path ≠ [] ∨ isAbs path = true) :
    clean path = text (isAbs path) (elements path) := by
  have hclean : clean path =
      if !isAbs path && (elements path).isEmpty then here else text (isAbs path) (elements path) := by
    rw [clean, reduce_normal h]
    rfl
  rw [hclean, if_neg]
  rcases hne with hne | habs
  · simp [hne]
  · simp [habs]

theorem elements_text_of_normal (rooted : Bool) {names : List Name}
    (h : ∀ name ∈ names, Normal name) : elements (text rooted names) = names :=
  elements_text rooted fun name hmem => ⟨(h name hmem).ne_nil, (h name hmem).no_slash⟩

theorem clean_text {names : List Name} (h : ∀ name ∈ names, Normal name) :
    clean (text true names) = text true names := by
  have helements := elements_text_of_normal true h
  rw [clean_of_normal (by rwa [helements]) (.inr (isAbs_text_true names)), helements,
    isAbs_text_true]

/-- Joining a path to a rooted one appends its names. -/
theorem join_text {above below : List Name} (habove : ∀ name ∈ above, Normal name)
    (hbelow : ∀ name ∈ below, Normal name) :
    join (text true above) (text false below) = text true (above ++ below) := by
  have habs : isAbs (text true above ++ slash :: text false below) = true := by
    simp [isAbs, text]
  have helements : elements (text true above ++ slash :: text false below) = above ++ below := by
    rw [elements_append, elements_text_of_normal true habove, elements_text_of_normal false hbelow]
  have hnormal : ∀ name ∈ above ++ below, Normal name := by
    intro name hmem
    exact (List.mem_append.mp hmem).elim (habove name) (hbelow name)
  rw [join, if_pos (by simp [text]), clean_of_normal (by rwa [helements]) (.inr habs), habs,
    helements]

/-- The directory of a rooted path has all its names but the last. -/
theorem dir_text {names : List Name} {last : Name} (h : ∀ name ∈ names ++ [last], Normal name) :
    dir (text true (names ++ [last])) = text true names := by
  have hnames : ∀ name ∈ names, Normal name := fun name hmem => h name (List.mem_append_left _ hmem)
  have hlast : Normal last := h last (List.mem_append_right _ (List.mem_singleton_self _))
  obtain ⟨front, htext, helements, habs⟩ :=
    exists_front last fun name hmem => ⟨(hnames name hmem).ne_nil, (hnames name hmem).no_slash⟩
  have hstrip : (text true (names ++ [last])).reverse.dropWhile (fun byte => byte ≠ slash) =
      (front ++ [slash]).reverse := by
    rw [htext, List.reverse_append, List.reverse_cons, List.append_assoc,
      List.dropWhile_append_of_pos, List.reverse_append]
    · simp
    · intro byte hmem
      have hne : byte ≠ slash := fun heq => hlast.no_slash (heq ▸ List.mem_reverse.mp hmem)
      simpa using hne
  rw [dir, hstrip, List.reverse_reverse, clean_of_normal (by rwa [helements]) (.inr habs), habs,
    helements]

-- ════════════════════════════════
-- Absolute paths
-- ════════════════════════════════

/-- Where relative paths start. -/
structure WorkingDirectory where
  path : List UInt8
  rooted : isAbs path = true

def abs (working : Option WorkingDirectory) (path : List UInt8) : Option (List UInt8) :=
  if isAbs path then some (clean path) else working.map fun directory => join directory.path path

theorem abs_eq_some {working : Option WorkingDirectory} {path root : List UInt8}
    (h : abs working path = some root) :
    ∃ names, (∀ name ∈ names, Normal name) ∧ root = text true names := by
  unfold abs at h
  split at h
  · next habs =>
    obtain ⟨names, hnormal, hclean⟩ := clean_of_isAbs habs
    exact ⟨names, hnormal, (Option.some.inj h).symm.trans hclean⟩
  · obtain ⟨directory, -, hroot⟩ := Option.map_eq_some_iff.mp h
    have hrooted := directory.rooted
    obtain ⟨byte, rest, hpath⟩ : ∃ byte rest, directory.path = byte :: rest := by
      cases hcase : directory.path with
      | nil => rw [hcase] at hrooted; cases hrooted
      | cons byte rest => exact ⟨byte, rest, rfl⟩
    have habs : isAbs (directory.path ++ slash :: path) = true := by
      rw [hpath] at hrooted ⊢
      exact hrooted
    obtain ⟨names, hnormal, hclean⟩ := clean_of_isAbs habs
    refine ⟨names, hnormal, hroot.symm.trans ?_⟩
    rw [join, if_pos (by rw [hpath]; exact List.cons_ne_nil _ _), hclean]

end SlashPath
