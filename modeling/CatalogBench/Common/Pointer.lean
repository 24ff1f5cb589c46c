import CatalogBench.Crates
import CatalogBench.Library.Decimal

/-!
# JSON pointers

The places of a JSON tree, the pointers that name them, and a tree with some places replaced.
-/

set_option linter.all false

namespace CatalogBench

namespace Json

-- ════════════════════════════════
-- Places
-- ════════════════════════════════

/-- A step from a value to one below it. -/
inductive Step
  | field (key : String)
  | index (i : ℕ)
  deriving DecidableEq

def child : Json → Step → Option Json
  | .object fields, .field key => fields.lookup key
  | .array values, .index i => values[i]?
  | _, _ => none

/-- The value at a place. -/
def descend (value : Json) : List Step → Option Json
  | [] => some value
  | step :: place => (value.child step).bind (descend · place)

mutual

/-- No object has a key twice. -/
def Distinct : Json → Prop
  | .object fields => (fields.map Prod.fst).Nodup ∧ DistinctFields fields
  | .array values => DistinctElements values
  | .null | .bool _ | .number _ | .string _ => True

def DistinctFields : List (String × Json) → Prop
  | [] => True
  | (_, value) :: fields => Distinct value ∧ DistinctFields fields

def DistinctElements : List Json → Prop
  | [] => True
  | value :: values => Distinct value ∧ DistinctElements values

end

-- ════════════════════════════════
-- Pointers
-- ════════════════════════════════

def escapeToken (token : List Char) : List Char :=
  token.flatMap fun c => if c = '~' then ['~', '0'] else if c = '/' then ['~', '1'] else [c]

def unescapeToken : List Char → List Char
  | '~' :: '0' :: rest => '~' :: unescapeToken rest
  | '~' :: '1' :: rest => '/' :: unescapeToken rest
  | c :: rest => c :: unescapeToken rest
  | [] => []

theorem unescapeToken_escape (c : Char) (rest : List Char) :
    unescapeToken ((if c = '~' then ['~', '0'] else if c = '/' then ['~', '1'] else [c]) ++ rest) =
      c :: unescapeToken rest := by
  split
  · next h => rw [h]; rfl
  next hne =>
  split
  · next h => rw [h]; rfl
  · simp [unescapeToken, hne]

theorem unescapeToken_escapeToken (token : List Char) :
    unescapeToken (escapeToken token) = token := by
  induction token with
  | nil => rfl
  | cons c token ih => rw [escapeToken, List.flatMap_cons, unescapeToken_escape, ← escapeToken, ih]

theorem slash_notMem_escapeToken (token : List Char) : '/' ∉ escapeToken token := by
  intro h
  obtain ⟨c, -, hc⟩ := List.mem_flatMap.mp h
  split at hc
  · simp at hc
  next hne =>
  split at hc
  · simp at hc
  next hslash => exact hslash (List.mem_singleton.mp hc).symm

/-- The tokens of a pointer. -/
def pointerTokens (pointer : String) : Option (List String) :=
  match pointer.toList with
  | [] => some []
  | '/' :: rest => some ((rest.splitOn '/').map fun token => .ofList (unescapeToken token))
  | _ => none

/-- An index is written without leading zeros. -/
def arrayIndex (token : String) : Option ℕ :=
  let n := Nat.ofDigitChars 10 token.toList 0
  if toString n = token then some n else none

def tokenChild : Json → String → Option Json
  | .object fields, token => fields.lookup token
  | .array values, token => (arrayIndex token).bind (values[·]?)
  | _, _ => none

/-- The value a pointer names, after RFC 6901. -/
def resolve (value : Json) (pointer : String) : Option Json :=
  (pointerTokens pointer).bind fun tokens => tokens.foldlM tokenChild value

def Step.token : Step → String
  | .field key => key
  | .index i => toString i

/-- The pointer of a place. -/
def pointerText (place : List Step) : String :=
  .ofList (place.flatMap fun step => '/' :: escapeToken step.token.toList)

theorem arrayIndex_toString (n : ℕ) : arrayIndex (toString n) = some n := by
  rw [arrayIndex, Decimal.ofDigitChars_toString]
  exact if_pos rfl

/-- The pointer of a place is read back as its tokens. -/
theorem pointerTokens_pointerText (place : List Step) :
    pointerTokens (pointerText place) = some (place.map Step.token) := by
  cases place with
  | nil => rfl
  | cons step place =>
    have hsegments : ∀ (first : List Char) (rest : List Step),
        first ++ rest.flatMap (fun step => '/' :: escapeToken step.token.toList) =
          ['/'].intercalate (first :: rest.map fun step => escapeToken step.token.toList) := by
      intro first rest
      induction rest generalizing first with
      | nil => simp
      | cons step rest ih =>
        rw [List.map_cons, List.intercalate_cons_cons, ← ih]
        simp
    have hsplit := @List.splitOn_intercalate Char
      ((step :: place).map fun step => escapeToken step.token.toList) _ _ '/'
      (fun segment hsegment => by
        obtain ⟨step, -, rfl⟩ := List.mem_map.mp hsegment
        exact slash_notMem_escapeToken _) (List.cons_ne_nil _ _)
    rw [List.map_cons, ← hsegments] at hsplit
    rw [pointerTokens, pointerText, String.toList_ofList, List.flatMap_cons, List.cons_append]
    simp only [hsplit, List.map_cons, List.map_map, Option.some.injEq, unescapeToken_escapeToken,
      String.ofList_toList]
    refine congrArg _ (List.map_congr_left fun step _ => ?_)
    simp [unescapeToken_escapeToken]

/-- A step that can be taken is taken by its token. -/
theorem tokenChild_token {value below : Json} {step : Step} (h : value.child step = some below) :
    value.tokenChild step.token = some below := by
  cases value <;> cases step <;> first | cases h | skip
  · rw [tokenChild, Step.token, arrayIndex_toString]
    exact h
  · exact h

/-- The pointer of a place names the value there. -/
theorem resolve_pointerText {value below : Json} {place : List Step}
    (h : value.descend place = some below) : value.resolve (pointerText place) = some below := by
  rw [resolve, pointerTokens_pointerText, Option.bind_some]
  induction place generalizing value with
  | nil => exact h
  | cons step place ih =>
    obtain ⟨next, hnext, hbelow⟩ := Option.bind_eq_some_iff.mp h
    rw [List.map_cons, List.foldlM_cons, tokenChild_token hnext]
    exact ih hbelow

/-- Steps from one value are told apart by their tokens. -/
theorem step_eq_of_token {value a b : Json} {s t : Step} (hs : value.child s = some a)
    (ht : value.child t = some b) (h : s.token = t.token) : s = t := by
  cases value <;> cases s <;> first | cases hs | skip
  · cases t with
    | field key => cases ht
    | index j => exact congrArg Step.index (Decimal.toString_inj h)
  · cases t with
    | field key => exact congrArg Step.field h
    | index j => cases ht

/-- Different places of a value have different pointers. -/
theorem pointerText_inj {value : Json} {p q : List Step} {a b : Json}
    (hp : value.descend p = some a) (hq : value.descend q = some b)
    (h : pointerText p = pointerText q) : p = q := by
  have htokens := congrArg pointerTokens h
  rw [pointerTokens_pointerText, pointerTokens_pointerText, Option.some.injEq] at htokens
  clear h
  induction p generalizing value q with
  | nil => exact (List.map_eq_nil_iff.mp htokens.symm).symm
  | cons s p ih =>
    cases q with
    | nil => cases htokens
    | cons t q =>
      obtain ⟨next, hnext, hp⟩ := Option.bind_eq_some_iff.mp hp
      obtain ⟨next', hnext', hq⟩ := Option.bind_eq_some_iff.mp hq
      obtain ⟨htoken, htail⟩ := List.cons.inj htokens
      obtain rfl := step_eq_of_token hnext hnext' htoken
      rw [hnext] at hnext'
      obtain rfl := Option.some.inj hnext'
      rw [ih hp hq htail]

-- ════════════════════════════════
-- Replacing
-- ════════════════════════════════

/-- A text in the place of a value, if there is one. -/
def put (text : Option String) (value : Json) : Json := (text.map .string).getD value

@[simp] theorem put_none (value : Json) : put none value = value := rfl
@[simp] theorem put_some (text : String) (value : Json) : put (some text) value = .string text := rfl

mutual

/-- The value with the given texts at the given places. -/
def replaceAt (texts : List Step → Option String) : Json → Json
  | .object fields => put (texts []) (.object (replaceFields texts fields))
  | .array values => put (texts []) (.array (replaceElements texts 0 values))
  | .null => put (texts []) .null
  | .bool value => put (texts []) (.bool value)
  | .number value => put (texts []) (.number value)
  | .string value => put (texts []) (.string value)

def replaceFields (texts : List Step → Option String) :
    List (String × Json) → List (String × Json)
  | [] => []
  | (key, value) :: fields =>
    (key, replaceAt (fun place => texts (.field key :: place)) value) :: replaceFields texts fields

def replaceElements (texts : List Step → Option String) (index : ℕ) : List Json → List Json
  | [] => []
  | value :: values =>
    replaceAt (fun place => texts (.index index :: place)) value ::
      replaceElements texts (index + 1) values

end

theorem replaceAt_root {texts : List Step → Option String} {text : String}
    (h : texts [] = some text) (value : Json) : value.replaceAt texts = .string text := by
  cases value <;> rw [replaceAt, h, put_some]

theorem lookup_replaceFields (texts : List Step → Option String)
    (fields : List (String × Json)) (key : String) :
    (replaceFields texts fields).lookup key =
      (fields.lookup key).map (replaceAt fun place => texts (.field key :: place)) := by
  induction fields with
  | nil => rfl
  | cons entry fields ih =>
    obtain ⟨key', value⟩ := entry
    rw [replaceFields, List.lookup_cons, List.lookup_cons, ih]
    cases h : key == key' with
    | true =>
      obtain rfl := eq_of_beq h
      rfl
    | false => rfl

theorem getElem?_replaceElements (texts : List Step → Option String) (values : List Json)
    (index i : ℕ) :
    (replaceElements texts index values)[i]? =
      values[i]?.map (replaceAt fun place => texts (.index (index + i) :: place)) := by
  induction values generalizing index i with
  | nil => simp [replaceElements]
  | cons value values ih =>
    cases i with
    | zero => simp [replaceElements]
    | succ i =>
      rw [replaceElements, List.getElem?_cons_succ, List.getElem?_cons_succ, ih,
        Nat.add_right_comm, Nat.add_assoc]

/-- What is below a value that is not itself replaced. -/
theorem child_replaceAt {texts : List Step → Option String} (htexts : texts [] = none)
    {value below : Json} {step : Step} (h : value.child step = some below) :
    (value.replaceAt texts).child step =
      some (below.replaceAt fun place => texts (step :: place)) := by
  cases value <;> cases step <;> first | cases h | skip
  · rw [replaceAt, htexts, put_none]
    dsimp only [child] at h ⊢
    rw [getElem?_replaceElements, Nat.zero_add, h]
    rfl
  · rw [replaceAt, htexts, put_none]
    dsimp only [child] at h ⊢
    rw [lookup_replaceFields, h]
    rfl

/-- A place whose text is put there, when nothing above it is replaced. -/
theorem descend_replaceAt {texts : List Step → Option String} {value below : Json}
    {place : List Step} {text : String} (hbelow : value.descend place = some below)
    (htext : texts place = some text)
    (habove : ∀ above, above <+: place → above ≠ place → texts above = none) :
    (value.replaceAt texts).descend place = some (.string text) := by
  induction place generalizing texts value with
  | nil => exact congrArg some (replaceAt_root htext value)
  | cons step place ih =>
    obtain ⟨next, hnext, hbelow⟩ := Option.bind_eq_some_iff.mp hbelow
    have hroot := habove [] List.nil_prefix (List.cons_ne_nil _ _).symm
    rw [descend, child_replaceAt hroot hnext]
    refine ih hbelow htext fun above hstarts hne => ?_
    exact habove _ (List.cons_prefix_cons.mpr ⟨rfl, hstarts⟩) fun heq => hne (List.cons.inj heq).2

end Json

end CatalogBench
