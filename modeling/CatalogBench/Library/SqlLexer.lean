import CatalogBench.Library.Ascii
import Mathlib.Data.List.Basic
import Mathlib.Tactic.Common

/-!
# The tokens of SQL

A machine over characters that cuts a text into tokens as standard SQL does: words, numbers,
literals in single quotes, delimited identifiers, comments and symbols. A text that is put together
from parts has the tokens of the parts, wherever a white space or a symbol stands between them.
-/

set_option linter.all false

namespace SqlLexer

inductive Token
  | word (text : String)
  | number (digits : String)
  | literal (value : String)
  | name (text : String)
  | symbol (c : Char)
  deriving DecidableEq

/-- What was read of a token, and of what is between tokens. -/
inductive State
  | blank
  | word (seen : List Char)
  | number (seen : List Char)
  | literal (seen : List Char)
  | literalQuote (seen : List Char)
  | name (seen : List Char)
  | nameQuote (seen : List Char)
  | dash
  | lineComment
  | slash
  | comment
  | commentStar
  deriving DecidableEq

def singleQuote : Char := Char.ofNat 39

def isBlank (c : Char) : Bool := c = ' ' || c = '\n' || c = '\t' || c = '\r'

def isWordStart (c : Char) : Bool := c.isAlpha || c = '_'

def isWordChar (c : Char) : Bool := c.isAlphanum || c = '_'

/-- The first character of a token. -/
def start (quote c : Char) : State × List Token :=
  if isBlank c then (.blank, [])
  else if c = singleQuote then (.literal [], [])
  else if c = quote then (.name [], [])
  else if isWordStart c then (.word [c], [])
  else if c.isDigit then (.number [c], [])
  else if c = '-' then (.dash, [])
  else if c = '/' then (.slash, [])
  else (.blank, [.symbol c])

/-- A token is over, and a character comes next. -/
def next (quote : Char) (token : Token) (c : Char) : State × List Token :=
  ((start quote c).1, token :: (start quote c).2)

def step (quote : Char) : State → Char → State × List Token
  | .blank, c => start quote c
  | .word seen, c =>
    if isWordChar c then (.word (seen ++ [c]), []) else next quote (.word (.ofList seen)) c
  | .number seen, c =>
    if isWordChar c || c = '.' then (.number (seen ++ [c]), [])
    else next quote (.number (.ofList seen)) c
  | .literal seen, c =>
    if c = singleQuote then (.literalQuote seen, []) else (.literal (seen ++ [c]), [])
  | .literalQuote seen, c =>
    -- a doubled quote is part of the literal
    if c = singleQuote then (.literal (seen ++ [c]), []) else next quote (.literal (.ofList seen)) c
  | .name seen, c => if c = quote then (.nameQuote seen, []) else (.name (seen ++ [c]), [])
  | .nameQuote seen, c =>
    if c = quote then (.name (seen ++ [c]), []) else next quote (.name (.ofList seen)) c
  | .dash, c => if c = '-' then (.lineComment, []) else next quote (.symbol '-') c
  | .lineComment, c => if c = '\n' then (.blank, []) else (.lineComment, [])
  | .slash, c => if c = '*' then (.comment, []) else next quote (.symbol '/') c
  | .comment, c => if c = '*' then (.commentStar, []) else (.comment, [])
  | .commentStar, c =>
    if c = '/' then (.blank, []) else if c = '*' then (.commentStar, []) else (.comment, [])

def run (quote : Char) : State → List Char → State × List Token
  | state, [] => (state, [])
  | state, c :: input =>
    let (state, tokens) := step quote state c
    let (state, more) := run quote state input
    (state, tokens ++ more)

/-- The end of the text; a literal, a name or a comment may not be open there. -/
def finish : State → Option (List Token)
  | .blank | .lineComment => some []
  | .word seen => some [.word (.ofList seen)]
  | .number seen => some [.number (.ofList seen)]
  | .literalQuote seen => some [.literal (.ofList seen)]
  | .nameQuote seen => some [.name (.ofList seen)]
  | .dash => some [.symbol '-']
  | .slash => some [.symbol '/']
  | .literal _ | .name _ | .comment | .commentStar => none

/-- The tokens of a text, where `quote` delimits identifiers. -/
def lex (quote : Char) (input : String) : Option (List Token) :=
  let (state, tokens) := run quote .blank input.toList
  (finish state).map (tokens ++ ·)

example : lex '"' "SELECT \"a\" -- 'b'\n FROM t;" =
    some [.word "SELECT", .name "a", .word "FROM", .word "t", .symbol ';'] := by
  decide +kernel

/-- The statements of a text. -/
def statements (tokens : List Token) : List (List Token) := tokens.splitOn (.symbol ';')

/-- The values that a text holds, in their order. -/
def values (tokens : List Token) : List Token :=
  tokens.filter fun
    | .number _ | .literal _ => true
    | _ => false

-- ════════════════════════════════
-- Parts of a text
-- ════════════════════════════════

variable {quote : Char}

theorem run_cons (state : State) (c : Char) (input : List Char) :
    run quote state (c :: input) = ((run quote (step quote state c).1 input).1,
      (step quote state c).2 ++ (run quote (step quote state c).1 input).2) :=
  rfl

theorem run_append (state : State) (a b : List Char) :
    run quote state (a ++ b) =
      ((run quote (run quote state a).1 b).1,
        (run quote state a).2 ++ (run quote (run quote state a).1 b).2) := by
  induction a generalizing state with
  | nil => rfl
  | cons c a ih => simp only [List.cons_append, run, ih, List.append_assoc]

/-- A state in which the next token may begin, and the token that ends there. -/
inductive Settled : State → List Token → Prop
  | blank : Settled .blank []
  | word {seen : List Char} : Settled (.word seen) [.word (.ofList seen)]
  | number {seen : List Char} : Settled (.number seen) [.number (.ofList seen)]
  | literal {seen : List Char} : Settled (.literalQuote seen) [.literal (.ofList seen)]
  | name {seen : List Char} : Settled (.nameQuote seen) [.name (.ofList seen)]

/-- A part of a text, from the end of a token to the end of another one. -/
def Reads (quote : Char) (input : List Char) (tokens : List Token) : Prop :=
  ∃ last, Settled (run quote .blank input).1 last ∧
    tokens = (run quote .blank input).2 ++ last

/-- A part of a text after which nothing is open. -/
def Closed (quote : Char) (input : List Char) (tokens : List Token) : Prop :=
  run quote .blank input = (.blank, tokens)

instance (input : List Char) (tokens : List Token) : Decidable (Closed quote input tokens) :=
  inferInstanceAs (Decidable (_ = _))

/-- A character that is part of no token before it. -/
def isDelimiter (quote c : Char) : Bool :=
  !(isWordChar c || c = '.' || c = singleQuote || c = quote)

/-- A part of a text that ends the token before it. -/
def Delimits (quote : Char) (input : List Char) : Prop :=
  ∀ c ∈ input.head?, isDelimiter quote c = true

instance (input : List Char) : Decidable (Delimits quote input) :=
  decidable_of_iff (input.head?.all (isDelimiter quote) = true) (by
    cases input <;> simp [Delimits])

theorem Settled.finish {state : State} {last : List Token} (h : Settled state last) :
    SqlLexer.finish state = some last := by
  cases h <;> rfl

theorem Settled.step {state : State} {last : List Token} (h : Settled state last) {c : Char}
    (hc : isDelimiter quote c = true) :
    SqlLexer.step quote state c = ((start quote c).1, last ++ (start quote c).2) := by
  simp only [isDelimiter, Bool.not_eq_true', Bool.or_eq_false_iff, decide_eq_false_iff_not] at hc
  obtain ⟨⟨⟨hword, hdot⟩, hsingle⟩, hquote⟩ := hc
  cases h with
  | blank => rfl
  | word =>
    rw [SqlLexer.step, if_neg (by rw [hword]; decide)]
    rfl
  | number =>
    rw [SqlLexer.step, if_neg (by simp [hword, hdot])]
    rfl
  | literal =>
    rw [SqlLexer.step, if_neg hsingle]
    rfl
  | name =>
    rw [SqlLexer.step, if_neg hquote]
    rfl

/-- From a settled state, a part that ends the token is read as from the beginning. -/
theorem Settled.run {state : State} {last : List Token} (h : Settled state last)
    {input : List Char} (hne : input ≠ []) (hinput : Delimits quote input) :
    SqlLexer.run quote state input =
      ((SqlLexer.run quote .blank input).1, last ++ (SqlLexer.run quote .blank input).2) := by
  obtain ⟨c, rest, rfl⟩ := List.exists_cons_of_ne_nil hne
  have hstep : SqlLexer.step quote .blank c = start quote c := rfl
  rw [run_cons, run_cons, h.step (hinput c rfl), hstep, List.append_assoc]

theorem Closed.reads {input : List Char} {tokens : List Token} (h : Closed quote input tokens) :
    Reads quote input tokens := by
  refine ⟨[], ?_, ?_⟩
  · rw [h]
    exact .blank
  · rw [h, List.append_nil]

theorem Closed.append {a b : List Char} {ts us : List Token} (ha : Closed quote a ts)
    (hb : Closed quote b us) : Closed quote (a ++ b) (ts ++ us) := by
  rw [Closed, run_append, ha, hb]

theorem Closed.append_reads {a b : List Char} {ts us : List Token} (ha : Closed quote a ts)
    (hb : Reads quote b us) : Reads quote (a ++ b) (ts ++ us) := by
  obtain ⟨last, hsettled, rfl⟩ := hb
  rw [Reads, run_append, ha]
  exact ⟨last, hsettled, (List.append_assoc _ _ _).symm⟩

theorem Reads.append {a b : List Char} {ts us : List Token} (ha : Reads quote a ts)
    (hb : Reads quote b us) (hdelimits : Delimits quote b) : Reads quote (a ++ b) (ts ++ us) := by
  obtain ⟨last, hlast, rfl⟩ := ha
  obtain ⟨last', hlast', rfl⟩ := hb
  by_cases hne : b = []
  · subst hne
    rw [List.append_nil]
    exact ⟨last, hlast, by cases hlast'; simp [run]⟩
  · rw [Reads, run_append, hlast.run hne hdelimits]
    exact ⟨last', hlast', by simp only [List.append_assoc]⟩

theorem Reads.close {a b : List Char} {ts us : List Token} (ha : Reads quote a ts)
    (hb : Closed quote b us) (hne : b ≠ []) (hdelimits : Delimits quote b) :
    Closed quote (a ++ b) (ts ++ us) := by
  obtain ⟨last, hlast, rfl⟩ := ha
  rw [Closed, run_append, hlast.run hne hdelimits, hb, List.append_assoc]

/-- A text that is read to its end has the tokens of its parts. -/
theorem Reads.lex {input : String} {tokens : List Token} (h : Reads quote input.toList tokens) :
    SqlLexer.lex quote input = some tokens := by
  obtain ⟨last, hlast, rfl⟩ := h
  rw [SqlLexer.lex]
  simp only [hlast.finish, Option.map_some]

-- ════════════════════════════════
-- Literals, names and numbers
-- ════════════════════════════════

/-- Quotes inside a literal are doubled. -/
def escape (value : List Char) : List Char :=
  value.flatMap fun c => if c = singleQuote then [singleQuote, singleQuote] else [c]

theorem run_escape (value seen : List Char) :
    run quote (.literal seen) (escape value) = (.literal (seen ++ value), []) := by
  induction value generalizing seen with
  | nil =>
    rw [List.append_nil]
    rfl
  | cons c value ih =>
    rw [escape, List.flatMap_cons, ← escape, run_append]
    have happend : seen ++ c :: value = seen ++ [c] ++ value := by simp
    by_cases hc : c = singleQuote
    · rw [if_pos hc]
      simp only [run, step, if_true, List.append_nil]
      rw [ih, happend, hc]
      rfl
    · rw [if_neg hc]
      simp only [run, step, if_neg hc, List.append_nil]
      rw [ih, happend]
      rfl

/-- A literal is one token, whatever its value is. -/
theorem reads_literal (value : List Char) :
    Reads quote (singleQuote :: (escape value ++ [singleQuote])) [.literal (.ofList value)] := by
  have hstart : start quote singleQuote = (.literal [], []) := by
    rw [start, if_neg (by decide), if_pos rfl]
  have hrun : run quote .blank (singleQuote :: (escape value ++ [singleQuote])) =
      (.literalQuote value, []) := by
    simp only [run, step, hstart, run_append, run_escape, if_true, List.nil_append]
  rw [Reads, hrun]
  exact ⟨_, .literal, rfl⟩

theorem run_name {text : List Char} (h : quote ∉ text) (seen : List Char) :
    run quote (.name seen) text = (.name (seen ++ text), []) := by
  induction text generalizing seen with
  | nil =>
    rw [List.append_nil]
    rfl
  | cons c text ih =>
    rw [List.mem_cons, not_or] at h
    simp only [run, step, if_neg (Ne.symm h.1), ih h.2, List.append_assoc, List.singleton_append,
      List.nil_append]

/-- A delimited identifier without quotes is one token. -/
theorem reads_name (hblank : isBlank quote = false) (hsingle : quote ≠ singleQuote)
    {text : List Char} (h : quote ∉ text) :
    Reads quote (quote :: (text ++ [quote])) [.name (.ofList text)] := by
  have hstart : start quote quote = (.name [], []) := by
    rw [start, if_neg (by rw [hblank]; decide), if_neg hsingle, if_pos rfl]
  have hrun : run quote .blank (quote :: (text ++ [quote])) = (.nameQuote text, []) := by
    simp only [run, step, hstart, run_append, run_name h, if_true, List.nil_append]
  rw [Reads, hrun]
  exact ⟨_, .name, rfl⟩

/-- A name before a dot. -/
theorem closed_name_dot (hblank : isBlank quote = false) (hsingle : quote ≠ singleQuote)
    (hdot : quote ≠ '.') {text : List Char} (h : quote ∉ text) :
    Closed quote (quote :: (text ++ [quote, '.'])) [.name (.ofList text), .symbol '.'] := by
  have hstart : start quote quote = (.name [], []) := by
    rw [start, if_neg (by rw [hblank]; decide), if_neg hsingle, if_pos rfl]
  have hstartDot : start quote '.' = (.blank, [.symbol '.']) := by
    rw [start, if_neg (by decide), if_neg (by decide), if_neg (Ne.symm hdot)]
    rfl
  rw [Closed]
  simp only [run, step, hstart, run_append, run_name h, if_true, List.nil_append, next,
    if_neg (Ne.symm hdot), hstartDot, List.append_nil]

theorem run_number {digits : List Char} (h : ∀ c ∈ digits, c.isDigit = true) (seen : List Char) :
    run quote (.number seen) digits = (.number (seen ++ digits), []) := by
  induction digits generalizing seen with
  | nil =>
    rw [List.append_nil]
    rfl
  | cons c digits ih =>
    have hword : isWordChar c = true := by
      rw [isWordChar, Char.isAlphanum, h c List.mem_cons_self, Bool.or_true, Bool.true_or]
    simp only [run, step, hword, Bool.true_or, if_true,
      ih fun c hc => h c (List.mem_cons_of_mem _ hc), List.append_assoc, List.singleton_append,
      List.nil_append]

theorem start_digit (hquote : quote.isDigit = false) {c : Char} (h : c.isDigit = true) :
    start quote c = (.number [c], []) := by
  have hne {other : Char} (hother : other.isDigit = false) : c ≠ other := by
    rintro rfl
    rw [h] at hother
    nomatch hother
  have hblank : isBlank c = false := by
    simp only [isBlank, Bool.or_eq_false_iff, decide_eq_false_iff_not]
    exact ⟨⟨⟨hne rfl, hne rfl⟩, hne rfl⟩, hne rfl⟩
  have hrange := Ascii.isDigit_iff.mp h
  have halpha : c.isAlpha = false := by
    rw [Bool.eq_false_iff, Ne, Ascii.isAlpha_iff, Ascii.isUpper_iff, Ascii.isLower_iff]
    omega
  have hword : isWordStart c = false := by
    rw [isWordStart, halpha, decide_eq_false (hne rfl)]
    rfl
  rw [start, if_neg (by rw [hblank]; decide), if_neg (hne rfl), if_neg (hne hquote),
    if_neg (by rw [hword]; decide), if_pos h]

/-- Digits are one token. -/
theorem reads_number (hquote : quote.isDigit = false) {digits : List Char} (hne : digits ≠ [])
    (h : ∀ c ∈ digits, c.isDigit = true) : Reads quote digits [.number (.ofList digits)] := by
  obtain ⟨c, rest, rfl⟩ := List.exists_cons_of_ne_nil hne
  have hrun : run quote .blank (c :: rest) = (.number (c :: rest), []) := by
    simp only [run, step, start_digit hquote (h c List.mem_cons_self),
      run_number fun c hc => h c (List.mem_cons_of_mem _ hc), List.nil_append]
    rfl
  rw [Reads, hrun]
  exact ⟨_, .number, rfl⟩

-- ════════════════════════════════
-- Lists
-- ════════════════════════════════

/-- Parts with a symbol between them. -/
def separated (c : Char) (parts : List (List Token)) : List Token := [.symbol c].intercalate parts

def commaSeparated (parts : List (List Token)) : List Token := separated ',' parts

theorem separated_cons {part : List Token} {parts : List (List Token)} (h : parts ≠ []) (c : Char) :
    separated c (part :: parts) = part ++ .symbol c :: separated c parts := by
  rw [separated, List.intercalate_cons_of_ne_nil h, List.append_assoc]
  rfl

theorem values_append (a b : List Token) : values (a ++ b) = values a ++ values b :=
  List.filter_append _ _

theorem values_separated (c : Char) (parts : List (List Token)) :
    values (separated c parts) = parts.flatMap values := by
  induction parts with
  | nil => rfl
  | cons part parts ih =>
    by_cases hnil : parts = []
    · rw [hnil, separated, List.intercalate_singleton, List.flatMap_singleton]
    · rw [separated_cons hnil, values_append, List.flatMap_cons, ← ih]
      rfl

theorem values_flatten (parts : List (List Token)) :
    values parts.flatten = parts.flatMap values := by
  rw [values, List.filter_flatten]
  rfl

theorem separated_pair (c : Char) (a b : List Token) :
    separated c [a, b] = a ++ .symbol c :: b := by
  rw [separated_cons (List.cons_ne_nil _ _), separated, List.intercalate_singleton]

theorem mem_separated {c : Char} {token : Token} {parts : List (List Token)}
    (h : token ∈ separated c parts) : token = .symbol c ∨ ∃ part ∈ parts, token ∈ part := by
  induction parts with
  | nil => exact absurd h List.not_mem_nil
  | cons part parts ih =>
    by_cases hnil : parts = []
    · rw [hnil, separated, List.intercalate_singleton] at h
      exact .inr ⟨part, List.mem_cons_self, h⟩
    · rw [separated_cons hnil] at h
      rcases List.mem_append.mp h with hpart | hrest
      · exact .inr ⟨part, List.mem_cons_self, hpart⟩
      · rcases List.mem_cons.mp hrest with rfl | hrest
        · exact .inl rfl
        · rcases ih hrest with rfl | ⟨other, hother, hmem⟩
          · exact .inl rfl
          · exact .inr ⟨other, List.mem_cons_of_mem _ hother, hmem⟩

/-- Without a semicolon there is one statement. -/
theorem statements_eq_singleton {tokens : List Token} (h : Token.symbol ';' ∉ tokens) :
    statements tokens = [tokens] :=
  List.splitOn_eq_singleton h

def separator : List Char := [',', ' ']

theorem closed_separator (hquote : isDelimiter quote ',' = true) :
    Closed quote separator [.symbol ','] := by
  have hne : ',' ≠ quote := by
    rintro rfl
    exact absurd hquote (by decide)
  have hstart : start quote ',' = (.blank, [.symbol ',']) := by
    rw [start, if_neg (by decide), if_neg (by decide), if_neg hne]
    rfl
  rw [Closed, separator, run_cons, step, hstart]
  rfl

theorem reads_join {parts : List (List Char)} {tokens : List (List Token)}
    (hquote : isDelimiter quote ',' = true) (h : List.Forall₂ (Reads quote) parts tokens) :
    Reads quote (separator.intercalate parts) (commaSeparated tokens) := by
  induction h with
  | nil => exact ⟨[], .blank, rfl⟩
  | @cons part token parts tokens hhead htail ih =>
    rw [commaSeparated, separated]
    cases htail with
    | nil =>
      rw [List.intercalate_singleton, List.intercalate_singleton]
      exact hhead
    | cons =>
      rw [List.intercalate_cons_of_ne_nil (List.cons_ne_nil _ _),
        List.intercalate_cons_of_ne_nil (List.cons_ne_nil _ _), List.append_assoc,
        List.append_assoc]
      refine hhead.append ((closed_separator hquote).append_reads ih) ?_
      rintro c hc
      obtain rfl := Option.some.inj hc
      exact hquote

end SqlLexer
