import Mathlib
import StaticWrap.Marker.Read
/-!
**The lexemes of a marker comment.**

The reader cuts a marker into tokens by fixed rules; this module states the rules as classes of
texts and shows that the cutting follows them. In the top state a token is `//`, `::`, a flag
(`-` then a word), `=` or a word, and runs of blanks (spaces and tabs) between tokens are
dropped. After `=` comes a value: the longest double-quoted token at the front, whose inner
quotes all follow a backslash, or else the run of characters other than white space and quotes.
A word and a bare value run as far as their characters go.

* `TopToken`, `ValueToken`: the lexemes of the two states, each with what may follow it.
* `quotedBody_longest`: the reader ends a quoted token where the longest body ends.
* `lexFrom_blanks_token`, `lexFrom_value_token`: the reader takes such a lexeme and goes on after
  it; `lexFrom_top_ok`, `lexFrom_value_ok`: whatever it takes is such a lexeme.
* `lexFrom_emptyQuote`: the reader crashes only on an empty quoted value right after `=`.
-/

namespace StaticWrap.Marker

/-! ### Token classes -/

/-- A blank between tokens: a space or a tab. -/
def isBlank (c : Char) : Bool := c == ' ' || c == '\t'

/-- A character of a bare value: neither white space nor a quote. -/
def isBareChar (c : Char) : Bool := !isValueSpace c && c != '"'

/-- A word: a letter or `_`, then letters, digits and `_`. -/
def IsWord (w : List Char) : Prop :=
  ∃ c cs, w = c :: cs ∧ isWordStart c = true ∧ ∀ d ∈ cs, isWordChar d = true

/-- The text after a token cannot continue it: it does not start with a character of the
class. -/
def Ends (p : Char → Bool) (rest : List Char) : Prop := ∀ c ∈ rest.head?, p c = false

/-- Every quote of a quoted body comes right after a backslash. -/
def quotesEscaped : List Char → Bool
  | [] => true
  | '"' :: _ => false
  | '\\' :: '"' :: rest => quotesEscaped rest
  | _ :: rest => quotesEscaped rest

/-- `"body"` is the longest double-quoted token at the front of `"body" ++ rest`: its body has
only escaped quotes, and no longer body closed by a later quote has. -/
def LongestQuoted (body rest : List Char) : Prop :=
  quotesEscaped body ∧ ∀ body' rest', body' ++ '"' :: rest' = body ++ '"' :: rest →
    quotesEscaped body' → body'.length ≤ body.length

/-- The tokens of the top state: `raw` is taken from the front of `raw ++ rest` as a token of
kind `k`, its text being `raw` itself. -/
inductive TopToken : List Char → List Char → TokenKind → Prop
  | comment {rest : List Char} : TopToken ['/', '/'] rest .comment
  | separator {rest : List Char} : TopToken [':', ':'] rest .separator
  | flag {w rest : List Char} : IsWord w → Ends isWordChar rest → TopToken ('-' :: w) rest .flag
  | equals {rest : List Char} : TopToken ['='] rest .equals
  | word {w rest : List Char} : IsWord w → Ends isWordChar rest → TopToken w rest .word

/-- The tokens of the value state: `raw` is taken from the front of `raw ++ rest` as a token of
kind `k` with the text `text`. A quoted token is the longest at the front and its text is its
body unquoted; a bare token is a whole run of characters other than white space and quotes. -/
inductive ValueToken : List Char → List Char → TokenKind → String → Prop
  | quoted {body rest v : List Char} : LongestQuoted body rest →
      Text.unquoteBody '"' body = some v →
      ValueToken ('"' :: body ++ ['"']) rest .quoted (String.ofList v)
  | bare {run rest : List Char} : run ≠ [] → (∀ c ∈ run, isBareChar c = true) →
      Ends isBareChar rest → ValueToken run rest .bare (String.ofList run)

/-! ### Quoted tokens -/

theorem quotesEscaped_cons {c : Char} {x : List Char} (plain : c ≠ '"')
    (unescaping : ¬ (c = '\\' ∧ x.head? = some '"')) :
    quotesEscaped (c :: x) = quotesEscaped x := by
  by_cases backslash : c = '\\'
  · subst backslash
    match x with
    | [] => rfl
    | d :: y =>
      have : d ≠ '"' := fun same => unescaping ⟨rfl, by rw [same]; rfl⟩
      rw [quotesEscaped.eq_4 '\\' (d :: y) (by simp) (by simpa using this)]
  · rw [quotesEscaped.eq_4 c x plain (by simp [backslash])]

theorem quotedBody_eq_none_iff (l : List Char) : quotedBody l = none ↔ '"' ∉ l := by
  fun_induction quotedBody l with
  | case5 c rest _ plain ih => simp [ih, Ne.symm plain]
  | _ => simp_all

/-- The reader ends a quoted token where the longest body ends. -/
theorem quotedBody_sound {l : List Char} {n : Nat} (found : quotedBody l = some n) :
    ∃ body rest, l = body ++ '"' :: rest ∧ n = body.length + 1 ∧ LongestQuoted body rest := by
  fun_induction quotedBody l generalizing n with
  | case1 => cases found
  | case2 rest m inner ih =>
    -- an escaped quote, and a later quote closes the token
    rw [Option.some_inj] at found
    obtain ⟨body, rest', rfl, rfl, escaped, longest⟩ := ih inner
    refine ⟨'\\' :: '"' :: body, rest', rfl, by simp only [List.length_cons]; omega,
      by simpa [quotesEscaped] using escaped, ?_⟩
    intro other rest'' same otherEscaped
    rcases other with _ | ⟨c₁, _ | ⟨c₂, y⟩⟩
    · simp at same
    · simp
    · simp only [List.cons_append, List.cons.injEq] at same
      obtain ⟨rfl, rfl, same⟩ := same
      have := longest y rest'' same (by simpa [quotesEscaped] using otherEscaped)
      simp only [List.length_cons]
      omega
  | case3 rest unclosed ih =>
    -- an escaped quote that nothing closes later closes the token itself
    rw [Option.some_inj] at found
    subst found
    refine ⟨['\\'], rest, rfl, rfl, rfl, ?_⟩
    intro other rest'' same _
    rcases other with _ | ⟨c₁, _ | ⟨c₂, y⟩⟩
    · simp at same
    · simp
    · simp only [List.cons_append, List.cons.injEq] at same
      obtain ⟨rfl, rfl, rfl⟩ := same
      exact absurd (List.mem_append_right y List.mem_cons_self)
        ((quotedBody_eq_none_iff _).1 unclosed)
  | case4 tail =>
    rw [Option.some_inj] at found
    subst found
    refine ⟨[], tail, rfl, rfl, rfl, ?_⟩
    intro other rest'' same otherEscaped
    rcases other with _ | ⟨c₁, y⟩
    · exact le_refl 0
    · obtain ⟨rfl, -⟩ := List.cons.inj same
      simp [quotesEscaped] at otherEscaped
  | case5 c rest unescaping plain ih =>
    -- the rest does not start with a quote when `c` is a backslash, so `c` escapes nothing
    have unescaped : ∀ x y, rest = x ++ '"' :: y → ¬ (c = '\\' ∧ x.head? = some '"') := by
      rintro (_ | ⟨d, x⟩) y same ⟨rfl, front⟩
      · cases front
      · obtain rfl : d = '"' := by simpa using front
        exact unescaping _ rfl same
    obtain ⟨m, inner, rfl⟩ := Option.map_eq_some_iff.1 found
    obtain ⟨body, rest', rfl, rfl, escaped, longest⟩ := ih inner
    refine ⟨c :: body, rest', rfl, by simp, ?_, ?_⟩
    · rw [quotesEscaped_cons plain (unescaped body rest' rfl)]
      exact escaped
    · intro other rest'' same otherEscaped
      rcases other with _ | ⟨d, x⟩
      · exact absurd (List.cons.inj same).1.symm plain
      · simp only [List.cons_append, List.cons.injEq] at same
        obtain ⟨rfl, same⟩ := same
        rw [quotesEscaped_cons plain (unescaped x rest'' same.symm)] at otherEscaped
        have := longest x rest'' same otherEscaped
        simp only [List.length_cons]
        omega

theorem quotedBody_complete {body rest : List Char} (longest : LongestQuoted body rest) :
    quotedBody (body ++ '"' :: rest) = some (body.length + 1) := by
  cases found : quotedBody (body ++ '"' :: rest) with
  | none =>
    exact absurd (List.mem_append_right body List.mem_cons_self)
      ((quotedBody_eq_none_iff _).1 found)
  | some n =>
    -- the body the reader finds is longest too, so it is as long as this one
    obtain ⟨body', rest', same, rfl, escaped', longest'⟩ := quotedBody_sound found
    have shorter := longest.2 body' rest' same.symm escaped'
    have longer := longest' body rest same longest.1
    rw [show body'.length = body.length by omega]

/-- The reader's quoted token at the front is the longest one. -/
theorem quotedLength_eq_some_iff {l : List Char} {n : Nat} :
    quotedLength l = some n ↔
      ∃ body rest, l = '"' :: body ++ '"' :: rest ∧ n = body.length + 2 ∧
        LongestQuoted body rest := by
  constructor
  · intro found
    unfold quotedLength at found
    split at found
    · obtain ⟨m, closed, rfl⟩ := Option.map_eq_some_iff.1 found
      obtain ⟨body, rest, rfl, rfl, longest⟩ := quotedBody_sound closed
      exact ⟨body, rest, rfl, rfl, longest⟩
    · cases found
  · rintro ⟨body, rest, rfl, rfl, longest⟩
    simp only [quotedLength, List.cons_append, quotedBody_complete longest, Option.map_some]

/-! ### One step of the reader -/

@[simp] theorem lexFrom_nil (inValue : Bool) (col : Nat) :
    lexFrom inValue col [] = .ok [⟨.stop, "", col⟩] := by
  rw [lexFrom]
  rfl

/-- The top state drops a run of blanks. -/
theorem lexFrom_skip {l : List Char} {n : Nat} (nonempty : l ≠ []) (skip : topToken l = some (none, n))
    (positive : n ≠ 0) (col : Nat) :
    lexFrom false col l = lexFrom false (columnAfter col (l.take n)) (l.drop n) := by
  rw [lexFrom]
  simp only [nonempty, skip, positive, dite_false, Bool.false_eq_true]
  rfl

/-- The top state takes a token and goes on, in the value state after `=`. -/
theorem lexFrom_take {l : List Char} {k : TokenKind} {n : Nat} (nonempty : l ≠ [])
    (take : topToken l = some (some k, n)) (positive : n ≠ 0) (col : Nat) :
    lexFrom false col l = (lexFrom (k == .equals) (columnAfter col (l.take n)) (l.drop n)).map
      (⟨k, String.ofList (l.take n), col⟩ :: ·) := by
  rw [lexFrom]
  simp only [nonempty, take, positive, dite_false, Bool.false_eq_true]
  rfl

theorem lexFrom_top_none {l : List Char} (nonempty : l ≠ []) (none : topToken l = none)
    (col : Nat) : lexFrom false col l = .error (.noRule (sampleOf l) col) := by
  rw [lexFrom]
  simp only [nonempty, none, dite_false, Bool.false_eq_true, if_false]

/-- The value state takes a quoted token whose body unquotes. -/
theorem lexFrom_quoted {l body : List Char} {n : Nat} (nonempty : l ≠ [])
    (quoted : quotedLength l = some n) (long : 2 < n)
    (decoded : Text.unquoteBody '"' (((l.take n).drop 1).take (n - 2)) = some body) (col : Nat) :
    lexFrom true col l = (lexFrom false (columnAfter col (l.take n)) (l.drop n)).map
      (⟨.quoted, String.ofList body, col⟩ :: ·) := by
  rw [lexFrom]
  simp only [nonempty, quoted, show ¬ n ≤ 2 by omega, decoded, dite_false, if_true]

/-- Otherwise it takes the run of characters other than white space and quotes. -/
theorem lexFrom_bare {l : List Char} (nonempty : l ≠ []) (unquoted : quotedLength l = none)
    (run : bareRun l ≠ []) (col : Nat) :
    lexFrom true col l = (lexFrom false (columnAfter col (bareRun l)) (l.drop (bareRun l).length)).map
      (⟨.bare, String.ofList (bareRun l), col⟩ :: ·) := by
  rw [lexFrom]
  simp only [nonempty, unquoted, List.length_eq_zero_iff, run, dite_false, if_true]

theorem lexFrom_empty_quote {l : List Char} {n : Nat} (nonempty : l ≠ [])
    (quoted : quotedLength l = some n) (short : n ≤ 2) (col : Nat) :
    lexFrom true col l = .error .emptyQuote := by
  rw [lexFrom]
  simp only [nonempty, quoted, short, dite_false, dite_true, if_true]

theorem lexFrom_bad_quote {l : List Char} {n : Nat} (nonempty : l ≠ [])
    (quoted : quotedLength l = some n) (long : 2 < n)
    (undecoded : Text.unquoteBody '"' (((l.take n).drop 1).take (n - 2)) = none) (col : Nat) :
    lexFrom true col l = .error (.badQuote (String.ofList (l.take n)) col) := by
  rw [lexFrom]
  simp only [nonempty, quoted, show ¬ n ≤ 2 by omega, undecoded, dite_false, if_true]

theorem lexFrom_no_value {l : List Char} (nonempty : l ≠ []) (unquoted : quotedLength l = none)
    (run : bareRun l = []) (col : Nat) :
    lexFrom true col l = .error (.noRule (sampleOf l) col) := by
  rw [lexFrom]
  simp only [nonempty, unquoted, run, List.length_nil, dite_false, dite_true, if_true]

/-! ### What the top state takes -/

/-- A run of a class, followed by text that cannot continue it, is taken whole. -/
theorem takeWhile_run {p : Char → Bool} {run rest : List Char} (inside : ∀ c ∈ run, p c = true)
    (stops : Ends p rest) : (run ++ rest).takeWhile p = run := by
  rw [List.takeWhile_append_of_pos inside]
  cases rest with
  | nil => simp
  | cons c r => simp [stops c rfl]

/-- What is left after the longest run of a class cannot continue it. -/
theorem ends_dropWhile (p : Char → Bool) (l : List Char) : Ends p (l.dropWhile p) := by
  induction l with
  | nil => intro c mem; cases mem
  | cons c r ih =>
    by_cases inside : p c = true
    · rw [List.dropWhile_cons_of_pos inside]
      exact ih
    · rw [List.dropWhile_cons_of_neg inside]
      intro d mem
      obtain rfl : d = c := by simpa using mem.symm
      simpa using inside

/-- A word starts with none of the characters that open the other tokens. -/
theorem wordStart_ne {c : Char} (start : isWordStart c = true) :
    c ≠ ' ' ∧ c ≠ '\t' ∧ c ≠ '/' ∧ c ≠ ':' ∧ c ≠ '-' ∧ c ≠ '=' := by
  refine ⟨?_, ?_, ?_, ?_, ?_, ?_⟩ <;> rintro rfl <;> revert start <;> decide

theorem TopToken.ne_nil {raw rest : List Char} {k : TokenKind} (token : TopToken raw rest k) :
    raw ≠ [] := by
  cases token with
  | word word _ =>
    obtain ⟨c, cs, rfl, _⟩ := word
    exact List.cons_ne_nil c cs
  | _ => exact List.cons_ne_nil _ _

/-- No token of the top state starts with a blank. -/
theorem TopToken.ends_blank {raw rest : List Char} {k : TokenKind} (token : TopToken raw rest k) :
    Ends isBlank (raw ++ rest) := by
  cases token with
  | word word _ =>
    obtain ⟨c, cs, rfl, start, _⟩ := word
    obtain ⟨space, tab, -⟩ := wordStart_ne start
    intro d mem
    obtain rfl : d = c := by simpa using mem.symm
    simp [isBlank, space, tab]
  | _ => intro d mem; simp at mem; subst mem; decide

theorem topToken_token {raw rest : List Char} {k : TokenKind} (token : TopToken raw rest k) :
    topToken (raw ++ rest) = some (some k, raw.length) := by
  cases token with
  | comment => simp [topToken]
  | separator => simp [topToken]
  | equals => simp [topToken]
  | flag word stops =>
    obtain ⟨c, cs, rfl, start, chars⟩ := word
    simp [topToken, start, takeWhile_run chars stops]
    omega
  | word word stops =>
    obtain ⟨c, cs, rfl, start, chars⟩ := word
    obtain ⟨space, tab, slash, colon, dash, equal⟩ := wordStart_ne start
    simp [topToken, start, takeWhile_run chars stops, space, tab, slash, colon, dash, equal]
    omega

theorem topToken_blanks {b rest : List Char} (nonempty : b ≠ []) (blanks : ∀ c ∈ b, isBlank c = true)
    (stops : Ends isBlank rest) : topToken (b ++ rest) = some (none, b.length) := by
  obtain ⟨c, cs, rfl⟩ := List.exists_cons_of_ne_nil nonempty
  have first := blanks c List.mem_cons_self
  have run : (cs ++ rest).takeWhile (fun d => d == ' ' || d == '\t') = cs :=
    takeWhile_run (fun d mem => blanks d (List.mem_cons_of_mem c mem)) stops
  simp only [isBlank] at first
  simp only [topToken, List.cons_append, first, if_true, run, List.length_cons]
  rw [Nat.add_comm]

/-- What the top state takes at the front: a run of blanks, or one of its tokens. -/
theorem topToken_cases {l : List Char} {kind : Option TokenKind} {n : Nat}
    (taken : topToken l = some (kind, n)) :
    (kind = none ∧ ∃ b rest, l = b ++ rest ∧ b ≠ [] ∧ (∀ c ∈ b, isBlank c = true) ∧
        Ends isBlank rest ∧ n = b.length) ∨
      ∃ k raw rest, kind = some k ∧ l = raw ++ rest ∧ TopToken raw rest k ∧ n = raw.length := by
  cases l with
  | nil => cases taken
  | cons c rest =>
    rw [topToken] at taken
    split_ifs at taken with blank slash colon dash equal start
    · -- a run of blanks
      obtain ⟨rfl, rfl⟩ := taken
      refine .inl ⟨rfl, c :: rest.takeWhile isBlank, rest.dropWhile isBlank, ?_, List.cons_ne_nil _ _,
        ?_, ends_dropWhile isBlank rest, by rw [List.length_cons]; unfold isBlank; omega⟩
      · rw [List.cons_append, List.takeWhile_append_dropWhile]
      · intro d mem
        rcases List.mem_cons.1 mem with rfl | inner
        · exact blank
        · exact List.mem_takeWhile_imp inner
    · obtain ⟨rfl, rfl⟩ := taken
      obtain ⟨rfl, r, rfl⟩ : c = '/' ∧ ∃ r, rest = '/' :: r := by
        simp only [Bool.and_eq_true, beq_iff_eq, List.head?_eq_some_iff] at slash
        exact ⟨slash.1, slash.2⟩
      exact .inr ⟨_, _, _, rfl, rfl, .comment, rfl⟩
    · obtain ⟨rfl, rfl⟩ := taken
      obtain ⟨rfl, r, rfl⟩ : c = ':' ∧ ∃ r, rest = ':' :: r := by
        simp only [Bool.and_eq_true, beq_iff_eq, List.head?_eq_some_iff] at colon
        exact ⟨colon.1, colon.2⟩
      exact .inr ⟨_, _, _, rfl, rfl, .separator, rfl⟩
    · obtain ⟨rfl, rfl⟩ := taken
      simp only [Bool.and_eq_true, beq_iff_eq] at dash
      obtain ⟨rfl, opens⟩ := dash
      cases rest with
      | nil => simp at opens
      | cons d r =>
        simp only [List.head?_cons, Option.map_some, Option.getD_some] at opens
        refine .inr ⟨.flag, '-' :: d :: r.takeWhile isWordChar, r.dropWhile isWordChar, rfl, ?_,
          .flag ⟨d, _, rfl, opens, fun e mem => List.mem_takeWhile_imp mem⟩
            (ends_dropWhile isWordChar r), ?_⟩
        · simp only [List.cons_append, List.takeWhile_append_dropWhile]
        · simp only [List.drop_one, List.tail_cons, List.length_cons]
          omega
    · obtain ⟨rfl, rfl⟩ := taken
      obtain rfl : c = '=' := by simpa using equal
      exact .inr ⟨_, ['='], rest, rfl, rfl, .equals, rfl⟩
    · obtain ⟨rfl, rfl⟩ := taken
      refine .inr ⟨.word, c :: rest.takeWhile isWordChar, rest.dropWhile isWordChar, rfl, ?_,
        .word ⟨c, _, rfl, start, fun e mem => List.mem_takeWhile_imp mem⟩
          (ends_dropWhile isWordChar rest), ?_⟩
      · simp only [List.cons_append, List.takeWhile_append_dropWhile]
      · simp only [List.length_cons]
        omega

/-! ### The reader follows the classes -/

/-- Blanks before a text that does not start with one are dropped. -/
theorem lexFrom_blanks {b l : List Char} (blanks : ∀ c ∈ b, isBlank c = true)
    (stops : Ends isBlank l) (col : Nat) :
    ∃ col', lexFrom false col (b ++ l) = lexFrom false col' l := by
  by_cases empty : b = []
  · exact ⟨col, by rw [empty, List.nil_append]⟩
  · have nonempty : b ++ l ≠ [] := by simp [empty]
    refine ⟨columnAfter col b, ?_⟩
    rw [lexFrom_skip nonempty (topToken_blanks empty blanks stops) (by simpa using empty),
      List.take_left' rfl, List.drop_left' rfl]

/-- Blanks and a token of the top state: the reader takes the token and goes on after it, in the
value state after `=`. -/
theorem lexFrom_blanks_token {b raw rest : List Char} {k : TokenKind}
    (blanks : ∀ c ∈ b, isBlank c = true) (token : TopToken raw rest k) (col : Nat) :
    ∃ c₁ c₂, lexFrom false col (b ++ raw ++ rest) =
      (lexFrom (k == .equals) c₂ rest).map (⟨k, String.ofList raw, c₁⟩ :: ·) := by
  obtain ⟨c₁, skipped⟩ := lexFrom_blanks blanks token.ends_blank col
  have nonempty : raw ++ rest ≠ [] := by simp [token.ne_nil]
  have positive : raw.length ≠ 0 := by simpa using token.ne_nil
  refine ⟨c₁, columnAfter c₁ raw, ?_⟩
  rw [List.append_assoc, skipped, lexFrom_take nonempty (topToken_token token) positive,
    List.take_left' rfl, List.drop_left' rfl]

/-- A text of blanks ends the marker. -/
theorem lexFrom_blanks_end {b : List Char} (blanks : ∀ c ∈ b, isBlank c = true) (col : Nat) :
    ∃ c₁, lexFrom false col b = .ok [⟨.stop, "", c₁⟩] := by
  obtain ⟨c₁, skipped⟩ := lexFrom_blanks (l := []) blanks (fun _ mem => by cases mem) col
  exact ⟨c₁, by rw [← List.append_nil b, skipped, lexFrom_nil]⟩

theorem map_eq_ok {ε α β : Type} {read : Except ε α} {f : α → β} {b : β}
    (mapped : read.map f = .ok b) : ∃ a, read = .ok a ∧ f a = b := by
  cases read with
  | error e => cases mapped
  | ok a => exact ⟨a, rfl, Except.ok.inj mapped⟩

/-- What the top state reads is blanks to the end, or blanks and a token, the rest being read
on from there. -/
theorem lexFrom_top_ok {l : List Char} {col : Nat} {ts : List Token}
    (read : lexFrom false col l = .ok ts) :
    (∃ c₁, (∀ c ∈ l, isBlank c = true) ∧ ts = [⟨.stop, "", c₁⟩]) ∨
      ∃ b raw rest k c₁ c₂ more, (∀ c ∈ b, isBlank c = true) ∧ l = b ++ raw ++ rest ∧
        TopToken raw rest k ∧ ts = ⟨k, String.ofList raw, c₁⟩ :: more ∧
        lexFrom (k == .equals) c₂ rest = .ok more := by
  induction size : l.length using Nat.strong_induction_on generalizing l col ts with
  | _ n ih =>
  by_cases empty : l = []
  · subst empty
    rw [lexFrom_nil, Except.ok.injEq] at read
    exact .inl ⟨col, by simp, read.symm⟩
  · cases taken : topToken l with
    | none => rw [lexFrom_top_none empty taken] at read; cases read
    | some token =>
      obtain ⟨kind, n⟩ := token
      rcases topToken_cases taken with
        ⟨rfl, b, rest, rfl, nonempty, blanks, stops, rfl⟩ | ⟨k, raw, rest, rfl, rfl, token, rfl⟩
      · -- a run of blanks, then the rest read from the next column
        rw [lexFrom_skip empty taken (by simpa using nonempty), List.take_left' rfl,
          List.drop_left' rfl] at read
        have shorter : rest.length < n := by
          rw [← size, List.length_append]
          have := List.length_pos_of_ne_nil nonempty
          omega
        rcases ih rest.length shorter read rfl with ⟨c₁, blank, rfl⟩ |
          ⟨b', raw, rest', k, c₁, c₂, more, blanks', rfl, token, rfl, next⟩
        · refine .inl ⟨c₁, fun c mem => ?_, rfl⟩
          rcases List.mem_append.1 mem with front | back
          · exact blanks c front
          · exact blank c back
        · refine .inr ⟨b ++ b', raw, rest', k, c₁, c₂, more, fun c mem => ?_, by simp, token, rfl,
            next⟩
          rcases List.mem_append.1 mem with front | back
          · exact blanks c front
          · exact blanks' c back
      · rw [lexFrom_take empty taken (by simpa using token.ne_nil), List.take_left' rfl,
          List.drop_left' rfl] at read
        obtain ⟨more, next, rfl⟩ := map_eq_ok read
        exact .inr ⟨[], raw, rest, k, col, _, more, by simp, rfl, token, rfl, next⟩

theorem quotedLength_of_ne {c : Char} (other : c ≠ '"') (l : List Char) :
    quotedLength (c :: l) = none := by
  simp [quotedLength, other]

/-- A token of the value state: the reader takes it and goes on in the top state, unless it is
an empty quoted token. -/
theorem lexFrom_value_token {raw rest : List Char} {k : TokenKind} {text : String}
    (token : ValueToken raw rest k text) (filled : raw ≠ ['"', '"']) (col : Nat) :
    lexFrom true col (raw ++ rest) =
      (lexFrom false (columnAfter col raw) rest).map (⟨k, text, col⟩ :: ·) := by
  cases token with
  | @quoted body _ v longest decoded =>
    have length : ('"' :: body ++ ['"']).length = body.length + 2 := by simp
    have nonempty : body ≠ [] := by rintro rfl; exact filled rfl
    have long : 2 < body.length + 2 := by
      have := List.length_pos_of_ne_nil nonempty
      omega
    have quoted : quotedLength (('"' :: body ++ ['"']) ++ rest) = some (body.length + 2) :=
      quotedLength_eq_some_iff.2 ⟨body, rest, by simp, rfl, longest⟩
    have inner : (((('"' :: body ++ ['"']) ++ rest).take (body.length + 2)).drop 1).take
        (body.length + 2 - 2) = body := by
      rw [← length, List.take_left' rfl, length, Nat.add_sub_cancel]
      simp
    rw [lexFrom_quoted (by simp) quoted long (by rw [inner]; exact decoded), ← length,
      List.take_left' rfl, List.drop_left' rfl]
  | @bare run _ nonempty chars stops =>
    obtain ⟨c, cs, rfl⟩ := List.exists_cons_of_ne_nil nonempty
    have plain : c ≠ '"' := by
      have := chars c List.mem_cons_self
      rintro rfl
      revert this
      decide
    have taken : bareRun (c :: cs ++ rest) = c :: cs := takeWhile_run chars stops
    have unquoted : quotedLength (c :: cs ++ rest) = none := quotedLength_of_ne plain _
    have run : bareRun (c :: cs ++ rest) ≠ [] := by
      rw [taken]
      exact List.cons_ne_nil c cs
    rw [lexFrom_bare (by simp) unquoted run, taken, List.drop_left' rfl]

/-- What the value state reads is the end, or a value token and the rest read on from there. -/
theorem lexFrom_value_ok {l : List Char} {col : Nat} {ts : List Token}
    (read : lexFrom true col l = .ok ts) :
    (l = [] ∧ ts = [⟨.stop, "", col⟩]) ∨
      ∃ raw rest k text c₂ more, l = raw ++ rest ∧ ValueToken raw rest k text ∧
        ts = ⟨k, text, col⟩ :: more ∧ lexFrom false c₂ rest = .ok more := by
  by_cases empty : l = []
  · subst empty
    rw [lexFrom_nil, Except.ok.injEq] at read
    exact .inl ⟨rfl, read.symm⟩
  · right
    cases quoted : quotedLength l with
    | some n =>
      obtain ⟨body, rest, rfl, rfl, longest⟩ := quotedLength_eq_some_iff.1 quoted
      by_cases short : body.length + 2 ≤ 2
      · rw [lexFrom_empty_quote empty quoted short] at read
        cases read
      · cases decoded : Text.unquoteBody '"'
            (((('"' :: body ++ '"' :: rest).take (body.length + 2)).drop 1).take
              (body.length + 2 - 2)) with
        | none => rw [lexFrom_bad_quote empty quoted (by omega) decoded] at read; cases read
        | some v =>
          rw [lexFrom_quoted empty quoted (by omega) decoded] at read
          obtain ⟨more, next, rfl⟩ := map_eq_ok read
          -- the token is the quote, the body and the closing quote
          have split : '"' :: body ++ '"' :: rest = ('"' :: body ++ ['"']) ++ rest := by simp
          have length : ('"' :: body ++ ['"']).length = body.length + 2 := by simp
          rw [split, ← length, List.take_left' rfl, List.drop_left' rfl] at next
          rw [split, ← length, List.take_left' rfl, length, Nat.add_sub_cancel] at decoded
          simp only [List.drop_one, List.cons_append, List.tail_cons, List.take_left] at decoded
          exact ⟨_, rest, _, _, _, more, split, .quoted longest decoded, rfl, next⟩
    | none =>
      by_cases run : bareRun l = []
      · rw [lexFrom_no_value empty quoted run] at read
        cases read
      · rw [lexFrom_bare empty quoted run] at read
        obtain ⟨more, next, rfl⟩ := map_eq_ok read
        have whole : l = bareRun l ++ l.dropWhile isBareChar :=
          List.takeWhile_append_dropWhile.symm
        have drop : l.drop (bareRun l).length = l.dropWhile isBareChar :=
          (congrArg (List.drop (bareRun l).length) whole).trans (List.drop_left' rfl)
        rw [drop] at next
        exact ⟨bareRun l, l.dropWhile isBareChar, _, _, _, more, whole,
          .bare run (fun c mem => List.mem_takeWhile_imp mem) (ends_dropWhile isBareChar l), rfl,
          next⟩

/-! ### The crash -/

theorem map_eq_error {ε α β : Type} {read : Except ε α} {f : α → β} {fault : ε}
    (mapped : read.map f = .error fault) : read = .error fault := by
  cases read with
  | error e =>
    cases mapped
    rfl
  | ok more => cases mapped

/-- The reader crashes only on an empty quoted value: `""` at the front of a value, or right
after an `=` it took. -/
theorem lexFrom_emptyQuote {inValue : Bool} {col : Nat} {l : List Char}
    (crash : lexFrom inValue col l = .error .emptyQuote) :
    (inValue = true ∧ ∃ rest, l = '"' :: '"' :: rest) ∨ ['=', '"', '"'] <:+: l := by
  fun_induction lexFrom inValue col l with
  | case1 => cases crash
  | case2 col l _ n quoted short =>
    obtain ⟨body, rest, rfl, rfl, -⟩ := quotedLength_eq_some_iff.1 quoted
    obtain rfl : body = [] := List.eq_nil_of_length_eq_zero (by omega)
    exact .inl ⟨rfl, rest, rfl⟩
  | case3 => cases crash
  | case4 col l _ n _ _ _ _ _ _ ih =>
    have later := (ih (map_eq_error crash)).resolve_left (by simp)
    exact .inr (later.trans (List.drop_suffix n l).isInfix)
  | case5 => cases crash
  | case6 col l _ _ _ _ ih =>
    have later := (ih (map_eq_error crash)).resolve_left (by simp)
    exact .inr (later.trans (List.drop_suffix _ l).isInfix)
  | case7 => cases crash
  | case8 => cases crash
  | case9 inValue col l _ _ n _ _ _ k taken more ih =>
    -- after `=` the crash may come at once, on the value
    rcases ih (map_eq_error crash) with ⟨equals, rest, front⟩ | later
    · obtain rfl : k = .equals := by simpa using equals
      rcases topToken_cases taken with ⟨absurd, -⟩ | ⟨k, raw, r, same, rfl, token, rfl⟩
      · cases absurd
      · obtain rfl : k = .equals := (Option.some.inj same).symm
        cases token
        rw [List.drop_left' rfl] at front
        subst front
        exact .inr ⟨[], rest, rfl⟩
    · exact .inr (later.trans (List.drop_suffix n l).isInfix)
  | case10 inValue col l _ _ n _ _ _ _ more ih =>
    have later := (ih crash).resolve_left (by simp)
    exact .inr (later.trans (List.drop_suffix n l).isInfix)

end StaticWrap.Marker
