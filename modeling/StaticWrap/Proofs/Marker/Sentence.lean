import Mathlib
import StaticWrap.Proofs.Marker.Lexemes
/-!
**The sentences of the marker grammar.**

A marker is `//`, the word `mockable`, `::`, a kind word, then any number of parameters: a flag
(`-` and a word), alone or followed by `=` and a value token right after it. Blanks may stand
before every token but a value, and at the end. `MarkerText s kind ps` says that `s` is such a
sentence, with its kind word and its parameters (name, and value text if any), read through the
token classes of `Lexemes`.

* `ParamsText`, `MarkerText`: the grammar, as productions over the characters.
* `read_paramsText`, `paramsText_read`: a text of parameters, with no empty quoted value, is
  exactly what the reader and the parameter reader accept together up to the end token.
* `read_markerText`, `markerText_read`: the same for whole markers, whose written form is the
  kind word and the parameters of the sentence.
-/

namespace StaticWrap.Marker

/-! ### The grammar -/

/-- The parameters after the kind word: each a flag, alone or followed by `=` and a value token
right after it, with blanks allowed before each flag, before `=` and at the end. The value of a
parameter is the text of its token. -/
inductive ParamsText : List Char → List (String × Option String) → Prop
  | stop {b : List Char} : (∀ c ∈ b, isBlank c = true) → ParamsText b []
  | flag {b name rest : List Char} {ps : List (String × Option String)} :
      (∀ c ∈ b, isBlank c = true) → IsWord name → ParamsText rest ps →
      ParamsText (b ++ '-' :: name ++ rest) ((String.ofList name, none) :: ps)
  | valued {b name b' raw rest : List Char} {k : TokenKind} {text : String}
      {ps : List (String × Option String)} :
      (∀ c ∈ b, isBlank c = true) → IsWord name → (∀ c ∈ b', isBlank c = true) →
      ValueToken raw rest k text → ParamsText rest ps →
      ParamsText (b ++ '-' :: name ++ b' ++ '=' :: raw ++ rest)
        ((String.ofList name, some text) :: ps)

/-- A marker: `//`, `mockable`, `::` and a kind word, each after blanks, then its
parameters. -/
def MarkerText (s : List Char) (kind : String) (ps : List (String × Option String)) : Prop :=
  ∃ b₀ b₁ b₂ b₃ k rest, (∀ c ∈ b₀ ++ b₁ ++ b₂ ++ b₃, isBlank c = true) ∧ IsWord k ∧
    s = b₀ ++ ['/', '/'] ++ b₁ ++ "mockable".toList ++ b₂ ++ [':', ':'] ++ b₃ ++ k ++ rest ∧
    kind = String.ofList k ∧ ParamsText rest ps

/-- Parameters start with a blank or a flag, so they cannot continue a word. -/
theorem ParamsText.ends_word {l : List Char} {ps : List (String × Option String)}
    (text : ParamsText l ps) : Ends isWordChar l := by
  have dash : isWordChar '-' = false := by decide
  have blank : ∀ c, isBlank c = true → isWordChar c = false := by
    intro c isB
    simp only [isBlank, Bool.or_eq_true, beq_iff_eq] at isB
    rcases isB with rfl | rfl <;> decide
  intro c first
  cases text with
  | stop blanks => exact blank c (blanks c (List.mem_of_mem_head? first))
  | @flag b _ _ _ blanks _ _ | @valued b _ _ _ _ _ _ _ blanks _ _ _ _ =>
    -- the first character is one of the blanks or the dash
    cases b with
    | nil =>
      obtain rfl : c = '-' := by simpa using first.symm
      exact dash
    | cons d b => exact blank c (blanks c (by simp_all))

/-! ### The parameter reader -/

theorem TopToken.kind_ne_stop {raw rest : List Char} {k : TokenKind} (token : TopToken raw rest k) :
    k ≠ .stop := by
  cases token <;> simp

theorem ValueToken.kind_value {raw rest : List Char} {k : TokenKind} {text : String}
    (token : ValueToken raw rest k text) : k = .quoted ∨ k = .bare := by
  cases token
  · exact .inl rfl
  · exact .inr rfl

theorem trimPrefix_flag (name : List Char) :
    Text.trimPrefix (String.ofList ('-' :: name)) "-" = String.ofList name := by
  simp [Text.trimPrefix, Text.cutPrefix?, Text.dropPrefix?]

/-- A token other than a flag ends the parameters. -/
theorem readParams_other {t : Token} (other : t.kind ≠ .flag) (ts : List Token) :
    readParams (t :: ts) = .ok ([], t :: ts) := by
  simp [readParams, other]

/-- A flag, `=` and a value token make a parameter with a value. -/
theorem readParams_valued {t e v : Token} (flag : t.kind = .flag) (equals : e.kind = .equals)
    (value : v.kind = .quoted ∨ v.kind = .bare) (ts : List Token) :
    readParams (t :: e :: v :: ts) = (readParams ts).map fun (ps, r) =>
      (⟨Text.trimPrefix t.text "-", some v.text, t.column⟩ :: ps, r) := by
  have valueKind : (v.kind == .quoted || v.kind == .bare) = true := by
    rcases value with same | same <;> simp [same]
  conv_lhs => rw [readParams]
  simp only [flag, equals, bne_self_eq_false, Bool.false_eq_true, if_false, beq_self_eq_true,
    if_true, valueKind]

/-- A flag not followed by `=` makes a parameter without a value. -/
theorem readParams_flag {t : Token} {ts : List Token} (flag : t.kind = .flag)
    (unequal : ∀ e ∈ ts.head?, e.kind ≠ .equals) (nonempty : ts ≠ []) :
    readParams (t :: ts) = (readParams ts).map fun (ps, r) =>
      (⟨Text.trimPrefix t.text "-", none, t.column⟩ :: ps, r) := by
  match ts, unequal, nonempty with
  | [e], unequal, _ | e :: _ :: _, unequal, _ =>
    have : (e.kind == .equals) = false := by simpa using unequal e rfl
    conv_lhs => rw [readParams]
    simp only [flag, bne_self_eq_false, Bool.false_eq_true, if_false, this]

/-- What the parameter reader makes of a flag at the front: a parameter with the value after
`=`, or one without a value when no `=` follows. -/
theorem readParams_flag_cases {t : Token} {ts : List Token} {wps : List WrittenParam}
    {r : List Token} (flag : t.kind = .flag) (parsed : readParams (t :: ts) = .ok (wps, r)) :
    (∃ e v more wps', ts = e :: v :: more ∧ e.kind = .equals ∧
        (v.kind = .quoted ∨ v.kind = .bare) ∧ readParams more = .ok (wps', r) ∧
        wps = ⟨Text.trimPrefix t.text "-", some v.text, t.column⟩ :: wps') ∨
      ∃ wps', (∀ e ∈ ts.head?, e.kind ≠ .equals) ∧ readParams ts = .ok (wps', r) ∧
        wps = ⟨Text.trimPrefix t.text "-", none, t.column⟩ :: wps' := by
  -- a flag with no `=` after it, seen through the reader's step on the rest
  have alone : ∀ (unequal : ∀ e ∈ ts.head?, e.kind ≠ .equals), ts ≠ [] →
      ∃ wps', (∀ e ∈ ts.head?, e.kind ≠ .equals) ∧ readParams ts = .ok (wps', r) ∧
        wps = ⟨Text.trimPrefix t.text "-", none, t.column⟩ :: wps' := by
    intro unequal nonempty
    rw [readParams_flag flag unequal nonempty] at parsed
    obtain ⟨⟨wps', r'⟩, rest, same⟩ := map_eq_ok parsed
    obtain ⟨rfl, rfl⟩ := Prod.mk.inj same
    exact ⟨wps', unequal, rest, rfl⟩
  match ts with
  | [] =>
    conv at parsed => lhs; rw [readParams]
    simp only [flag, bne_self_eq_false, Bool.false_eq_true, if_false, Except.ok.injEq,
      Prod.mk.injEq] at parsed
    obtain ⟨rfl, rfl⟩ := parsed
    exact .inr ⟨[], by simp, by rw [readParams], rfl⟩
  | [e] =>
    by_cases equals : e.kind = .equals
    · conv at parsed => lhs; rw [readParams]
      simp [flag, equals] at parsed
    · exact .inr (alone (by simpa using equals) (List.cons_ne_nil e []))
  | e :: v :: more =>
    by_cases equals : e.kind = .equals
    · by_cases value : v.kind = .quoted ∨ v.kind = .bare
      · rw [readParams_valued flag equals value] at parsed
        obtain ⟨⟨wps', r'⟩, rest, same⟩ := map_eq_ok parsed
        obtain ⟨rfl, rfl⟩ := Prod.mk.inj same
        exact .inl ⟨e, v, more, wps', rfl, equals, value, rest, rfl⟩
      · conv at parsed => lhs; rw [readParams]
        have : (v.kind == .quoted || v.kind == .bare) = false := by simpa using value
        simp [flag, equals, this] at parsed
    · exact .inr (alone (by simpa using equals) (List.cons_ne_nil e _))

/-! ### Parameters as the readers see them -/

theorem ends_cons {p : Char → Bool} {c : Char} (outside : p c = false) (rest : List Char) :
    Ends p (c :: rest) := by
  intro d first
  obtain rfl : d = c := by simpa using first.symm
  exact outside

/-- Blanks and then a character that is no word character cannot continue a word. -/
theorem ends_word_blanks {b rest : List Char} (blanks : ∀ c ∈ b, isBlank c = true)
    (next : Ends isWordChar rest) : Ends isWordChar (b ++ rest) := by
  intro c first
  cases b with
  | nil => exact next c (by simpa using first)
  | cons d b =>
    obtain rfl : c = d := by simpa using first.symm
    have blank := blanks c List.mem_cons_self
    simp only [isBlank, Bool.or_eq_true, beq_iff_eq] at blank
    rcases blank with rfl | rfl <;> decide

/-- The text after a parameter is a suffix of the whole, so it holds no empty quoted value when
the whole holds none. -/
theorem filled_of_suffix {l m : List Char} (suffix : m <:+ l) (filled : ¬ ['=', '"', '"'] <:+: l) :
    ¬ ['=', '"', '"'] <:+: m :=
  fun inner => filled (inner.trans suffix.isInfix)

/-- A text of parameters with no empty quoted value is read to the end token, into its
parameters. -/
theorem read_paramsText {l : List Char} {ps : List (String × Option String)}
    (text : ParamsText l ps) (filled : ¬ ['=', '"', '"'] <:+: l) (col : Nat) :
    ∃ ts wps c, lexFrom false col l = .ok ts ∧ readParams ts = .ok (wps, [⟨.stop, "", c⟩]) ∧
      wps.map (fun p => (p.name, p.value?)) = ps ∧
      ∀ t ∈ ts.head?, t.kind = .flag ∨ t.kind = .stop := by
  induction text generalizing col with
  | stop blanks =>
    obtain ⟨c, read⟩ := lexFrom_blanks_end blanks col
    refine ⟨_, [], c, read, ?_, rfl, by simp⟩
    simp [readParams]
  | @flag b name rest ps blanks word tail ih =>
    have token : TopToken ('-' :: name) rest .flag := .flag word tail.ends_word
    obtain ⟨c₁, c₂, lexed⟩ := lexFrom_blanks_token blanks token col
    obtain ⟨ts, wps, c, next, parsed, names, head⟩ :=
      ih (filled_of_suffix (List.suffix_append _ _) filled) c₂
    have nonempty : ts ≠ [] := by
      rintro rfl
      simp [readParams] at parsed
    have unequal : ∀ e ∈ ts.head?, e.kind ≠ .equals := by
      intro e first
      rcases head e first with kind | kind <;> simp [kind]
    refine ⟨⟨.flag, String.ofList ('-' :: name), c₁⟩ :: ts, ⟨String.ofList name, none, c₁⟩ :: wps,
      c, ?_, ?_, by simp [names], by simp⟩
    · rw [lexed, show (TokenKind.flag == .equals) = false from rfl, next]
      rfl
    · rw [readParams_flag rfl unequal nonempty, parsed, trimPrefix_flag]
      rfl
  | @valued b name b' raw rest k text ps blanks word blanks' value tail ih =>
    -- a flag, blanks, `=` and the value token, then the rest
    have shape : b ++ '-' :: name ++ b' ++ '=' :: raw ++ rest =
        b ++ ('-' :: name) ++ (b' ++ ['='] ++ (raw ++ rest)) := by simp
    rw [shape] at filled ⊢
    have token : TopToken ('-' :: name) (b' ++ ['='] ++ (raw ++ rest)) .flag :=
      .flag word (by simpa using ends_word_blanks blanks' (ends_cons (by decide) (raw ++ rest)))
    have filledValue : raw ≠ ['"', '"'] := by
      rintro rfl
      exact filled ⟨b ++ ('-' :: name) ++ b', rest, by simp⟩
    obtain ⟨c₁, c₂, lexed⟩ := lexFrom_blanks_token blanks token col
    obtain ⟨c₃, c₄, lexedEquals⟩ := lexFrom_blanks_token blanks' (@TopToken.equals (raw ++ rest)) c₂
    have lexedValue := lexFrom_value_token value filledValue c₄
    obtain ⟨ts, wps, c, next, parsed, names, -⟩ :=
      ih (filled_of_suffix ⟨b ++ ('-' :: name) ++ (b' ++ ['='] ++ raw), by simp⟩ filled)
        (columnAfter c₄ raw)
    refine ⟨⟨.flag, String.ofList ('-' :: name), c₁⟩ :: ⟨.equals, String.ofList ['='], c₃⟩ ::
      ⟨k, text, c₄⟩ :: ts, ⟨String.ofList name, some text, c₁⟩ :: wps, c, ?_, ?_,
      by simp [names], by simp⟩
    · rw [lexed, show (TokenKind.flag == .equals) = false from rfl, lexedEquals,
        show (TokenKind.equals == .equals) = true from rfl, lexedValue, next]
      rfl
    · rw [readParams_valued rfl rfl value.kind_value, parsed, trimPrefix_flag]
      rfl

/-- What the reader and the parameter reader accept together, up to the end token, is a text of
parameters, and the parameters are those read. -/
theorem paramsText_read {l : List Char} {col : Nat} {ts : List Token} {wps : List WrittenParam}
    {r : List Token} (read : lexFrom false col l = .ok ts) (parsed : readParams ts = .ok (wps, r))
    (ended : ∀ t ∈ r.head?, t.kind = .stop) :
    ParamsText l (wps.map fun p => (p.name, p.value?)) := by
  induction size : l.length using Nat.strong_induction_on generalizing l col ts wps r with
  | _ n ih =>
  rcases lexFrom_top_ok read with ⟨c₁, blanks, rfl⟩ |
    ⟨b, raw, rest, k, c₁, c₂, more, blanks, rfl, token, rfl, next⟩
  · -- blanks to the end: no parameter
    have stop : readParams [⟨.stop, "", c₁⟩] = .ok ([], [⟨.stop, "", c₁⟩]) := by simp [readParams]
    rw [stop] at parsed
    obtain ⟨rfl, rfl⟩ := Prod.mk.inj (Except.ok.inj parsed)
    exact .stop blanks
  · by_cases flag : k = .flag
    · subst flag
      cases token with
      | @flag name _ word _ =>
      rcases readParams_flag_cases rfl parsed with
        ⟨e, v, more', wps', rfl, equals, value, rest', rfl⟩ | ⟨wps', _, rest', rfl⟩
      · -- `=` follows, after blanks, and then the value token
        rcases lexFrom_top_ok next with ⟨c, -, same⟩ |
          ⟨b', raw', rest₂, k', c₃, c₄, more₂, blanks', rfl, token', same, next'⟩
        · simp at same
        · obtain ⟨rfl, rfl⟩ := List.cons.inj same
          obtain rfl : k' = .equals := equals
          cases token'
          rcases lexFrom_value_ok next' with ⟨-, same'⟩ |
            ⟨raw'', rest₃, kv, text, c₅, more₃, rfl, vtoken, same', next''⟩
          · obtain ⟨rfl, -⟩ := List.cons.inj same'
            simp at value
          · obtain ⟨rfl, rfl⟩ := List.cons.inj same'
            have shorter : rest₃.length < n := by
              rw [← size]
              simp only [List.length_append, List.length_cons]
              omega
            have tail := ih rest₃.length shorter next'' rest' ended rfl
            have shape : b ++ ('-' :: name) ++ (b' ++ ['='] ++ (raw'' ++ rest₃)) =
                b ++ '-' :: name ++ b' ++ '=' :: raw'' ++ rest₃ := by simp
            rw [shape, List.map_cons, trimPrefix_flag]
            exact .valued blanks word blanks' vtoken tail
      · -- a flag alone
        have shorter : rest.length < n := by
          rw [← size]
          simp only [List.length_append, List.length_cons]
          omega
        have tail := ih rest.length shorter next rest' ended rfl
        rw [List.map_cons, trimPrefix_flag]
        exact .flag blanks word tail
    · -- another token ends the parameters, but only the end token may end them
      rw [readParams_other flag] at parsed
      obtain ⟨rfl, rfl⟩ := Prod.mk.inj (Except.ok.inj parsed)
      exact absurd (ended _ rfl) token.kind_ne_stop

/-! ### Markers -/

/-- The grammar reader on a marker's four leading tokens: the rest is read as parameters, which
must run to the end token. -/
theorem parseTokens_lead {t₀ t₁ t₂ t₃ : Token} (comment : t₀.kind = .comment)
    (mockable : t₁.text = "mockable") (started : t₁.kind ≠ .stop) (separator : t₂.kind = .separator)
    (word : t₃.kind = .word) {more : List Token} {wps : List WrittenParam} {r : List Token}
    (parsed : readParams more = .ok (wps, r)) (ended : ∀ t ∈ r.head?, t.kind = .stop) :
    parseTokens (t₀ :: t₁ :: t₂ :: t₃ :: more) = .ok ⟨t₃.text, wps⟩ := by
  cases r with
  | nil => simp [parseTokens, front, comment, mockable, started, separator, word, parsed]
  | cons t r =>
    have stop : t.kind = .stop := ended t rfl
    simp [parseTokens, front, comment, mockable, started, separator, word, parsed, stop]

/-- What the grammar reader accepts: four leading tokens, then parameters that run to the end
token. -/
theorem parseTokens_ok {ts : List Token} {w : Written} (parsed : parseTokens ts = .ok w) :
    ∃ t₀ t₁ t₂ t₃ more r, ts = t₀ :: t₁ :: t₂ :: t₃ :: more ∧ t₀.kind = .comment ∧
      t₁.text = "mockable" ∧ t₁.kind ≠ .stop ∧ t₂.kind = .separator ∧ t₃.kind = .word ∧
      readParams more = .ok (w.params, r) ∧ (∀ t ∈ r.head?, t.kind = .stop) ∧
      w.kind = t₃.text := by
  match ts with
  | [] => simp [parseTokens, front] at parsed
  | [t₀] | [t₀, t₁] | [t₀, t₁, t₂] =>
    -- a token runs short: the grammar reader meets the end token too early
    simp [parseTokens, front] at parsed
    split_ifs at parsed
  | t₀ :: t₁ :: t₂ :: t₃ :: more =>
    simp only [parseTokens, front, List.drop_succ_cons, List.drop_zero, List.headD_cons] at parsed
    split_ifs at parsed with comment lead separator word
    split at parsed
    · cases parsed
    · rename_i wps r read
      split_ifs at parsed with ended
      obtain rfl := (Except.ok.inj parsed)
      simp only [bne_iff_ne, ne_eq, Decidable.not_not, Bool.or_eq_true, beq_iff_eq,
        not_or] at comment lead separator word ended
      refine ⟨t₀, t₁, t₂, t₃, more, r, rfl, comment, lead.1, lead.2, separator, word, read, ?_, rfl⟩
      intro t first
      cases r with
      | nil => cases first
      | cons t' r =>
        obtain rfl : t' = t := by simpa using first
        exact ended

theorem isWord_mockable : IsWord "mockable".toList := by
  have spelled : "mockable".toList = ['m', 'o', 'c', 'k', 'a', 'b', 'l', 'e'] := by simp
  refine ⟨'m', ['o', 'c', 'k', 'a', 'b', 'l', 'e'], spelled, by decide, fun d mem => ?_⟩
  simp only [List.mem_cons, List.not_mem_nil, or_false] at mem
  rcases mem with rfl | rfl | rfl | rfl | rfl | rfl | rfl <;> rfl

/-- A sentence with no empty quoted value is read into its kind word and parameters. -/
theorem read_markerText {s : List Char} {kind : String} {ps : List (String × Option String)}
    (text : MarkerText s kind ps) (filled : ¬ ['=', '"', '"'] <:+: s) (col : Nat) :
    ∃ ts w, lexFrom false col s = .ok ts ∧ parseTokens ts = .ok w ∧ w.kind = kind ∧
      w.params.map (fun p => (p.name, p.value?)) = ps := by
  obtain ⟨b₀, b₁, b₂, b₃, k, rest, blanks, word, rfl, rfl, params⟩ := text
  have blanksAt : ∀ b, b = b₀ ∨ b = b₁ ∨ b = b₂ ∨ b = b₃ → ∀ c ∈ b, isBlank c = true := by
    rintro b (rfl | rfl | rfl | rfl) c mem <;> exact blanks c (by simp [mem])
  -- the four leading tokens, each after its blanks
  have shape : b₀ ++ ['/', '/'] ++ b₁ ++ "mockable".toList ++ b₂ ++ [':', ':'] ++ b₃ ++ k ++ rest =
      b₀ ++ ['/', '/'] ++ (b₁ ++ "mockable".toList ++ (b₂ ++ [':', ':'] ++ (b₃ ++ k ++ rest))) := by
    simp
  have separatorAhead : Ends isWordChar (b₂ ++ [':', ':'] ++ (b₃ ++ k ++ rest)) := by
    simpa using ends_word_blanks (blanksAt b₂ (by simp)) (ends_cons (by decide) (':' :: (b₃ ++ k ++ rest)))
  obtain ⟨c₀, d₀, lexed₀⟩ := lexFrom_blanks_token (blanksAt b₀ (by simp))
    (@TopToken.comment (b₁ ++ "mockable".toList ++ (b₂ ++ [':', ':'] ++ (b₃ ++ k ++ rest)))) col
  obtain ⟨c₁, d₁, lexed₁⟩ := lexFrom_blanks_token (blanksAt b₁ (by simp))
    (TopToken.word isWord_mockable separatorAhead) d₀
  obtain ⟨c₂, d₂, lexed₂⟩ := lexFrom_blanks_token (blanksAt b₂ (by simp))
    (@TopToken.separator (b₃ ++ k ++ rest)) d₁
  obtain ⟨c₃, d₃, lexed₃⟩ := lexFrom_blanks_token (blanksAt b₃ (by simp))
    (TopToken.word word params.ends_word) d₂
  rw [shape] at filled ⊢
  obtain ⟨ts, wps, c, next, parsed, names, -⟩ :=
    read_paramsText params (filled_of_suffix
      ⟨b₀ ++ ['/', '/'] ++ (b₁ ++ "mockable".toList ++ (b₂ ++ [':', ':'] ++ (b₃ ++ k))), by simp⟩
      filled) d₃
  refine ⟨⟨.comment, String.ofList ['/', '/'], c₀⟩ :: ⟨.word, "mockable", c₁⟩ ::
    ⟨.separator, String.ofList [':', ':'], c₂⟩ :: ⟨.word, String.ofList k, c₃⟩ :: ts,
    ⟨String.ofList k, wps⟩, ?_, parseTokens_lead rfl rfl (by simp) rfl rfl parsed (by simp),
    rfl, names⟩
  rw [lexed₀, show (TokenKind.comment == .equals) = false from rfl, lexed₁,
    show (TokenKind.word == .equals) = false from rfl, lexed₂,
    show (TokenKind.separator == .equals) = false from rfl, lexed₃,
    show (TokenKind.word == .equals) = false from rfl, next]
  rfl

/-- What the reader and the grammar reader accept is a sentence, with the kind word and the
parameters read. -/
theorem markerText_read {s : List Char} {col : Nat} {ts : List Token} {w : Written}
    (read : lexFrom false col s = .ok ts) (parsed : parseTokens ts = .ok w) :
    MarkerText s w.kind (w.params.map fun p => (p.name, p.value?)) := by
  obtain ⟨t₀, t₁, t₂, t₃, more, r, rfl, comment, mockable, -, separator, word, params, ended,
    kind⟩ := parseTokens_ok parsed
  -- `//`
  rcases lexFrom_top_ok read with ⟨_, _, same⟩ |
    ⟨b₀, raw₀, r₀, k₀, _, _, m₀, blanks₀, rfl, token₀, same₀, next₀⟩
  · simp at same
  obtain ⟨rfl, rfl⟩ := List.cons.inj same₀
  obtain rfl : k₀ = .comment := comment
  cases token₀
  -- `mockable`
  rcases lexFrom_top_ok next₀ with ⟨_, _, same⟩ |
    ⟨b₁, raw₁, r₁, k₁, _, _, m₁, blanks₁, rfl, token₁, same₁, next₁⟩
  · simp at same
  obtain ⟨rfl, rfl⟩ := List.cons.inj same₁
  have spelled : raw₁ = "mockable".toList := by
    rw [← @String.toList_ofList raw₁]
    exact congrArg String.toList mockable
  have notEquals : (k₁ == .equals) = false := by
    cases token₁ with
    | equals => simp at spelled
    | _ => rfl
  rw [notEquals] at next₁
  -- `::`
  rcases lexFrom_top_ok next₁ with ⟨_, _, same⟩ |
    ⟨b₂, raw₂, r₂, k₂, _, _, m₂, blanks₂, rfl, token₂, same₂, next₂⟩
  · simp at same
  obtain ⟨rfl, rfl⟩ := List.cons.inj same₂
  obtain rfl : k₂ = .separator := separator
  cases token₂
  -- the kind word, then the parameters
  rcases lexFrom_top_ok next₂ with ⟨_, _, same⟩ |
    ⟨b₃, raw₃, r₃, k₃, _, _, m₃, blanks₃, rfl, token₃, same₃, next₃⟩
  · obtain ⟨rfl, -⟩ := List.cons.inj same
    cases word
  obtain ⟨rfl, rfl⟩ := List.cons.inj same₃
  obtain rfl : k₃ = .word := word
  cases token₃ with
  | word isWord _ =>
  refine ⟨b₀, b₁, b₂, b₃, raw₃, r₃, ?_, isWord, by simp [spelled], kind,
    paramsText_read next₃ params ended⟩
  intro c mem
  simp only [List.mem_append] at mem
  rcases mem with ((front | front) | front) | front
  exacts [blanks₀ c front, blanks₁ c front, blanks₂ c front, blanks₃ c front]

end StaticWrap.Marker
