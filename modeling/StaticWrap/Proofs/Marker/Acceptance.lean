import Mathlib
import StaticWrap.Proofs.Marker.Sentence
import StaticWrap.Proofs.Marker.Parameters
/-!
**Which marker comments are read, and into what.**

Reading a comment with the built-in registry cuts its trimmed text into tokens, reads the
grammar, wants the kind word `static`, collects the parameters and checks them. The main
statement, `marker_grammar`, puts the three layers together: for a comment whose trimmed text
holds no empty quoted value, the reader does not crash, and it returns an annotation exactly
when the trimmed text is a sentence of the marker grammar (`MarkerText`) of kind `static` whose
parameters follow the `static` rules (`StaticParams`); the annotation then holds the parameters
converted in name order (`staticParams`).

* `readMarker_ok`, `readMarker_of`: a read succeeds exactly when every stage does.
* `readMarker_crash`: the reader crashes only where cutting meets an empty quoted value.
* `readMarker_of_markerText`, `markerText_of_readMarker`: the two directions of acceptance.
-/

namespace StaticWrap.Marker

/-! ### The stages of reading -/

theorem readMarker_ok {comment : String} {loc : Location} {a : Annotation}
    (read : readMarker Registry.builtin comment loc = .ok a) :
    ∃ ts w params checked, lexMarker (Text.trimSpace comment) = .ok ts ∧
      parseTokens ts = .ok w ∧ w.kind = "static" ∧ collectParams loc [] w.params = .ok params ∧
      validate Registry.builtin .static loc params = .ok checked ∧
      a = ⟨.static, checked, loc, Text.trimSpace comment⟩ := by
  unfold readMarker at read
  cases lexed : lexMarker (Text.trimSpace comment) with
  | error f => simp [lexed, bind, Except.bind] at read
  | ok ts =>
    simp only [lexed, bind, Except.bind] at read
    cases parsed : parseTokens ts with
    | error g => simp [parsed] at read
    | ok w =>
      simp only [parsed] at read
      by_cases static : w.kind = "static"
      · have registered : (Registry.builtin.get? Kind.static).isNone = false := rfl
        simp only [static, beq_self_eq_true, if_true, registered, Bool.false_eq_true,
          if_false] at read
        cases collected : collectParams loc [] w.params with
        | error f => simp [collected] at read
        | ok params =>
          cases checked : validate Registry.builtin Kind.static loc params with
          | error f => simp [collected, checked] at read
          | ok c =>
            simp only [collected, checked, pure, Except.pure, Except.ok.injEq] at read
            exact ⟨ts, w, params, c, rfl, parsed, static, collected, checked, read.symm⟩
      · simp [static] at read

theorem readMarker_of {comment : String} {loc : Location} {ts : List Token} {w : Written}
    {params checked : Params} (lexed : lexMarker (Text.trimSpace comment) = .ok ts)
    (parsed : parseTokens ts = .ok w) (static : w.kind = "static")
    (collected : collectParams loc [] w.params = .ok params)
    (valid : validate Registry.builtin .static loc params = .ok checked) :
    readMarker Registry.builtin comment loc =
      .ok ⟨.static, checked, loc, Text.trimSpace comment⟩ := by
  have registered : (Registry.builtin.get? Kind.static).isNone = false := rfl
  unfold readMarker
  simp only [lexed, parsed, static, collected, valid, registered, bind, Except.bind,
    beq_self_eq_true, if_true, Bool.false_eq_true, if_false]
  rfl

/-- Of all the stages, only cutting can crash, on an empty quoted value. -/
theorem readMarker_crash {registry : Registry} {comment : String} {loc : Location}
    (crash : readMarker registry comment loc = .error .crash) :
    lexMarker (Text.trimSpace comment) = .error .emptyQuote := by
  unfold readMarker at crash
  cases lexed : lexMarker (Text.trimSpace comment) with
  | error f =>
    cases f with
    | emptyQuote => rfl
    | noRule | badQuote => simp [lexed, bind, Except.bind, LexFault.toFault] at crash
  | ok ts =>
    exfalso
    simp only [lexed, bind, Except.bind] at crash
    -- the grammar, the kind word and the registry refuse with a single fault of their own
    split at crash
    · split at crash
      · split at crash
        · cases crash
        · split at crash
          · rename_i collected
            obtain rfl := Except.error.inj crash
            exact collectParams_ne_crash loc [] _ collected
          · split at crash
            · rename_i checked
              obtain rfl := Except.error.inj crash
              exact validate_ne_crash registry .static loc _ checked
            · cases crash
      · cases crash
    · cases crash

/-! ### Acceptance -/

/-- A sentence of the grammar whose parameters follow the `static` rules is read into its
annotation. -/
theorem readMarker_of_markerText {comment : String} {loc : Location}
    {ps : List (String × Option String)}
    (filled : ¬ ['=', '"', '"'] <:+: (Text.trimSpace comment).toList)
    (text : MarkerText (Text.trimSpace comment).toList "static" ps) (rules : StaticParams ps) :
    readMarker Registry.builtin comment loc =
      .ok ⟨.static, staticParams ps, loc, Text.trimSpace comment⟩ := by
  obtain ⟨ts, w, lexed, parsed, kind, rfl⟩ := read_markerText text filled 1
  have names : ((([] : Params) ++ w.params.map fun p => (p.name, givenValue p.value?)).map
      (·.1)).Nodup := by
    simpa [Function.comp_def] using rules.unique
  have collected := (@collectParams_eq_ok loc [] _ w.params List.nodup_nil).2 ⟨names, rfl⟩
  have valid := (@validate_static loc _ _ rules.unique).2 ⟨rules, rfl⟩
  exact readMarker_of lexed parsed kind collected (by simpa [Function.comp_def] using valid)

/-- The marker word alone reads as the `static` annotation without parameters. -/
theorem readMarker_bare (loc : Location) :
    readMarker Registry.builtin "//mockable::static" loc =
      .ok ⟨.static, [], loc, "//mockable::static"⟩ := by
  have valid : validate Registry.builtin .static loc [] = .ok (staticParams []) :=
    (@validate_static loc [] _ List.nodup_nil).2 ⟨⟨List.nodup_nil, by simp, by simp, by simp⟩, rfl⟩
  -- cutting and trimming run by well-founded recursion, which the kernel evaluates
  have read := @readMarker_of "//mockable::static" loc
    [⟨.comment, "//", 1⟩, ⟨.word, "mockable", 3⟩, ⟨.separator, "::", 11⟩, ⟨.word, "static", 13⟩,
      ⟨.stop, "", 19⟩] ⟨"static", []⟩ [] _ (by decide +kernel) (by decide +kernel) rfl rfl valid
  have trimmed : Text.trimSpace "//mockable::static" = "//mockable::static" := by decide +kernel
  rwa [trimmed, show staticParams [] = [] by simp [staticParams, Text.sortBy]] at read

/-- What the reader accepts is a sentence of the grammar whose parameters follow the `static`
rules, read into its annotation. -/
theorem markerText_of_readMarker {comment : String} {loc : Location} {a : Annotation}
    (read : readMarker Registry.builtin comment loc = .ok a) :
    ∃ ps, MarkerText (Text.trimSpace comment).toList "static" ps ∧ StaticParams ps ∧
      a = ⟨.static, staticParams ps, loc, Text.trimSpace comment⟩ := by
  obtain ⟨ts, w, params, checked, lexed, parsed, kind, collected, valid, rfl⟩ :=
    readMarker_ok read
  obtain ⟨names, rfl⟩ := (@collectParams_eq_ok loc [] _ w.params List.nodup_nil).1 collected
  have unique : ((w.params.map fun p => (p.name, p.value?)).map (·.1)).Nodup := by
    simpa [Function.comp_def] using names
  have converted : validate Registry.builtin .static loc
      ((w.params.map fun p => (p.name, p.value?)).map fun p => (p.1, givenValue p.2)) =
        .ok checked := by
    simpa [Function.comp_def] using valid
  obtain ⟨rules, rfl⟩ := (validate_static unique).1 converted
  exact ⟨_, kind ▸ markerText_read lexed parsed, rules, rfl⟩

/-- **The marker grammar.** Read with the built-in registry, a comment whose trimmed text holds
no empty quoted value (`=""`, a value being written right after `=`) never crashes the reader.
The reader returns an annotation exactly when the trimmed text is a sentence of the marker
grammar of kind `static` whose parameters follow the `static` rules. That annotation holds the
parameters converted in name order, the position and the trimmed text.

In the grammar a quoted value ends at the first quote that no backslash stands before, and is
the longest such token; a bare value is a longest run of characters other than quotes and the
white space tab, line feed, form feed, carriage return and space. -/
theorem marker_grammar (comment : String) (loc : Location)
    (noEmptyValue : ¬ ['=', '"', '"'] <:+: (Text.trimSpace comment).toList) :
    readMarker Registry.builtin comment loc ≠ .error .crash ∧
      ((∃ a, readMarker Registry.builtin comment loc = .ok a) ↔
        ∃ ps, MarkerText (Text.trimSpace comment).toList "static" ps ∧ StaticParams ps) ∧
      ∀ ps, MarkerText (Text.trimSpace comment).toList "static" ps → StaticParams ps →
        readMarker Registry.builtin comment loc =
          .ok ⟨.static, staticParams ps, loc, Text.trimSpace comment⟩ := by
  refine ⟨fun crash => ?_, ⟨fun ⟨a, read⟩ => ?_, fun ⟨ps, text, rules⟩ => ?_⟩,
    fun ps text rules => readMarker_of_markerText noEmptyValue text rules⟩
  · rcases lexFrom_emptyQuote (readMarker_crash crash) with ⟨absurd, -⟩ | found
    · cases absurd
    · exact noEmptyValue found
  · obtain ⟨ps, text, rules, -⟩ := markerText_of_readMarker read
    exact ⟨ps, text, rules⟩
  · exact ⟨_, readMarker_of_markerText noEmptyValue text rules⟩

/-- A marker with a target and a quoted pattern list has no empty quoted value. -/
theorem marker_grammar_on_quoted_patterns :
    ¬ ['=', '"', '"'] <:+:
        (Text.trimSpace " //mockable::static -Target=os -Include=\"Read*, Write*\" ").toList ∧
      (readMarker Registry.builtin " //mockable::static -Target=os -Include=\"Read*, Write*\" " {} ≠
          .error .crash ∧
        ((∃ a, readMarker Registry.builtin
            " //mockable::static -Target=os -Include=\"Read*, Write*\" " {} = .ok a) ↔
          ∃ ps, MarkerText (Text.trimSpace
            " //mockable::static -Target=os -Include=\"Read*, Write*\" ").toList "static" ps ∧
            StaticParams ps) ∧
        ∀ ps, MarkerText (Text.trimSpace
            " //mockable::static -Target=os -Include=\"Read*, Write*\" ").toList "static" ps →
          StaticParams ps →
          readMarker Registry.builtin " //mockable::static -Target=os -Include=\"Read*, Write*\" "
              {} =
            .ok ⟨.static, staticParams ps, {},
              Text.trimSpace " //mockable::static -Target=os -Include=\"Read*, Write*\" "⟩) :=
  ⟨by decide, marker_grammar _ _ (by decide)⟩

end StaticWrap.Marker
