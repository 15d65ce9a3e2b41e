import StaticWrap.Marker.Lexer
/-!
**The grammar of a marker comment.**

A marker is `//`, the word `mockable`, `::`, a kind word, then parameters; a parameter is a
flag, optionally followed by `=` and a value (a quoted text or a bare run). Nothing may follow
the last parameter.

Faults name the token found (its text, or `<EOF>` at the end, in quotes) and, when part of the
marker was already read, what was expected from there on:

* before the first token matched: `unexpected token "x"`;
* inside the marker: `unexpected token "x" (expected <rest>)`, where the rest lists the
  remaining parts: `"mockable" <separator> <ident> MarkerParam*`, or a suffix of it;
* after `=`: `(expected MarkerValue)`;
* after the marker: `unexpected token "x"`.

* `parseTokens`: the marker as written, or the fault with its column.
-/

namespace StaticWrap.Marker

/-- A parameter as written: its name (without the dash), its value text if any, and the
column of its flag. -/
structure WrittenParam where
  name : String
  value? : Option String
  column : Nat
  deriving DecidableEq, Repr

/-- A marker as written: its kind word and its parameters in order. -/
structure Written where
  kind : String
  params : List WrittenParam
  deriving DecidableEq, Repr

/-- A grammar fault: its text and the column of the token it names. -/
structure GrammarFault where
  message : String
  column : Nat
  deriving DecidableEq, Repr

/-- The text by which a fault names a token. -/
def Token.shown (t : Token) : String :=
  Text.quote (if t.kind == .stop then "<EOF>" else t.text)

/-- The fault at a token, with what was expected from there on. -/
def unexpected (t : Token) (expected : String) : GrammarFault :=
  { message := "unexpected token " ++ t.shown ++
      (if expected.isEmpty then "" else " (expected " ++ expected ++ ")"),
    column := t.column }

def front (ts : List Token) (endColumn : Nat) : Token :=
  ts.headD ⟨.stop, "", endColumn⟩

/-- Reads the parameters at the front of the tokens, and the tokens after them. -/
def readParams : List Token → Except GrammarFault (List WrittenParam × List Token)
  | [] => .ok ([], [])
  | t :: ts =>
    if t.kind != .flag then .ok ([], t :: ts)
    else
      let name := Text.trimPrefix t.text "-"
      match ts with
      | e :: v :: rest =>
        if e.kind == .equals then
          if v.kind == .quoted || v.kind == .bare then
            (readParams rest).map fun (ps, r) => (⟨name, some v.text, t.column⟩ :: ps, r)
          else .error (unexpected v "MarkerValue")
        else (readParams (e :: v :: rest)).map fun (ps, r) => (⟨name, none, t.column⟩ :: ps, r)
      | [e] =>
        if e.kind == .equals then .error (unexpected ⟨.stop, "", e.column + 1⟩ "MarkerValue")
        else (readParams [e]).map fun (ps, r) => (⟨name, none, t.column⟩ :: ps, r)
      | [] => .ok ([⟨name, none, t.column⟩], [])

/-- Reads a marker from its tokens (the last token is the end token). -/
def parseTokens (ts : List Token) : Except GrammarFault Written :=
  let endCol := (ts.getLast?.map (·.column)).getD 1
  let at0 := front ts endCol
  if at0.kind != .comment then .error (unexpected at0 "")
  else
    let ts1 := ts.drop 1
    let at1 := front ts1 endCol
    if at1.text != "mockable" || at1.kind == .stop then
      .error (unexpected at1 "\"mockable\" <separator> <ident> MarkerParam*")
    else
      let ts2 := ts1.drop 1
      let at2 := front ts2 endCol
      if at2.kind != .separator then .error (unexpected at2 "<separator> <ident> MarkerParam*")
      else
        let ts3 := ts2.drop 1
        let at3 := front ts3 endCol
        if at3.kind != .word then .error (unexpected at3 "<ident> MarkerParam*")
        else
          match readParams (ts3.drop 1) with
          | .error f => .error f
          | .ok (params, rest) =>
            let atEnd := front rest endCol
            if atEnd.kind != .stop then .error (unexpected atEnd "")
            else .ok ⟨at3.text, params⟩

end StaticWrap.Marker
