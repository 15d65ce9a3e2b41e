import StaticWrap.Marker.Fault
import StaticWrap.Text.Quote
/-!
**The tokens of a marker comment.**

A marker comment is cut into tokens from the left, in one of two states. At the top the
reader takes, in this order of preference: blanks (spaces and tabs, dropped), `//`, `::`, a
flag (`-` then a letter or `_`, then letters, digits and `_`), `=` (which enters the value
state) and a word (a letter or `_`, then letters, digits and `_`). In the value state it takes a
double-quoted text (escaped quotes allowed inside) or a bare run of characters other than
white space and quotes; either returns to the top.

The whole comment is cut before any token is looked at, so the first fault of the cutting
wins over any fault of the grammar: text that no rule takes (shown as the first sixteen
characters of the rest), a quoted text that does not decode, or an empty quoted text, on which
the reader crashes.

* `lexMarker`: the tokens with their columns (counted in characters from 1), ending with the
  end token, or the first fault.
-/

namespace StaticWrap.Marker

/-- The kind of a marker token. -/
inductive TokenKind where
  | comment
  | separator
  | flag
  | equals
  | word
  | quoted
  | bare
  | stop
  deriving DecidableEq, Repr

/-- A marker token: its kind, its text (a quoted text decoded), and its column. -/
structure Token where
  kind : TokenKind
  text : String
  column : Nat
  deriving DecidableEq, Repr

/-- A fault met while cutting a marker into tokens, with its column. -/
inductive LexFault where
  /-- No rule takes the text from here; the sample is the rest, cut to sixteen characters. -/
  | noRule (sample : String) (column : Nat)
  /-- A quoted text whose escapes do not decode. -/
  | badQuote (literal : String) (column : Nat)
  /-- An empty quoted text, on which the reader crashes. -/
  | emptyQuote
  deriving DecidableEq, Repr

/-- A character that may start a word. -/
def isWordStart (c : Char) : Bool := ('a' ≤ c && c ≤ 'z') || ('A' ≤ c && c ≤ 'Z') || c == '_'

/-- A character that may continue a word. -/
def isWordChar (c : Char) : Bool := isWordStart c || ('0' ≤ c && c ≤ '9')

/-- White space as the value state sees it: tab, line feed, form feed, carriage return and
space. -/
def isValueSpace (c : Char) : Bool :=
  c == ' ' || c == '\t' || c == '\n' || c == '\r' || c.toNat == 12

/-- The length of the quoted text after its opening quote, closing quote included, when one
is there. A backslash followed by a quote is first taken as an escaped quote, and as a plain
backslash before the closing quote only when nothing closes the text otherwise. -/
def quotedBody : List Char → Option Nat
  | [] => none
  | '\\' :: '"' :: rest =>
    match quotedBody rest with
    | some n => some (n + 2)
    | none =>
      -- the backslash alone, then the quote closes the text
      some 2
  | '"' :: _ => some 1
  | _ :: rest => (quotedBody rest).map (· + 1)

/-- The length of the quoted text at the front of a list, opening quote included. -/
def quotedLength : List Char → Option Nat
  | '"' :: rest => (quotedBody rest).map (· + 1)
  | _ => none

/-- The sample of the rest shown in a fault. -/
def sampleOf (rest : List Char) : String :=
  if rest.length > 16 then String.ofList (rest.take 16) ++ "..." else String.ofList rest

/-- The column after a run of characters that starts at `col`. -/
def columnAfter (col : Nat) (run : List Char) : Nat :=
  run.foldl (fun c ch => if ch == '\n' then 1 else c + 1) col

/-- The length of the token the top state takes at the front, with its kind; blanks have no
kind. -/
def topToken : List Char → Option (Option TokenKind × Nat)
  | [] => none
  | c :: rest =>
    if c == ' ' || c == '\t' then
      some (none, 1 + (rest.takeWhile fun d => d == ' ' || d == '\t').length)
    else if c == '/' && rest.head? == some '/' then some (some .comment, 2)
    else if c == ':' && rest.head? == some ':' then some (some .separator, 2)
    else if c == '-' && (rest.head?.map isWordStart).getD false then
      some (some .flag, 2 + ((rest.drop 1).takeWhile isWordChar).length)
    else if c == '=' then some (some .equals, 1)
    else if isWordStart c then some (some .word, 1 + (rest.takeWhile isWordChar).length)
    else none

/-- The bare value at the front of a list: characters other than white space and quotes. -/
def bareRun (l : List Char) : List Char := l.takeWhile fun d => !isValueSpace d && d != '"'

/-- Dropping a positive number of characters shortens a non-empty list. -/
theorem length_drop_lt {l : List Char} {n : Nat} (hn : 0 < n) (hl : l ≠ []) :
    (l.drop n).length < l.length := by
  have : 0 < l.length := List.length_pos_iff.mpr hl
  simp only [List.length_drop]
  omega

/-- Cuts a marker into tokens, from column `col`; `inValue` tells the state. -/
def lexFrom (inValue : Bool) (col : Nat) (l : List Char) : Except LexFault (List Token) :=
  if hl : l = [] then .ok [⟨.stop, "", col⟩]
  else if inValue then
    match quotedLength l with
    | some n =>
      let lit := l.take n
      if hn : n ≤ 2 then .error .emptyQuote
      else
        match Text.unquoteBody '"' ((lit.drop 1).take (n - 2)) with
        | none => .error (.badQuote (String.ofList lit) col)
        | some body =>
          have : (l.drop n).length < l.length := length_drop_lt (by omega) hl
          (lexFrom false (columnAfter col lit) (l.drop n)).map
            (⟨.quoted, String.ofList body, col⟩ :: ·)
    | none =>
      if hr : (bareRun l).length = 0 then .error (.noRule (sampleOf l) col)
      else
        have : (l.drop (bareRun l).length).length < l.length := length_drop_lt (by omega) hl
        (lexFrom false (columnAfter col (bareRun l)) (l.drop (bareRun l).length)).map
          (⟨.bare, String.ofList (bareRun l), col⟩ :: ·)
  else
    match topToken l with
    | none => .error (.noRule (sampleOf l) col)
    | some (kind, n) =>
      if hn : n = 0 then .error (.noRule (sampleOf l) col)
      else
        let run := l.take n
        have : (l.drop n).length < l.length := length_drop_lt (by omega) hl
        let more := lexFrom (kind == some .equals) (columnAfter col run) (l.drop n)
        match kind with
        | some k => more.map (⟨k, String.ofList run, col⟩ :: ·)
        | none => more
  termination_by l.length

/-- The tokens of a marker comment, or the first fault of cutting it. -/
def lexMarker (s : String) : Except LexFault (List Token) := lexFrom false 1 s.toList

end StaticWrap.Marker
