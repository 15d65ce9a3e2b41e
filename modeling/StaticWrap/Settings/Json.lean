import StaticWrap.Settings.Value
import StaticWrap.Number.Literal
import StaticWrap.Text.Quote
/-!
**Settings files in JSON.**

A JSON settings file is one object. The whole text is checked first; only a well-formed text is
then turned into values. Numbers become binary64 numbers; a key given twice keeps its last
value. In strings, an escaped surrogate that is not the first half of a pair followed by the
second half stands for `U+FFFD`.

Faults of the syntax name the byte that breaks it and what was expected instead, as
`invalid character 'x' looking for beginning of value`; the byte is shown as the character of
its value, so a byte of a longer UTF-8 sequence shows as a Latin-1 letter. A text that ends
too early is `unexpected end of JSON input`. The faults of a well-formed text come from the
values: a document that is not an object is
`json: cannot unmarshal array into Go value of type map[string]interface {}` (or `string`,
`number`, `bool`), and a number beyond the binary64 range is
`json: cannot unmarshal number 1e400 into Go value of type float64`; the first such fault
counts.
-/

namespace StaticWrap.Settings.Json

/-- A well-formed JSON value as written: numbers keep their text. -/
inductive Doc where
  | null
  | bool (b : Bool)
  | number (text : String)
  | string (s : String)
  | array (items : List Doc)
  | object (members : List (String × Doc))
  deriving Repr, Inhabited

/-- The first byte of a character's UTF-8 form. -/
def firstByte (c : Char) : Nat := ((String.singleton c).toUTF8.toList.headD 0).toNat

/-- The character a fault names: the first byte of the character read as a code point, in
single quotes, escaped as in a quoted text. -/
def charText (c : Char) : String :=
  let b := Char.ofNat (firstByte c)
  if b == '\'' then "'\\''"
  else if b == '"' then "'\"'"
  else "'" ++ String.ofList (((Text.quote (String.singleton b)).toList.drop 1).dropLast) ++ "'"

/-- The fault of a character. -/
def invalid (c : Char) (context : String) : String := "invalid character " ++ charText c ++ " " ++ context

/-- The end of the input where more was needed. -/
def unexpectedEnd : String := "unexpected end of JSON input"

/-- A JSON white space character. -/
def isSpace (c : Char) : Bool := c == ' ' || c == '\t' || c == '\n' || c == '\r'

/-- The characters after the white space at their front. -/
def skipSpace (l : List Char) : List Char := l.dropWhile isSpace

/-- The code point of an escaped surrogate pair, if the two halves form one. -/
def pairCode (hi lo : Nat) : Option Nat :=
  if 0xD800 ≤ hi && hi < 0xDC00 && 0xDC00 ≤ lo && lo < 0xE000 then
    some (0x10000 + (hi - 0xD800) * 0x400 + (lo - 0xDC00))
  else none

/-- Four hexadecimal digits at the front, or the fault at the first that is not one. -/
def hex4 (l : List Char) : Except String (Nat × List Char) :=
  let ds := l.take 4
  match ds.find? (fun c => (Text.hexValue? c).isNone) with
  | some c => .error (invalid c "in \\u hexadecimal character escape")
  | none =>
    if ds.length < 4 then .error unexpectedEnd
    else .ok ((Text.hexRun? ds).getD 0, l.drop 4)

/-- The body of a string literal after its opening quote, decoded, and the characters after
its closing quote; `fuel` bounds the steps. -/
def stringBody : Nat → List Char → Except String (List Char × List Char)
  | 0, _ => .error unexpectedEnd
  | _, [] => .error unexpectedEnd
  | _, '"' :: rest => .ok ([], rest)
  | fuel + 1, '\\' :: rest =>
    match rest with
    | [] => .error unexpectedEnd
    | c :: rest =>
      let simple : Option Char := match c with
        | '"' => some '"'
        | '\\' => some '\\'
        | '/' => some '/'
        | 'b' => some (Char.ofNat 8)
        | 'f' => some (Char.ofNat 12)
        | 'n' => some '\n'
        | 'r' => some '\r'
        | 't' => some '\t'
        | _ => none
      match simple with
      | some d => (stringBody fuel rest).map fun (b, after) => (d :: b, after)
      | none =>
        if c != 'u' then .error (invalid c "in string escape code")
        else do
          let (v, more) ← hex4 rest
          if 0xD800 ≤ v && v < 0xE000 then
            let paired : Option (Nat × List Char) := match more with
              | '\\' :: 'u' :: r =>
                match hex4 r with
                | .ok (w, after) => (pairCode v w).map fun code => (code, after)
                | .error _ => none
              | _ => none
            match paired with
            | some (code, after) =>
              (stringBody fuel after).map fun (b, a) => (Char.ofNat code :: b, a)
            | none =>
              (stringBody fuel more).map fun (b, a) => (Char.ofNat 0xFFFD :: b, a)
          else (stringBody fuel more).map fun (b, after) => (Char.ofNat v :: b, after)
  | fuel + 1, c :: rest =>
    if c.toNat < 32 then .error (invalid c "in string literal")
    else (stringBody fuel rest).map fun (b, after) => (c :: b, after)

/-- A number literal: its text and the characters after it. A leading zero stands alone; a
point and an exponent need digits after them. -/
def number (l : List Char) : Except String (String × List Char) :=
  let (sign, body) := match l with
    | '-' :: r => (['-'], r)
    | r => ([], r)
  let need (rest : List Char) (context : String) : String :=
    match rest with
    | c :: _ => invalid c context
    | [] => unexpectedEnd
  match body with
  | [] => .error unexpectedEnd
  | d :: _ =>
    if !d.isDigit then .error (invalid d "in numeric literal")
    else
      let whole := if d == '0' then ['0'] else body.takeWhile Char.isDigit
      let rest := body.drop whole.length
      let fracPart : Except String (List Char × List Char) := match rest with
        | '.' :: r =>
          let ds := r.takeWhile Char.isDigit
          if ds.isEmpty then .error (need r "after decimal point in numeric literal")
          else .ok ('.' :: ds, r.drop ds.length)
        | r => .ok ([], r)
      match fracPart with
      | .error e => .error e
      | .ok (frac, rest) =>
        let expPart : Except String (List Char × List Char) := match rest with
          | e :: r =>
            if e == 'e' || e == 'E' then
              let (esign, ds) : List Char × List Char := match r with
                | '-' :: t => (['-'], t)
                | '+' :: t => (['+'], t)
                | t => ([], t)
              let digits := ds.takeWhile Char.isDigit
              if digits.isEmpty then .error (need ds "in exponent of numeric literal")
              else .ok (e :: esign ++ digits, ds.drop digits.length)
            else .ok ([], e :: r)
          | [] => .ok ([], [])
        expPart.map fun (ex, rest) => (String.ofList (sign ++ whole ++ frac ++ ex), rest)

/-- A literal word: the rest after it when the characters spell it. -/
def literal (name : String) (word : List Char) (l : List Char) : Except String (List Char) :=
  match word, l with
  | [], rest => .ok rest
  | w :: ws, c :: rest =>
    if w == c then literal name ws rest
    else .error (invalid c ("in literal " ++ name ++ " (expecting " ++ charText w ++ ")"))
  | _ :: _, [] => .error unexpectedEnd

mutual

/-- A value and the characters after it; `fuel` bounds the nesting and length. -/
def value : Nat → List Char → Except String (Doc × List Char)
  | 0, _ => .error unexpectedEnd
  | fuel + 1, l =>
    match skipSpace l with
    | [] => .error unexpectedEnd
    | '{' :: rest => members fuel rest [] true
    | '[' :: rest => items fuel rest [] true
    | '"' :: rest =>
      (stringBody (rest.length + 1) rest).map fun (b, after) => (.string (String.ofList b), after)
    | 't' :: rest => (literal "true" "rue".toList rest).map fun after => (.bool true, after)
    | 'f' :: rest => (literal "false" "alse".toList rest).map fun after => (.bool false, after)
    | 'n' :: rest => (literal "null" "ull".toList rest).map fun after => (.null, after)
    | c :: rest =>
      if c == '-' || c.isDigit then (number (c :: rest)).map fun (t, after) => (.number t, after)
      else .error (invalid c "looking for beginning of value")

/-- The members of an object after its opening brace. -/
def members : Nat → List Char → List (String × Doc) → Bool → Except String (Doc × List Char)
  | 0, _, _, _ => .error unexpectedEnd
  | fuel + 1, l, acc, first =>
    match skipSpace l with
    | [] => .error unexpectedEnd
    | '}' :: rest =>
      if first then .ok (.object acc.reverse, rest)
      else .error (invalid '}' "looking for beginning of object key string")
    | '"' :: rest =>
      match stringBody (rest.length + 1) rest with
      | .error e => .error e
      | .ok (key, after) =>
        match skipSpace after with
        | ':' :: r =>
          match value fuel r with
          | .error e => .error e
          | .ok (v, after) =>
            let acc := (String.ofList key, v) :: acc
            match skipSpace after with
            | ',' :: r => members fuel r acc false
            | '}' :: r => .ok (.object acc.reverse, r)
            | c :: _ => .error (invalid c "after object key:value pair")
            | [] => .error unexpectedEnd
        | c :: _ => .error (invalid c "after object key")
        | [] => .error unexpectedEnd
    | c :: _ => .error (invalid c "looking for beginning of object key string")

/-- The elements of an array after its opening bracket. -/
def items : Nat → List Char → List Doc → Bool → Except String (Doc × List Char)
  | 0, _, _, _ => .error unexpectedEnd
  | fuel + 1, l, acc, first =>
    match skipSpace l with
    | ']' :: rest =>
      if first then .ok (.array acc.reverse, rest)
      else .error (invalid ']' "looking for beginning of value")
    | _ =>
      match value fuel l with
      | .error e => .error e
      | .ok (v, after) =>
        match skipSpace after with
        | ',' :: r => items fuel r (v :: acc) false
        | ']' :: r => .ok (.array (v :: acc).reverse, r)
        | c :: _ => .error (invalid c "after array element")
        | [] => .error unexpectedEnd

end

/-- Reads a well-formed JSON text. -/
def Doc.read (text : String) : Except String Doc := do
  let l := text.toList
  let (v, rest) ← value (l.length + 2) l
  match skipSpace rest with
  | c :: _ => throw (invalid c "after top-level value")
  | [] => pure v

/-- Keeps the first of two faults. -/
def firstFault : Option String → Option String → Option String
  | some a, _ => some a
  | none, b => b

mutual

/-- The value of a document, with the first fault met turning it into values. -/
def Doc.toValue : Doc → Value × Option String
  | .null => (.null, none)
  | .bool b => (.bool b, none)
  | .string s => (.text s, none)
  | .number t =>
    match Number.readFloat t with
    | .ok x => (.float x, none)
    | .error _ => (.null, some ("json: cannot unmarshal number " ++ t ++ " into Go value of type float64"))
  | .array items =>
    let (vs, fault) := Doc.itemValues items
    (.list vs, fault)
  | .object members =>
    let (es, fault) := Doc.memberValues members
    (.map es, fault)

/-- The values of the items of an array. -/
def Doc.itemValues : List Doc → List Value × Option String
  | [] => ([], none)
  | d :: ds =>
    let (v, f) := d.toValue
    let (vs, g) := Doc.itemValues ds
    (v :: vs, firstFault f g)

/-- The values of the members of an object; a later member replaces an earlier one of its
key. -/
def Doc.memberValues : List (String × Doc) → List (String × Value) × Option String
  | [] => ([], none)
  | (k, d) :: ms =>
    let (v, f) := d.toValue
    let (es, g) := Doc.memberValues ms
    let es := if es.any (·.1 == k) then es else (k, v) :: es
    (es, firstFault f g)

end

/-- The name a decoding fault gives the kind of a top value. -/
def Doc.kindName : Doc → String
  | .array _ => "array"
  | .string _ => "string"
  | .bool _ => "bool"
  | _ => "number"

/-- The settings a JSON document holds: the members of its object. -/
def read (text : String) : Except String (List (String × Value)) := do
  match ← Doc.read text with
  | .null => pure []
  | .object members =>
    match Doc.memberValues members with
    | (_, some fault) => throw fault
    | (entries, none) => pure entries
  | other => throw ("json: cannot unmarshal " ++ other.kindName ++
      " into Go value of type map[string]interface \x7b\x7d")

end StaticWrap.Settings.Json
