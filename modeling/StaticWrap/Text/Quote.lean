import StaticWrap.Text.Basic
/-!
**Quoted text in the Go literal syntax.**

A quoted string or character keeps every printable character (`isPrint`) as it is, writes the
quote and the backslash after a backslash, the seven control characters with a letter escape
(`\a \b \f \n \r \t \v`), the other characters below the space and `DEL` as `\xNN`, and any
other unprintable character as `\uNNNN` or `\UNNNNNNNN`, all in lower-case hexadecimal.

* `quote` writes a double-quoted string, `quoteChar` a single-quoted character.
* `unquote?` reads a double-quoted, single-quoted or back-quoted literal back; it refuses a
  literal that is not exactly one well-formed literal.
-/

namespace StaticWrap.Text

/-- The lower-case hexadecimal digit of a value below 16. -/
def hexDigit (n : Nat) : Char :=
  if n < 10 then Char.ofNat (48 + n) else Char.ofNat (87 + n)

/-- `n` in lower-case hexadecimal, padded with zeros to `width` digits. -/
def hexPadded (width n : Nat) : List Char :=
  (List.range width).reverse.map fun i => hexDigit (n / Nat.pow 16 i % 16)

/-- The escape of one character inside a literal quoted with `q`. -/
def escapeChar (q : Char) (c : Char) : List Char :=
  if c = q || c = '\\' then ['\\', c]
  else if isPrint c then [c]
  else
    match c.toNat with
    | 7 => ['\\', 'a']
    | 8 => ['\\', 'b']
    | 12 => ['\\', 'f']
    | 10 => ['\\', 'n']
    | 13 => ['\\', 'r']
    | 9 => ['\\', 't']
    | 11 => ['\\', 'v']
    | n =>
      if n < 0x20 || n == 0x7F then '\\' :: 'x' :: hexPadded 2 n
      else if n < 0x10000 then '\\' :: 'u' :: hexPadded 4 n
      else '\\' :: 'U' :: hexPadded 8 n

/-- A double-quoted string literal. -/
def quote (s : String) : String :=
  String.ofList ('"' :: (s.toList.flatMap (escapeChar '"')) ++ ['"'])

/-- A single-quoted character literal. -/
def quoteChar (c : Char) : String :=
  String.ofList ('\'' :: escapeChar '\'' c ++ ['\''])

/-- `U+XXXX 'c'`: a code point in upper-case hexadecimal, at least four digits, followed by
the character in quotes when it is printable. -/
def codePointText (c : Char) : String :=
  let digits := (hexPadded 6 c.toNat).map toUpper
  let digits := if c.toNat > 0xFFFF then digits.dropWhile (· == '0') else digits.drop 2
  "U+" ++ String.ofList digits ++ (if isPrint c then " '" ++ String.ofList [c] ++ "'" else "")

/-- The value of a hexadecimal digit. -/
def hexValue? (c : Char) : Option Nat :=
  if '0' ≤ c && c ≤ '9' then some (c.toNat - 48)
  else if 'a' ≤ c && c ≤ 'f' then some (c.toNat - 87)
  else if 'A' ≤ c && c ≤ 'F' then some (c.toNat - 55)
  else none

/-- The value of a run of hexadecimal digits. -/
def hexRun? (l : List Char) : Option Nat :=
  l.foldl (fun acc c => acc.bind fun v => (hexValue? c).map (v * 16 + ·)) (some 0)

/-- The value of an octal digit. -/
def octalValue? (c : Char) : Option Nat :=
  if '0' ≤ c && c ≤ '7' then some (c.toNat - 48) else none

/-- A code point as a character, refusing surrogates and values past the last one. -/
def codePoint? (v : Nat) : Option Char :=
  if v.isValidChar then some (Char.ofNat v) else none

/-- Prepends a decoded character to the decoded rest. -/
def consDecoded (c : Option Char) (rest : Option (List Char)) : Option (List Char) :=
  c.bind fun c => rest.map (c :: ·)

/-- The characters of the body of an interpreted literal quoted with `q`: escapes are
decoded, and a bare quote or a bad escape refuses the body. -/
def unquoteBody (q : Char) : List Char → Option (List Char)
  | [] => some []
  | '\\' :: 'x' :: a :: b :: rest =>
    consDecoded ((hexRun? [a, b]).map Char.ofNat) (unquoteBody q rest)
  | '\\' :: 'u' :: a :: b :: c :: d :: rest =>
    consDecoded ((hexRun? [a, b, c, d]).bind codePoint?) (unquoteBody q rest)
  | '\\' :: 'U' :: a :: b :: c :: d :: e :: f :: g :: h :: rest =>
    consDecoded ((hexRun? [a, b, c, d, e, f, g, h]).bind codePoint?) (unquoteBody q rest)
  | '\\' :: a :: b :: c :: rest =>
    match a with
    | 'a' => consDecoded (some (Char.ofNat 7)) (unquoteBody q (b :: c :: rest))
    | 'b' => consDecoded (some (Char.ofNat 8)) (unquoteBody q (b :: c :: rest))
    | 'f' => consDecoded (some (Char.ofNat 12)) (unquoteBody q (b :: c :: rest))
    | 'n' => consDecoded (some '\n') (unquoteBody q (b :: c :: rest))
    | 'r' => consDecoded (some '\r') (unquoteBody q (b :: c :: rest))
    | 't' => consDecoded (some '\t') (unquoteBody q (b :: c :: rest))
    | 'v' => consDecoded (some (Char.ofNat 11)) (unquoteBody q (b :: c :: rest))
    | '\\' => consDecoded (some '\\') (unquoteBody q (b :: c :: rest))
    | _ =>
      if a = q && (q = '"' || q = '\'') then consDecoded (some a) (unquoteBody q (b :: c :: rest))
      else
        match octalValue? a, octalValue? b, octalValue? c with
        | some x, some y, some z =>
          let v := x * 64 + y * 8 + z
          consDecoded (if v > 255 then none else some (Char.ofNat v)) (unquoteBody q rest)
        | _, _, _ => none
  | '\\' :: a :: rest =>
    match a with
    | 'a' => consDecoded (some (Char.ofNat 7)) (unquoteBody q rest)
    | 'b' => consDecoded (some (Char.ofNat 8)) (unquoteBody q rest)
    | 'f' => consDecoded (some (Char.ofNat 12)) (unquoteBody q rest)
    | 'n' => consDecoded (some '\n') (unquoteBody q rest)
    | 'r' => consDecoded (some '\r') (unquoteBody q rest)
    | 't' => consDecoded (some '\t') (unquoteBody q rest)
    | 'v' => consDecoded (some (Char.ofNat 11)) (unquoteBody q rest)
    | '\\' => consDecoded (some '\\') (unquoteBody q rest)
    | _ =>
      if a = q && (q = '"' || q = '\'') then consDecoded (some a) (unquoteBody q rest) else none
  | c :: rest =>
    if c = q && (q = '"' || q = '\'') then none else consDecoded (some c) (unquoteBody q rest)

/-- The back quote, which opens and closes a raw literal. -/
def backQuote : Char := Char.ofNat 96

/-- The body between an opening and a closing delimiter `d`. -/
def delimited? (d : Char) (l : List Char) : Option (List Char) :=
  match l with
  | c :: rest =>
    if c = d then
      match rest.reverse with
      | e :: body => if e = d then some body.reverse else none
      | [] => none
    else none
  | [] => none

/-- Reads a literal back: a back-quoted literal holds no back quote (carriage returns are
dropped), a double-quoted one holds no line break, a single-quoted one decodes to exactly one
character. -/
def unquote? (s : String) : Option String :=
  let l := s.toList
  match delimited? backQuote l with
  | some body =>
    if body.contains backQuote then none else some (String.ofList (body.filter (· != '\r')))
  | none =>
    match delimited? '"' l with
    | some body =>
      if body.contains '\n' then none else (unquoteBody '"' body).map String.ofList
    | none =>
      match delimited? '\'' l with
      | some body =>
        match unquoteBody '\'' body with
        | some [c] => some (String.ofList [c])
        | _ => none
      | none => none

end StaticWrap.Text
