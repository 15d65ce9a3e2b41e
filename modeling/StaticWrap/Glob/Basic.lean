import StaticWrap.Text.Quote
/-!
**Glob patterns: syntax and reading.**

A pattern is a sequence of pieces: literal text, `*` (any run of characters), `**` (the same),
`?` (one character), a class `[abc]` or `[a-z]`, negated with `!` after the bracket, and a
choice `{p,q,...}` of sub-patterns. A backslash makes the next character literal in text.

Reading happens in two steps. `Glob.lex` cuts the pattern into tokens; a bracketed class is
read as one unit, and a class that runs into a fault hides the tokens read before it in the
same unit. `Glob.parse` then builds the pattern from the tokens; a choice that is never closed
is closed at the end of the pattern. The character `NUL` reads as the end of the pattern where
a token starts, and ends a run of text where it stands inside one.

* `Glob.compile`: the pattern, or the first fault met, in the order the two steps meet them.
* The faults: an unfinished class (`unexpected end of input`), a class with text after a range
  (`expected close range character`), a class with neither characters nor a range
  (`could not parse range`), and a range whose ends are reversed.
-/

namespace StaticWrap.Glob

/-- A fault met while reading a pattern. -/
inductive Fault where
  | unexpectedEnd
  | expectedClose
  | emptyRange
  | reversedRange (lo hi : Char)
  deriving DecidableEq, Repr

/-- The text of a fault. -/
def Fault.message : Fault → String
  | .unexpectedEnd => "unexpected end of input"
  | .expectedClose => "expected close range character"
  | .emptyRange => "could not parse range"
  | .reversedRange lo hi =>
    "hi character '" ++ String.ofList [hi] ++ "' should be greater than lo '" ++
      String.ofList [lo] ++ "'"

/-- One piece of a pattern. -/
inductive Piece where
  | text (chars : List Char)
  | any
  | super
  | single
  | oneOf (chars : List Char) (negated : Bool)
  | range (lo hi : Char) (negated : Bool)
  | choice (alternatives : List (List Piece))
  deriving Repr

/-- A pattern: its pieces in order. -/
abbrev Pattern := List Piece

/-- A token inside a bracketed class. -/
inductive ClassPart where
  | negate
  | lo (c : Char)
  | between
  | hi (c : Char)
  | text (chars : List Char)
  | close
  deriving DecidableEq, Repr

/-- A token of a pattern. -/
inductive Token where
  | text (chars : List Char)
  | any
  | super
  | single
  | bracket (parts : List ClassPart)
  | choiceOpen
  | separator
  | choiceClose
  | stop
  | fault (e : Fault)
  deriving DecidableEq, Repr

/-- The character that the reader takes for the end of the pattern. -/
def isNul (c : Char) : Bool := c.toNat == 0

/-- Reads literal text up to a breaker: a backslash makes the next character literal, and the
end or a `NUL` (which is consumed) stops the text. Returns the text and the rest. -/
def readText (breakers : List Char) : (l : List Char) →
    List Char × { r : List Char // r.length ≤ l.length }
  | [] => ([], ⟨[], by simp⟩)
  | c :: rest =>
    if isNul c then ([], ⟨rest, by simp⟩)
    else if c == '\\' then
      match rest with
      | [] => ([], ⟨[], by simp⟩)
      | d :: rest' =>
        if isNul d then ([], ⟨rest', by simp; omega⟩)
        else
          let (t, ⟨r, hr⟩) := readText breakers rest'
          (d :: t, ⟨r, by simp; omega⟩)
    else if breakers.contains c then ([], ⟨c :: rest, by simp⟩)
    else
      let (t, ⟨r, hr⟩) := readText breakers rest
      (c :: t, ⟨r, by simp; omega⟩)

/-- Reads text whose first character `c` is known not to be a breaker. -/
def readTextFrom (breakers : List Char) (c : Char) (rest : List Char) :
    List Char × { r : List Char // r.length ≤ rest.length } :=
  if c == '\\' then
    match rest with
    | [] => ([], ⟨[], by simp⟩)
    | d :: rest' =>
      if isNul d then ([], ⟨rest', by simp only [List.length_cons]; omega⟩)
      else
        let (t, ⟨r, hr⟩) := readText breakers rest'
        (d :: t, ⟨r, by simp only [List.length_cons]; omega⟩)
  else
    let (t, ⟨r, hr⟩) := readText breakers rest
    (c :: t, ⟨r, hr⟩)

/-- A text part, when the text is not empty. -/
def textPart (t : List Char) : List ClassPart := if t.isEmpty then [] else [.text t]

/-- The phase of reading a class: looking for characters, for the high end of a range, or for
the closing bracket. -/
inductive ClassPhase where
  | open (seenNot : Bool)
  | wantHi
  | wantClose

/-- Reads a bracketed class after its opening bracket: its parts and the rest, or a fault. -/
def readClass (phase : ClassPhase) : (l : List Char) →
    Except Fault (List ClassPart × { r : List Char // r.length ≤ l.length })
  | [] => .error .unexpectedEnd
  | c :: rest =>
    if isNul c then .error .unexpectedEnd
    else
      match phase with
      | .wantClose => if c == ']' then .ok ([.close], ⟨rest, by simp⟩) else .error .expectedClose
      | .wantHi =>
        match readClass .wantClose rest with
        | .ok (ps, ⟨r, hr⟩) => .ok (.hi c :: ps, ⟨r, by simp; omega⟩)
        | .error e => .error e
      | .open seenNot =>
        if !seenNot && c == '!' then
          match readClass (.open true) rest with
          | .ok (ps, ⟨r, hr⟩) => .ok (.negate :: ps, ⟨r, by simp; omega⟩)
          | .error e => .error e
        else
          match rest with
          | d :: rest' =>
            if d == '-' then
              match readClass .wantHi rest' with
              | .ok (ps, ⟨r, hr⟩) => .ok (.lo c :: .between :: ps, ⟨r, by simp; omega⟩)
              | .error e => .error e
            else if c == ']' then .ok ([.close], ⟨d :: rest', by simp⟩)
            else
              let (t, ⟨r, hr⟩) := readTextFrom [']'] c (d :: rest')
              match readClass .wantClose r with
              | .ok (ps, ⟨r', hr'⟩) =>
                .ok (textPart t ++ ps, ⟨r', by simp only [List.length_cons] at *; omega⟩)
              | .error e => .error e
          | [] =>
            if c == ']' then .ok ([.close], ⟨[], by simp⟩)
            else
              let (t, ⟨r, hr⟩) := readTextFrom [']'] c []
              match readClass .wantClose r with
              | .ok (ps, ⟨r', hr'⟩) =>
                .ok (textPart t ++ ps, ⟨r', by simp only [List.length_cons] at *; omega⟩)
              | .error e => .error e
  termination_by l => l.length
  decreasing_by all_goals simp only [List.length_cons] at *; omega

/-- The characters that end text outside a choice. -/
def textBreakers : List Char := ['?', '*', '[', '{']

/-- The characters that end text inside a choice. -/
def choiceBreakers : List Char := textBreakers ++ ['}', ',']

/-- A text token, when the text is not empty. -/
def textToken (t : List Char) : List Token := if t.isEmpty then [] else [.text t]

/-- Cuts a pattern into tokens; `depth` counts the open choices. The token list ends with
`stop`, or with the fault of a class that met one (the class's own tokens are then lost). -/
def lex (depth : Nat) : List Char → List Token
  | [] => [.stop]
  | '*' :: '*' :: rest => .super :: lex depth rest
  | '*' :: rest => .any :: lex depth rest
  | c :: rest =>
    if isNul c then [.stop]
    else if c == '{' then .choiceOpen :: lex (depth + 1) rest
    else if c == ',' && depth > 0 then .separator :: lex depth rest
    else if c == '}' && depth > 0 then .choiceClose :: lex (depth - 1) rest
    else if c == '[' then
      match readClass (.open false) rest with
      | .ok (ps, ⟨r, hr⟩) =>
        have : r.length < (c :: rest).length := Nat.lt_succ_of_le hr
        .bracket ps :: lex depth r
      | .error e => [.fault e]
    else if c == '?' then .single :: lex depth rest
    else
      let (t, ⟨r, hr⟩) := readTextFrom (if depth > 0 then choiceBreakers else textBreakers) c rest
      have : r.length < (c :: rest).length := Nat.lt_succ_of_le hr
      textToken t ++ lex depth r
  termination_by l => l.length
  decreasing_by all_goals simp only [List.length_cons] at *; omega

/-- The piece a class's parts describe: a range when both ends are set, characters when text
was read, and a fault when both or neither are. -/
def classPiece (negated : Bool) (lo hi : Option Char) (chars : List Char) :
    List ClassPart → Except Fault Piece
  | [] => .error .unexpectedEnd
  | .negate :: ps => classPiece true lo hi chars ps
  | .lo c :: ps => classPiece negated (some c) hi chars ps
  | .between :: ps => classPiece negated lo hi chars ps
  | .hi c :: ps =>
    let low := lo.getD (Char.ofNat 0)
    if c < low then .error (.reversedRange low c) else classPiece negated lo (some c) chars ps
  | .text t :: ps => classPiece negated lo hi t ps
  | .close :: _ =>
    match lo, hi with
    | some l, some h =>
      if l.toNat != 0 && h.toNat != 0 && chars.isEmpty then .ok (.range l h negated)
      else .error .emptyRange
    | _, _ => if chars.isEmpty then .error .emptyRange else .ok (.oneOf chars negated)

/-- An open choice while parsing: the alternatives read so far (last first) and the pieces of
the enclosing pattern before the choice (last first). -/
structure OpenChoice where
  alternatives : List Pattern
  before : List Piece

/-- Closes the open choices from the innermost out, giving the finished pattern. -/
def closeAll (current : List Piece) : List OpenChoice → Pattern
  | [] => current.reverse
  | f :: fs => closeAll (.choice (current.reverse :: f.alternatives).reverse :: f.before) fs

/-- Builds the pattern from its tokens. `current` holds the pieces of the innermost open
pattern, last first. -/
def parseTokens (current : List Piece) (stack : List OpenChoice) :
    List Token → Except Fault Pattern
  | [] => .ok (closeAll current stack)
  | .stop :: _ => .ok (closeAll current stack)
  | .fault e :: _ => .error e
  | .text t :: ts => parseTokens (.text t :: current) stack ts
  | .any :: ts => parseTokens (.any :: current) stack ts
  | .super :: ts => parseTokens (.super :: current) stack ts
  | .single :: ts => parseTokens (.single :: current) stack ts
  | .bracket ps :: ts =>
    match classPiece false none none [] ps with
    | .ok p => parseTokens (p :: current) stack ts
    | .error e => .error e
  | .choiceOpen :: ts => parseTokens [] (⟨[], current⟩ :: stack) ts
  | .separator :: ts =>
    match stack with
    | f :: fs => parseTokens [] ({ f with alternatives := current.reverse :: f.alternatives } :: fs) ts
    | [] => parseTokens current stack ts
  | .choiceClose :: ts =>
    match stack with
    | f :: fs => parseTokens (.choice (current.reverse :: f.alternatives).reverse :: f.before) fs ts
    | [] => parseTokens current stack ts

/-- Reads a pattern; the first fault met, by the reader or the builder, wins. -/
def compile (pattern : String) : Except Fault Pattern :=
  parseTokens [] [] (lex 0 pattern.toList)

end StaticWrap.Glob
