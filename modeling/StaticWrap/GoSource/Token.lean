/-!
**Tokens of Go source.**

The token classes of the Go language: literals, operators and delimiters, keywords, and the
special tokens for comments, the end of the file and illegal input.

* `Tok.text`: how a token is named in messages: its spelling for operators and keywords, the
  class name (`IDENT`, `INT`, ...) for literals.
* `Tok.precedence`: the binding strength of a binary operator (5 binds tightest), 0 for
  other tokens.
* `keywordOf?`: the keyword a word spells, if any.
-/

namespace StaticWrap.GoSource

/-- A token class. -/
inductive Tok where
  | illegal | eof | comment
  | ident | int | float | imag | char | string
  | add | sub | mul | quo | rem | and | or | xor | shl | shr | andNot
  | addAssign | subAssign | mulAssign | quoAssign | remAssign
  | andAssign | orAssign | xorAssign | shlAssign | shrAssign | andNotAssign
  | land | lor | arrow | inc | dec
  | eql | lss | gtr | assign | not
  | neq | leq | geq | define | ellipsis
  | lparen | lbrack | lbrace | comma | period
  | rparen | rbrack | rbrace | semicolon | colon
  | tilde
  | kwBreak | kwCase | kwChan | kwConst | kwContinue | kwDefault | kwDefer | kwElse
  | kwFallthrough | kwFor | kwFunc | kwGo | kwGoto | kwIf | kwImport | kwInterface | kwMap
  | kwPackage | kwRange | kwReturn | kwSelect | kwStruct | kwSwitch | kwType | kwVar
  deriving DecidableEq, Repr, Inhabited

/-- How a token is named in messages. -/
def Tok.text : Tok → String
  | .illegal => "ILLEGAL" | .eof => "EOF" | .comment => "COMMENT"
  | .ident => "IDENT" | .int => "INT" | .float => "FLOAT" | .imag => "IMAG"
  | .char => "CHAR" | .string => "STRING"
  | .add => "+" | .sub => "-" | .mul => "*" | .quo => "/" | .rem => "%"
  | .and => "&" | .or => "|" | .xor => "^" | .shl => "<<" | .shr => ">>" | .andNot => "&^"
  | .addAssign => "+=" | .subAssign => "-=" | .mulAssign => "*=" | .quoAssign => "/="
  | .remAssign => "%=" | .andAssign => "&=" | .orAssign => "|=" | .xorAssign => "^="
  | .shlAssign => "<<=" | .shrAssign => ">>=" | .andNotAssign => "&^="
  | .land => "&&" | .lor => "||" | .arrow => "<-" | .inc => "++" | .dec => "--"
  | .eql => "==" | .lss => "<" | .gtr => ">" | .assign => "=" | .not => "!"
  | .neq => "!=" | .leq => "<=" | .geq => ">=" | .define => ":=" | .ellipsis => "..."
  | .lparen => "(" | .lbrack => "[" | .lbrace => "\x7b" | .comma => "," | .period => "."
  | .rparen => ")" | .rbrack => "]" | .rbrace => "\x7d" | .semicolon => ";" | .colon => ":"
  | .tilde => "~"
  | .kwBreak => "break" | .kwCase => "case" | .kwChan => "chan" | .kwConst => "const"
  | .kwContinue => "continue" | .kwDefault => "default" | .kwDefer => "defer"
  | .kwElse => "else" | .kwFallthrough => "fallthrough" | .kwFor => "for"
  | .kwFunc => "func" | .kwGo => "go" | .kwGoto => "goto" | .kwIf => "if"
  | .kwImport => "import" | .kwInterface => "interface" | .kwMap => "map"
  | .kwPackage => "package" | .kwRange => "range" | .kwReturn => "return"
  | .kwSelect => "select" | .kwStruct => "struct" | .kwSwitch => "switch"
  | .kwType => "type" | .kwVar => "var"

/-- The token is a literal: an identifier, number, character or string. -/
def Tok.isLiteral : Tok → Bool
  | .ident | .int | .float | .imag | .char | .string => true
  | _ => false

/-- The binding strength of a binary operator. -/
def Tok.precedence : Tok → Nat
  | .lor => 1
  | .land => 2
  | .eql | .neq | .lss | .leq | .gtr | .geq => 3
  | .add | .sub | .or | .xor => 4
  | .mul | .quo | .rem | .shl | .shr | .and | .andNot => 5
  | _ => 0

def keywordToks : List Tok :=
  [.kwBreak, .kwCase, .kwChan, .kwConst, .kwContinue, .kwDefault, .kwDefer, .kwElse,
   .kwFallthrough, .kwFor, .kwFunc, .kwGo, .kwGoto, .kwIf, .kwImport, .kwInterface, .kwMap,
   .kwPackage, .kwRange, .kwReturn, .kwSelect, .kwStruct, .kwSwitch, .kwType, .kwVar]

/-- The keyword a word spells. -/
def keywordOf? (w : String) : Option Tok := keywordToks.find? (·.text == w)

/-- The token is a keyword. -/
def Tok.isKeyword (t : Tok) : Bool := keywordToks.contains t

end StaticWrap.GoSource
