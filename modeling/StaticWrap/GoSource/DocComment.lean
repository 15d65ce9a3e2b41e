import StaticWrap.GoSource.Syntax
import StaticWrap.Text.Basic
/-!
**The canonical layout of documentation comments.**

A comment group that documents a top-level declaration is rewritten into its canonical form
when source is formatted. Its text (comment markers removed, one leading blank dropped from
each line) is read as blocks separated by blank lines:

* a paragraph: unindented lines, kept as written;
* a heading: a single line `# Title`, or (the older style) a single capitalised line without
  punctuation between blank lines and followed by ordinary text; written `# Title`;
* a code block: indented lines, written with one tab of indentation after the common
  indentation is removed;
* a list: indented lines starting with a bullet (`-`, `*`, `+`, `•`) or a number and `.` or
  `)`, written ` - item` or ` 1. item`;
* link definitions `[Text]: scheme://...`: a paragraph of only such lines moves to the end.

In text, two back quotes become an opening curly quote and two apostrophes a closing one.
Lines are then written back as `//` comments (`// text`, `//` for a blank line, `//` followed
directly by a tab for code). Directive lines (`//go:generate`, `//line ...`) are kept apart and
written last, after a blank comment line.

* `reformatDoc`: the canonical comment list for a documentation comment group.
* `stripCommonPrefix`: the lines of a `/* */` comment with the indentation they share removed,
  so that reprinting them at a new indentation keeps their shape.
-/

namespace StaticWrap.GoSource.DocText

open StaticWrap.Text

/-- A line is blank: it has no character above the space. -/
def isBlankLine (s : String) : Bool := s.toList.all (·.toNat ≤ 32)

/-- The leading spaces and tabs of a line. -/
def leadingSpace (s : String) : String := String.ofList (s.toList.takeWhile (fun c => c == ' ' || c == '\t'))

/-- The longest common prefix of two texts. -/
def commonText (a b : String) : String :=
  String.ofList ((a.toList.zip b.toList).takeWhile (fun (x, y) => x == y) |>.map (·.1))

/-- Removes the indentation shared by the non-blank lines, the blank lines at both ends, and
the spaces of blank lines. -/
def unindent (lines : List String) : List String :=
  let lines := (lines.dropWhile isBlankLine).reverse.dropWhile isBlankLine |>.reverse
  match lines with
  | [] => []
  | first :: rest =>
    let pre := rest.foldl (fun p l => if isBlankLine l then p else commonText p (leadingSpace l))
      (leadingSpace first)
    let out := lines.map fun l =>
      let l := trimPrefix l pre
      if trimSpace l == "" then "" else l
    (out.dropWhile (· == "")).reverse.dropWhile (· == "") |>.reverse

/-- A line starts with a space or tab. -/
def indented (line : String) : Bool :=
  match line.toList with
  | c :: _ => c == ' ' || c == '\t'
  | [] => false

/-- A line is a heading `# Title`. -/
def isHeading (line : String) : Bool :=
  match line.toList with
  | '#' :: c :: _ => (c == ' ' || c == '\t') && trimSpace line != "#"
  | _ => false

/-- The number (empty for a bullet) and the rest of a line that starts a list item. -/
def listMarker (line : String) : Option (String × String) :=
  let l := (trimSpace line).toList
  let found : Option (String × List Char) := match l with
    | [] => none
    | c :: rest =>
      if c == '•' || c == '*' || c == '+' || c == '-' then some ("", rest)
      else if '0' ≤ c && c ≤ '9' then
        let digits := l.takeWhile (fun d => '0' ≤ d && d ≤ '9')
        match l.drop digits.length with
        | d :: after => if d == '.' || d == ')' then some (String.ofList digits, after) else none
        | [] => none
      else none
  match found with
  | some (num, rest) =>
    let rest := String.ofList rest
    if !indented rest || trimSpace rest == "" then none else some (num, rest)
  | none => none

/-- A line starts a list item. -/
def isList (line : String) : Bool := (listMarker line).isSome

/-- The text after each occurrence of a character. -/
def suffixesAfter : List Char → Char → List (List Char)
  | [], _ => []
  | c :: rest, d => if c == d then rest :: suffixesAfter rest d else suffixesAfter rest d

/-- Whether a line can be an old-style heading: one capitalised line with blank lines around
it and ordinary text after, ending in a letter or digit, with no punctuation beyond `(),` and
periods inside words, and apostrophes only for possessives. -/
def isOldHeading (line : String) (all : Array String) (off : Nat) : Bool :=
  if off == 0 || all[off - 1]?.getD "x" != "" || off + 2 ≥ all.size || all[off + 1]?.getD "x" != ""
      || leadingSpace (all[off + 2]?.getD "") != "" then false
  else
    let l := trimSpace line
    match l.toList, l.toList.getLast? with
    | c :: _, some e =>
      if !(isLetter c && isUpper c) then false
      else if !(isLetter e || isDigit e) then false
      else if l.toList.any (fun ch => ";:!?+*/=[]\x7b\x7d_^°&§~%#@<\">\\".toList.contains ch) then false
      else
        let apostrophesOk := (suffixesAfter l.toList '\'').all fun b => b == ['s'] || b.take 2 == ['s', ' ']
        let periodsOk := (suffixesAfter l.toList '.').all fun b => b != [] && b.headD 'x' != ' '
        apostrophesOk && periodsOk
    | _, _ => false

/-- The kind of a span of lines. -/
inductive SpanKind where
  | code
  | heading
  | list
  | oldHeading
  | para
  deriving DecidableEq

/-- A span of lines `[start, stop)` and its kind. -/
structure Span where
  start : Nat
  stop : Nat
  kind : SpanKind

/-- The line at an index, empty past the end. -/
def lineAt (lines : Array String) (i : Nat) : String := lines[i]?.getD ""

/-- Cuts the lines into spans: runs of indented lines (code or lists) and runs of unindented
lines (paragraphs or headings), with repairs for code or lists whose first lines lost their
indentation. -/
def parseSpans (lines : Array String) : List Span := Id.run do
  let n := lines.size
  let mut spans : Array Span := #[]
  let mut i := 0
  let mut forceIndent := 0
  for _ in [0:2 * n + 2] do
    for _ in [0:n + 1] do
      if i < n && lineAt lines i == "" then i := i + 1 else break
    if i ≥ n then break
    let start := i
    let mut stop := i
    let mut kind := SpanKind.para
    if i < forceIndent || indented (lineAt lines i) then
      let mut unindentedListOK := isList (lineAt lines i) && i < forceIndent
      i := i + 1
      for _ in [0:n + 1] do
        if i < n && (lineAt lines i == "" || i < forceIndent || indented (lineAt lines i) ||
            (unindentedListOK && isList (lineAt lines i))) then
          if lineAt lines i == "" then unindentedListOK := false
          i := i + 1
        else break
      stop := i
      for _ in [0:n + 1] do
        if stop > start && lineAt lines (stop - 1) == "" then stop := stop - 1 else break
      if stop < n && (lineAt lines stop).startsWith "\x7d" then stop := stop + 1
      kind := if isList (lineAt lines start) then .list else .code
    else
      i := i + 1
      for _ in [0:n + 1] do
        if i < n && lineAt lines i != "" && !indented (lineAt lines i) then i := i + 1 else break
      stop := i
      let mut retry := false
      if i < n && lineAt lines i != "" && !isList (lineAt lines i) then
        if isList (lineAt lines (i - 1)) then
          forceIndent := stop
          stop := stop - 1
          for _ in [0:n + 1] do
            if stop > start && isList (lineAt lines (stop - 1)) then stop := stop - 1 else break
        else if (lineAt lines (i - 1)).endsWith "\x7b" || (lineAt lines (i - 1)).endsWith "\\" then
          forceIndent := stop
          stop := stop - 1
        if start == stop && forceIndent > start then
          i := start
          retry := true
      if retry then continue
      kind :=
        if stop - start == 1 && isHeading (lineAt lines start) then .heading
        else if stop - start == 1 && isOldHeading (lineAt lines start) lines start then .oldHeading
        else .para
    spans := spans.push ⟨start, stop, kind⟩
    i := stop
  return spans.toList

/-- A link definition `[text]: url`, and whether the text refers to it. -/
structure LinkDef where
  text : String
  url : String
  used : Bool := false

/-- The URL schemes that links may use. -/
def isScheme (s : String) : Bool :=
  ["file", "ftp", "gopher", "http", "https", "mailto", "nntp"].contains s

/-- Reads a link definition line. -/
def parseLink (line : String) : Option LinkDef :=
  if !line.startsWith "[" then none
  else
    match indexOf? line "]:" with
    | none => none
    | some i =>
      let cs := line.toList
      if i + 3 ≥ cs.length then none
      else
        let after := cs[i + 2]?.getD 'x'
        if after != ' ' && after != '\t' then none
        else
          let text := String.ofList ((cs.drop 1).take (i - 1))
          let url := trimSpace (String.ofList (cs.drop (i + 3)))
          match indexOf? url "://" with
          | some j => if isScheme (takeChars url j) then some ⟨text, url, false⟩ else none
          | none => none

/-- A block of a documentation comment. -/
inductive Block where
  | para (text : String)
  | heading (text : String)
  | code (text : String)
  | list (items : List (String × List String)) (forceBlankBefore forceBlankBetween : Bool)

/-- The length of the URL that starts a text, if one does: a known scheme, `://`, and the
characters up to a blank. -/
def urlLength (s : List Char) : Option Nat :=
  let scheme := s.takeWhile (fun c => 'a' ≤ c && c ≤ 'z')
  if isScheme (String.ofList scheme) && (s.drop scheme.length).take 3 == [':', '/', '/'] then
    some (s.takeWhile (fun c => !isSpace c)).length
  else none

/-- Replaces two back quotes by an opening curly quote and two apostrophes by a closing one
(three or more back quotes stay as they are); URLs are left alone when `autoLink` is set. -/
def convertQuotes (autoLink : Bool) (s : String) : String := Id.run do
  let cs := s.toList.toArray
  let mut out : Array Char := #[]
  let mut i := 0
  for _ in [0:cs.size + 1] do
    if i ≥ cs.size then break
    let t := cs.toList.drop i
    if autoLink then
      match urlLength t with
      | some k =>
        if k > 0 then
          out := out ++ (t.take k).toArray
          i := i + k
          continue
      | none => pure ()
    match t with
    | '`' :: '`' :: rest =>
      match rest with
      | '`' :: _ =>
        out := out ++ #['`', '`', '`']
        i := i + 3
        for _ in [0:cs.size + 1] do
          if i < t.length && t[i]?.getD ' ' == '`' then
            out := out.push (cs[i]?.getD '`')
            i := i + 1
          else break
      | _ =>
        out := out.push '“'
        i := i + 2
    | '\'' :: '\'' :: _ =>
      out := out.push '”'
      i := i + 2
    | c :: _ =>
      out := out.push c
      i := i + 1
    | [] => i := i + 1
  return String.ofList out.toList

/-- Reads the links of a paragraph, marking the definitions it refers to, and gives the text
as it is printed. -/
def linkedText (defs : Array LinkDef) (text : String) : Array LinkDef × String := Id.run do
  let cs := text.toList.toArray
  let mut defs := defs
  let mut out := ""
  let mut wrote := 0
  let mut start : Option Nat := none
  let mut buf : Array Char := #[]
  for i in [0:cs.size] do
    let c0 := cs[i]?.getD ' '
    let c := if c0 == '\n' || c0 == '\t' then ' ' else c0
    if c == '[' then start := some i
    else if c == ']' then
      match start with
      | some st =>
        let key := String.ofList buf.toList
        match defs.findIdx? (·.text == key) with
        | some k =>
          defs := defs.modify k fun d => { d with used := true }
          out := out ++ convertQuotes true (String.ofList (cs.extract wrote st).toList)
          out := out ++ "[" ++ convertQuotes false (String.ofList (cs.extract (st + 1) i).toList) ++ "]"
          wrote := i + 1
        | none => pure ()
      | none => pure ()
      start := none
      buf := #[]
    if start.isSome && start != some i then buf := buf.push c
  out := out ++ convertQuotes true (String.ofList (cs.extract wrote cs.size).toList)
  return (defs, out)

/-- A paragraph, or nothing when every line defines a link (the definitions are recorded). -/
def paragraph (defs : Array LinkDef) (lines : List String) : Array LinkDef × Option String :=
  let parsed := lines.map parseLink
  if parsed.all Option.isSome then
    (defs ++ (parsed.filterMap id).toArray, none)
  else (defs, some (String.intercalate "\n" lines))

/-- Reads the lines of a list. -/
def listBlock (defs : Array LinkDef) (lines : List String) (forceBlankBefore : Bool) :
    Array LinkDef × Block := Id.run do
  let num := ((listMarker (lines.headD "")).map (·.1)).getD ""
  let mut defs := defs
  let mut items : Array (String × List String) := #[]
  let mut current : Option String := none
  let mut content : Array String := #[]
  let mut text : Array String := #[]
  let mut blankBetween := false
  for line in lines do
    let mut line := line
    match listMarker line with
    | some (n, after) =>
      if (n != "") == (num != "") then
        match current with
        | some c =>
          let (d, para) := paragraph defs text.toList
          defs := d
          items := items.push (c, (content ++ para.toArray).toList)
        | none => pure ()
        text := #[]
        content := #[]
        current := some n
        line := after
    | none => pure ()
    line := trimSpace line
    if line == "" then
      blankBetween := true
      if current.isSome then
        let (d, para) := paragraph defs text.toList
        defs := d
        content := content ++ para.toArray
      text := #[]
      continue
    text := text.push line
  match current with
  | some c =>
    let (d, para) := paragraph defs text.toList
    defs := d
    items := items.push (c, (content ++ para.toArray).toList)
  | none => pure ()
  return (defs, .list items.toList forceBlankBefore blankBetween)

/-- Whether a list is written with blank lines between its items. -/
def listLoose (items : List (String × List String)) (forceBlankBetween : Bool) : Bool :=
  forceBlankBetween || items.any (fun (_, c) => c.length != 1)

/-- Whether a block is written after a blank line. -/
def blankBefore : Block → Bool
  | .list items before between => before || listLoose items between
  | _ => true

/-- Writes text, indenting every line after the first by `indent`. -/
def indentText (indent s : String) : String := String.intercalate ("\n" ++ indent) (splitOn s "\n")

/-- The printed form of a block. -/
def printBlock : Block → String
  | .para t => t ++ "\n"
  | .heading t => "# " ++ t ++ "\n"
  | .code t =>
    let ls := (splitOn t "\n")
    let ls := if ls.getLast? == some "" then ls.dropLast else ls
    String.join (ls.map fun l => (if l != "" then "\t" ++ l else "") ++ "\n")
  | .list items _ between =>
    let loose := listLoose items between
    String.join (items.mapIdx fun i (num, content) =>
      (if i > 0 && loose then "\n" else "") ++ " " ++
        (if num == "" then " - " else num ++ ". ") ++
        String.join (content.mapIdx fun j t =>
          (if j > 0 then "\n    " else "") ++ indentText "    " t ++ "\n"))

/-- Reads a comment text into blocks and link definitions. -/
def parseDoc (text : String) : List Block × Array LinkDef := Id.run do
  let lines := (unindent (splitOn text "\n")).toArray
  let mut defs : Array LinkDef := #[]
  let mut blocks : Array Block := #[]
  let mut prevStop := 0
  for s in parseSpans lines do
    let ls := (lines.extract s.start s.stop).toList
    match s.kind with
    | .list =>
      let (d, b) := listBlock defs ls (prevStop < s.start)
      defs := d
      blocks := blocks.push b
    | .code =>
      blocks := blocks.push (.code (String.intercalate "\n" (unindent ls ++ [""])))
    | .oldHeading => blocks := blocks.push (.heading (trimSpace (ls.headD "")))
    | .heading => blocks := blocks.push (.heading (trimSpace (String.ofList ((ls.headD "").toList.drop 1))))
    | .para =>
      let (d, p) := paragraph defs ls
      defs := d
      match p with
      | some t => blocks := blocks.push (.para t)
      | none => pure ()
    prevStop := s.stop
  let mut out : Array Block := #[]
  for b in blocks do
    match b with
    | .para t =>
      let (d, t) := linkedText defs t
      defs := d
      out := out.push (.para t)
    | .list items before between =>
      let mut its : Array (String × List String) := #[]
      for (num, content) in items do
        let mut cs : Array String := #[]
        for t in content do
          let (d, t) := linkedText defs t
          defs := d
          cs := cs.push t
        its := its.push (num, cs.toList)
      out := out.push (.list its.toList before between)
    | b => out := out.push b
  return (out.toList, defs)

/-- The canonical text of a comment: its blocks, then the link definitions that are used,
then the others. -/
def printDoc (text : String) : String :=
  let (blocks, defs) := parseDoc text
  let body := String.join (blocks.mapIdx fun i b => (if i > 0 && blankBefore b then "\n" else "") ++ printBlock b)
  let defsText (used : Bool) : String :=
    let ds := defs.toList.filter (·.used == used)
    if ds.isEmpty then "" else "\n" ++ String.join (ds.map fun d => "[" ++ d.text ++ "]: " ++ d.url ++ "\n")
  body ++ defsText true ++ defsText false

/-- Whether a comment text (markers removed) is a directive: `line `, `extern `, `export `,
or lower-case letters and digits, a colon, and a letter or digit. -/
def isDirective (c : String) : Bool :=
  if c.startsWith "line " || c.startsWith "extern " || c.startsWith "export " then true
  else
    let cs := c.toList
    match cs.findIdx? (· == ':') with
    | some colon =>
      if colon == 0 || colon + 1 ≥ cs.length then false
      else (List.range (colon + 2)).all fun i =>
        i == colon || (let b := cs[i]?.getD ' '; ('a' ≤ b && b ≤ 'z') || ('0' ≤ b && b ≤ '9'))
    | none => false

/-- Whether the inside of a `/* */` comment has a star at the start of every line after the
first. -/
def allStars (text : String) : Bool :=
  (splitOn text "\n").drop 1 |>.all fun l =>
    match l.toList.dropWhile (fun c => c == ' ' || c == '\t') with
    | [] => true
    | c :: _ => c == '*'

/-- The canonical form of a documentation comment group; all the new comments take the
position of the first. -/
def reformatDoc (list : List Comment) : List Comment :=
  match list with
  | [] => []
  | first :: _ =>
    let slash := first.pos
    if list.length == 1 && first.text.startsWith "/*" then
      let text := first.text
      if !containsText text "\n" || allStars text then list
      else
        let inner := String.ofList ((text.toList.drop 2).dropLast.dropLast)
        if inner == "" then list
        else [⟨slash, "/*\n" ++ printDoc inner ++ "*/"⟩]
    else if first.text.startsWith "//" then
      let parts := list.map fun c => (c, cutPrefix? c.text "//")
      if parts.any (fun (_, a) => a.isNone) then list
      else
        let directives := parts.filter fun (_, a) => isDirective (a.getD "")
        let plain := parts.filter fun (_, a) => !isDirective (a.getD "")
        let text := String.join (plain.map fun (_, a) => trimPrefix (a.getD "") " " ++ "\n")
        if text == "" then list
        else
          let printed := printDoc text
          let lines := splitOn printed "\n"
          let lines := if lines.getLast? == some "" then lines.dropLast else lines
          let out : List Comment := lines.map fun l =>
            if l == "" then ⟨slash, "//"⟩
            else if l.startsWith "\t" then ⟨slash, "//" ++ l⟩
            else ⟨slash, "// " ++ l⟩
          if directives.isEmpty then out
          else out ++ [⟨slash, "//"⟩] ++ directives.map fun (c, _) => ⟨slash, c.text⟩
    else list

/-- The common prefix of two lines made of blanks, tabs and stars. -/
def commonPrefix (a b : String) : String :=
  String.ofList ((a.toList.zip b.toList).takeWhile (fun (x, y) => x == y && (x.toNat ≤ 32 || x == '*'))
    |>.map (·.1))

/-- Removes from the lines of a `/* */` comment (after the first) the indentation they share,
aligning a closing line that holds only the closing marker with the opening one. -/
def stripCommonPrefix (lines : List String) : List String :=
  if lines.length ≤ 1 then lines
  else Id.run do
    let mut lines := lines.toArray
    let n := lines.size
    let mut pre := ""
    let mut preSet := false
    if n > 2 then
      for i in [1:n - 1] do
        let line := lines[i]?.getD ""
        if isBlankLine line then lines := lines.set! i ""
        else
          if !preSet then
            pre := line
            preSet := true
          pre := commonPrefix pre line
    if !preSet then
      let line := lines[n - 1]?.getD ""
      pre := commonPrefix line line
    let mut lineOfStars := false
    match indexOf? pre "*" with
    | some k =>
      pre := trimSuffix (takeChars pre k) " "
      lineOfStars := true
    | none =>
      let first := lines[0]?.getD ""
      if isBlankLine (dropChars first 2) then
        let cs := pre.toList
        let mut i := cs.length
        for _ in [0:3] do
          if i > 0 && cs[i - 1]?.getD 'x' == ' ' then i := i - 1 else break
        if i == cs.length && i > 0 && cs[i - 1]?.getD 'x' == '\t' then i := i - 1
        pre := takeChars pre i
      else
        let fc := first.toList
        let ws := (fc.drop 2).takeWhile (·.toNat ≤ 32)
        let suffix := if ws.headD 'x' == '\t' then ws else ' ' :: ' ' :: ws
        pre := trimSuffix pre (String.ofList suffix)
    let last := lines[n - 1]?.getD ""
    let before := match indexOf? last "*/" with
      | some k => takeChars last k
      | none => last
    if isBlankLine before then
      lines := lines.set! (n - 1) (pre ++ (if lineOfStars then " */" else "*/"))
    else
      pre := commonPrefix pre last
    let k := pre.length
    return (lines.toList.mapIdx fun i l => if i > 0 && l != "" then dropChars l k else l)

end StaticWrap.GoSource.DocText
