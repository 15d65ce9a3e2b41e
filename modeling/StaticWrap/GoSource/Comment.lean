import StaticWrap.Text.Basic
import StaticWrap.Text.Utf8
/-!
**The text of a comment group.**

`groupText` gives the text of consecutive comments the way documentation reads it: the
comment markers are removed (and one space after `//`), directives such as `//go:noinline`
or `//line` are dropped, trailing white space is cut from each line, leading blank lines are
dropped and runs of blank lines become one, and the text ends with a line break when it is
not empty.
-/

namespace StaticWrap.GoSource

/-- White space as the comment reader sees it. -/
def isBlankChar (c : Char) : Bool := c == ' ' || c == '\t' || c == '\n' || c == '\r'

/-- Lower-case ASCII letter or digit. -/
def isDirectiveChar (c : Char) : Bool := ('a' ≤ c && c ≤ 'z') || ('0' ≤ c && c ≤ '9')

/-- The text after `//` is a directive: `line `, `extern ` or `export `, or a run of lower-case
letters and digits, a colon, and one more such character. -/
def isDirective (c : String) : Bool :=
  Text.hasPrefix c "line " || Text.hasPrefix c "extern " || Text.hasPrefix c "export " ||
    match (c.toList.span (· != ':')) with
    | (before, ':' :: d :: _) => !before.isEmpty && before.all isDirectiveChar && isDirectiveChar d
    | _ => false

/-- The lines of one comment, or none for a directive. The marker is told by the comment's
second byte: after `/` the two first bytes are cut (and one space after them), after `*` the two
first and the two last; any other comment is taken whole. A comment of fewer than two bytes, or
a `*` comment of fewer than four, is a run-time error. -/
def commentLines? (raw : String) : Except String (Option (List String)) := do
  let b := Text.Bytes.ofText raw
  if b.length < 2 then
    throw ("runtime error: index out of range [1] with length " ++ toString b.length)
  let second := b.getD 1 0
  let body : Option String ←
    if second == '/'.toUInt8 then
      match b.drop 2 with
      | [] => pure (some "")
      | 32 :: more => pure (some (Text.Bytes.toText more))
      | rest =>
        let t := Text.Bytes.toText rest
        pure (if isDirective t then none else some t)
    else if second == '*'.toUInt8 then
      if b.length < 4 then
        throw ("runtime error: slice bounds out of range [2:" ++ toString (b.length - 2) ++ "]")
      pure (some (Text.Bytes.toText ((b.drop 2).take (b.length - 4))))
    else pure (some raw)
  pure (body.map fun t => (Text.splitOn t "\n").map (Text.trimRightBy isBlankChar))

/-- Drops leading blank lines and merges runs of blank lines; `prevBlank` says whether the
last kept line was blank (true at the start). -/
def squeezeBlank : List String → Bool → List String
  | [], _ => []
  | l :: ls, prevBlank =>
    if l.isEmpty && prevBlank then squeezeBlank ls true
    else l :: squeezeBlank ls l.isEmpty

/-- The text of a comment group, or the run-time error of a comment too short for its
marker. -/
def groupText? (comments : List String) : Except String String := do
  let parts ← comments.mapM commentLines?
  let lines := squeezeBlank (parts.filterMap id).flatten true
  let lines := match lines.getLast? with
    | some l => if l.isEmpty then lines else lines ++ [""]
    | none => lines
  return "\n".intercalate lines

/-- The text of a comment group; a comment too short for its marker reads as nothing. -/
def groupText (comments : List String) : String :=
  match groupText? comments with
  | .ok t => t
  | .error _ => ""

end StaticWrap.GoSource
