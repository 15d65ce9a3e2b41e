import StaticWrap.Text.Basic
/-!
**Slash-separated paths.**

Paths are texts whose elements are separated by `/`; a leading `/` makes a path rooted.

* `cleanPath`: the shortest equivalent path: empty and `.` elements are dropped, `..` removes
  the element before it (and is dropped at the root, or kept when nothing is left to remove);
  the empty path is `.`.
* `joinPath`: the non-empty parts joined by `/`, then cleaned; no non-empty part gives `""`.
* `baseName`: the last element, ignoring trailing slashes (`.` for the empty path, `/` for
  slashes only); `dirName`: everything before the last element, cleaned.
* `relPath base target`: the path that leads from `base` to `target`, going up with `..`.
-/

namespace StaticWrap.Text

/-- Drops `..` against the elements kept so far (last first). -/
def cleanElements (rooted : Bool) : List String → List String → List String
  | acc, [] => acc.reverse
  | acc, e :: es =>
    if e.isEmpty || e == "." then cleanElements rooted acc es
    else if e == ".." then
      match acc with
      | a :: rest => if a == ".." then cleanElements rooted (".." :: acc) es
        else cleanElements rooted rest es
      | [] => if rooted then cleanElements rooted [] es else cleanElements rooted [".."] es
    else cleanElements rooted (e :: acc) es

/-- The path is rooted: it starts with a slash. -/
def isRooted (p : String) : Bool := p.toList.head? == some '/'

/-- The shortest path equivalent to the given one. -/
def cleanPath (p : String) : String :=
  if p.isEmpty then "."
  else
    let rooted := isRooted p
    let elems := cleanElements rooted [] (splitOn p "/")
    let body := "/".intercalate elems
    if rooted then "/" ++ body else if body.isEmpty then "." else body

/-- Joins the non-empty parts with slashes and cleans the result. -/
def joinPath (parts : List String) : String :=
  match parts.filter (!·.isEmpty) with
  | [] => ""
  | ps => cleanPath ("/".intercalate ps)

/-- The last element of a path. -/
def baseName (p : String) : String :=
  if p.isEmpty then "."
  else
    let stripped := trimRightChars ['/'] p
    if stripped.isEmpty then "/"
    else
      match lastIndexOf? stripped "/" with
      | some i => dropChars stripped (i + 1)
      | none => stripped

/-- Everything before the last element, cleaned. -/
def dirName (p : String) : String :=
  match lastIndexOf? p "/" with
  | some i => cleanPath (takeChars p (i + 1))
  | none => "."

/-- The extension of the last element: from its last dot on, or `""`. -/
def extension (p : String) : String :=
  let lastElem := (p.toList.reverse.takeWhile (· != '/')).reverse
  match (lastElem.reverse.takeWhile (· != '.')).length, lastElem.contains '.' with
  | n, true => String.ofList (lastElem.drop (lastElem.length - n - 1))
  | _, false => ""

/-- The elements of a cleaned path, without the root. -/
def elementsOf (p : String) : List String :=
  (splitOn p "/").filter (!·.isEmpty)

/-- Drops the common leading elements of two lists. -/
def dropCommon : List String → List String → List String × List String
  | a :: as, b :: bs => if a == b then dropCommon as bs else (a :: as, b :: bs)
  | as, bs => (as, bs)

/-- The path leading from `base` to `target`, or none when there is no such path. -/
def relPath (base target : String) : Option String :=
  let b := cleanPath base
  let t := cleanPath target
  if t == b then some "."
  else
    let b := if b == "." then "" else b
    if isRooted b != isRooted t then none
    else
      let (bs, ts) := dropCommon (elementsOf b) (elementsOf t)
      if bs.head? == some ".." then none
      else some ("/".intercalate (bs.map (fun _ => "..") ++ ts))

end StaticWrap.Text
