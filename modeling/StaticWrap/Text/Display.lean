import StaticWrap.Text.Basic
/-!
**Values shown in context lines and summaries.**

Context entries and summary counters hold loosely typed values: nothing, text, a number, a
truth value, a list, or a map. `Detail.show` writes them the way the default value format
does: nothing is `<nil>`, a list is `[a b]`, a map is `map[k:v ...]` with sorted keys.

* `durationText`: a whole number of milliseconds as a duration: `0s`, `250ms`, `1.234s`,
  `1m0.5s`, `1h0m0s`, with a minus sign when negative.
-/

namespace StaticWrap.Text

/-- A loosely typed value. -/
inductive Detail where
  | none
  | text (s : String)
  | int (n : Int)
  | bool (b : Bool)
  | list (items : List Detail)
  | map (entries : List (String × Detail))
  deriving Repr, Inhabited

mutual

/-- The text of a value. -/
def Detail.show : Detail → String
  | .none => "<nil>"
  | .text s => s
  | .int n => toString n
  | .bool b => if b then "true" else "false"
  | .list items => "[" ++ showItems items ++ "]"
  | .map entries => "map[" ++ showEntries entries ++ "]"

/-- The items of a list, separated by spaces. -/
def Detail.showItems : List Detail → String
  | [] => ""
  | [d] => d.show
  | d :: ds => d.show ++ " " ++ showItems ds

/-- The entries of a map, as `key:value`, separated by spaces. -/
def Detail.showEntries : List (String × Detail) → String
  | [] => ""
  | [(k, d)] => k ++ ":" ++ d.show
  | (k, d) :: es => k ++ ":" ++ d.show ++ " " ++ showEntries es

end

/-- A map value with its entries in key order. -/
def Detail.sortedMap (entries : List (String × Detail)) : Detail :=
  .map (sortBy (·.1) entries)

/-- The digits of a fraction of a second in milliseconds, without trailing zeros. -/
def millisFraction (ms : Nat) : String :=
  let digits := [ms / 100 % 10, ms / 10 % 10, ms % 10]
  let kept := (digits.reverse.dropWhile (· == 0)).reverse
  String.ofList (kept.map fun d => Char.ofNat (48 + d))

/-- A duration of whole milliseconds. -/
def durationText (ms : Int) : String :=
  let sign := if ms < 0 then "-" else ""
  let u := ms.natAbs
  if u == 0 then "0s"
  else if u < 1000 then sign ++ toString u ++ "ms"
  else
    let secs := u / 1000
    let frac := u % 1000
    let secText := toString (secs % 60) ++ (if frac == 0 then "" else "." ++ millisFraction frac) ++ "s"
    let hours := secs / 3600
    let minutes := secs / 60 % 60
    if hours > 0 then sign ++ toString hours ++ "h" ++ toString minutes ++ "m" ++ secText
    else if secs ≥ 60 then sign ++ toString minutes ++ "m" ++ secText
    else sign ++ secText

end StaticWrap.Text
