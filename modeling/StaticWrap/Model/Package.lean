import StaticWrap.Text.Basic
/-!
**Package references and placeholders.**

Type text never names another package directly: it writes a placeholder `$N.` where `N`
indexes a list of package references (path and declared name) kept beside the text. Late, when
aliases are known, `resolveQualifiers` replaces each placeholder by the alias of its package
and a dot (or by nothing when the alias is empty). A placeholder whose index is out of range is
left as it is.

* `addRef`: the index of a path in a reference list, adding the reference at the end when the
  path is new; `refText`: its placeholder, the qualifier that numbers packages.
* `resolveQualifiers`: replaces placeholders from left to right, asking `qualify` for each.
* `canonicalText`: every placeholder written as the quoted path, so texts from different
  reference lists compare equal when they name the same packages.
-/

namespace StaticWrap.Model

/-- A package: its import path and declared name. -/
structure PackageRef where
  path : String
  name : String := ""
  deriving DecidableEq, Repr, Inhabited

/-- The placeholder of an index. -/
def placeholder (i : Nat) : String := "$" ++ toString i

/-- The index of a reference's path, adding the reference when the path is new. -/
def addRef (refs : List PackageRef) (ref : PackageRef) : List PackageRef × Nat :=
  match refs.findIdx? (·.path == ref.path) with
  | some i => (refs, i)
  | none => (refs ++ [ref], refs.length)

/-- The placeholder of a package, adding it to the references. -/
def refText (r : PackageRef) : StateM (List PackageRef) String := fun refs =>
  let (refs, i) := addRef refs r
  (placeholder i, refs)

/-- An ASCII decimal digit. -/
def isAsciiDigit (c : Char) : Bool := '0' ≤ c && c ≤ '9'

/-- The value of a run of decimal digits. -/
def digitsValue (ds : List Char) : Nat := ds.foldl (fun n c => n * 10 + (c.toNat - 48)) 0

/-- Replaces the placeholders of a text, left to right. -/
def resolveChars {m : Type → Type} [Monad m] (refs : List PackageRef)
    (qualify : PackageRef → m String) (l : List Char) : m (List Char) :=
  match l with
  | [] => pure []
  | c :: rest =>
    if c == '$' then
      let digits := rest.takeWhile isAsciiDigit
      let after := rest.drop digits.length
      if !digits.isEmpty && after.head? == some '.' then
        match refs[digitsValue digits]? with
        | some ref => do
          let q ← qualify ref
          let tail ← resolveChars refs qualify (after.drop 1)
          pure ((if q.isEmpty then [] else q.toList ++ ['.']) ++ tail)
        | none => do
          let tail ← resolveChars refs qualify (after.drop 1)
          pure ('$' :: digits ++ '.' :: tail)
      else (c :: ·) <$> resolveChars refs qualify rest
    else (c :: ·) <$> resolveChars refs qualify rest
  termination_by l.length
  decreasing_by
    all_goals apply Nat.lt_succ_of_le
    -- past a placeholder the rest is dropped twice; otherwise it is the tail itself
    all_goals first
      | exact Nat.le_refl _
      | exact Nat.le_trans (Text.length_drop_le _ _) (Text.length_drop_le _ _)

/-- Replaces every placeholder of a text by the alias `qualify` gives its package. -/
def resolveQualifiers {m : Type → Type} [Monad m] (text : String) (refs : List PackageRef)
    (qualify : PackageRef → m String) : m String :=
  String.ofList <$> resolveChars refs qualify text.toList

/-- The text with every placeholder written as its package's quoted path. -/
def canonicalText (text : String) (refs : List PackageRef) : String :=
  Id.run (resolveQualifiers text refs fun r => pure ("\"" ++ r.path ++ "\""))

end StaticWrap.Model
