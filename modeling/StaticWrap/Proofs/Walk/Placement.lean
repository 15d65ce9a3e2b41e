import StaticWrap.Walk.Facts
import StaticWrap.Discover.SelfWrap
import StaticWrap.Proofs.Model.References
/-!
**Placeholders stay in range.**

Facts and targets write package qualifiers as placeholders `$N` into their own list of package
references. Each writer is a program over a qualifier function: the type checker's texts
(`typeText`), the scan of a file's printed types (`qualifyChars`), a function's fact (`factOf`,
`selfFactOf`) and a type's own target (`ownerTexts`). Run with `refText`, each settles: against
the references it ends with, the same program run with `placedIn` writes the same texts, in
whatever order the qualifier is called.

* `typeText_settles` and its mutual companions, `factOf_settles`: loaded functions;
  `qualifyChars_settles`, `selfFactOf_settles`, `ownerTexts_settles`: texts read from source.
* `placeholders_stay_in_range`: the main statement.
-/

namespace StaticWrap.Types

open StaticWrap.Model

theorem objText_settles (o : TypeObj) :
    Settles (objText refText o) (fun later => objText (placedIn later) o) := by
  unfold objText
  -- the choice is made on the type, never on what the qualifier wrote, so both runs take it
  generalize o.isPredeclared = predeclared
  cases predeclared
  · exact (settles_refText _).bind fun _ => .pure _
  · exact .pure _

/- Each text settles by recursion on the type: its parts are written one after the other, each
settling, and `Settles.bind` carries that through the sequence. -/
mutual

theorem typeText_settles : ∀ t : GoType,
    Settles (typeText refText t) (fun later => typeText (placedIn later) t)
  | .basic _ | .param _ | .invalid => .pure _
  | .named o args | .aliased o args =>
    (objText_settles o).bind fun _ => (typesText_settles args).bind fun _ => .pure _
  | .pointer e | .slice e | .array _ e | .chan _ e => (typeText_settles e).bind fun _ => .pure _
  | .map k v => (typeText_settles k).bind fun _ => (typeText_settles v).bind fun _ => .pure _
  | .func sig => (sigText_settles sig).bind fun _ => .pure _
  | .struct fields => (fieldsText_settles fields).bind fun _ => .pure _
  | .iface _ methods embeddeds =>
    (methodsText_settles methods).bind fun _ => (typesText_settles embeddeds).bind
      fun _ => .pure _
  | .union terms => (termsText_settles terms).bind fun _ => .pure _

theorem typesText_settles : ∀ ts : List GoType,
    Settles (typesText refText ts) (fun later => typesText (placedIn later) ts)
  | [] => .pure _
  | t :: ts => (typeText_settles t).bind fun _ => (typesText_settles ts).bind fun _ => .pure _

theorem sigText_settles : ∀ sig : FuncType,
    Settles (sigText refText sig) (fun later => sigText (placedIn later) sig)
  | .mk params results variadic => (varsText_settles params variadic).bind fun _ =>
      (varsText_settles results false).bind fun _ => .pure _

theorem varsText_settles : ∀ (vs : List Var) (variadic : Bool),
    Settles (varsText refText vs variadic) (fun later => varsText (placedIn later) vs variadic)
  | [], _ => .pure _
  | .mk _ t :: vs, variadic =>
    (typeText_settles t).bind fun _ => (varsText_settles vs variadic).bind fun _ => .pure _

theorem fieldsText_settles : ∀ fs : List StructField,
    Settles (fieldsText refText fs) (fun later => fieldsText (placedIn later) fs)
  | [] => .pure _
  | .mk _ _ _ t _ :: fs =>
    (typeText_settles t).bind fun _ => (fieldsText_settles fs).bind fun _ => .pure _

theorem methodsText_settles : ∀ ms : List Method,
    Settles (methodsText refText ms) (fun later => methodsText (placedIn later) ms)
  | [] => .pure _
  | .mk _ _ sig :: ms =>
    (sigText_settles sig).bind fun _ => (methodsText_settles ms).bind fun _ => .pure _

theorem termsText_settles : ∀ ts : List Term,
    Settles (termsText refText ts) (fun later => termsText (placedIn later) ts)
  | [] => .pure _
  | .mk _ t :: ts => (typeText_settles t).bind fun _ => (termsText_settles ts).bind fun _ => .pure _

end

theorem typeParamsOf_settles : ∀ tps : List (String × GoType),
    Settles (typeParamsOf refText tps) (fun later => typeParamsOf (placedIn later) tps)
  | [] => .pure _
  | (_, c) :: tps =>
    (typeText_settles c).bind fun _ => (typeParamsOf_settles tps).bind fun _ => .pure _

end StaticWrap.Types

namespace StaticWrap.Discover

open StaticWrap.Model StaticWrap.GoSource

variable (imports : List (String × PackageRef))

theorem qualifierFor_settles (ident : List Char) :
    Settles (qualifierFor refText imports ident)
      (fun later => qualifierFor (placedIn later) imports ident) := by
  unfold qualifierFor
  generalize imports.find? (·.1 == String.ofList ident) = found
  rcases found with _ | ⟨_, ref⟩
  · exact .pure _
  · exact (settles_refText ref).bind fun _ => .pure _

/-- The scan settles, by recursion on its fuel: at each position it writes a qualifier or a
character and goes on. -/
theorem qualifyChars_settles : ∀ (n : Nat) (cs : List Char) (atStart : Bool),
    Settles (qualifyChars refText imports n cs atStart)
      (fun later => qualifyChars (placedIn later) imports n cs atStart)
  | 0, cs, _ => by
    simp only [qualifyChars]
    exact .pure cs
  | _ + 1, [], _ => by
    simp only [qualifyChars]
    exact .pure []
  | n + 1, c :: rest, atStart => by
    simp only [qualifyChars]
    generalize (if atStart then identDot (c :: rest) else none) = found
    rcases found with _ | ⟨ident, after⟩
    · generalize (!(isWordChar c || c == '.' || c == '$')) = opens
      cases opens
      · exact (qualifyChars_settles n rest false).bind fun _ => .pure _
      · generalize identDot rest = found
        rcases found with _ | ⟨ident, after⟩
        · exact (qualifyChars_settles n rest false).bind fun _ => .pure _
        · exact (qualifierFor_settles imports ident).bind fun _ =>
            (qualifyChars_settles n after false).bind fun _ => .pure _
    · exact (qualifierFor_settles imports ident).bind fun _ =>
        (qualifyChars_settles n after false).bind fun _ => .pure _

theorem exprText_settles (lines : Lines) (e : Expr) :
    Settles (exprText refText lines imports e)
      (fun later => exprText (placedIn later) lines imports e) := by
  unfold exprText qualify
  exact (qualifyChars_settles imports _ _ _).bind fun _ => .pure _

theorem typeParamsText_settles (lines : Lines) : ∀ fl : Option FieldList,
    Settles (typeParamsText refText lines imports fl)
      (fun later => typeParamsText (placedIn later) lines imports fl)
  | none => by
    simp only [typeParamsText]
    exact .pure _
  | some fl => by
    simp only [typeParamsText]
    refine Settles.bind (Settles.forIn fun f acc => ?_) fun _ => Settles.pure _
    exact (exprText_settles imports lines f.type).bind fun _ => .pure _

theorem embedsText_settles (lines : Lines) (e : Expr) :
    Settles (embedsText refText lines imports e)
      (fun later => embedsText (placedIn later) lines imports e) := by
  cases e with
  | struct _ fl =>
    simp only [embedsText]
    refine Settles.bind (Settles.forIn fun f acc => ?_) fun _ => Settles.pure _
    generalize f.names.isEmpty = unnamed
    cases unnamed
    · exact .pure _
    · exact (exprText_settles imports lines f.type).bind fun _ => .pure _
  | _ => exact .pure _

theorem ownerTexts_settles (sf : SourceFile) (typeParams : Option FieldList) (typeExpr : Expr) :
    Settles (ownerTexts refText sf typeParams typeExpr)
      (fun later => ownerTexts (placedIn later) sf typeParams typeExpr) := by
  unfold ownerTexts
  exact (typeParamsText_settles _ _ _).bind fun _ => (embedsText_settles _ _ _).bind fun _ =>
    .pure _

/-- The fact read from the source settles: its loops over parameters and results write one text
per field. -/
theorem selfFactOf_settles (sf : SourceFile) (doc : Option CommentGroup) (name : String)
    (sig : Signature) (target : Target) :
    Settles (selfFactOf refText sf doc name sig target)
      (fun later => selfFactOf (placedIn later) sf doc name sig target) := by
  unfold selfFactOf
  dsimp only
  refine (typeParamsText_settles _ _ _).bind fun _ => (Settles.forIn fun f acc => ?_).bind
    fun _ => ?_
  · refine (exprText_settles _ _ _).bind fun _ => ?_
    generalize f.names.isEmpty = unnamed
    cases unnamed <;> exact .pure _
  · generalize sig.results = results
    rcases results with _ | fl
    · exact .pure _
    · refine (Settles.forIn fun f _ => ?_).bind fun _ => .pure _
      exact (exprText_settles _ _ f.type).bind fun _ => .pure _

end StaticWrap.Discover

namespace StaticWrap.Walk

open StaticWrap.Model StaticWrap.Types

theorem paramsText_settles (ft : FuncType) :
    Settles (paramsText refText ft) (fun later => paramsText (placedIn later) ft) := by
  unfold paramsText
  refine Settles.mapM fun p => ?_
  obtain ⟨v, i⟩ := p
  dsimp only
  generalize v.type = t
  cases t
  case slice e =>
    generalize (ft.variadic && i + 1 == ft.params.length) = last
    cases last
    · exact (typeText_settles _).bind fun _ => .pure _
    · exact (typeText_settles e).bind fun _ => .pure _
  all_goals exact (typeText_settles _).bind fun _ => .pure _

/-- The fact of a loaded function settles: constraints, parameters, results and last its own
package. -/
theorem factOf_settles (l : Load.Loaded) (c : Candidate) (target : Target) :
    Settles (factOf refText l c target) (fun later => factOf (placedIn later) l c target) := by
  unfold factOf
  generalize c.resolved l = resolved
  obtain ⟨tps, ft⟩ := resolved
  refine (typeParamsOf_settles tps).bind fun _ => (paramsText_settles ft).bind fun _ =>
    (Settles.mapM fun (v : Var) => typeText_settles v.type).bind fun _ => ?_
  exact (settles_refText _).bind fun _ => .pure _


/-- A fact holds what `render` writes against its own references, which have distinct paths:
each text is the rendering in which every package is written as the placeholder of its path
there. -/
def Placed (render : (PackageRef → Option String) → Option Fact) (f : Fact) : Prop :=
  PathsDistinct f.imports ∧
    (render (placedIn f.imports)).map (fun g => { g with imports := f.imports }) = some f

/-- A fact rendered from no references and given the references it leaves is placed. -/
theorem placed_of_settles {act : StateM (List PackageRef) Fact}
    {render : (PackageRef → Option String) → Option Fact}
    (settles : Settles act (fun later => render (placedIn later))) :
    Placed render { (act.run []).1 with imports := (act.run []).2 } := by
  obtain ⟨distinct, seen⟩ := settles.run_nil
  refine ⟨distinct, ?_⟩
  show (render (placedIn (act.run []).2)).map _ = _
  rw [seen]
  rfl

/-- **Placeholders stay in range.** `addRef` keeps the paths of a list distinct, only extends
it, by one reference at most, and hands out an index that holds the path asked for; `placedIn`
writes only placeholders of indices that hold the package's path. Every text writer settles:
the texts of a file's types, type parameter lists as the type checker writes them, and the
type parameters and embedded fields of a type's own target; and every fact, of a loaded
function or read from the source, holds what its rendering writes against its own references,
its qualifier included. -/
theorem placeholders_stay_in_range :
    (∀ refs ref, PathsDistinct refs → PathsDistinct (addRef refs ref).1 ∧
      refs <+: (addRef refs ref).1 ∧ (addRef refs ref).1.length ≤ refs.length + 1 ∧
      ((addRef refs ref).1[(addRef refs ref).2]?).map (·.path) = some ref.path) ∧
    (∀ later r s, placedIn later r = some s →
      ∃ i, s = placeholder i ∧ (later[i]?).map (·.path) = some r.path) ∧
    (∀ lines imports e, Settles (Discover.typeText lines imports e)
      (fun later => Discover.exprText (placedIn later) lines imports e)) ∧
    (∀ tps, Settles (typeParamsOf refText tps)
      (fun later => typeParamsOf (placedIn later) tps)) ∧
    (∀ sf typeParams typeExpr, Settles (Discover.ownerTexts refText sf typeParams typeExpr)
      (fun later => Discover.ownerTexts (placedIn later) sf typeParams typeExpr)) ∧
    (∀ l c target, Placed (fun q => factOf q l c target) (renderFact l c target)) ∧
    (∀ sf doc name sig target, Placed (fun q => Discover.selfFactOf q sf doc name sig target)
      (Discover.selfFact sf doc name sig target)) :=
  ⟨fun refs ref distinct => ⟨addRef_distinct ref distinct,
      (addRef_index refs ref (List.prefix_refl _)).1, addRef_length_le refs ref,
      addRef_path refs ref⟩,
    fun _ _ _ placed => placedIn_eq_some placed,
    fun lines imports e => Discover.exprText_settles imports lines e,
    typeParamsOf_settles,
    Discover.ownerTexts_settles,
    fun l c target =>
      @placed_of_settles (factOf refText l c target) _ (factOf_settles l c target),
    fun sf doc name sig target =>
      @placed_of_settles (Discover.selfFactOf refText sf doc name sig target) _
        (Discover.selfFactOf_settles sf doc name sig target)⟩

/-- A second package is added after the first and written as `$1`. -/
theorem second_package_placed :
    PathsDistinct [⟨"io", "io"⟩] ∧
      addRef [⟨"io", "io"⟩] ⟨"fmt", "fmt"⟩ = ([⟨"io", "io"⟩, ⟨"fmt", "fmt"⟩], 1) ∧
      PathsDistinct (addRef [⟨"io", "io"⟩] ⟨"fmt", "fmt"⟩).1 ∧
      placedIn [⟨"io", "io"⟩, ⟨"fmt", "fmt"⟩] ⟨"fmt", "fmt"⟩ = some "$1" ∧
      ∃ i, "$1" = placeholder i ∧
        (([⟨"io", "io"⟩, ⟨"fmt", "fmt"⟩] : List PackageRef)[i]?).map (·.path) = some "fmt" := by
  have distinct : PathsDistinct [⟨"io", "io"⟩] := by decide
  have placed : placedIn [⟨"io", "io"⟩, ⟨"fmt", "fmt"⟩] ⟨"fmt", "fmt"⟩ = some "$1" := by decide
  exact ⟨distinct, by decide, (placeholders_stay_in_range.1 _ _ distinct).1, placed,
    placeholders_stay_in_range.2.1 _ _ _ placed⟩

end StaticWrap.Walk
