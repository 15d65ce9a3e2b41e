import StaticWrap.Run.Pass
import StaticWrap.Proofs.Disk.Within
/-!
**Steps of a pass that change files only at given paths.**

A step of a pass runs in `PassM`: it may fail, and what it did before it failed stays done. So a
statement about the files a step touches has to hold on both ways out.

* `run_bind`: how a sequence runs, one equation for `>>=`; `run_note_bind` and
  `run_get_bind` are its cases for a log line and for reading the state.
* `Confined t A m`: from any state whose tree differs from `t` only at `A`, the step `m` leaves
  such a tree, whether it ends normally or fails. It is an invariant of the run, so it is closed
  under `>>=` (`Confined.bind`), reading the state (`Confined.get_bind`), loops over a list
  (`Confined.forIn`), and it holds of every step that leaves the tree alone (`note_confined`,
  `count_confined`, `reportProblem_confined`, `skipPackage_confined`).
-/

namespace StaticWrap.Run

open StaticWrap.Disk StaticWrap.Disk.Tree

/-! ### Running a sequence -/

theorem run_bind {α β : Type} (m : PassM α) (f : α → PassM β) (s : PassState) :
    (m >>= f).run.run s = match m.run.run s with
      | (.ok a, s') => (f a).run.run s'
      | (.error e, s') => (.error e, s') := by
  simp only [ExceptT.run_bind, StateT.run_bind]
  rcases m.run.run s with ⟨_ | a, s'⟩ <;> rfl

theorem run_note_bind {α : Type} (f : Report.Log → Report.Log) (k : Unit → PassM α)
    (s : PassState) : (note f >>= k).run.run s = (k ()).run.run { s with log := f s.log } := rfl

theorem run_get_bind {α : Type} (k : PassState → PassM α) (s : PassState) :
    (get >>= k).run.run s = (k s).run.run s := rfl

/-! ### Confined steps -/

/-- Run from a state whose tree differs from `t` only at `A`, the step leaves such a tree,
whether it ends normally or fails. -/
def Confined (t : Tree) (A : String → Prop) {α : Type} (m : PassM α) : Prop :=
  ∀ s : PassState, Within A t s.tree → Within A t (m.run.run s).2.tree

section Confined

variable {t : Tree} {A : String → Prop} {α β : Type}

theorem Confined.pure (a : α) : Confined t A (Pure.pure a : PassM α) := fun _ within => within

theorem Confined.throw (e : Failure) : Confined t A (MonadExcept.throw e : PassM α) :=
  fun _ within => within

theorem Confined.bind {m : PassM α} {f : α → PassM β} (first : Confined t A m)
    (rest : ∀ a, Confined t A (f a)) : Confined t A (m >>= f) := by
  intro s within
  rw [run_bind]
  have after := first s within
  rcases result : m.run.run s with ⟨_ | a, s'⟩
  · simpa [result] using after
  · rw [result] at after
    exact rest a s' after

/-- A step that reads the state may rely on the invariant holding of what it read. -/
theorem Confined.get_bind {k : PassState → PassM α}
    (rest : ∀ st, Within A t st.tree → Confined t A (k st)) : Confined t A (get >>= k) := by
  intro s within
  rw [run_bind]
  exact rest s within s within

theorem Confined.modify {f : PassState → PassState}
    (keep : ∀ s, Within A t s.tree → Within A t (f s).tree) : Confined t A (modify f) :=
  fun s within => keep s within

theorem Confined.forIn {γ : Type} {l : List β} {f : β → γ → PassM (ForInStep γ)}
    (each : ∀ x ∈ l, ∀ b, Confined t A (f x b)) (init : γ) : Confined t A (forIn l init f) := by
  induction l generalizing init with
  | nil => exact Confined.pure init
  | cons x xs ih =>
    rw [List.forIn_cons]
    refine Confined.bind (each x List.mem_cons_self init) fun step => ?_
    cases step with
    | done b => exact Confined.pure b
    | yield b => exact ih (fun y mem => each y (List.mem_cons_of_mem _ mem)) b

theorem note_confined (f : Report.Log → Report.Log) : Confined t A (note f) :=
  Confined.modify fun _ within => within

theorem count_confined (f : Report.PassSummary → Report.PassSummary) : Confined t A (count f) :=
  Confined.modify fun _ within => within

theorem reportProblem_confined (verbose : Bool) (e : Failure) :
    Confined t A (reportProblem verbose e) :=
  Confined.modify fun _ within => within

theorem skipPackage_confined (g : Generator) (dir pkgPath : String) (cause : Failure) :
    Confined t A (skipPackage g dir pkgPath cause) :=
  Confined.bind (count_confined _) fun _ =>
    Confined.bind (reportProblem_confined _ _) fun _ => note_confined _

end Confined

end StaticWrap.Run
