import Mathlib

/-!
# Interleaved tasks over a shared state

Tasks take turns; a turn is one atomic access to the shared state. It may wait, spawn tasks and
leave observations in the trace. Operations may start at any time.

* `System.run`: the configuration after a schedule, if no turn of it has to wait.
* `System.Along`: every turn of a schedule meets a condition on the state, the task, the other tasks
  and the answer of the environment.
* **`System.inv_run`**: what turns that meet the condition preserve, whatever the order of
  the tasks, holds after every such schedule.
* `System.Stuck`: no task can take a turn.
-/

namespace Interleave

/-- The shared state, the unfinished tasks and what was observed. A turn leaves the same things
behind: the new state, what becomes of the task, and what it added to the trace. -/
structure Config (σ τ ω : Type) where
  shared : σ
  tasks : List τ
  trace : List ω

/-- `start` is the first task of an operation; `step e s t` is a turn of the task `t` in the state
`s`, answered by `e`, or `none` if the task has to wait. -/
structure System (σ τ ω ε ι : Type) where
  start : ι → τ
  step : ε → σ → τ → Option (Config σ τ ω)

/-- An operation starts, or the task at a position takes a turn. -/
inductive Action (ε ι : Type) where
  | start (op : ι)
  | turn (position : ℕ) (answer : ε)

namespace System

variable {σ τ ω ε ι : Type} (S : System σ τ ω ε ι)

def next (c : Config σ τ ω) : Action ε ι → Option (Config σ τ ω)
  | .start op => some { c with tasks := S.start op :: c.tasks }
  | .turn position answer =>
    match c.tasks[position]? with
    | none => none
    | some task =>
      (S.step answer c.shared task).map fun d =>
        ⟨d.shared, d.tasks ++ c.tasks.eraseIdx position, c.trace ++ d.trace⟩

def run : Config σ τ ω → List (Action ε ι) → Option (Config σ τ ω)
  | c, [] => some c
  | c, action :: actions => (S.next c action).bind fun c' => run c' actions

/-- The operations that a schedule starts, in order. -/
def started (actions : List (Action ε ι)) : List ι :=
  actions.filterMap fun
    | .start op => some op
    | .turn _ _ => none

section Along

variable (Meets : σ → τ → List τ → ε → Prop)

/-- The turn meets the condition. -/
def ActionMeets (c : Config σ τ ω) : Action ε ι → Prop
  | .start _ => True
  | .turn position answer =>
    ∀ task ∈ c.tasks[position]?, Meets c.shared task (c.tasks.eraseIdx position) answer

/-- All turns of the schedule meet the condition. -/
def Along : Config σ τ ω → List (Action ε ι) → Prop
  | _, [] => True
  | c, action :: actions =>
    ActionMeets Meets c action ∧ ∀ c' ∈ S.next c action, Along c' actions

instance [∀ s t ts e, Decidable (Meets s t ts e)] (c : Config σ τ ω) (action : Action ε ι) :
    Decidable (ActionMeets Meets c action) :=
  match action with
  | .start _ => inferInstanceAs (Decidable True)
  | .turn position answer =>
    inferInstanceAs (Decidable (∀ task ∈ c.tasks[position]?,
      Meets c.shared task (c.tasks.eraseIdx position) answer))

instance decidableAlong [∀ s t ts e, Decidable (Meets s t ts e)] :
    (c : Config σ τ ω) → (actions : List (Action ε ι)) → Decidable (S.Along Meets c actions)
  | _, [] => inferInstanceAs (Decidable True)
  | c, action :: actions =>
    have : ∀ c', Decidable (S.Along Meets c' actions) := fun c' => decidableAlong c' actions
    inferInstanceAs (Decidable (ActionMeets Meets c action ∧
      ∀ c' ∈ S.next c action, S.Along Meets c' actions))

variable {S Meets}

theorem along_of_forall (h : ∀ s t ts e, Meets s t ts e) (c : Config σ τ ω)
    (actions : List (Action ε ι)) : S.Along Meets c actions := by
  induction actions generalizing c with
  | nil => trivial
  | cons action actions ih =>
    refine ⟨?_, fun c' _ => ih c'⟩
    cases action with
    | start op => trivial
    | turn position answer => exact fun task _ => h _ task _ answer

/-- The invariant rule for what also depends on the operations that were started. The task that
takes a turn may be put first, since the order of the tasks does not matter to the invariant. -/
theorem inv_run_started {Inv : List ι → σ → List τ → List ω → Prop}
    (hperm : ∀ {ops s ts ts' tr}, ts.Perm ts' → Inv ops s ts tr → Inv ops s ts' tr)
    (hstart : ∀ {ops s ts tr} (op), Inv ops s ts tr → Inv (ops ++ [op]) s (S.start op :: ts) tr)
    (hstep : ∀ {ops s t ts tr e d}, Inv ops s (t :: ts) tr → Meets s t ts e →
      S.step e s t = some d → Inv ops d.shared (d.tasks ++ ts) (tr ++ d.trace))
    {ops : List ι} {c c' : Config σ τ ω} {actions : List (Action ε ι)}
    (h : Inv ops c.shared c.tasks c.trace)
    (halong : S.Along Meets c actions) (hrun : S.run c actions = some c') :
    Inv (ops ++ started actions) c'.shared c'.tasks c'.trace := by
  induction actions generalizing ops c with
  | nil =>
    cases hrun
    rw [started, List.filterMap_nil, List.append_nil]
    exact h
  | cons action actions ih =>
    obtain ⟨d, hnext, hrun'⟩ := Option.bind_eq_some_iff.mp hrun
    have halong' := halong.2 d hnext
    cases action with
    | start op =>
      cases hnext
      have hinv := ih (hstart op h) halong' hrun'
      rw [List.append_assoc] at hinv
      exact hinv
    | turn position answer =>
      refine ih ?_ halong' hrun'
      rw [next] at hnext
      cases htask : c.tasks[position]? with
      | none =>
        rw [htask] at hnext
        cases hnext
      | some task =>
        simp only [htask] at hnext
        obtain ⟨d', hstep', rfl⟩ := Option.map_eq_some_iff.mp hnext
        obtain ⟨hlt, rfl⟩ := List.getElem?_eq_some_iff.mp htask
        exact hstep (hperm (List.getElem_cons_eraseIdx_perm hlt).symm h)
          (halong.1 _ htask) hstep'

/-- **The invariant rule.** -/
theorem inv_run {Inv : σ → List τ → List ω → Prop}
    (hperm : ∀ {s ts ts' tr}, ts.Perm ts' → Inv s ts tr → Inv s ts' tr)
    (hstart : ∀ {s ts tr} (op), Inv s ts tr → Inv s (S.start op :: ts) tr)
    (hstep : ∀ {s t ts tr e d}, Inv s (t :: ts) tr → Meets s t ts e → S.step e s t = some d →
      Inv d.shared (d.tasks ++ ts) (tr ++ d.trace))
    {c c' : Config σ τ ω} {actions : List (Action ε ι)} (h : Inv c.shared c.tasks c.trace)
    (halong : S.Along Meets c actions) (hrun : S.run c actions = some c') :
    Inv c'.shared c'.tasks c'.trace :=
  @inv_run_started σ τ ω ε ι S Meets (fun _ => Inv) hperm hstart hstep [] c c' actions h halong hrun

end Along

/-- No task can take a turn, whatever the environment answers. -/
def Stuck (c : Config σ τ ω) : Prop :=
  ∀ position answer, S.next c (.turn position answer) = none

theorem stuck_iff {c : Config σ τ ω} :
    S.Stuck c ↔ ∀ task ∈ c.tasks, ∀ answer, S.step answer c.shared task = none := by
  constructor
  · intro h task hmem answer
    obtain ⟨position, hlt, rfl⟩ := List.mem_iff_getElem.mp hmem
    have hnext := h position answer
    simp only [next, List.getElem?_eq_getElem hlt] at hnext
    exact Option.map_eq_none_iff.mp hnext
  · intro h position answer
    cases htask : c.tasks[position]? with
    | none => simp only [next, htask]
    | some task =>
      simp only [next, htask]
      exact Option.map_eq_none_iff.mpr (h task (List.mem_of_getElem? htask) answer)

/-- A turn at the head of a schedule. -/
theorem run_turn {c : Config σ τ ω} {position : ℕ} {answer : ε} {task : τ} {d : Config σ τ ω}
    (htask : c.tasks[position]? = some task) (hstep : S.step answer c.shared task = some d)
    (actions : List (Action ε ι)) :
    S.run c (.turn position answer :: actions) =
      S.run ⟨d.shared, d.tasks ++ c.tasks.eraseIdx position, c.trace ++ d.trace⟩ actions := by
  rw [run, next, htask]
  simp only [hstep, Option.map_some, Option.bind_some]

end System

end Interleave
