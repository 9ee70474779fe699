import KeliAgent.Lib.Interleave

/-!
# Interleaved tasks with a history

To say what a run has done, a system is given more state: a history shared by all tasks, and one
that each task hands on to what becomes of it. The history is written at every turn and never read,
so it changes nothing:

* `System.record`: the system that keeps the history.
* **`run_record`**: without the history, its runs are the runs of the system.
-/

namespace Interleave

/-- How the history is written: what a new task starts with, and the shared history and that of the
task after a turn, which may look at the state before it. -/
structure History (σ τ ε γ δ : Type) where
  fresh : δ
  shared : ε → σ → τ → γ → δ → γ
  task : σ → τ → δ → δ

variable {σ τ ω ε ι γ δ : Type}

/-- The configuration without its history. -/
def Config.erase (c : Config (σ × γ) (τ × δ) ω) : Config σ τ ω :=
  ⟨c.shared.1, c.tasks.map (·.1), c.trace⟩

namespace System

variable (S : System σ τ ω ε ι) (H : History σ τ ε γ δ)

def record : System (σ × γ) (τ × δ) ω ε ι where
  start op := (S.start op, H.fresh)
  step answer s t :=
    (S.step answer s.1 t.1).map fun d =>
      ⟨(d.shared, H.shared answer s.1 t.1 s.2 t.2), d.tasks.map (·, H.task s.1 t.1 t.2), d.trace⟩

theorem next_record (c : Config (σ × γ) (τ × δ) ω) (action : Action ε ι) :
    ((S.record H).next c action).map (·.erase) = S.next c.erase action := by
  cases action with
  | start op => rfl
  | turn position answer =>
    have htask : c.erase.tasks[position]? = c.tasks[position]?.map (·.1) := List.getElem?_map
    rw [next, next, htask]
    cases c.tasks[position]? with
    | none => rfl
    | some t =>
      simp only [Option.map_some, record, Option.map_map]
      have herase : (c.tasks.map (·.1)).eraseIdx position =
          (c.tasks.eraseIdx position).map (·.1) := List.eraseIdx_map _ _ _
      congr 1
      funext d
      simp [Config.erase, herase, Function.comp_def]

/-- **The history changes nothing.** -/
theorem run_record (c : Config (σ × γ) (τ × δ) ω) (actions : List (Action ε ι)) :
    ((S.record H).run c actions).map (·.erase) = S.run c.erase actions := by
  induction actions generalizing c with
  | nil => rfl
  | cons action actions ih =>
    rw [run, run, ← next_record S H, Option.map_bind, Option.bind_map]
    congr 1
    funext c'
    exact ih c'

theorem exists_record {c : Config (σ × γ) (τ × δ) ω} {actions : List (Action ε ι)}
    {c' : Config σ τ ω} (hrun : S.run c.erase actions = some c') :
    ∃ d, (S.record H).run c actions = some d ∧ d.erase = c' := by
  rw [← run_record S H] at hrun
  exact Option.map_eq_some_iff.mp hrun

/-- A condition that does not look at the history. -/
theorem along_record {Meets : σ → τ → List τ → ε → Prop} {c : Config (σ × γ) (τ × δ) ω}
    {actions : List (Action ε ι)} (h : S.Along Meets c.erase actions) :
    (S.record H).Along (fun s t ts answer => Meets s.1 t.1 (ts.map (·.1)) answer) c actions := by
  induction actions generalizing c with
  | nil => trivial
  | cons action actions ih =>
    refine ⟨?_, fun c' hc' => ih (h.2 c'.erase ?_)⟩
    · cases action with
      | start op => trivial
      | turn position answer =>
        intro t ht
        have htask : t.1 ∈ c.erase.tasks[position]? := by
          rw [Config.erase, List.getElem?_map, Option.mem_def.mp ht]
          rfl
        have herase : c.erase.tasks.eraseIdx position = (c.tasks.eraseIdx position).map (·.1) :=
          List.eraseIdx_map _ _ _
        rw [← herase]
        exact h.1 t.1 htask
    · rw [← next_record S H, Option.mem_def.mp hc']
      rfl

end System

end Interleave
