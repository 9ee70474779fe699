import KeliAgent.Lib.Interleave

/-!
# Atomic cells and compare-exchange loops

Operations are sequences of accesses to atomic cells. An access reads and writes at once, or it is a
loop: it loads the cell, decides what to write, and writes if the cell still holds what was loaded.
A weak exchange may also fail for no reason.

* `Access.apply`: the access as one atomic step.
* **`replays_run`**: under every schedule the cells and the results are those of the accesses,
  applied one after the other in the order in which they took effect. `perm_accesses_run`: no access
  is dropped or repeated.
* **`settled`**: when all operations have returned, a cell whose accesses commute holds what it
  would hold if the operations had run one after the other.
-/

namespace CompareExchange

open Interleave

/-- What is done with the value of a cell: nothing, or an attempt to replace it. -/
inductive Attempt (α ρ : Type) where
  | stop (result : ρ)
  | write (next : α) (result : ρ)

def Attempt.result {α ρ : Type} : Attempt α ρ → ρ
  | .stop result | .write _ result => result

/-- The value that the cell has then. -/
def Attempt.value {α ρ : Type} (current : α) : Attempt α ρ → α
  | .stop _ => current
  | .write next _ => next

/-- A single step, a loop that goes on with the value that a failed exchange returns, or a loop that
loads the cell again. -/
inductive Kind where
  | fetch
  | loop
  | reload

structure Access (κ α ρ : Type) where
  cell : κ
  attempt : α → Attempt α ρ
  kind : Kind

/-- An access that took effect, by its name, and its result. -/
structure Effect (ι ρ : Type) where
  name : ι
  result : ρ

/-- The accesses that an operation still has to do, and the value that the first has loaded. -/
structure Task (ι α : Type) where
  todo : List ι
  loaded : Option α

variable {ι κ α ρ ω : Type} [DecidableEq κ]

/-! ## One access after the other -/

/-- The access as one atomic step. -/
def Access.apply (access : Access κ α ρ) (cells : κ → α) : κ → α :=
  Function.update cells access.cell ((access.attempt (cells access.cell)).value (cells access.cell))

/-- The value of one cell under an access. -/
def Access.applyAt (access : Access κ α ρ) (cell : κ) (value : α) : α :=
  if access.cell = cell then (access.attempt value).value value else value

theorem Access.apply_at (access : Access κ α ρ) (cells : κ → α) (cell : κ) :
    access.apply cells cell = access.applyAt cell (cells cell) := by
  unfold Access.apply applyAt
  split_ifs with h
  · subst h
    rw [Function.update_self]
  · rw [Function.update_of_ne (Ne.symm h)]

variable (access : ι → Access κ α ρ)

/-- The accesses, applied one after the other, lead from the first cells to the second and have
these results. -/
def Replays (cells : κ → α) : List (Effect ι ρ) → (κ → α) → Prop
  | [], cells' => cells' = cells
  | effect :: effects, cells' =>
    effect.result = ((access effect.name).attempt (cells (access effect.name).cell)).result ∧
      Replays ((access effect.name).apply cells) effects cells'

variable {access}

theorem Replays.append {cells cells' cells'' : κ → α} {effects effects' : List (Effect ι ρ)}
    (h : Replays access cells effects cells') (h' : Replays access cells' effects' cells'') :
    Replays access cells (effects ++ effects') cells'' := by
  induction effects generalizing cells with
  | nil =>
    cases h
    exact h'
  | cons effect effects ih => exact ⟨h.1, ih h.2⟩

theorem Replays.at_cell {cells cells' : κ → α} {effects : List (Effect ι ρ)}
    (h : Replays access cells effects cells') (cell : κ) :
    cells' cell = (effects.map (·.name)).foldl (fun value name => (access name).applyAt cell value)
      (cells cell) := by
  induction effects generalizing cells with
  | nil =>
    cases h
    rfl
  | cons effect effects ih => rw [List.map_cons, List.foldl_cons, ← Access.apply_at, ih h.2]

/-! ## Accesses in turns -/

variable [DecidableEq α] (access)

/-- The access takes effect. -/
def effect (name : ι) (rest : List ι) (cells : κ → α) : Config (κ → α) (Task ι α) (Effect ι ρ) :=
  ⟨(access name).apply cells, [⟨rest, none⟩],
    [⟨name, ((access name).attempt (cells (access name).cell)).result⟩]⟩

/-- A loop decides what to do with the value of the cell. -/
def decide (name : ι) (rest : List ι) (cells : κ → α) : Config (κ → α) (Task ι α) (Effect ι ρ) :=
  match (access name).attempt (cells (access name).cell) with
  | .stop _ => effect access name rest cells
  | .write _ _ => ⟨cells, [⟨name :: rest, some (cells (access name).cell)⟩], []⟩

/-- A loop tries to exchange the value that it has loaded. -/
def exchange (name : ι) (rest : List ι) (seen : α) (spurious : Bool) (cells : κ → α) :
    Config (κ → α) (Task ι α) (Effect ι ρ) :=
  if cells (access name).cell = seen ∧ spurious = false then effect access name rest cells
  else
    match (access name).kind with
    | .reload => ⟨cells, [⟨name :: rest, none⟩], []⟩
    | _ => decide access name rest cells

/-- One access of a task; the environment says whether a weak exchange fails for no reason. -/
def Task.turn (spurious : Bool) (cells : κ → α) (task : Task ι α) :
    Config (κ → α) (Task ι α) (Effect ι ρ) :=
  match task.todo with
  | [] => ⟨cells, [], []⟩
  | name :: rest =>
    match task.loaded with
    | some seen => exchange access name rest seen spurious cells
    | none =>
      match (access name).kind with
      | .fetch => effect access name rest cells
      | _ => decide access name rest cells

/-- The operations and their accesses. -/
def system (accesses : ω → List ι) : System (κ → α) (Task ι α) (Effect ι ρ) Bool ω where
  start op := ⟨accesses op, none⟩
  step spurious cells task := some (task.turn access spurious cells)

variable {access}

/-- A turn changes nothing but what was loaded, or its first access takes effect. -/
theorem Task.turn_cases (spurious : Bool) (cells : κ → α) (task : Task ι α) :
    (task.todo = [] ∧ task.turn access spurious cells = ⟨cells, [], []⟩) ∨
      ∃ name rest, task.todo = name :: rest ∧
        ((∃ loaded, task.turn access spurious cells = ⟨cells, [⟨name :: rest, loaded⟩], []⟩) ∨
          task.turn access spurious cells = effect access name rest cells) := by
  have decide_cases (name : ι) (rest : List ι) :
      (∃ loaded, decide access name rest cells = ⟨cells, [⟨name :: rest, loaded⟩], []⟩) ∨
        decide access name rest cells = effect access name rest cells := by
    unfold decide
    split
    · exact .inr rfl
    · exact .inl ⟨_, rfl⟩
  obtain ⟨todo, loaded⟩ := task
  cases todo with
  | nil => exact .inl ⟨rfl, rfl⟩
  | cons name rest =>
    refine .inr ⟨name, rest, rfl, ?_⟩
    cases loaded with
    | none =>
      simp only [turn]
      split
      · exact .inr rfl
      · exact decide_cases name rest
    | some seen =>
      simp only [turn, exchange]
      split_ifs
      · exact .inr rfl
      · split
        · exact .inl ⟨none, rfl⟩
        · exact decide_cases name rest

theorem Replays.turn {start cells : κ → α} {effects : List (Effect ι ρ)} (task : Task ι α)
    (spurious : Bool) (h : Replays access start effects cells) :
    Replays access start (effects ++ (task.turn access spurious cells).trace)
      (task.turn access spurious cells).shared := by
  refine h.append ?_
  obtain ⟨-, hturn⟩ | ⟨name, rest, -, ⟨loaded, hturn⟩ | hturn⟩ :=
    Task.turn_cases spurious cells task
  · rw [hturn]
    exact rfl
  · rw [hturn]
    exact rfl
  · rw [hturn]
    exact ⟨rfl, rfl⟩

/-- **Every schedule runs like its effects.** -/
theorem replays_run {accesses : ω → List ι} {start : κ → α} {actions : List (Action Bool ω)}
    {c : Config (κ → α) (Task ι α) (Effect ι ρ)}
    (hrun : (system access accesses).run ⟨start, [], []⟩ actions = some c) :
    Replays access start c.trace c.shared := by
  refine @System.inv_run _ _ _ _ _ (system access accesses) (fun _ _ _ _ => True)
    (fun cells _ effects => Replays access start effects cells) (fun _ h => h) (fun _ h => h) ?_
    ⟨start, [], []⟩ c actions rfl (System.along_of_forall (fun _ _ _ _ => trivial) _ _) hrun
  intro cells task tasks effects spurious d h _ hstep
  cases hstep
  exact h.turn task spurious

/-! ## Once all operations have returned -/

/-- The accesses that took effect and those that are still to do. -/
def Config.accesses (c : Config (κ → α) (Task ι α) (Effect ι ρ)) : List ι :=
  c.trace.map (·.name) ++ c.tasks.flatMap (·.todo)

/-- A turn neither drops an access nor repeats one. -/
theorem perm_accesses_turn (cells : κ → α) (task : Task ι α) (tasks : List (Task ι α))
    (effects : List (Effect ι ρ)) (spurious : Bool) :
    (Config.accesses ⟨(task.turn access spurious cells).shared,
      (task.turn access spurious cells).tasks ++ tasks,
      effects ++ (task.turn access spurious cells).trace⟩).Perm
        (Config.accesses ⟨cells, task :: tasks, effects⟩) := by
  obtain ⟨htodo, hturn⟩ | ⟨name, rest, htodo, ⟨loaded, hturn⟩ | hturn⟩ :=
    @Task.turn_cases _ _ _ _ _ access _ spurious cells task
  · simp [hturn, htodo, Config.accesses]
  · simp [hturn, htodo, Config.accesses]
  · simp [hturn, htodo, Config.accesses, effect]

/-- **No access is dropped or repeated.** -/
theorem perm_accesses_run {accesses : ω → List ι}
    {c c' : Config (κ → α) (Task ι α) (Effect ι ρ)} {actions : List (Action Bool ω)}
    (hrun : (system access accesses).run c actions = some c') :
    (Config.accesses c').Perm
      (Config.accesses c ++ (System.started actions).flatMap accesses) := by
  refine @System.inv_run_started _ _ _ _ _ (system access accesses) (fun _ _ _ _ => True)
    (fun ops cells tasks effects => (Config.accesses ⟨cells, tasks, effects⟩).Perm
      (Config.accesses c ++ ops.flatMap accesses)) ?_ ?_ ?_ [] c c' actions (by simp)
    (System.along_of_forall (fun _ _ _ _ => trivial) _ _) hrun
  · intro ops cells tasks tasks' effects hperm h
    exact ((hperm.symm.flatMap_right _).append_left _).trans h
  · intro ops cells tasks effects op h
    rw [List.flatMap_append, List.flatMap_singleton, ← List.append_assoc]
    refine List.Perm.trans ?_ (h.append_right _)
    simp only [Config.accesses, system, List.flatMap_cons, List.append_assoc]
    exact List.perm_append_comm.append_left _
  · intro ops cells task tasks effects spurious d h _ hstep
    cases hstep
    exact (perm_accesses_turn cells task tasks effects spurious).trans h

/-- **Once all operations have returned**, a cell whose accesses commute does not show in which
order they took effect. -/
theorem settled {accesses : ω → List ι} {start : κ → α} {actions : List (Action Bool ω)}
    {c : Config (κ → α) (Task ι α) (Effect ι ρ)}
    (hrun : (system access accesses).run ⟨start, [], []⟩ actions = some c) (hdone : c.tasks = [])
    {cell : κ}
    (hcomm : ∀ x y value, (access y).applyAt cell ((access x).applyAt cell value) =
      (access x).applyAt cell ((access y).applyAt cell value)) :
    c.shared cell = ((System.started actions).flatMap accesses).foldl
      (fun value name => (access name).applyAt cell value) (start cell) := by
  have hperm := perm_accesses_run hrun
  simp only [Config.accesses, hdone, List.flatMap_nil, List.map_nil, List.append_nil,
    List.nil_append] at hperm
  rw [(replays_run hrun).at_cell]
  exact hperm.foldl_eq' (fun x _ y _ value => hcomm x y value) _

end CompareExchange
