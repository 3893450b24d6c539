/-
**What the tasks have done, however they run.**

* `FetchStage.Accounts` — in every stage of a run each type is waited for or joined, a query was
  sent for each task that has come so far, what is fetched is what the joined types brought, and no
  more permits are held than there are. A step keeps it (`Step.accounts`), and so does a run
  (`accounts_of_reaches`).
-/

import Mathlib.Logic.Relation
import RecordSchema.Extraction.FetchStage
import RecordSchema.Proofs.Extraction.Retrieval

namespace RecordSchema

/-- One more answer is kept among the gathered ones. -/
theorem gather_concat (answers : List (Option RecordSet)) (answer : Option RecordSet) :
    gather (answers ++ [answer]) = FetchStage.keep (gather answers) answer := by
  rw [gather, List.filterMap_append, List.map_append, SortedMap.ofList, List.foldl_append]
  cases answer <;> rfl

/-- Whether a task in a phase has sent its query. -/
def FetchPhase.hasAsked : FetchPhase → Bool
  | waiting => false
  | pausing => false
  | asking => true
  | ended _ => true

/-- Whether a task that is over has what its type brings. -/
def FetchTask.Brings (answers : TypeAnswers) (task : FetchTask) : Prop :=
  ∀ answer, task.phase = .ended answer → answer = answers.brought task.typeName

namespace FetchStage

variable {limits : FetchLimits} {answers : TypeAnswers} {typeNames : List String}
  {stage next : FetchStage}

/-- A run of the tasks from one stage to another. -/
def Reaches (limits : FetchLimits) (answers : TypeAnswers) : FetchStage → FetchStage → Prop :=
  Relation.ReflTransGen (Step limits answers)

/-- The types whose tasks have sent their query. -/
def askedNames (tasks : List FetchTask) : List String :=
  (tasks.filter fun task => task.phase.hasAsked).map FetchTask.typeName

theorem askedNames_append (first second : List FetchTask) :
    askedNames (first ++ second) = askedNames first ++ askedNames second := by
  rw [askedNames, List.filter_append, List.map_append]
  rfl

theorem askedNames_cons (name : String) (phase : FetchPhase) (rest : List FetchTask) :
    askedNames (⟨name, phase⟩ :: rest) =
      if phase.hasAsked then name :: askedNames rest else askedNames rest := by
  cases phase <;> rfl

/-- What a stage has to show for the steps that led to it. -/
structure Accounts (limits : FetchLimits) (answers : TypeAnswers) (typeNames : List String)
    (stage : FetchStage) : Prop where
  names_perm : (stage.joined ++ stage.tasks.map FetchTask.typeName).Perm typeNames
  queries_perm :
    stage.queries.Perm ((stage.joined ++ askedNames stage.tasks).map (typeQuery limits))
  brings : ∀ task ∈ stage.tasks, task.Brings answers
  fetched_eq : stage.fetched = gather (stage.joined.map answers.brought)
  permitsHeld_le : stage.permitsHeld ≤ limits.maxConcurrent

/-! ### The start -/

/-- Tasks that wait hold no permit. -/
theorem permitsHeld_of_waiting (waiting : ∀ task ∈ stage.tasks, task.phase = .waiting) :
    stage.permitsHeld = 0 := by
  refine List.countP_eq_zero.mpr fun task member => ?_
  rw [waiting task member]
  exact Bool.false_ne_true

theorem waiting_start (typeNames : List String) :
    ∀ task ∈ (start typeNames).tasks, task.phase = .waiting := by
  intro task member
  obtain ⟨name, -, rfl⟩ := List.mem_map.mp member
  rfl

theorem names_start (typeNames : List String) :
    (start typeNames).tasks.map FetchTask.typeName = typeNames := by
  rw [start, List.map_map]
  exact List.map_id _

theorem accounts_start (limits : FetchLimits) (answers : TypeAnswers) (typeNames : List String) :
    Accounts limits answers typeNames (start typeNames) := by
  have waiting := waiting_start typeNames
  refine ⟨List.Perm.of_eq (names_start typeNames), ?queries, ?brings, rfl, ?permits⟩
  case queries =>
    have unasked : (start typeNames).tasks.filter (fun task => task.phase.hasAsked) = [] := by
      refine List.filter_eq_nil_iff.mpr fun task member => ?_
      rw [waiting task member]
      exact Bool.false_ne_true
    rw [askedNames, unasked]
    exact List.Perm.refl _
  case brings =>
    intro task member answer ended
    rw [waiting task member] at ended
    cases ended
  case permits =>
    rw [permitsHeld_of_waiting waiting]
    exact Nat.zero_le _

/-! ### Steps -/

namespace Step

/-- No step loses a type or adds one. -/
theorem names_perm (step : Step limits answers stage next) :
    (next.joined ++ next.tasks.map FetchTask.typeName).Perm
      (stage.joined ++ stage.tasks.map FetchTask.typeName) := by
  cases step with
  | grant tasks free => simp [tasks]
  | ask tasks => simp [tasks]
  | finish tasks => simp [tasks]
  | join tasks =>
    rw [tasks, List.map_append, List.map_append, List.append_assoc, List.singleton_append]
    exact (List.perm_middle.append_left _).symm

/-- A step that sends a query adds its type to those that have asked. -/
theorem queries_perm (step : Step limits answers stage next)
    (balanced : stage.queries.Perm
      ((stage.joined ++ askedNames stage.tasks).map (typeQuery limits))) :
    next.queries.Perm ((next.joined ++ askedNames next.tasks).map (typeQuery limits)) := by
  cases step with
  | grant tasks free =>
    rw [tasks, askedNames_append, askedNames_cons] at balanced
    rw [askedNames_append, askedNames_cons]
    exact balanced
  | @ask before after name tasks =>
    rw [tasks, askedNames_append, askedNames_cons] at balanced
    rw [askedNames_append, askedNames_cons]
    have sent : (stage.joined ++ (askedNames before ++ askedNames after) ++ [name]).Perm
        (stage.joined ++ (askedNames before ++ name :: askedNames after)) := by
      rw [List.append_assoc]
      refine List.Perm.append_left _ ((List.perm_append_singleton name _).trans ?_)
      exact List.perm_middle.symm
    refine List.Perm.trans ?_ (sent.map (typeQuery limits))
    rw [List.map_append]
    exact balanced.append_right _
  | finish tasks =>
    rw [tasks, askedNames_append, askedNames_cons] at balanced
    rw [askedNames_append, askedNames_cons]
    exact balanced
  | join tasks =>
    rw [tasks, askedNames_append, askedNames_cons] at balanced
    rw [askedNames_append, List.append_assoc]
    exact balanced.trans ((List.perm_middle.append_left _).map _)

/-- What holds of all tasks still does where it holds of the one that took a step. -/
theorem forall_changed {P : FetchTask → Prop} {before after : List FetchTask}
    {task changed : FetchTask} (tasks : stage.tasks = before ++ task :: after)
    (all : ∀ task ∈ stage.tasks, P task) (new : P changed) :
    ∀ task ∈ before ++ changed :: after, P task := by
  rw [tasks, List.forall_mem_append, List.forall_mem_cons] at all
  exact List.forall_mem_append.mpr ⟨all.1, List.forall_mem_cons.mpr ⟨new, all.2.2⟩⟩

/-- A task ends with what its type brings. -/
theorem brings (step : Step limits answers stage next)
    (brings : ∀ task ∈ stage.tasks, task.Brings answers) :
    ∀ task ∈ next.tasks, task.Brings answers := by
  cases step with
  | grant tasks free => exact forall_changed tasks brings nofun
  | ask tasks => exact forall_changed tasks brings nofun
  | finish tasks =>
    refine forall_changed tasks brings fun answer ended => ?_
    cases ended
    rfl
  | join tasks =>
    rw [tasks, List.forall_mem_append, List.forall_mem_cons] at brings
    exact List.forall_mem_append.mpr ⟨brings.1, brings.2.2⟩

/-- What is fetched is what the joined types brought. -/
theorem fetched_eq (step : Step limits answers stage next)
    (brings : ∀ task ∈ stage.tasks, task.Brings answers)
    (fetched : stage.fetched = gather (stage.joined.map answers.brought)) :
    next.fetched = gather (next.joined.map answers.brought) := by
  cases step with
  | grant tasks free => exact fetched
  | ask tasks => exact fetched
  | finish tasks => exact fetched
  | @join before after name answer tasks =>
    rw [tasks, List.forall_mem_append, List.forall_mem_cons] at brings
    have brought : answer = answers.brought name := brings.2.1 answer rfl
    rw [List.map_append, List.map_singleton, gather_concat, ← fetched, brought]

/-- Only a free permit is given away. -/
theorem permitsHeld_le (step : Step limits answers stage next)
    (bounded : stage.permitsHeld ≤ limits.maxConcurrent) :
    next.permitsHeld ≤ limits.maxConcurrent := by
  unfold permitsHeld at bounded ⊢
  cases step with
  | grant tasks free =>
    rw [permitsHeld, tasks, List.countP_append, List.countP_cons] at free
    rw [List.countP_append, List.countP_cons]
    exact free
  | ask tasks =>
    rw [tasks, List.countP_append, List.countP_cons] at bounded
    rw [List.countP_append, List.countP_cons]
    exact bounded
  | finish tasks =>
    rw [tasks, List.countP_append, List.countP_cons] at bounded
    rw [List.countP_append, List.countP_cons]
    exact Nat.le_of_succ_le bounded
  | join tasks =>
    rw [tasks, List.countP_append, List.countP_cons] at bounded
    rw [List.countP_append]
    exact bounded

/-- **A step** keeps account. -/
theorem accounts (step : Step limits answers stage next)
    (accounts : Accounts limits answers typeNames stage) :
    Accounts limits answers typeNames next where
  names_perm := step.names_perm.trans accounts.names_perm
  queries_perm := step.queries_perm accounts.queries_perm
  brings := step.brings accounts.brings
  fetched_eq := step.fetched_eq accounts.brings accounts.fetched_eq
  permitsHeld_le := step.permitsHeld_le accounts.permitsHeld_le

end Step

/-- **A run** keeps account. -/
theorem accounts_of_reaches (reached : Reaches limits answers (start typeNames) stage) :
    Accounts limits answers typeNames stage := by
  induction reached with
  | refl => exact accounts_start limits answers typeNames
  | tail _ step hypothesis => exact step.accounts hypothesis

end FetchStage

end RecordSchema
