/-
**The tasks that fetch the records of the types.**

Each type has a task of its own, and the tasks run side by side. A task waits for one of a bounded
number of permits, pauses, sends the query of its type, and ends with the records that it was
answered or with none. Ended tasks are joined, and what they brought is kept under its name. An
extraction whose permits no pool can hold is aborted before it has tasks.

* `FetchStage.Step` — one task takes its next step, or is joined. Which one does so is left open, so
  that a run may interleave the tasks in any way.
* `TypeAnswers` — what the tasks bring, each independently of the others.
-/

import RecordSchema.Extraction

namespace RecordSchema

/-! ### Tasks -/

/-- How far a task has come. -/
inductive FetchPhase where
  /-- Waits for a permit. -/
  | waiting
  /-- Pauses before its query. -/
  | pausing
  /-- Has sent its query. -/
  | asking
  /-- Is over, with what it brought. -/
  | ended (answer : Option RecordSet)

namespace FetchPhase

/-- Permits are held from the end of the wait to the end of the task. -/
def holdsPermit : FetchPhase → Bool
  | waiting => false
  | pausing => true
  | asking => true
  | ended _ => false

end FetchPhase

structure FetchTask where
  typeName : String
  phase : FetchPhase

/-- What the tasks of the types bring: the records of their own type, or nothing, where the query
failed, its page was empty, or the task itself failed. -/
structure TypeAnswers where
  brought : String → Option RecordSet
  own : ∀ typeName set, brought typeName = some set → set.typeName = typeName

/-! ### The stage -/

structure FetchStage where
  /-- The tasks that are not joined yet. -/
  tasks : List FetchTask
  /-- The types whose tasks are joined, in the order of joining. -/
  joined : List String
  /-- The queries that the source received, in their order. -/
  queries : List Query
  fetched : SortedMap RecordSet

namespace FetchStage

/-- The stage in which the task of every type waits. -/
def start (typeNames : List String) : FetchStage where
  tasks := typeNames.map fun name => ⟨name, .waiting⟩
  joined := []
  queries := []
  fetched := SortedMap.empty

/-- The number of tasks that hold a permit. -/
def permitsHeld (stage : FetchStage) : Nat :=
  stage.tasks.countP fun task => task.phase.holdsPermit

/-- Keeps what a task brought under the name of its type. -/
def keep (fetched : SortedMap RecordSet) : Option RecordSet → SortedMap RecordSet
  | none => fetched
  | some set => fetched.insert set.typeName set

/-- One task takes its next step, wherever it stands among the tasks. -/
inductive Step (limits : FetchLimits) (answers : TypeAnswers) : FetchStage → FetchStage → Prop
  /-- A waiting task gets a permit that is free. -/
  | grant {stage : FetchStage} {before after : List FetchTask} {name : String}
      (tasks : stage.tasks = before ++ ⟨name, .waiting⟩ :: after)
      (free : stage.permitsHeld < limits.maxConcurrent) :
      Step limits answers stage { stage with tasks := before ++ ⟨name, .pausing⟩ :: after }
  /-- The pause is over, and the source receives the query. -/
  | ask {stage : FetchStage} {before after : List FetchTask} {name : String}
      (tasks : stage.tasks = before ++ ⟨name, .pausing⟩ :: after) :
      Step limits answers stage { stage with
        tasks := before ++ ⟨name, .asking⟩ :: after
        queries := stage.queries ++ [typeQuery limits name] }
  /-- The query is answered, or the task fails. -/
  | finish {stage : FetchStage} {before after : List FetchTask} {name : String}
      (tasks : stage.tasks = before ++ ⟨name, .asking⟩ :: after) :
      Step limits answers stage { stage with
        tasks := before ++ ⟨name, .ended (answers.brought name)⟩ :: after }
  /-- A task that is over is joined. -/
  | join {stage : FetchStage} {before after : List FetchTask} {name : String}
      {answer : Option RecordSet}
      (tasks : stage.tasks = before ++ ⟨name, .ended answer⟩ :: after) :
      Step limits answers stage { stage with
        tasks := before ++ after
        joined := stage.joined ++ [name]
        fetched := keep stage.fetched answer }

end FetchStage

end RecordSchema
