/-
**In whatever order the tasks run.**

* `FetchStage.exists_completion` — no run gets stuck: a permit is free unless some task can go on,
  and only finitely many steps are left.
* `FetchStage.exists_completes` — the tasks can be joined in every order of their types.
* `FetchStage.Delivers` — what is there once all tasks are joined: the records that each type
  brought, and one query for each type.
* `FetchStage.completes_agree` — so that every run leads to one document, which is the extracted
  one.
-/

import RecordSchema.Proofs.Extraction.FetchStage
import RecordSchema.Proofs.Extraction.Relations

namespace RecordSchema

/-- The number of steps until a task in a phase is joined. -/
def FetchPhase.remaining : FetchPhase → Nat
  | waiting => 4
  | pausing => 3
  | asking => 2
  | ended _ => 1

theorem ExtractionConfig.maxConcurrent_pos {config : ExtractionConfig}
    (faultless : config.fault? = none) : 0 < config.fetch.maxConcurrent := by
  refine Nat.pos_of_ne_zero fun zero => ?_
  unfold fault? at faultless
  rw [if_pos zero] at faultless
  split at faultless <;> cases faultless

/-- What the tasks bring that query a source, where none of them fails. -/
def TypeAnswers.ofSource (source : Source) (config : ExtractionConfig) (projectId : String) :
    TypeAnswers where
  brought := retrieve source config projectId
  own := fun _ _ found => (retrieve_kept found).1

namespace FetchStage

variable {limits : FetchLimits} {answers : TypeAnswers} {typeNames : List String}
  {stage next last : FetchStage}

/-- A run of the tasks of some types that has joined them all. -/
def Completes (limits : FetchLimits) (answers : TypeAnswers) (typeNames : List String)
    (last : FetchStage) : Prop :=
  Reaches limits answers (start typeNames) last ∧ last.tasks = []

/-! ### Every run can be completed -/

/-- The number of steps until all of several tasks are joined. -/
def remainingSteps (tasks : List FetchTask) : Nat :=
  tasks.foldr (fun task count => task.phase.remaining + count) 0

theorem remainingSteps_middle (before after : List FetchTask) (task : FetchTask) :
    remainingSteps (before ++ task :: after) =
      remainingSteps (before ++ after) + task.phase.remaining := by
  induction before with
  | nil => exact Nat.add_comm _ _
  | cons first rest hypothesis =>
    show first.phase.remaining + remainingSteps (rest ++ task :: after) =
      first.phase.remaining + remainingSteps (rest ++ after) + task.phase.remaining
    rw [hypothesis, Nat.add_assoc]

/-- Every step is one of those that are left. -/
theorem Step.remainingSteps_succ (step : Step limits answers stage next) :
    remainingSteps next.tasks + 1 = remainingSteps stage.tasks := by
  cases step with
  | grant tasks free =>
    rw [tasks, remainingSteps_middle, remainingSteps_middle]
    rfl
  | ask tasks =>
    rw [tasks, remainingSteps_middle, remainingSteps_middle]
    rfl
  | finish tasks =>
    rw [tasks, remainingSteps_middle, remainingSteps_middle]
    rfl
  | join tasks =>
    rw [tasks, remainingSteps_middle]
    rfl

/-- Some task can take a step, as long as one is not joined. -/
theorem exists_step (permits : 0 < limits.maxConcurrent) (answers : TypeAnswers)
    (left : stage.tasks ≠ []) :
    ∃ next, Step limits answers stage next := by
  by_cases idle : ∀ task ∈ stage.tasks, task.phase = .waiting
  · -- Nobody holds a permit, so any task can have one.
    have free : stage.permitsHeld < limits.maxConcurrent := by
      rwa [permitsHeld_of_waiting idle]
    obtain ⟨⟨name, phase⟩, member⟩ := List.exists_mem_of_ne_nil _ left
    obtain ⟨before, after, tasks⟩ := List.append_of_mem member
    cases idle _ member
    exact ⟨_, .grant tasks free⟩
  · obtain ⟨task, notIdle⟩ := Classical.not_forall.mp idle
    obtain ⟨member, busy⟩ := Classical.not_imp.mp notIdle
    obtain ⟨before, after, tasks⟩ := List.append_of_mem member
    obtain ⟨name, phase⟩ := task
    cases phase with
    | waiting => exact absurd rfl busy
    | pausing => exact ⟨_, .ask tasks⟩
    | asking => exact ⟨_, .finish tasks⟩
    | ended answer => exact ⟨_, .join tasks⟩

/-- **Every run can be completed.** -/
theorem exists_completion (permits : 0 < limits.maxConcurrent) (answers : TypeAnswers)
    (stage : FetchStage) : ∃ last, Reaches limits answers stage last ∧ last.tasks = [] := by
  induction left : remainingSteps stage.tasks using Nat.strongRecOn generalizing stage with
  | ind count hypothesis =>
    by_cases settled : stage.tasks = []
    · exact ⟨stage, .refl, settled⟩
    · obtain ⟨next, step⟩ := exists_step permits answers settled
      have fewer : remainingSteps next.tasks < count := by
        rw [← left, ← step.remainingSteps_succ]
        exact Nat.lt_succ_self _
      obtain ⟨last, reached, joined⟩ := hypothesis _ fewer next rfl
      exact ⟨last, .head step reached, joined⟩

/-! ### Every order is possible -/

/-- A stage in which a task between others has run from its start to its end. -/
def ran (limits : FetchLimits) (answers : TypeAnswers) (before after : List FetchTask)
    (name : String) (stage : FetchStage) : FetchStage where
  tasks := before ++ after
  joined := stage.joined ++ [name]
  queries := stage.queries ++ [typeQuery limits name]
  fetched := keep stage.fetched (answers.brought name)

/-- A task that waits while a permit is free can run from its start to its end. -/
theorem reaches_joined {before after : List FetchTask} {name : String} (answers : TypeAnswers)
    (tasks : stage.tasks = before ++ ⟨name, .waiting⟩ :: after)
    (free : stage.permitsHeld < limits.maxConcurrent) :
    Reaches limits answers stage (stage.ran limits answers before after name) :=
  .head (.grant tasks free) (.head (.ask rfl) (.head (.finish rfl) (.single (.join rfl))))

/-- Tasks that wait can run one after the other, in every order. -/
theorem exists_run_in_order (permits : 0 < limits.maxConcurrent) (answers : TypeAnswers)
    {order : List String} (waiting : ∀ task ∈ stage.tasks, task.phase = .waiting)
    (reordered : (stage.tasks.map FetchTask.typeName).Perm order) :
    ∃ last, Reaches limits answers stage last ∧ last.tasks = [] ∧
      last.joined = stage.joined ++ order ∧
        last.queries = stage.queries ++ order.map (typeQuery limits) := by
  -- The first task of the order runs to its end, and the others run from the stage it leaves.
  induction order generalizing stage with
  | nil =>
    have settled : stage.tasks = [] := List.map_eq_nil_iff.mp (List.perm_nil.mp reordered)
    exact ⟨stage, .refl, settled, (List.append_nil _).symm, (List.append_nil _).symm⟩
  | cons name rest hypothesis =>
    obtain ⟨task, member, rfl⟩ := List.mem_map.mp (reordered.mem_iff.mpr List.mem_cons_self)
    obtain ⟨before, after, tasks⟩ := List.append_of_mem member
    obtain ⟨name, phase⟩ := task
    cases waiting _ member
    have free : stage.permitsHeld < limits.maxConcurrent := by
      rwa [permitsHeld_of_waiting waiting]
    rw [tasks, List.map_append, List.map_cons] at reordered
    rw [tasks, List.forall_mem_append, List.forall_mem_cons] at waiting
    let ran := stage.ran limits answers before after name
    have idle : ∀ task ∈ ran.tasks, task.phase = .waiting :=
      List.forall_mem_append.mpr ⟨waiting.1, waiting.2.2⟩
    have others : (ran.tasks.map FetchTask.typeName).Perm rest := by
      show ((before ++ after).map FetchTask.typeName).Perm rest
      rw [List.map_append]
      exact (List.perm_middle.symm.trans reordered).cons_inv
    obtain ⟨last, reached, settled, joined, queries⟩ := hypothesis idle others
    refine ⟨last, (reaches_joined answers tasks free).trans reached, settled, ?_, ?_⟩
    · show last.joined = stage.joined ++ ([name] ++ rest)
      rw [joined, ← List.append_assoc]
      rfl
    · show last.queries = stage.queries ++ ([typeQuery limits name] ++ rest.map (typeQuery limits))
      rw [queries, ← List.append_assoc]
      rfl

/-- **Every order** of the types is one in which their tasks can be joined. -/
theorem exists_completes (permits : 0 < limits.maxConcurrent) (answers : TypeAnswers)
    {order : List String} (reordered : order.Perm typeNames) :
    ∃ last, Completes limits answers typeNames last ∧ last.joined = order ∧
      last.queries = order.map (typeQuery limits) := by
  have names := List.Perm.of_eq (names_start typeNames)
  obtain ⟨last, reached, settled, joined, queries⟩ :=
    exists_run_in_order permits answers (waiting_start typeNames) (names.trans reordered.symm)
  exact ⟨last, ⟨reached, settled⟩, joined, queries⟩

/-! ### What a complete run delivers -/

/-- What is there once the tasks of some types are joined. -/
structure Delivers (limits : FetchLimits) (answers : TypeAnswers) (typeNames : List String)
    (last : FetchStage) : Prop where
  joined_perm : last.joined.Perm typeNames
  /-- Each type that brought records has them under its own name. -/
  fetched_iff : ∀ name set,
    last.fetched.get? name = some set ↔ name ∈ typeNames ∧ answers.brought name = some set
  /-- There is one query for each type: a page from the start, of all versions. -/
  queries_perm : last.queries.Perm (typeNames.map fun name =>
    { expression := typeExpression name, versionId := none, startAt := 0,
      maxResults := limits.pageSize })

/-- **A complete run** delivers what the types bring. -/
theorem Completes.delivers (distinct : typeNames.Nodup)
    (completes : Completes limits answers typeNames last) :
    last.Delivers limits answers typeNames := by
  obtain ⟨reached, settled⟩ := completes
  have accounts := accounts_of_reaches reached
  have joined : last.joined.Perm typeNames := by
    have names := accounts.names_perm
    rwa [settled, List.map_nil, List.append_nil] at names
  refine ⟨joined, fun name set => ?_, ?_⟩
  · rw [accounts.fetched_eq, get?_gather_map_iff answers.own (joined.nodup_iff.mpr distinct),
      joined.mem_iff]
  · have queries := accounts.queries_perm
    rw [settled, askedNames, List.filter_nil, List.map_nil, List.append_nil] at queries
    exact queries.trans (joined.map (typeQuery limits))

theorem Completes.fetched_eq (distinct : typeNames.Nodup)
    (completes : Completes limits answers typeNames last) :
    last.fetched = gather (typeNames.map answers.brought) := by
  refine SortedMap.ext_get? fun name => Option.ext fun set => ?_
  rw [(completes.delivers distinct).fetched_iff, get?_gather_map_iff answers.own distinct]

/-- Two ends of the stage lead to the same item types, to the same tally of relations and, apart
from the time, to the same document. -/
structure AgreesWith (config : ExtractionConfig) (first second : FetchStage) : Prop where
  fetched_eq : first.fetched = second.fetched
  itemTypes_eq : describeTypes config.inference first.fetched =
    describeTypes config.inference second.fetched
  relations_eq : countRelations first.fetched = countRelations second.fetched
  document_eq : ∀ earlier later project versions,
    documentOf config later project versions first.fetched =
      { documentOf config earlier project versions second.fetched with generatedAt := later }

theorem agreesWith_of_fetched_eq (config : ExtractionConfig) {first second : FetchStage}
    (same : first.fetched = second.fetched) : first.AgreesWith config second := by
  refine ⟨same, ?_, ?_, fun earlier later project versions => ?_⟩
  · rw [same]
  · rw [same]
  · rw [same]
    rfl

/-! ### The document -/

section Extracted

variable {permitBound : Nat} {source : Source} {config : ExtractionConfig} {projectId : String}

/-- **The extracted document** is that of every complete run, and the source received the queries of
the run. -/
theorem extract_of_completes (generatedAt : Timestamp) {project : Project}
    (faultless : config.fault? = none) (within : config.fetch.maxConcurrent ≤ permitBound)
    (found : source.project projectId = .ok project)
    (completes : Completes config.fetch (TypeAnswers.ofSource source config projectId)
      (surveyTypes source config.discovery projectId) last) :
    (extract permitBound source config generatedAt projectId).outcome =
        .ok (documentOf config generatedAt project (knownVersions source projectId)
          last.fetched) ∧
      last.queries.Perm (extract permitBound source config generatedAt projectId).queries := by
  have distinct := surveyTypes_nodup source config.discovery projectId
  rw [completes.fetched_eq distinct, extract_eq_iff.mpr (.completed faultless found within)]
  exact ⟨rfl, (completes.delivers distinct).queries_perm⟩

end Extracted

/-- **The schedule does not matter.** Where a pool holds the permits, every run of the tasks can be
completed, and their types can be joined in every order; but every complete run delivers the same,
and any two lead to one document, which is the extracted one. -/
theorem completes_agree {config : ExtractionConfig} (faultless : config.fault? = none)
    (permitBound : Nat) (survey : TypeSurvey) (answers : TypeAnswers) :
    (config.fetch.maxConcurrent ≤ permitBound →
      ∀ stage, Reaches config.fetch answers (start survey.typeNames) stage →
        ∃ last, Reaches config.fetch answers stage last ∧ last.tasks = []) ∧
    (config.fetch.maxConcurrent ≤ permitBound →
      ∀ order : List String, order.Perm survey.typeNames →
        ∃ last, Completes config.fetch answers survey.typeNames last ∧ last.joined = order ∧
          last.queries = order.map (typeQuery config.fetch)) ∧
    (∀ last, Completes config.fetch answers survey.typeNames last →
      last.Delivers config.fetch answers survey.typeNames) ∧
    (∀ first second, Completes config.fetch answers survey.typeNames first →
      Completes config.fetch answers survey.typeNames second → first.AgreesWith config second) ∧
    (config.fetch.maxConcurrent ≤ permitBound →
      ∀ source projectId project generatedAt last,
        survey.typeNames = surveyTypes source config.discovery projectId →
        answers = TypeAnswers.ofSource source config projectId →
        source.project projectId = .ok project →
        Completes config.fetch answers survey.typeNames last →
          (extract permitBound source config generatedAt projectId).outcome =
              .ok (documentOf config generatedAt project (knownVersions source projectId)
                last.fetched) ∧
            last.queries.Perm
              (extract permitBound source config generatedAt projectId).queries) := by
  have permits := ExtractionConfig.maxConcurrent_pos faultless
  have distinct : survey.typeNames.Nodup := SortedMap.names_nodup _
  refine ⟨fun _ stage _ => exists_completion permits answers stage,
    fun _ order => exists_completes permits answers, fun last => Completes.delivers distinct,
    fun first second one other => ?_, fun within => ?_⟩
  · exact agreesWith_of_fetched_eq config
      ((one.fetched_eq distinct).trans (other.fetched_eq distinct).symm)
  · rintro source projectId project generatedAt last surveyed rfl found completes
    rw [surveyed] at completes
    exact extract_of_completes generatedAt faultless within found completes

/-- Where the tasks of two types are joined in either order, both runs lead to the extracted
document. -/
theorem completes_agree_reversed :
    let source := linkedStore.toSource
    let answers := TypeAnswers.ofSource source {} "P"
    let survey := TypeSurvey.start.noteAll [linkedRecord "A" [], linkedRecord "B" []]
    ({} : ExtractionConfig).fault? = none ∧
      ∃ first second, Completes {} answers survey.typeNames first ∧
        Completes {} answers survey.typeNames second ∧ first.joined = ["A", "B"] ∧
        second.joined = ["B", "A"] ∧ first.AgreesWith {} second ∧
        (first.fetched.get? "A").isSome ∧
        (extract wordPermitBound source {} default "P").outcome =
          .ok (documentOf {} default ⟨"P", "Project", none⟩ [] second.fetched) := by
  intro source answers survey
  have faultless : ({} : ExtractionConfig).fault? = none := by decide
  have within : ({} : ExtractionConfig).fetch.maxConcurrent ≤ wordPermitBound := by decide
  obtain ⟨-, orders, delivers, agree, extracted⟩ :=
    completes_agree faultless wordPermitBound survey answers
  have names : survey.typeNames = ["A", "B"] := by rfl
  obtain ⟨first, completes, joined, -⟩ := orders within ["A", "B"] (List.Perm.of_eq names.symm)
  obtain ⟨second, again, reversed, -⟩ :=
    orders within ["B", "A"] (names ▸ List.Perm.swap "A" "B" [])
  have brought : (answers.brought "A").isSome := by rfl
  obtain ⟨set, found⟩ := Option.isSome_iff_exists.mp brought
  have listed : "A" ∈ survey.typeNames := names ▸ List.mem_cons_self
  have kept := ((delivers first completes).fetched_iff "A" set).mpr ⟨listed, found⟩
  refine ⟨faultless, first, second, completes, again, joined, reversed,
    agree first second completes again, ?_, ?_⟩
  · rw [kept]
    rfl
  · exact (extracted within source "P" _ default second rfl rfl rfl again).1

end FetchStage

end RecordSchema
