/-
This file proves what a caller gets from running a plan. A plan that is not valid is refused, and
nothing else happens. Every other run comes to an end, in whatever order its moves are made, and
then there is one report for every configuration, in the order of the plan; each of them is
aggregated, or it failed and has no summary; and the states that the evaluator knows are those of
the reports, sorted by name.
-/

import Holdout.Proofs.Cancellation
import Holdout.Proofs.Sorting
import Holdout.Proofs.States
import Mathlib.Data.Prod.Lex
import Mathlib.Data.String.Basic

namespace Holdout

/-! ### The order of names -/

namespace ConfigKey

/-- Whether one name comes before another: by the algorithm, and then by the split. -/
def Before (first second : ConfigKey) : Prop :=
  first.algorithm < second.algorithm ∨
    first.algorithm = second.algorithm ∧ first.split < second.split

/-- A name in the order of the algorithms and then of the splits. -/
def place (key : ConfigKey) : String ×ₗ String := toLex (key.algorithm, key.split)

theorem place_injective : Function.Injective place := by
  intro first second same
  obtain ⟨algorithm, split⟩ := Prod.mk.inj (toLex.injective same)
  cases first
  cases second
  rw [ConfigKey.mk.injEq]
  exact ⟨algorithm, split⟩

theorem before_iff_place {first second : ConfigKey} :
    first.Before second ↔ first.place < second.place := by
  rw [place, place, Prod.Lex.toLex_lt_toLex]
  rfl

theorem atMost_iff_place (first second : ConfigKey) :
    first.atMost second = true ↔ first.place ≤ second.place := by
  rw [place, place, Prod.Lex.toLex_le_toLex, atMost, Bool.or_eq_true, Bool.and_eq_true,
    decide_eq_true_iff, decide_eq_true_iff, beq_iff_eq]

/-- Sorting what stands under distinct names puts it in the order of the names. -/
theorem pairwise_mergeSort {Value : Type} {entries : List (ConfigKey × Value)}
    (distinct : (entries.map Prod.fst).Nodup) :
    (entries.mergeSort fun first second => first.1.atMost second.1).Pairwise fun first second =>
      first.1.Before second.1 := by
  have places : (entries.map fun entry => entry.1.place).Nodup := by
    have mapped := distinct.map place_injective
    rwa [List.map_map] at mapped
  exact (Sorting.strict_mergeSort (fun first second => atMost_iff_place first.1 second.1)
    places).imp before_iff_place.mpr

end ConfigKey

/-! ### The reports of a run -/

/-- A configuration that is through was aggregated, or it failed and has no summary. -/
theorem Task.aggregated_or_failed {conditions : Conditions} {configuration : Configuration}
    {report : ConfigReport} {rows : List Row}
    (ended : Task.Ended conditions configuration report rows) :
    report.state = .aggregated ∨
      report.state.isFailed = true ∧ report.summary.entries = [] := by
  cases ended with
  | early | measuringCrashed | cancelled | aggregatingCrashed => exact Or.inr ⟨rfl, rfl⟩
  | aggregated => exact Or.inl rfl

namespace Run

variable {conditions : Conditions} {configurations : List Configuration} {run : Run}

/-- The reports are those of the configurations, in their order. -/
theorem map_key_configs (kept : Kept conditions configurations run) (logged : run.Logged) :
    run.configs.map ConfigReport.key = configurations.map Configuration.key := by
  rw [← kept.same, configs, List.map_map, List.map_map]
  refine List.map_congr_left fun task member => ?_
  obtain ⟨position, present⟩ := List.mem_iff_getElem?.mp member
  exact (logged.owned position task present).key

theorem ended_of_mem_configs (kept : Kept conditions configurations run)
    (isOver : run.isOver = true) {report : ConfigReport} (member : report ∈ run.configs) :
    report.state = .aggregated ∨
      report.state.isFailed = true ∧ report.summary.entries = [] := by
  have terminal := isTerminal_of_isOver kept isOver report member
  obtain ⟨task, inside, rfl⟩ := List.mem_map.mp member
  obtain ⟨position, present⟩ := List.mem_iff_getElem?.mp inside
  exact Task.aggregated_or_failed
    (Task.ended_of_terminal (kept.travels position task present) terminal)

end Run

/-- What the report of a run says about the configurations of its plan. -/
structure RunReport.Structured (plan : Plan) (report : RunReport) : Prop where
  /-- There is one report for every algorithm on every split, first those of the first algorithm. -/
  keys : report.configs.map ConfigReport.key =
    plan.algorithms.flatMap fun algorithm =>
      plan.splits.map fun source => ⟨algorithm.id, source.id⟩
  distinct : (report.configs.map ConfigReport.key).Nodup
  through : ∀ config ∈ report.configs, config.state = .aggregated ∨
    config.state.isFailed = true ∧ config.summary.entries = []
  found : ∀ config ∈ report.configs, report.config? config.key = some config
  /-- No metric of a configuration has two lines in the summary. -/
  lines : (report.summary.map fun row => (row.key, row.metric)).Nodup
  /-- A line is about a configuration that was aggregated. -/
  about : ∀ row ∈ report.summary, ∃ config ∈ report.configs,
    config.key = row.key ∧ config.state = .aggregated

namespace RunReport

variable {report : RunReport}

/-- Under distinct names, every configuration is found. -/
theorem config?_eq_some (distinct : (report.configs.map ConfigReport.key).Nodup)
    {config : ConfigReport} (member : config ∈ report.configs) :
    report.config? config.key = some config := by
  have any : (report.config? config.key).isSome = true :=
    List.find?_isSome.mpr ⟨config, member, beq_iff_eq.mpr rfl⟩
  obtain ⟨other, found⟩ := Option.isSome_iff_exists.mp any
  have same : other.key = config.key := beq_iff_eq.mp (List.find?_some found :)
  rw [found, List.inj_on_of_nodup_map distinct (List.mem_of_find?_eq_some found) member same]

/-- Under distinct names, a summary has one line for every metric of a configuration. -/
theorem nodup_summaryRows {configs : List ConfigReport}
    (distinct : (configs.map ConfigReport.key).Nodup) :
    ((configs.flatMap ConfigReport.summaryRows).map fun row => (row.key, row.metric)).Nodup := by
  rw [List.map_flatMap, List.nodup_flatMap]
  constructor
  · intro config _
    refine List.Nodup.of_map Prod.snd ?_
    rw [ConfigReport.summaryRows, List.map_map, List.map_map]
    exact config.summary.distinct
  · refine (List.pairwise_map.mp distinct).imp fun different => ?_
    intro line first second
    obtain ⟨row, here, rfl⟩ := List.mem_map.mp first
    obtain ⟨other, there, same⟩ := List.mem_map.mp second
    obtain ⟨_, _, rfl⟩ := List.mem_map.mp here
    obtain ⟨_, _, rfl⟩ := List.mem_map.mp there
    exact different (congrArg Prod.fst same).symm

end RunReport

/-! ### Plans with one query -/

/-- An algorithm whose scorer needs no training and always gives one answer. -/
def Algorithm.answering (id : String) (answer : Except ScorerError ItemList) : Algorithm :=
  ⟨id, .ok ⟨"fixed", false, fun _ _ => .immediate answer,
    fun _ => .immediate (.error (.failed "never trained"))⟩⟩

/-- A plan that asks some algorithms for the list of one query. -/
def Plan.ofAlgorithms (algorithms : List Algorithm) (metrics : List Metric) : Plan where
  algorithms := algorithms
  splits := [.ofSplit ⟨"s", ⟨[]⟩, ⟨[("u", ItemList.empty false)], by decide⟩⟩]
  metrics := metrics
  limit := none
  mode := .all

/-- A list with one item. -/
def Plan.answer : ItemList := ⟨["i"], some [1.0], none, false⟩

/-- An evaluator with the usual settings on one processor. -/
def Evaluator.fresh : Evaluator := ⟨{}, 1, false, .empty⟩

/-! ### What a caller sees -/

namespace Evaluator

variable {State : Type}

/-- What a caller sees of running a plan: the answer, and the evaluator and the sink that are left.
If the plan is refused, nothing has touched them. Otherwise the run goes on, in whatever order its
moves are made, until it is over. -/
inductive Answers (evaluator : Evaluator) (plan : Plan) (sink : Sink State) (state : State)
    (stamp : RunStamp) : Except EvaluationError RunReport → Evaluator → State → Prop where
  | refused (error : EvaluationError) (refuses : evaluator.begin plan = .error error) :
      Answers evaluator plan sink state stamp (.error error) evaluator state
  | finished (begun run : Run) (moves : List RunMove) (begins : evaluator.begin plan = .ok begun)
      (follows : begun.follow (evaluator.conditions plan) moves = some run)
      (isOver : run.isOver = true) :
      Answers evaluator plan sink state stamp (.ok (evaluator.finish run sink state stamp).report)
        (evaluator.finish run sink state stamp).evaluator
        (evaluator.finish run sink state stamp).sink

variable {evaluator : Evaluator} {plan : Plan} {sink : Sink State} {state last : State}
  {stamp : RunStamp} {answer : Except EvaluationError RunReport} {later : Evaluator}

theorem begin_of_valid (valid : plan.Valid) :
    evaluator.begin plan =
      .ok (.start (evaluator.conditions plan) evaluator.cancelled plan.configurations) := by
  rw [begin, Plan.fault?_eq_none_iff.mpr valid]

theorem begin_of_fault {fault : PlanFault} (refused : plan.fault? = some fault) :
    evaluator.begin plan = .error (.plan fault) := by
  rw [begin, refused]

/-- The run of a plan in turn. -/
def inTurn (evaluator : Evaluator) (plan : Plan) : Run :=
  (Run.start (evaluator.conditions plan) evaluator.cancelled plan.configurations).inTurn
    (evaluator.conditions plan)

/-- The run in turn is one of the possible runs. -/
theorem follow_inTurn (evaluator : Evaluator) (plan : Plan) {begun : Run}
    (begins : evaluator.begin plan = .ok begun) :
    ∃ moves, begun.follow (evaluator.conditions plan) moves = some (evaluator.inTurn plan) := by
  rw [inTurn, ← eq_start_of_begin begins]
  exact (Run.follow_inTurn (kept_of_begin begins)).1.imp fun _ => And.left

/-- A valid plan that is run in turn leads to one of the possible answers. -/
theorem answers_run (usable : evaluator.settings.fault? = none) (valid : plan.Valid) :
    ∃ finished, evaluator.run plan sink state stamp = .ok finished ∧
      evaluator.Answers plan sink state stamp (.ok finished.report) finished.evaluator
        finished.sink := by
  have begins : evaluator.begin plan = _ := begin_of_valid valid
  obtain ⟨room, places⟩ := conditions_usable usable plan
  obtain ⟨⟨moves, follows⟩, isOver⟩ := Run.isOver_inTurn (kept_of_begin begins) room places
  refine ⟨_, ?_, .finished _ _ moves begins follows isOver⟩
  rw [run, begins]
  rfl

/-- Whether a run of a plan comes to its end, in whatever order its moves are made: only so many
moves are possible, and from wherever they lead there is a way to the end. -/
def Completes (evaluator : Evaluator) (plan : Plan) : Prop :=
  ∀ (begun run : Run) (moves : List RunMove), evaluator.begin plan = .ok begun →
    begun.follow (evaluator.conditions plan) moves = some run →
      moves.length ≤ begun.remaining (evaluator.conditions plan) ∧
        ∃ rest last, run.follow (evaluator.conditions plan) rest = some last ∧ last.isOver = true

theorem completes_of_usable (usable : evaluator.settings.fault? = none) (plan : Plan) :
    evaluator.Completes plan := by
  intro begun run moves begins follows
  have keptBegun := kept_of_begin begins
  have fewer := Run.remaining_follow keptBegun follows
  obtain ⟨room, places⟩ := conditions_usable usable plan
  obtain ⟨⟨rest, goesOn⟩, isOver⟩ :=
    Run.isOver_inTurn (Run.kept_follow keptBegun follows) room places
  exact ⟨by omega, rest, _, goesOn, isOver⟩

/-- The report of a run that is over. -/
theorem structured_of_isOver (sink : Sink State) (state : State) (stamp : RunStamp)
    {begun run : Run} {moves : List RunMove} (begins : evaluator.begin plan = .ok begun)
    (follows : begun.follow (evaluator.conditions plan) moves = some run)
    (isOver : run.isOver = true) :
    (evaluator.finish run sink state stamp).report.Structured plan := by
  have kept := Run.kept_follow (kept_of_begin begins) follows
  have keys := Run.map_key_configs kept (logged_of_begin begins follows)
  have distinct : (run.configs.map ConfigReport.key).Nodup :=
    keys ▸ (valid_of_begin begins).distinct_keys
  have through (config : ConfigReport) (member : config ∈ run.configs) :=
    Run.ended_of_mem_configs kept isOver member
  refine ⟨keys.trans plan.map_key_configurations, distinct, through,
    fun config member => RunReport.config?_eq_some distinct member,
    RunReport.nodup_summaryRows distinct, fun row member => ?_⟩
  obtain ⟨config, inside, line⟩ := List.mem_flatMap.mp member
  obtain ⟨entry, there, rfl⟩ := List.mem_map.mp line
  refine ⟨config, inside, rfl, (through config inside).resolve_right ?_⟩
  rintro ⟨-, nothing⟩
  rw [nothing] at there
  cases there

/-- The states that an evaluator knows after a run are those of the reports, by name. -/
theorem status_finish {run : Run} (shown : run.Shown) :
    let finished := evaluator.finish run sink state stamp
    finished.evaluator.status.Perm
        (finished.report.configs.map fun config => (config.key, config.state)) ∧
      finished.evaluator.status.Pairwise fun first second => first.1.Before second.1 := by
  intro finished
  refine ⟨?_, ConfigKey.pairwise_mergeSort run.states.distinct⟩
  have sorted : finished.evaluator.status.Perm run.states.entries := List.mergeSort_perm _ _
  exact sorted.trans (List.Perm.of_eq shown)

/-- A plan that is not valid is refused, and nothing else happens. The run of every other plan comes
to its end, and then there is one report for every configuration, which ended well or failed, and
the evaluator knows their states. -/
theorem report_structured (evaluator : Evaluator) (plan : Plan) (sink : Sink State) (state : State)
    (stamp : RunStamp) (usable : evaluator.settings.fault? = none) :
    (∀ fault, plan.fault? = some fault →
      evaluator.run plan sink state stamp = .error (.plan fault) ∧
        ∀ answer later last, evaluator.Answers plan sink state stamp answer later last →
          answer = .error (.plan fault) ∧ last = state ∧ later.status = evaluator.status) ∧
      (plan.fault? = none →
        evaluator.Completes plan ∧
          (∃ finished, evaluator.run plan sink state stamp = .ok finished ∧
            evaluator.Answers plan sink state stamp (.ok finished.report) finished.evaluator
              finished.sink) ∧
          ∀ answer later last, evaluator.Answers plan sink state stamp answer later last →
            ∃ report, answer = .ok report ∧ report.Structured plan ∧
              later.status.Perm (report.configs.map fun config => (config.key, config.state)) ∧
              later.status.Pairwise fun first second => first.1.Before second.1) := by
  refine ⟨fun fault refused => ⟨?_, fun answer later last answers => ?_⟩,
    fun accepted => ⟨completes_of_usable usable plan,
      answers_run usable (Plan.fault?_eq_none_iff.mp accepted),
      fun answer later last answers => ?_⟩⟩
  · rw [run, begin_of_fault refused]
    rfl
  · cases answers with
    | refused error refuses =>
      rw [begin_of_fault refused] at refuses
      cases refuses
      exact ⟨rfl, rfl, rfl⟩
    | finished begun run moves begins follows isOver =>
      rw [begin_of_fault refused] at begins
      cases begins
  · cases answers with
    | refused error refuses =>
      rw [begin_of_valid (Plan.fault?_eq_none_iff.mp accepted)] at refuses
      cases refuses
    | finished begun run moves begins follows isOver =>
      have structured := structured_of_isOver sink state stamp begins follows isOver
      exact ⟨_, rfl, structured, status_finish (shown_of_begin begins follows)⟩

/-- Two algorithms of which the first cannot be built: the report keeps their order, while the
states are sorted. -/
theorem report_structured_pair :
    let plan := Plan.ofAlgorithms [⟨"b", .error ⟨"no scorer"⟩⟩, .answering "a" (.ok Plan.answer)]
      [.list ⟨"size", fun _ _ => .ok (.ok 1.0)⟩]
    let states : List (ConfigKey × ConfigState) :=
      [(⟨"b", "s"⟩, .failed .scoring "panicked: no scorer"), (⟨"a", "s"⟩, .aggregated)]
    ∃ finished, fresh.run plan .memory [] default = .ok finished ∧
      finished.report.configs.map (fun config => (config.key, config.state)) = states ∧
      finished.report.Structured plan ∧ finished.evaluator.status.Perm states ∧
      finished.evaluator.status.Pairwise fun first second => first.1.Before second.1 := by
  intro plan states
  obtain ⟨-, runs⟩ := report_structured fresh plan .memory [] default rfl
  obtain ⟨-, ⟨finished, ran, answers⟩, gives⟩ := runs (by decide)
  obtain ⟨report, same, structured, perm, sorted⟩ := gives _ _ _ answers
  cases same
  have seen : (fresh.run plan .memory [] default).toOption.map (fun finished =>
      finished.report.configs.map fun config => (config.key, config.state)) = some states := by
    decide +kernel
  rw [ran] at seen
  have known := Option.some.inj seen
  exact ⟨finished, ran, known, structured, known ▸ perm, sorted⟩

end Evaluator

end Holdout
