import DenseBench.Proofs.Runner.Passage

/-!
# The calls of a run

Which units a run calls is seen from the units' side.  Every unit of the registry is made to note
its calls in the world, and the runner is left as it is.  The main statements say that the notes
change nothing else (`run_watched`) and that a run calls the units in the order of the registry,
over and over, one call for each record and one more if a unit panics (`calls_eq`).
-/

namespace DenseBench

/-- One call of a unit. -/
structure Call where
  /-- The position of the unit in its registry. -/
  position : Nat
  /-- The size class that the unit was called with. -/
  dataset : DatasetSize
  /-- How the call ended. -/
  outcome : Outcome
  deriving DecidableEq, Repr

namespace Call

/-- Whether the call came back and reported a failure. -/
def isFailure (call : Call) : Bool :=
  match call.outcome with
  | .returned status => status != 0
  | .panicked => false

/-- No call reports a failure with something left to skip. -/
def NoEarlyFailure (total : Nat) (calls : List Call) : Prop :=
  ∀ index call, calls[index]? = some call → call.isFailure = true → total ≤ index + 1

/-- If some call fails early, there is a first one. -/
theorem exists_first_failure {total : Nat} {calls : List Call}
    (early : ¬NoEarlyFailure total calls) :
    ∃ first call, calls[first]? = some call ∧ call.isFailure = true ∧ first + 1 < total ∧
      ∀ index < first, ∀ earlier, calls[index]? = some earlier → earlier.isFailure = false := by
  simp only [NoEarlyFailure, Classical.not_forall, Nat.not_le] at early
  obtain ⟨index, call, found, failure, more⟩ := early
  obtain ⟨inside, rfl⟩ := List.getElem?_eq_some_iff.mp found
  have no_earlier : calls.findIdx isFailure ≤ index := by
    apply Nat.le_of_not_lt
    intro before
    rw [List.not_of_lt_findIdx before] at failure
    contradiction
  have bound : calls.findIdx isFailure < calls.length := Nat.lt_of_le_of_lt no_earlier inside
  refine ⟨_, _, List.getElem?_eq_getElem bound, List.findIdx_getElem, by omega, ?_⟩
  intro position before earlier position_found
  obtain ⟨_, rfl⟩ := List.getElem?_eq_some_iff.mp position_found
  exact List.not_of_lt_findIdx before

end Call

/-- A world in which every call is noted. -/
structure Watched (σ : Type) where
  /-- What the units see. -/
  world : σ
  /-- The calls so far. -/
  calls : List Call

/-- The same unit, which notes its calls. -/
def BenchmarkUnit.watched {σ : Type} (unit : BenchmarkUnit σ) (position : Nat) :
    BenchmarkUnit (Watched σ) where
  name := unit.name
  call dataset watched :=
    let (outcome, world) := unit.call dataset watched.world
    (outcome, ⟨world, watched.calls ++ [⟨position, dataset, outcome⟩]⟩)

/-- The same registry, with units that note their calls. -/
def Registry.watched {σ : Type} (registry : Registry σ) : Registry (Watched σ) :=
  ⟨registry.units.mapIdx fun position unit => unit.watched position⟩

/-- The same invocation, which notes its call. -/
def Invocation.watched {σ : Type} (invocation : Invocation σ) (position : Nat) :
    Invocation (Watched σ) :=
  ⟨invocation.pass, invocation.unit.watched position⟩

namespace Runner

variable {σ : Type}

/-- The same runner, over units that note their calls. -/
def watched (runner : Runner σ) : Runner (Watched σ) where
  registry := runner.registry.watched
  dataset := runner.dataset
  policy := runner.policy
  state := runner.state

/-- The calls that a run makes, in order. -/
def calls (runner : Runner σ) (repetitions : Nat) (world : σ) : List Call :=
  (runner.watched.run repetitions ⟨world, []⟩).world.calls

namespace Progress

/-- The same progress in another world. -/
def within {τ : Type} (progress : Progress σ) (world : τ) : Progress τ :=
  ⟨progress.report, progress.events, world⟩

end Progress

namespace Course

/-- The same course in another world. -/
def within {τ : Type} (world : τ) : Course σ → Course τ
  | ongoing progress => ongoing (progress.within world)
  | halted progress => halted (progress.within world)
  | panicked progress => panicked (progress.within world)

end Course

/-- The call behind record number `index`. -/
def callOf (runner : Runner σ) (index : Nat) (record : InvocationRecord) : Call :=
  ⟨runner.position index, runner.dataset, .returned record.status⟩

/-- The calls of a run that ends so: one for each record, and one more if a unit panicked. -/
def callsOf (runner : Runner σ) (course : Course σ) : List Call :=
  course.records.mapIdx runner.callOf ++
    if course.isPanicked then
      [⟨runner.position course.records.length, runner.dataset, .panicked⟩]
    else []

@[simp]
theorem size_watched (registry : Registry σ) : registry.watched.size = registry.size := by
  simp [Registry.watched, Registry.size]

theorem mem_units_watched {runner : Runner σ} {unit : BenchmarkUnit (Watched σ)}
    (member : unit ∈ runner.watched.registry.units) :
    ∃ (position : Nat) (original : BenchmarkUnit σ),
      runner.registry.units[position]? = some original ∧ unit = original.watched position := by
  obtain ⟨position, inside, rfl⟩ := List.mem_mapIdx.mp member
  exact ⟨position, runner.registry.units[position], List.getElem?_eq_getElem inside, rfl⟩

/-- The watched plan is the plan, with every invocation told its position. -/
theorem plan_watched (runner : Runner σ) (repetitions : Nat) :
    plan runner.watched.registry.units 0 repetitions =
      (plan runner.registry.units 0 repetitions).mapIdx fun index invocation =>
        invocation.watched (runner.position index) := by
  have width : runner.watched.registry.units.length = runner.registry.units.length :=
    size_watched runner.registry
  apply List.ext_getElem?
  intro index
  rw [List.getElem?_mapIdx]
  by_cases inside : index < repetitions * runner.registry.units.length
  · rw [getElem?_plan _ _ _ _ inside, getElem?_plan _ _ _ _ (by rwa [width]), width]
    simp [watched, Registry.watched, Function.comp_def, Invocation.watched, position,
      Registry.size]
  · rw [List.getElem?_eq_none (by rw [length_plan, width]; omega),
      List.getElem?_eq_none (by rw [length_plan]; omega)]
    rfl

/-- A stretch that comes back notes one call for each record. -/
theorem Returns.watched {dataset : DatasetSize} {plan : List (Invocation σ)} {before after : σ}
    {records : List InvocationRecord} (returns : Returns dataset plan before records after)
    (position : Nat → Nat) (calls : List Call) :
    Returns dataset (plan.mapIdx fun index invocation => invocation.watched (position index))
      ⟨before, calls⟩ records
      ⟨after, calls ++ records.mapIdx fun index record =>
        ⟨position index, dataset, .returned record.status⟩⟩ := by
  induction returns generalizing position calls with
  | nil => simpa using Returns.nil _
  | @cons invocation rest before middle after status records call returns ih =>
      have later := ih (fun index => position (index + 1))
        (calls ++ [⟨position 0, dataset, .returned status⟩])
      rw [List.append_assoc, List.singleton_append] at later
      rw [List.mapIdx_cons, List.mapIdx_cons]
      have noted : (invocation.watched (position 0)).unit.call dataset ⟨before, calls⟩ =
          (.returned status, ⟨middle, calls ++ [⟨position 0, dataset, .returned status⟩]⟩) := by
        simp [Invocation.watched, BenchmarkUnit.watched, call]
      exact .cons noted later

/-- Watching a walk changes nothing but the notes. -/
theorem course_watched (runner : Runner σ) (repetitions : Nat) (world : σ) :
    runner.watched.course repetitions ⟨world, []⟩ =
      (runner.course repetitions world).within
        ⟨(runner.course repetitions world).progress.world,
          runner.callsOf (runner.course repetitions world)⟩ := by
  have total : runner.watched.total repetitions = runner.total repetitions := by
    simp [Runner.total, watched]
  have begun : runner.watched.begun repetitions ⟨world, []⟩ =
      (runner.begun repetitions world).within ⟨world, []⟩ := by
    simp [Runner.begun, watched, Progress.within]
  rw [course, total, begun, plan_watched]
  have passage := runner.passage_course repetitions world
  apply follow_of_passage
  generalize runner.course repetitions world = ended at passage
  cases passage with
  | @completed records after returns tolerates =>
      have notes : runner.callsOf
          (.ongoing ((runner.begun repetitions world).extend records after)) =
          records.mapIdx runner.callOf := by
        simp [callsOf]
      rw [notes]
      exact .completed (returns.watched runner.position []) tolerates
  | @halted front records back last record after split returns tolerates failFast failure more =>
      have notes : runner.callsOf
          (.halted ((runner.begun repetitions world).extend (records ++ [record]) after).cutShort) =
          (records ++ [record]).mapIdx runner.callOf := by
        simp [callsOf]
      have noted := returns.watched runner.position []
      rw [List.mapIdx_append, List.mapIdx_singleton] at noted
      rw [notes, split, List.mapIdx_append, List.mapIdx_cons]
      exact .halted _ records rfl noted tolerates failFast failure more
  | @panicked front back last records middle after split returns tolerates panic =>
      have notes : runner.callsOf
          (.panicked (((runner.begun repetitions world).extend records middle).breakOff last
            after)) =
          records.mapIdx runner.callOf ++
            [⟨runner.position records.length, runner.dataset, .panicked⟩] := by
        simp [callsOf]
      have noted := returns.watched runner.position []
      have broken : (last.watched (runner.position records.length)).unit.call runner.dataset
          ⟨middle, records.mapIdx runner.callOf⟩ =
          (.panicked, ⟨after, records.mapIdx runner.callOf ++
            [⟨runner.position records.length, runner.dataset, .panicked⟩]⟩) := by
        simp [Invocation.watched, BenchmarkUnit.watched, panic]
      rw [notes, split, List.mapIdx_append, List.mapIdx_cons, Nat.zero_add, ← returns.length_eq]
      exact .panicked _ rfl noted tolerates broken

/-- A run calls the units in the order of the registry, over and over. -/
theorem calls_eq (runner : Runner σ) (repetitions : Nat) (world : σ) :
    runner.calls repetitions world = runner.callsOf (runner.course repetitions world) := by
  rw [calls, world_run, course_watched]
  cases runner.course repetitions world <;> rfl

/-- A unit panics in a run exactly if some call of the run does not come back. -/
theorem isPanicked_iff (runner : Runner σ) (repetitions : Nat) (world : σ) :
    (runner.course repetitions world).isPanicked = true ↔
      ∃ call ∈ runner.calls repetitions world, call.outcome = .panicked := by
  rw [calls_eq, callsOf]
  constructor
  · intro panicked
    rw [if_pos panicked]
    exact ⟨_, List.mem_append_right _ List.mem_cons_self, rfl⟩
  · rintro ⟨call, member, outcome⟩
    rcases List.mem_append.mp member with recorded | last
    · obtain ⟨index, found⟩ := List.mem_iff_getElem?.mp recorded
      rw [List.getElem?_mapIdx] at found
      obtain ⟨record, -, rfl⟩ := Option.map_eq_some_iff.mp found
      simp [callOf] at outcome
    · split at last
      next panicked => exact panicked
      next => simp at last

/-- Nothing panics in a run exactly if all of its calls come back. -/
theorem isPanicked_eq_false_iff {runner : Runner σ} {repetitions : Nat} {world : σ} :
    (runner.course repetitions world).isPanicked = false ↔
      ∀ call ∈ runner.calls repetitions world, call.outcome ≠ .panicked := by
  rw [← Bool.not_eq_true, isPanicked_iff]
  simp

/-- A run leaves no report exactly if some call does not come back. -/
theorem report_run_eq_none_iff {runner : Runner σ} {repetitions : Nat} {world : σ} :
    (runner.run repetitions world).report = none ↔
      ∃ call ∈ runner.calls repetitions world, call.outcome = .panicked := by
  rw [report_run, ← isPanicked_iff]
  cases (runner.course repetitions world).isPanicked <;> simp

/-- Every record has its call. -/
theorem getElem?_calls {runner : Runner σ} {repetitions : Nat} {world : σ} {index : Nat}
    {record : InvocationRecord}
    (found : (runner.course repetitions world).records[index]? = some record) :
    (runner.calls repetitions world)[index]? = some (runner.callOf index record) := by
  have inside := (List.getElem?_eq_some_iff.mp found).1
  rw [calls_eq, callsOf, List.getElem?_append_left (by rwa [List.length_mapIdx]),
    List.getElem?_mapIdx, found]
  rfl

/-- The first calls belong to the first records. -/
theorem take_calls {runner : Runner σ} {repetitions count : Nat} {world : σ}
    (enough : count ≤ (runner.course repetitions world).records.length) :
    (runner.calls repetitions world).take count =
      ((runner.course repetitions world).records.take count).mapIdx runner.callOf := by
  rw [calls_eq, callsOf, List.take_append_of_le_length (by rwa [List.length_mapIdx])]
  apply List.ext_getElem?
  intro index
  by_cases inside : index < count
  · simp [List.getElem?_take_of_lt inside]
  · simp [List.getElem?_take_eq_none (Nat.le_of_not_lt inside)]

/-- Every call has its record, except for the last one if it panicked. -/
theorem record_of_call {runner : Runner σ} {repetitions : Nat} {world : σ} {index : Nat}
    {call : Call} (found : (runner.calls repetitions world)[index]? = some call)
    (returned : call.outcome ≠ .panicked) :
    ∃ record, (runner.course repetitions world).records[index]? = some record ∧
      call = runner.callOf index record := by
  rw [calls_eq, callsOf] at found
  by_cases inside : index < (runner.course repetitions world).records.length
  · rw [List.getElem?_append_left (by rwa [List.length_mapIdx]), List.getElem?_mapIdx] at found
    obtain ⟨record, here, call_eq⟩ := Option.map_eq_some_iff.mp found
    exact ⟨record, here, call_eq.symm⟩
  · rw [List.getElem?_append_right (by rw [List.length_mapIdx]; omega)] at found
    have member := List.mem_of_getElem? found
    split at member
    · rw [List.mem_singleton.mp member] at returned
      exact absurd rfl returned
    · simp at member

/-- Watching a run changes nothing but the notes. -/
theorem run_watched (runner : Runner σ) (repetitions : Nat) (world : σ) :
    runner.watched.run repetitions ⟨world, []⟩ =
      { report := (runner.run repetitions world).report
        runner := (runner.run repetitions world).runner.watched
        events := (runner.run repetitions world).events
        world := ⟨(runner.run repetitions world).world, runner.calls repetitions world⟩ } := by
  rw [calls_eq, run_eq_close, run_eq_close, course_watched]
  cases runner.course repetitions world <;> rfl

end Runner
end DenseBench
