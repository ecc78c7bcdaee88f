import DenseBench.Proofs.Runner.Plan

/-!
# The ways through a plan

A walk along a plan ends in one of three ways.  All invocations come back and the policy tolerates
their failures; or a failure halts the walk; or a call panics.  `Passage` states each way together
with what the walk has brought about by then, and `passage_iff` shows that nothing else happens.
-/

namespace DenseBench

namespace Event

/-- What the log says of an invocation that came back. -/
def ofRecord (record : InvocationRecord) : List Event :=
  .invoking record.pass record.unit ::
    if record.isFailure then [.failed record.unit record.status record.pass] else []

end Event

namespace Runner

variable {σ : Type}

/-- Called one after the other, all invocations of a list come back.  They take the world from
`before` to `after` and leave these records. -/
inductive Returns (dataset : DatasetSize) :
    List (Invocation σ) → σ → List InvocationRecord → σ → Prop
  | nil (world : σ) : Returns dataset [] world [] world
  | cons {invocation : Invocation σ} {rest : List (Invocation σ)} {before middle after : σ}
      {status : Int32} {records : List InvocationRecord} :
      invocation.unit.call dataset before = (.returned status, middle) →
      Returns dataset rest middle records after →
      Returns dataset (invocation :: rest) before
        (⟨invocation.unit.name, invocation.pass, status⟩ :: records) after

namespace Returns

variable {dataset : DatasetSize} {front back : List (Invocation σ)} {before middle after : σ}
  {left right records : List InvocationRecord}

/-- A stretch of a plan that comes back can be cut anywhere. -/
theorem split (returns : Returns dataset (front ++ back) before records after) :
    ∃ left middle right, records = left ++ right ∧
      Returns dataset front before left middle ∧ Returns dataset back middle right after := by
  induction front generalizing before records with
  | nil => exact ⟨[], before, records, rfl, .nil before, returns⟩
  | cons invocation front ih =>
      cases returns with
      | @cons _ _ _ next _ status _ call rest =>
          obtain ⟨left, middle, right, rfl, first, second⟩ := ih rest
          exact ⟨_, middle, right, rfl, .cons call first, second⟩

/-- Records can be cut anywhere, and the plan with them. -/
theorem cut (returns : Returns dataset front before (left ++ right) after) :
    ∃ first middle second, front = first ++ second ∧
      Returns dataset first before left middle ∧ Returns dataset second middle right after := by
  induction left generalizing front before with
  | nil => exact ⟨[], before, front, rfl, .nil before, returns⟩
  | cons record left ih =>
      cases returns with
      | cons call rest =>
          obtain ⟨first, middle, second, rfl, begun, ended⟩ := ih rest
          exact ⟨_, middle, second, rfl, .cons call begun, ended⟩

theorem length_eq (returns : Returns dataset front before records after) :
    records.length = front.length := by
  induction returns with
  | nil => rfl
  | cons _ _ ih => rw [List.length_cons, List.length_cons, ih]

end Returns

/-- The policy lets a run go on after each of these records, when `done` invocations went before
them: a failure is passed over unless the run is to fail fast and has something left to skip. -/
def Tolerates (runner : Runner σ) (total done : Nat) (records : List InvocationRecord) : Prop :=
  runner.policy = .failFast → ∀ index record, records[index]? = some record →
    record.isFailure = true → total ≤ done + index + 1

theorem tolerates_nil (runner : Runner σ) (total done : Nat) : runner.Tolerates total done [] := by
  intro _ index record found
  simp at found

theorem tolerates_cons_iff (runner : Runner σ) (total done : Nat) (record : InvocationRecord)
    (records : List InvocationRecord) :
    runner.Tolerates total done (record :: records) ↔
      (runner.policy = .failFast → record.isFailure = true → total ≤ done + 1) ∧
        runner.Tolerates total (done + 1) records := by
  constructor
  · intro tolerates
    refine ⟨fun failFast failure => tolerates failFast 0 record rfl failure, ?_⟩
    intro failFast index later found failure
    have bound := tolerates failFast (index + 1) later (by simpa using found) failure
    omega
  · rintro ⟨first, rest⟩ failFast index later found failure
    cases index with
    | zero =>
        obtain rfl : record = later := by simpa using found
        exact first failFast failure
    | succ index =>
        have bound := rest failFast index later (by simpa using found) failure
        omega

/-- A runner that keeps going tolerates everything. -/
theorem tolerates_of_keepGoing {runner : Runner σ} (keepGoing : runner.policy = .keepGoing)
    (total done : Nat) (records : List InvocationRecord) :
    runner.Tolerates total done records := by
  intro failFast
  rw [keepGoing] at failFast
  contradiction

/-- The records of two stretches are tolerated if each stretch is, the second one as what comes
after the first one. -/
theorem tolerates_append_iff (runner : Runner σ) (total done : Nat)
    (left right : List InvocationRecord) :
    runner.Tolerates total done (left ++ right) ↔
      runner.Tolerates total done left ∧ runner.Tolerates total (done + left.length) right := by
  induction left generalizing done with
  | nil => simp [tolerates_nil]
  | cons record left ih =>
      rw [List.cons_append, tolerates_cons_iff, tolerates_cons_iff, ih, and_assoc,
        List.length_cons, Nat.add_assoc, Nat.add_comm 1]

theorem tolerates_of_fine {runner : Runner σ} {records : List InvocationRecord}
    (fine : runner.policy = .keepGoing ∨ records.filter InvocationRecord.isFailure = [])
    (total done : Nat) : runner.Tolerates total done records := by
  rcases fine with keepGoing | fine
  · exact tolerates_of_keepGoing keepGoing total done records
  · intro _ index record found failure
    have member := List.mem_of_getElem? found
    exact absurd failure (List.filter_eq_nil_iff.mp fine record member)

theorem Tolerates.left {runner : Runner σ} {total done : Nat} {left right : List InvocationRecord}
    (tolerates : runner.Tolerates total done (left ++ right)) :
    runner.Tolerates total done left :=
  ((tolerates_append_iff ..).mp tolerates).1

namespace Progress

/-- The progress after some more invocations that came back. -/
def extend (progress : Progress σ) (records : List InvocationRecord) (world : σ) : Progress σ where
  report := { progress.report with records := progress.report.records ++ records.toArray }
  events := progress.events ++ (records.flatMap Event.ofRecord).toArray
  world

/-- Mark a run as cut short. -/
def cutShort (progress : Progress σ) : Progress σ :=
  { progress with report := { progress.report with haltedEarly := true } }

/-- The progress after a call that did not come back. -/
def breakOff (progress : Progress σ) (invocation : Invocation σ) (world : σ) : Progress σ :=
  { progress with
    events := progress.events.push (.invoking invocation.pass invocation.unit.name)
    world }

@[simp]
theorem extend_nil (progress : Progress σ) : progress.extend [] progress.world = progress := by
  simp [extend]

theorem extend_singleton (progress : Progress σ) (record : InvocationRecord) (world : σ) :
    progress.extend [record] world =
      { report := progress.report.record record.unit record.pass record.status
        events :=
          if record.isFailure then
            (progress.events.push (.invoking record.pass record.unit)).push
              (.failed record.unit record.status record.pass)
          else progress.events.push (.invoking record.pass record.unit)
        world } := by
  cases failure : record.isFailure with
  | false => simp [extend, Report.record, Event.ofRecord, failure]
  | true =>
      have events (event next : Event) :
          progress.events ++ #[event, next] = (progress.events.push event).push next := by
        apply Array.toList_inj.mp
        simp
      simp [extend, Report.record, Event.ofRecord, failure, events]

@[simp]
theorem extend_extend (progress : Progress σ) (left right : List InvocationRecord)
    (middle after : σ) :
    (progress.extend left middle).extend right after = progress.extend (left ++ right) after := by
  simp [extend, List.flatMap_append]

@[simp]
theorem world_extend (progress : Progress σ) (records : List InvocationRecord) (world : σ) :
    (progress.extend records world).world = world := rfl

@[simp]
theorem world_cutShort (progress : Progress σ) : progress.cutShort.world = progress.world := rfl

@[simp]
theorem report_cutShort (progress : Progress σ) :
    progress.cutShort.report = { progress.report with haltedEarly := true } := rfl

@[simp]
theorem report_breakOff (progress : Progress σ) (invocation : Invocation σ) (world : σ) :
    (progress.breakOff invocation world).report = progress.report := rfl

@[simp]
theorem events_cutShort (progress : Progress σ) : progress.cutShort.events = progress.events := rfl

@[simp]
theorem events_breakOff (progress : Progress σ) (invocation : Invocation σ) (world : σ) :
    (progress.breakOff invocation world).events =
      progress.events.push (.invoking invocation.pass invocation.unit.name) := rfl

@[simp]
theorem world_breakOff (progress : Progress σ) (invocation : Invocation σ) (world : σ) :
    (progress.breakOff invocation world).world = world := rfl

@[simp]
theorem invocations_extend (progress : Progress σ) (records : List InvocationRecord) (world : σ) :
    (progress.extend records world).report.invocations =
      progress.report.invocations + records.length := by
  simp [extend, Report.invocations]

end Progress

variable {runner : Runner σ} {invocation : Invocation σ} {status : Int32} {after : σ}

/-- A call that comes back is recorded, and the run goes on if the policy tolerates its status. -/
theorem invoke_of_tolerates (total : Nat) (progress : Progress σ)
    (call : invocation.unit.call runner.dataset progress.world = (.returned status, after))
    (tolerates : runner.policy = .failFast → status ≠ 0 →
      total ≤ progress.report.invocations + 1) :
    runner.invoke total invocation.pass invocation.unit progress =
      .ongoing (progress.extend [⟨invocation.unit.name, invocation.pass, status⟩] after) := by
  simp only [invoke, call, Report.invocations_record, Progress.extend_singleton]
  by_cases fine : status = 0
  · simp [fine, InvocationRecord.isFailure]
  · have goes : ¬(runner.policy = .failFast ∧ progress.report.invocations + 1 < total) := by
      rintro ⟨failFast, more⟩
      have enough := tolerates failFast fine
      omega
    simp [fine, goes, InvocationRecord.isFailure]

/-- A failure with something left to skip halts a run that is to fail fast. -/
theorem invoke_of_failure (total : Nat) (progress : Progress σ)
    (call : invocation.unit.call runner.dataset progress.world = (.returned status, after))
    (failFast : runner.policy = .failFast) (failure : status ≠ 0)
    (more : progress.report.invocations + 1 < total) :
    runner.invoke total invocation.pass invocation.unit progress =
      .halted
        (progress.extend [⟨invocation.unit.name, invocation.pass, status⟩] after).cutShort := by
  simp only [invoke, call, Report.invocations_record, Progress.extend_singleton]
  simp [failFast, failure, more, Progress.cutShort, InvocationRecord.isFailure]

theorem invoke_of_panic (total : Nat) (progress : Progress σ)
    (call : invocation.unit.call runner.dataset progress.world = (.panicked, after)) :
    runner.invoke total invocation.pass invocation.unit progress =
      .panicked (progress.breakOff invocation after) := by
  simp [invoke, call, Progress.breakOff]

variable {total : Nat} {progress : Progress σ} {plan : List (Invocation σ)}

/-- A stretch that comes back and is tolerated is walked to its end. -/
theorem follow_of_returns {records : List InvocationRecord}
    (returns : Returns runner.dataset plan progress.world records after)
    (tolerates : runner.Tolerates total progress.report.invocations records) :
    runner.follow total plan progress = .ongoing (progress.extend records after) := by
  generalize begin_eq : progress.world = before at returns
  induction returns generalizing progress with
  | nil =>
      subst begin_eq
      simp [follow]
  | @cons invocation rest before middle after status records call returns ih =>
      subst begin_eq
      obtain ⟨first, later⟩ := (tolerates_cons_iff ..).mp tolerates
      have step := invoke_of_tolerates total progress call fun failFast failure =>
        first failFast (by simpa [InvocationRecord.isFailure] using failure)
      rw [follow, step, Course.andThen_ongoing, ih (by simpa using later) rfl]
      simp

/-- A way through a plan, and how it ends. -/
inductive Passage (runner : Runner σ) (total : Nat) (plan : List (Invocation σ))
    (progress : Progress σ) : Course σ → Prop
  /-- All invocations come back, and the policy tolerates what they return. -/
  | completed {records : List InvocationRecord} {after : σ}
      (returns : Returns runner.dataset plan progress.world records after)
      (tolerates : runner.Tolerates total progress.report.invocations records) :
      Passage runner total plan progress (.ongoing (progress.extend records after))
  /-- All invocations up to a failure come back, and the policy does not tolerate the failure. -/
  | halted (front : List (Invocation σ)) (records : List InvocationRecord)
      {back : List (Invocation σ)} {last : Invocation σ} {record : InvocationRecord} {after : σ}
      (split : plan = front ++ last :: back)
      (returns : Returns runner.dataset (front ++ [last]) progress.world (records ++ [record])
        after)
      (tolerates : runner.Tolerates total progress.report.invocations records)
      (failFast : runner.policy = .failFast) (failure : record.isFailure = true)
      (more : progress.report.invocations + records.length + 1 < total) :
      Passage runner total plan progress
        (.halted (progress.extend (records ++ [record]) after).cutShort)
  /-- Some invocations come back, and the next one panics. -/
  | panicked (front : List (Invocation σ)) {back : List (Invocation σ)} {last : Invocation σ}
      {records : List InvocationRecord} {middle after : σ}
      (split : plan = front ++ last :: back)
      (returns : Returns runner.dataset front progress.world records middle)
      (tolerates : runner.Tolerates total progress.report.invocations records)
      (panic : last.unit.call runner.dataset middle = (.panicked, after)) :
      Passage runner total plan progress
        (.panicked ((progress.extend records middle).breakOff last after))

/-- A way through the rest of a plan is one through the whole plan, if the first invocation comes
back and the policy tolerates its status. -/
theorem Passage.cons {rest : List (Invocation σ)} {course : Course σ}
    (call : invocation.unit.call runner.dataset progress.world = (.returned status, after))
    (goes : runner.policy = .failFast → status ≠ 0 → total ≤ progress.report.invocations + 1)
    (passage : Passage runner total rest
      (progress.extend [⟨invocation.unit.name, invocation.pass, status⟩] after) course) :
    Passage runner total (invocation :: rest) progress course := by
  have whole {records : List InvocationRecord}
      (tolerates : runner.Tolerates total (progress.report.invocations + 1) records) :
      runner.Tolerates total progress.report.invocations
        (⟨invocation.unit.name, invocation.pass, status⟩ :: records) :=
    (tolerates_cons_iff ..).mpr ⟨fun failFast failure =>
      goes failFast (by simpa [InvocationRecord.isFailure] using failure), tolerates⟩
  cases passage with
  | completed returns tolerates =>
      rw [Progress.extend_extend]
      exact .completed (.cons call returns) (whole (by simpa using tolerates))
  | halted front records split returns tolerates failFast failure more =>
      subst split
      rw [Progress.extend_extend]
      refine .halted (invocation :: front)
        (⟨invocation.unit.name, invocation.pass, status⟩ :: records) rfl
        (.cons call returns) (whole (by simpa using tolerates)) failFast failure ?_
      simp at more
      simp
      omega
  | panicked front split returns tolerates panic =>
      subst split
      rw [Progress.extend_extend]
      exact .panicked (invocation :: front) rfl (.cons call returns)
        (whole (by simpa using tolerates)) panic

/-- The walk along a plan takes one of the three ways. -/
theorem passage_follow (runner : Runner σ) (total : Nat) (plan : List (Invocation σ))
    (progress : Progress σ) :
    Passage runner total plan progress (runner.follow total plan progress) := by
  induction plan generalizing progress with
  | nil =>
      have nothing := Passage.completed (.nil progress.world)
        (tolerates_nil runner total progress.report.invocations)
      simpa [follow] using nothing
  | cons invocation rest ih =>
      generalize call : invocation.unit.call runner.dataset progress.world = reply
      obtain ⟨outcome, after⟩ := reply
      cases outcome with
      | panicked =>
          have ended : Passage runner total (invocation :: rest) progress _ :=
            .panicked [] rfl (.nil progress.world) (tolerates_nil runner total _) call
          rw [follow, invoke_of_panic total progress call]
          simpa using ended
      | returned status =>
          by_cases stops : runner.policy = .failFast ∧ status ≠ 0 ∧
              progress.report.invocations + 1 < total
          · obtain ⟨failFast, failure, more⟩ := stops
            rw [follow, invoke_of_failure total progress call failFast failure more]
            exact .halted [] [] rfl (.cons call (.nil after)) (tolerates_nil runner total _)
              failFast (by simpa [InvocationRecord.isFailure] using failure) (by simpa using more)
          · have goes : runner.policy = .failFast → status ≠ 0 →
                total ≤ progress.report.invocations + 1 := by
              intro failFast failure
              exact Nat.le_of_not_lt fun more => stops ⟨failFast, failure, more⟩
            rw [follow, invoke_of_tolerates total progress call goes, Course.andThen_ongoing]
            exact .cons call goes (ih _)

/-- There is only one way through a plan. -/
theorem follow_of_passage {course : Course σ}
    (passage : Passage runner total plan progress course) :
    runner.follow total plan progress = course := by
  cases passage with
  | completed returns tolerates => exact follow_of_returns returns tolerates
  | @halted front records back last record after split returns tolerates failFast failure more =>
      obtain ⟨left, middle, right, records_eq, first, second⟩ := returns.split
      cases second with
      | @cons _ _ _ _ _ status _ call rest =>
          cases rest
          obtain ⟨rfl, record_eq⟩ := List.append_inj' records_eq rfl
          obtain rfl : record = ⟨last.unit.name, last.pass, status⟩ := by
            simpa using record_eq
          have stop := invoke_of_failure total (progress.extend records middle)
            (by simpa using call) failFast (by simpa [InvocationRecord.isFailure] using failure)
            (by simpa using more)
          rw [split, follow_append, follow_of_returns first tolerates, Course.andThen_ongoing,
            follow, stop, Course.andThen_halted, Progress.extend_extend]
  | @panicked front back last records middle after split returns tolerates panic =>
      have stop := invoke_of_panic total (progress.extend records middle) (by simpa using panic)
      rw [split, follow_append, follow_of_returns returns tolerates, Course.andThen_ongoing, follow,
        stop, Course.andThen_panicked]

theorem passage_iff {course : Course σ} :
    Passage runner total plan progress course ↔ runner.follow total plan progress = course := by
  constructor
  · exact follow_of_passage
  · rintro rfl
    exact passage_follow runner total plan progress

/-- The way that a run takes through its plan. -/
theorem passage_course (runner : Runner σ) (repetitions : Nat) (world : σ) :
    Passage runner (runner.total repetitions) (Runner.plan runner.registry.units 0 repetitions)
      (runner.begun repetitions world) (runner.course repetitions world) :=
  passage_follow ..

@[simp]
theorem report_extend_begun (runner : Runner σ) (repetitions : Nat) (world after : σ)
    (records : List InvocationRecord) :
    ((runner.begun repetitions world).extend records after).report =
      { dataset := runner.dataset
        repetitions
        unitsPerPass := runner.registry.size
        records := records.toArray
        haltedEarly := false } := by
  simp [Progress.extend, begun, Report.start]

@[simp]
theorem invocations_begun (runner : Runner σ) (repetitions : Nat) (world : σ) :
    (runner.begun repetitions world).report.invocations = 0 := rfl

@[simp]
theorem world_begun (runner : Runner σ) (repetitions : Nat) (world : σ) :
    (runner.begun repetitions world).world = world := rfl

namespace Course

@[simp]
theorem progress_ongoing (progress : Progress σ) : (ongoing progress).progress = progress := rfl

@[simp]
theorem progress_halted (progress : Progress σ) : (halted progress).progress = progress := rfl

@[simp]
theorem progress_panicked (progress : Progress σ) : (panicked progress).progress = progress := rfl

@[simp]
theorem isPanicked_ongoing (progress : Progress σ) : (ongoing progress).isPanicked = false := rfl

@[simp]
theorem isPanicked_halted (progress : Progress σ) : (halted progress).isPanicked = false := rfl

@[simp]
theorem isPanicked_panicked (progress : Progress σ) : (panicked progress).isPanicked = true := rfl

@[simp]
theorem isHalted_ongoing (progress : Progress σ) : (ongoing progress).isHalted = false := rfl

@[simp]
theorem isHalted_halted (progress : Progress σ) : (halted progress).isHalted = true := rfl

@[simp]
theorem isHalted_panicked (progress : Progress σ) : (panicked progress).isHalted = false := rfl

section Records

variable (runner : Runner σ) (repetitions : Nat) (world after : σ)
  (records : List InvocationRecord)

@[simp]
theorem records_ongoing :
    (ongoing ((runner.begun repetitions world).extend records after)).records = records := by
  simp [Course.records]

@[simp]
theorem records_halted :
    (halted ((runner.begun repetitions world).extend records after).cutShort).records =
      records := by
  simp [Course.records]

@[simp]
theorem records_panicked (last : Invocation σ) (end_world : σ) :
    (panicked (((runner.begun repetitions world).extend records after).breakOff last
      end_world)).records = records := by
  simp [Course.records]

end Records
end Course

/-- The report of a run holds the choices for the run, its records and whether it was cut short. -/
theorem report_course (runner : Runner σ) (repetitions : Nat) (world : σ) :
    (runner.course repetitions world).progress.report =
      { dataset := runner.dataset
        repetitions
        unitsPerPass := runner.registry.size
        records := (runner.course repetitions world).records.toArray
        haltedEarly := (runner.course repetitions world).isHalted } := by
  have passage := runner.passage_course repetitions world
  generalize runner.course repetitions world = course at *
  cases passage with
  | completed => simp
  | halted => simp
  | panicked => simp

theorem report_run_eq_some_iff {runner : Runner σ} {repetitions : Nat} {world : σ}
    {report : Report} :
    (runner.run repetitions world).report = some report ↔
      (runner.course repetitions world).isPanicked = false ∧
        report =
          { dataset := runner.dataset
            repetitions
            unitsPerPass := runner.registry.size
            records := (runner.course repetitions world).records.toArray
            haltedEarly := (runner.course repetitions world).isHalted } := by
  rw [report_run, report_course]
  cases (runner.course repetitions world).isPanicked with
  | false => simp [eq_comm]
  | true => simp

/-- The records of a run, in any of the three ways, are those of a stretch that comes back. -/
theorem returns_course (runner : Runner σ) (repetitions : Nat) (world : σ) :
    ∃ front back after,
      Runner.plan runner.registry.units 0 repetitions = front ++ back ∧
        Returns runner.dataset front world (runner.course repetitions world).records after := by
  have passage := runner.passage_course repetitions world
  generalize runner.course repetitions world = course at *
  cases passage with
  | completed returns tolerates =>
      exact ⟨_, [], _, (List.append_nil _).symm, by simpa using returns⟩
  | halted front records split returns tolerates failFast failure more =>
      rw [List.append_cons] at split
      exact ⟨_, _, _, split, by simpa using returns⟩
  | panicked front split returns tolerates panic =>
      exact ⟨_, _, _, split, by simpa using returns⟩

/-- A run has at most one record for each invocation of its plan. -/
theorem length_records_le (runner : Runner σ) (repetitions : Nat) (world : σ) :
    (runner.course repetitions world).records.length ≤ runner.total repetitions := by
  obtain ⟨front, back, after, split, returns⟩ := runner.returns_course repetitions world
  have whole := congrArg List.length split
  rw [length_plan, List.length_append] at whole
  rw [returns.length_eq]
  exact Nat.le.intro whole.symm

/-- A run without panics leaves the world as the last of its calls that came back. -/
theorem returns_of_calm {runner : Runner σ} {repetitions : Nat} {world : σ}
    (calm : (runner.course repetitions world).isPanicked = false) :
    ∃ front back, Runner.plan runner.registry.units 0 repetitions = front ++ back ∧
      Returns runner.dataset front world (runner.course repetitions world).records
        (runner.course repetitions world).progress.world := by
  have passage := runner.passage_course repetitions world
  generalize runner.course repetitions world = course at *
  cases passage with
  | completed returns tolerates =>
      exact ⟨_, [], (List.append_nil _).symm, by simpa using returns⟩
  | halted front records split returns tolerates failFast failure more =>
      rw [List.append_cons] at split
      exact ⟨_, _, split, by simpa using returns⟩
  | panicked => contradiction

/-- A run without panics whose failures are tolerated comes back from all of its plan. -/
theorem returns_of_fine {runner : Runner σ} {repetitions : Nat} {world : σ}
    (calm : (runner.course repetitions world).isPanicked = false)
    (fine : runner.policy = .keepGoing ∨
      (runner.course repetitions world).records.filter InvocationRecord.isFailure = []) :
    Returns runner.dataset (Runner.plan runner.registry.units 0 repetitions) world
      (runner.course repetitions world).records
      (runner.course repetitions world).progress.world := by
  have passage := runner.passage_course repetitions world
  generalize runner.course repetitions world = course at *
  cases passage with
  | completed returns _ => simpa using returns
  | halted _ records _ _ _ failFast failure =>
      rcases fine with keepGoing | fine
      · exact absurd (failFast.symm.trans keepGoing) (by decide)
      · simp [List.filter_append, failure] at fine
  | panicked => contradiction

/-- A run without panics is cut short exactly if some of its invocations are missing. -/
theorem isHalted_iff {runner : Runner σ} {repetitions : Nat} {world : σ}
    (calm : (runner.course repetitions world).isPanicked = false) :
    (runner.course repetitions world).isHalted = true ↔
      (runner.course repetitions world).records.length < runner.total repetitions := by
  have passage := runner.passage_course repetitions world
  generalize runner.course repetitions world = course at *
  cases passage with
  | completed returns tolerates =>
      have width := returns.length_eq
      rw [length_plan] at width
      simp [total, Registry.size, width]
  | halted front records split returns tolerates failFast failure more =>
      simpa using more
  | panicked => contradiction

end Runner
end DenseBench
