import DenseBench.Proofs.Runner.Panics

/-!
# Reports by passes

The records of a report tell their passes one by one, while the number of completed passes is
computed from the number of records.  Both views agree: the records of one pass are a slice of all
records, the completed passes are those whose slice is a whole registry, and the slices one after
the other are the report again.
-/

namespace DenseBench

namespace InvocationRecord

/-- The records are numbered pass by pass, from the pass `first` on. -/
def Placed (size first : Nat) (records : List InvocationRecord) : Prop :=
  ∀ index record, records[index]? = some record → record.pass = first + index / size

section Placed

variable {size first : Nat} {records : List InvocationRecord} {record : InvocationRecord}

theorem Placed.le_pass (placed : Placed size first records) (member : record ∈ records) :
    first ≤ record.pass := by
  obtain ⟨index, found⟩ := List.mem_iff_getElem?.mp member
  rw [placed index record found]
  exact Nat.le_add_right _ _

theorem Placed.pass_eq_of_mem_take (placed : Placed size first records)
    (member : record ∈ records.take size) : record.pass = first := by
  obtain ⟨index, found⟩ := List.mem_iff_getElem?.mp member
  have inside : index < size := by
    have bound := (List.getElem?_eq_some_iff.mp found).1
    rw [List.length_take] at bound
    omega
  rw [List.getElem?_take_of_lt inside] at found
  rw [placed index record found, Nat.div_eq_of_lt inside, Nat.add_zero]

theorem Placed.drop (positive : 0 < size) (placed : Placed size first records) :
    Placed size (first + 1) (records.drop size) := by
  intro index record found
  rw [List.getElem?_drop] at found
  rw [placed _ record found, Nat.add_div_left _ positive, Nat.add_assoc, Nat.add_comm 1]

/-- In records that are numbered pass by pass, those of one pass stand together. -/
theorem Placed.filter_pass (positive : 0 < size) (placed : Placed size first records)
    (later : Nat) :
    (records.filter fun record => record.pass == first + later) =
      (records.drop (later * size)).take size := by
  -- the first pass is taken off, so that the pass looked for is one of the rest or the first itself
  induction later generalizing records first with
  | zero =>
      have front : (records.take size).filter (fun record => record.pass == first) =
          records.take size := by
        rw [List.filter_eq_self]
        intro record member
        simpa using placed.pass_eq_of_mem_take member
      have back : (records.drop size).filter (fun record => record.pass == first) = [] := by
        rw [List.filter_eq_nil_iff]
        intro record member same
        have same : record.pass = first := by simpa using same
        have later := (placed.drop positive).le_pass member
        omega
      conv_lhs => rw [← List.take_append_drop size records, List.filter_append]
      simp [front, back]
  | succ later ih =>
      have front :
          (records.take size).filter (fun record => record.pass == first + (later + 1)) = [] := by
        rw [List.filter_eq_nil_iff]
        intro record member same
        have same : record.pass = first + (later + 1) := by simpa using same
        have first_pass := placed.pass_eq_of_mem_take member
        omega
      have back := ih (placed.drop positive)
      rw [Nat.add_assoc, Nat.add_comm 1, List.drop_drop, Nat.add_comm size,
        ← Nat.succ_mul] at back
      conv_lhs => rw [← List.take_append_drop size records, List.filter_append]
      rw [front, back, List.nil_append]

end Placed
end InvocationRecord

namespace Report

/-- Every record is that of the unit and the pass which belong to its place. -/
def InOrder (report : Report) (names : List String) : Prop :=
  ∀ index record, report.records[index]? = some record →
    record.pass = index / names.length ∧ names[index % names.length]? = some record.unit

/-- The records that stand at the places of one pass, if every pass has so many places. -/
def slice (report : Report) (size index : Nat) : List InvocationRecord :=
  (report.records.toList.drop (index * size)).take size

section InOrder

variable {report : Report} {names : List String}

/-- Without units there are no records. -/
theorem InOrder.invocations_eq_zero (ordered : report.InOrder []) : report.invocations = 0 := by
  apply Nat.eq_zero_of_not_pos
  intro some_record
  obtain ⟨-, unit⟩ := ordered 0 report.records[0] (Array.getElem?_eq_getElem some_record)
  simp at unit

theorem InOrder.pass_eq_slice (ordered : report.InOrder names) (index : Nat) :
    report.pass index = report.slice names.length index := by
  rcases Nat.eq_zero_or_pos names.length with none | positive
  · obtain rfl := List.length_eq_zero_iff.mp none
    have empty : report.records.toList = [] :=
      List.length_eq_zero_iff.mp ordered.invocations_eq_zero
    simp [pass, slice, empty]
  · have placed : InvocationRecord.Placed names.length 0 report.records.toList := by
      intro place record found
      rw [Array.getElem?_toList] at found
      rw [Nat.zero_add]
      exact (ordered place record found).1
    simpa [pass, slice] using placed.filter_pass positive index

/-- The units of one pass are the units of the registry, as far as there are records. -/
theorem InOrder.units_pass (ordered : report.InOrder names) (index : Nat) :
    (report.pass index).map InvocationRecord.unit =
      names.take (report.invocations - index * names.length) := by
  rw [ordered.pass_eq_slice, slice]
  apply List.ext_getElem?
  intro place
  rw [List.getElem?_map]
  by_cases inside : place < names.length
  · rw [List.getElem?_take_of_lt inside, List.getElem?_drop, Array.getElem?_toList]
    by_cases recorded : index * names.length + place < report.invocations
    · have found := Array.getElem?_eq_getElem recorded
      obtain ⟨-, unit⟩ := ordered _ _ found
      rw [Nat.mul_add_mod_self_right, Nat.mod_eq_of_lt inside] at unit
      rw [List.getElem?_take_of_lt (by omega), unit, found]
      rfl
    · rw [Array.getElem?_eq_none (Nat.le_of_not_lt recorded),
        List.getElem?_take_eq_none (by omega)]
      rfl
  · rw [List.getElem?_take_eq_none (Nat.le_of_not_lt inside), List.getElem?_take]
    simp
    omega

/-- A pass is completed exactly if there are records for all of its places. -/
theorem lt_passesCompleted_iff (positive : 0 < report.unitsPerPass) (index : Nat) :
    index < report.passesCompleted ↔ (index + 1) * report.unitsPerPass ≤ report.invocations := by
  rw [passesCompleted, if_neg (Nat.ne_of_gt positive)]
  exact Nat.le_div_iff_mul_le positive

theorem passesCompleted_le
    (bounded : report.invocations ≤ report.repetitions * report.unitsPerPass) :
    report.passesCompleted ≤ report.repetitions := by
  rw [passesCompleted]
  split
  next => exact Nat.le_refl _
  next => exact Nat.div_le_of_le_mul (Nat.mul_comm .. ▸ bounded)

/-- All passes are completed exactly if no record is missing. -/
theorem passesCompleted_eq_iff
    (bounded : report.invocations ≤ report.repetitions * report.unitsPerPass) :
    report.passesCompleted = report.repetitions ↔
      report.repetitions * report.unitsPerPass ≤ report.invocations := by
  rcases Nat.eq_zero_or_pos report.unitsPerPass with none | positive
  · simp [passesCompleted, none]
  · rw [← Nat.le_div_iff_mul_le positive]
    have completed : report.passesCompleted = report.invocations / report.unitsPerPass :=
      if_neg (Nat.ne_of_gt positive)
    have le := passesCompleted_le bounded
    omega

/-- The completed passes are counted among all passes by any test that tells them. -/
theorem countP_eq_passesCompleted {completed : Nat → Bool}
    (tells : ∀ index, completed index = true ↔ index < report.passesCompleted) {passes : Nat}
    (le : report.passesCompleted ≤ passes) :
    (List.range passes).countP completed = report.passesCompleted := by
  have counted (bound : Nat) :
      (List.range bound).countP completed = min report.passesCompleted bound := by
    induction bound with
    | zero => simp
    | succ bound ih =>
        rw [List.range_succ, List.countP_append, ih, List.countP_singleton]
        simp only [tells]
        split <;> omega
  rw [counted]
  exact Nat.min_eq_left le

section Width

variable (ordered : report.InOrder names) (width : report.unitsPerPass = names.length)

include ordered width

/-- A completed pass lists the whole registry. -/
theorem units_pass_of_completed {index : Nat} (completed : index < report.passesCompleted) :
    (report.pass index).map InvocationRecord.unit = names := by
  rw [ordered.units_pass]
  apply List.take_of_length_le
  rcases Nat.eq_zero_or_pos names.length with none | positive
  · omega
  · rw [lt_passesCompleted_iff (by omega), width, Nat.succ_mul] at completed
    omega

/-- The first pass that is not completed lists a proper part of the registry from its start. -/
theorem units_pass_passesCompleted (positive : 0 < names.length) :
    (report.pass report.passesCompleted).map InvocationRecord.unit <+: names ∧
      (report.pass report.passesCompleted).map InvocationRecord.unit ≠ names := by
  have unfinished := Nat.lt_irrefl report.passesCompleted
  rw [lt_passesCompleted_iff (by omega), width, Nat.succ_mul] at unfinished
  rw [ordered.units_pass]
  refine ⟨List.take_prefix _ _, ?_⟩
  intro whole
  have length := congrArg List.length whole
  rw [List.length_take] at length
  omega

/-- After the first pass that is not completed there is nothing. -/
theorem pass_eq_nil_of_passesCompleted_lt {index : Nat} (late : report.passesCompleted < index) :
    report.pass index = [] := by
  have none : report.invocations - index * names.length = 0 ∨ names = [] := by
    rcases Nat.eq_zero_or_pos names.length with none | positive
    · exact .inr (List.length_eq_zero_iff.mp none)
    · have unfinished := Nat.lt_irrefl report.passesCompleted
      rw [lt_passesCompleted_iff (by omega), width] at unfinished
      have more : (report.passesCompleted + 1) * names.length ≤ index * names.length :=
        Nat.mul_le_mul_right _ late
      exact .inl (by omega)
  have units := ordered.units_pass index
  rcases none with none | rfl
  · simpa [none] using units
  · simpa using units

/-- The last unit is called in the completed passes and in no others. -/
theorem any_pass_eq_last_iff (distinct : names.Nodup) {last : String}
    (last_name : names.getLast? = some last) (index : Nat) :
    ((report.pass index).any fun record => record.unit == last) = true ↔
      index < report.passesCompleted := by
  obtain ⟨front, rfl⟩ := List.getLast?_eq_some_iff.mp last_name
  have member : ((report.pass index).any fun record => record.unit == last) = true ↔
      last ∈ (report.pass index).map InvocationRecord.unit := by
    simp
  rw [member]
  constructor
  · intro called
    apply Nat.lt_of_not_le
    intro unfinished
    -- a proper part of the registry ends before its last unit
    have early : (report.pass index).map InvocationRecord.unit <+: front := by
      rw [← Nat.not_lt, lt_passesCompleted_iff (by simp [width]), width, Nat.succ_mul] at unfinished
      have short : (front ++ [last]).length = front.length + 1 := by simp
      rw [ordered.units_pass, List.take_append_of_le_length (by omega)]
      exact List.take_prefix _ _
    have twice := (List.nodup_append.mp distinct).2.2 last (early.subset called) last
    simp at twice
  · intro completed
    rw [units_pass_of_completed ordered width completed]
    simp

end Width

/-- The slices of all passes, one after the other, are the records. -/
theorem flatMap_slice (report : Report) {size passes : Nat}
    (enough : report.invocations ≤ passes * size) :
    (List.range passes).flatMap (report.slice size) = report.records.toList := by
  have chunks (count : Nat) : (List.range count).flatMap (report.slice size) =
      report.records.toList.take (count * size) := by
    induction count with
    | zero => simp
    | succ count ih =>
        rw [List.range_succ, List.flatMap_append, ih, Nat.succ_mul, List.take_add]
        simp [slice]
  rw [chunks]
  exact List.take_of_length_le enough

end InOrder
end Report

namespace Runner

variable {σ : Type}

theorem inOrder_of_report {runner : Runner σ} {repetitions : Nat} {world : σ} {report : Report}
    (finished : (runner.run repetitions world).report = some report) :
    report.InOrder runner.registry.names := by
  have width : runner.registry.names.length = runner.registry.size := List.length_map _
  intro index record found
  obtain ⟨unit, registered, name, pass, -⟩ := (record_of_report finished).2 index record found
  rw [width]
  refine ⟨pass, ?_⟩
  rw [Registry.names, List.getElem?_map, show runner.registry.units[index % _]? = _ from registered,
    name]
  rfl

/-- The report of a run can be read by passes.  The completed passes are those in which the last
unit was called, and all of them are completed unless the run was cut short.  Each of them lists the
whole registry in its order, the next one lists a proper part of it from the start, and there is
nothing after that.  One after the other, the passes are the records of the report. -/
theorem passes_of_report (runner : Runner σ) {repetitions : Nat} {world : σ} {report : Report}
    (finished : (runner.run repetitions world).report = some report) :
    let names := runner.registry.names
    let completed := report.passesCompleted
    (names = [] → completed = repetitions) ∧
      (runner.registry.DistinctNames → ∀ last, names.getLast? = some last →
        completed = (List.range repetitions).countP fun pass =>
          (report.pass pass).any fun record => record.unit == last) ∧
      (completed = repetitions ↔ report.haltedEarly = false) ∧
      (∀ pass < completed, (report.pass pass).map InvocationRecord.unit = names) ∧
      (names ≠ [] →
        (report.pass completed).map InvocationRecord.unit <+: names ∧
          (report.pass completed).map InvocationRecord.unit ≠ names) ∧
      (∀ pass, completed < pass → report.pass pass = []) ∧
      (List.range repetitions).flatMap report.pass = report.records.toList := by
  intro names completed
  have ordered := inOrder_of_report finished
  obtain ⟨calm, rfl⟩ := report_run_eq_some_iff.mp finished
  have width : runner.registry.size = names.length := (List.length_map _).symm
  have bounded := runner.length_records_le repetitions world
  have le : completed ≤ repetitions := Report.passesCompleted_le bounded
  refine ⟨?_, ?_, ?_, ?_, ?_, ?_, ?_⟩
  · intro none
    exact if_pos (by rw [width, none]; rfl)
  · intro distinct last last_name
    exact (Report.countP_eq_passesCompleted
      (Report.any_pass_eq_last_iff ordered width distinct last_name) le).symm
  · rw [← Bool.not_eq_true, isHalted_iff calm, Nat.not_lt]
    exact Report.passesCompleted_eq_iff bounded
  · intro pass before
    exact Report.units_pass_of_completed ordered width before
  · intro filled
    exact Report.units_pass_passesCompleted ordered width (List.length_pos_iff.mpr filled)
  · intro pass after
    exact Report.pass_eq_nil_of_passesCompleted_lt ordered width after
  · have slices : Report.pass _ = Report.slice _ names.length := funext ordered.pass_eq_slice
    rw [slices]
    exact Report.flatMap_slice _ (width ▸ bounded)

/-- The weary unit ends a run of four passes at the end of the second one. -/
theorem passes_of_report_weary :
    ∃ report, (weary.run 4 0).report = some report ∧
      report.passesCompleted = 2 ∧ report.haltedEarly = true ∧
      ((List.range 4).countP fun pass =>
        (report.pass pass).any fun record => record.unit == "weary") = 2 ∧
      (report.pass 1).map InvocationRecord.unit = ["steady", "weary"] ∧
      (report.pass 2).map InvocationRecord.unit ≠ ["steady", "weary"] ∧ report.pass 3 = [] ∧
      (List.range 4).flatMap report.pass = report.records.toList := by
  obtain ⟨report, finished⟩ : ∃ report, (weary.run 4 0).report = some report := ⟨_, rfl⟩
  obtain ⟨-, called, all, listed, part, nothing, whole⟩ := passes_of_report weary finished
  have completed : report.passesCompleted = 2 := by
    obtain rfl := Option.some.inj finished
    rfl
  rw [completed] at called all listed part nothing
  refine ⟨report, finished, completed, ?_, ?_, ?_, ?_, ?_, whole⟩
  · rw [← Bool.not_eq_false, ← all]
    decide
  · exact (called (by decide) "weary" rfl).symm
  · exact listed 1 (by decide)
  · exact (part (by decide)).2
  · exact nothing 3 (by decide)

end Runner
end DenseBench
