import PodSizing.Plan.Batch

/-!
# Batches of a list of plans

The batches put together are the plans with their positions.  A batch has a plan, and each batch
but the last has as many as a batch may have.
-/

namespace PodSizing

namespace Batch

/-- The plans of a batch. -/
def plans (batch : Batch) : List Plan := batch.jobs.map Job.plan

@[simp]
theorem length_plans (batch : Batch) : batch.plans.length = batch.jobs.length := by
  simp [plans]

/-- A piece before another one has the full length. -/
theorem length_of_chunks_eq {α : Type} {size : Nat} {positive : 0 < size} {items : List α}
    {before after : List (List α)} {piece : List α}
    (cut : chunks size positive items = before ++ piece :: after) (more : after ≠ []) :
    piece.length = size := by
  induction before generalizing items with
  | nil =>
      unfold chunks at cut
      split at cut
      · contradiction
      · simp only [List.nil_append, List.cons.injEq] at cut
        rcases cut with ⟨taken, rest⟩
        have nonempty : items.drop size ≠ [] := by
          intro empty
          rw [empty, chunks_nil] at rest
          exact more rest.symm
        have longer : size < items.length := by
          simpa [List.drop_eq_nil_iff] using nonempty
        rw [← taken, List.length_take]
        omega
  | cons first others ih =>
      unfold chunks at cut
      split at cut
      · contradiction
      · exact ih (List.cons.inj cut).2

theorem ne_nil_of_mem_chunks {α : Type} {size : Nat} {positive : 0 < size} {items piece : List α}
    (mem : piece ∈ chunks size positive items) : piece ≠ [] := by
  fun_induction chunks size positive items with
  | case1 => contradiction
  | case2 items nonempty ih =>
      rcases List.mem_cons.mp mem with eq | later
      · subst piece
        simp only [List.isEmpty_iff] at nonempty
        simp only [ne_eq, List.take_eq_nil_iff, nonempty, or_false]
        omega
      · exact ih later

@[simp]
theorem length_jobsOf (plans : List Plan) : (jobsOf plans).length = plans.length := by
  simp [jobsOf]

theorem getElem?_jobsOf (plans : List Plan) (position : Nat) :
    (jobsOf plans)[position]? = plans[position]?.map fun plan => ⟨position, plan⟩ := by
  rw [jobsOf, List.getElem?_map, List.getElem?_zipIdx]
  cases plans[position]? <;> simp

@[simp]
theorem map_plan_jobsOf (plans : List Plan) : (jobsOf plans).map Job.plan = plans := by
  apply List.ext_getElem?
  intro position
  rw [List.getElem?_map, getElem?_jobsOf]
  cases plans[position]? <;> rfl

/-- A plan stands at its position. -/
theorem getElem?_of_mem_jobsOf {plans : List Plan} {job : Job} (mem : job ∈ jobsOf plans) :
    plans[job.position]? = some job.plan := by
  rcases List.mem_iff_getElem?.mp mem with ⟨place, here⟩
  rw [getElem?_jobsOf, Option.map_eq_some_iff] at here
  rcases here with ⟨plan, atPlace, rfl⟩
  exact atPlace

/-- The plans of a beginning of the list have the first positions. -/
theorem position_lt_of_append_eq {plans : List Plan} {before after : List Job}
    (split : jobsOf plans = before ++ after) {job : Job} (mem : job ∈ before) :
    job.position < before.length := by
  rcases List.mem_iff_getElem.mp mem with ⟨place, bound, here⟩
  have atPlace : (jobsOf plans)[place]? = some job := by
    rw [split, List.getElem?_append_left bound, List.getElem?_eq_getElem bound, here]
  rw [getElem?_jobsOf, Option.map_eq_some_iff] at atPlace
  rcases atPlace with ⟨plan, -, rfl⟩
  exact bound

/-- The positions rise. -/
theorem rising_jobsOf (plans : List Plan) :
    (jobsOf plans).Pairwise fun first second => first.position < second.position := by
  rw [List.pairwise_iff_getElem]
  intro first second firstBound secondBound lt
  simpa [jobsOf] using lt

/-- The jobs of the batches are the pieces of the list. -/
theorem map_jobs_partition (plans : List Plan) (size : Nat) :
    (partition plans size).map jobs =
      chunks (max size 1) (Nat.le_max_right size 1) (jobsOf plans) := by
  simp only [partition, List.map_map]
  rw [show (jobs ∘ fun entry : List Job × Nat => Batch.mk entry.2 entry.1) = Prod.fst from rfl,
    List.zipIdx_map_fst]

/-- No two plans stand at one position. -/
theorem eq_of_position_eq {jobs : List Job}
    (rising : jobs.Pairwise fun first second => first.position < second.position)
    {first second : Job} (firstMem : first ∈ jobs) (secondMem : second ∈ jobs)
    (same : first.position = second.position) : first = second := by
  induction jobs with
  | nil => contradiction
  | cons head rest ih =>
      rcases List.pairwise_cons.mp rising with ⟨below, restRising⟩
      rcases List.mem_cons.mp firstMem with rfl | firstRest <;>
        rcases List.mem_cons.mp secondMem with rfl | secondRest
      · rfl
      · have := below second secondRest
        omega
      · have := below first firstRest
        omega
      · exact ih restRising firstRest secondRest

/-- The batches put together are the plans with their positions. -/
theorem flatMap_jobs_partition (plans : List Plan) (size : Nat) :
    (partition plans size).flatMap jobs = jobsOf plans := by
  rw [List.flatMap_def, map_jobs_partition, flatten_chunks]

theorem flatMap_plans_partition (plans : List Plan) (size : Nat) :
    (partition plans size).flatMap Batch.plans = plans := by
  have split : (partition plans size).flatMap Batch.plans =
      ((partition plans size).flatMap jobs).map Job.plan := by
    rw [List.map_flatMap]
    rfl
  rw [split, flatMap_jobs_partition, map_plan_jobsOf]

theorem jobs_ne_nil_of_mem_partition {plans : List Plan} {size : Nat} {batch : Batch}
    (mem : batch ∈ partition plans size) : batch.jobs ≠ [] := by
  have piece : batch.jobs ∈ (partition plans size).map jobs := List.mem_map_of_mem mem
  rw [map_jobs_partition] at piece
  exact ne_nil_of_mem_chunks piece

theorem mem_jobsOf_of_mem_partition {plans : List Plan} {size : Nat} {batch : Batch} {job : Job}
    (mem : batch ∈ partition plans size) (inBatch : job ∈ batch.jobs) : job ∈ jobsOf plans := by
  rw [← flatMap_jobs_partition plans size, List.mem_flatMap]
  exact ⟨batch, mem, inBatch⟩

/-- The positions in a batch rise. -/
theorem rising_of_mem_partition {plans : List Plan} {size : Nat} {batch : Batch}
    (mem : batch ∈ partition plans size) :
    batch.jobs.Pairwise fun first second => first.position < second.position := by
  have part : batch.jobs.Sublist (jobsOf plans) := by
    rw [← flatMap_jobs_partition plans size, List.flatMap_def]
    exact List.sublist_flatten_of_mem (List.mem_map_of_mem mem)
  exact (rising_jobsOf plans).sublist part

/-- The batches before a place have as many plans as positions. -/
theorem position_lt_of_partition_eq {plans : List Plan} {size : Nat} {before after : List Batch}
    (cut : partition plans size = before ++ after) {job : Job}
    (mem : job ∈ before.flatMap jobs) :
    job.position < (before.flatMap Batch.plans).length := by
  have split : jobsOf plans = before.flatMap jobs ++ after.flatMap jobs := by
    rw [← List.flatMap_append, ← cut, flatMap_jobs_partition]
  have lengths : (before.flatMap Batch.plans).length = (before.flatMap jobs).length := by
    simp [List.length_flatMap]
  rw [lengths]
  exact position_lt_of_append_eq split mem

/-- A batch is cut out of the plans after those of the batches before it. -/
theorem jobs_eq_of_partition_eq {plans : List Plan} {size : Nat} {before after : List Batch}
    {batch : Batch} (cut : partition plans size = before ++ batch :: after) :
    batch.jobs =
      ((jobsOf plans).drop (before.flatMap Batch.plans).length).take batch.jobs.length := by
  have split : jobsOf plans = before.flatMap jobs ++ (batch.jobs ++ after.flatMap jobs) := by
    rw [← List.flatMap_cons, ← List.flatMap_append, ← cut, flatMap_jobs_partition]
  have lengths : (before.flatMap Batch.plans).length = (before.flatMap jobs).length := by
    simp [List.length_flatMap]
  rw [split, lengths, List.drop_left, List.take_left]

/-- Batches are told apart by their numbers. -/
theorem eq_of_index_eq {plans : List Plan} {size : Nat} {first second : Batch}
    (firstMem : first ∈ partition plans size) (secondMem : second ∈ partition plans size)
    (same : first.index = second.index) : first = second := by
  rw [partition, List.mem_map] at firstMem secondMem
  obtain ⟨⟨jobs, index⟩, firstHere, rfl⟩ := firstMem
  obtain ⟨⟨otherJobs, otherIndex⟩, secondHere, rfl⟩ := secondMem
  obtain rfl : index = otherIndex := same
  rw [List.mem_zipIdx_iff_getElem?] at firstHere secondHere
  obtain rfl : jobs = otherJobs := Option.some.inj (firstHere.symm.trans secondHere)
  rfl

/-- A plan of a batch has a position after those of the batches before it. -/
theorem position_of_getElem? {plans : List Plan} {size : Nat} {before after : List Batch}
    {batch : Batch} (cut : partition plans size = before ++ batch :: after) {place : Nat}
    {job : Job} (here : batch.jobs[place]? = some job) :
    job.position = (before.flatMap Batch.plans).length + place := by
  have split : jobsOf plans = before.flatMap jobs ++ (batch.jobs ++ after.flatMap jobs) := by
    rw [← List.flatMap_cons, ← List.flatMap_append, ← cut, flatMap_jobs_partition]
  have lengths : (before.flatMap Batch.plans).length = (before.flatMap jobs).length := by
    simp [List.length_flatMap]
  obtain ⟨bound, -⟩ := List.getElem?_eq_some_iff.mp here
  have inPlans : (jobsOf plans)[(before.flatMap Batch.plans).length + place]? = some job := by
    rw [split, lengths, List.getElem?_append_right (Nat.le_add_right _ _), Nat.add_sub_cancel_left,
      List.getElem?_append_left bound, here]
  rw [getElem?_jobsOf, Option.map_eq_some_iff] at inPlans
  obtain ⟨plan, -, rfl⟩ := inPlans
  rfl

/-- No plan stands twice where the positions rise. -/
theorem nodup_of_rising {jobs : List Job}
    (rising : jobs.Pairwise fun first second => first.position < second.position) :
    jobs.Nodup := by
  apply rising.imp
  rintro first second lt rfl
  exact Nat.lt_irrefl _ lt

theorem nodup_jobsOf (plans : List Plan) : (jobsOf plans).Nodup :=
  nodup_of_rising (rising_jobsOf plans)

/-- The batches before another one are full. -/
theorem length_flatMap_plans_of_partition_eq {plans : List Plan} {size : Nat}
    {before after : List Batch} (cut : partition plans size = before ++ after)
    (more : after ≠ []) :
    (before.flatMap Batch.plans).length = before.length * max size 1 := by
  have full : ∀ batch ∈ before, batch.jobs.length = max size 1 := by
    intro batch mem
    obtain ⟨first, rest, eq⟩ := List.append_of_mem mem
    have pieces := map_jobs_partition plans size
    rw [cut, eq, List.append_assoc, List.map_append, List.cons_append, List.map_cons] at pieces
    exact length_of_chunks_eq pieces.symm (by simp [more])
  clear cut
  induction before with
  | nil => simp
  | cons first rest ih =>
      have restFull : ∀ batch ∈ rest, batch.jobs.length = max size 1 :=
        fun batch mem => full batch (List.mem_cons_of_mem first mem)
      rw [List.flatMap_cons, List.length_append, length_plans, full first List.mem_cons_self,
        ih restFull, List.length_cons, Nat.succ_mul, Nat.add_comm]

end Batch

end PodSizing
