import Mathlib.Data.List.Basic
import PodSizing.Proofs.Plan.Batch

/-!
# Batches that grow plan by plan

Batches can also be filled one plan after the other: a plan joins the last batch while that one has
room, and begins a new batch otherwise.  `partition_eq_foldl` says that this gives the same batches
as cutting the list.  `partition_cuts_evenly` is the contract of the cut: all plans in their order
with their positions, batches numbered from zero, all of them full but the last, and no more of
them than needed.
-/

namespace PodSizing

namespace Batch

/-! ### Adding one item -/

/-- Adds an item to the last piece while that has room, and to a new piece otherwise. -/
def addItem {α : Type} (size : Nat) (pieces : List (List α)) (item : α) : List (List α) :=
  match pieces.getLast? with
  | some piece =>
      if piece.length < size then pieces.dropLast ++ [piece ++ [item]] else pieces ++ [[item]]
  | none => [[item]]

/-- Adds a plan to the last batch while that has room, and to a new batch otherwise. -/
def addJob (limit : Nat) (batches : List Batch) (job : Job) : List Batch :=
  match batches.getLast? with
  | some batch =>
      if batch.jobs.length < limit then
        batches.dropLast ++ [{ batch with jobs := batch.jobs ++ [job] }]
      else batches ++ [⟨batches.length, [job]⟩]
  | none => [⟨0, [job]⟩]

section Items

variable {α : Type} {size : Nat} {positive : 0 < size}

theorem addItem_concat (pieces : List (List α)) (piece : List α) (item : α) :
    addItem size (pieces ++ [piece]) item =
      if piece.length < size then pieces ++ [piece ++ [item]]
      else pieces ++ [piece, [item]] := by
  simp [addItem]

/-- What stands before the last piece is left alone. -/
theorem addItem_cons (piece : List α) {others : List (List α)} (more : others ≠ []) (item : α) :
    addItem size (piece :: others) item = piece :: addItem size others item := by
  obtain ⟨before, last, rfl⟩ := (List.eq_nil_or_concat others).resolve_left more
  rw [List.concat_eq_append, ← List.cons_append, addItem_concat, addItem_concat]
  split <;> rfl

theorem chunks_of_length_le {items : List α} (nonempty : items ≠ []) (fits : items.length ≤ size) :
    chunks size positive items = [items] := by
  unfold chunks
  rw [if_neg (by simpa using nonempty), List.take_of_length_le fits, List.drop_of_length_le fits,
    chunks_nil]

/-- A list that is longer by one item is cut like the list, with the item added. -/
theorem chunks_concat (items : List α) (item : α) :
    chunks size positive (items ++ [item]) = addItem size (chunks size positive items) item := by
  fun_induction chunks size positive items with
  | case1 items empty =>
      obtain rfl : items = [] := by simpa using empty
      exact chunks_of_length_le (by simp) positive
  | case2 items nonempty ih =>
      have nonempty : items ≠ [] := by simpa using nonempty
      by_cases room : items.length < size
      · -- The only piece takes the item.
        have fits : (items ++ [item]).length ≤ size := by simpa using Nat.succ_le_of_lt room
        rw [chunks_of_length_le (by simp) fits,
          List.take_of_length_le (Nat.le_of_lt room), List.drop_of_length_le (Nat.le_of_lt room),
          chunks_nil]
        exact ((addItem_concat [] items item).trans (if_pos room)).symm
      · have full : size ≤ items.length := Nat.le_of_not_lt room
        rw [chunks, if_neg (by simp), List.take_append_of_le_length full,
          List.drop_append_of_le_length full, ih]
        by_cases rest : items.drop size = []
        · rw [rest, chunks_nil]
          have length : ¬ (items.take size).length < size := by
            rw [List.length_take_of_le full]
            exact Nat.lt_irrefl size
          exact ((addItem_concat [] (items.take size) item).trans (if_neg length)).symm
        · refine (addItem_cons _ ?_ item).symm
          unfold chunks
          simp [rest]

/-- Adding items one after the other cuts the whole list. -/
theorem foldl_addItem_chunks (items others : List α) :
    others.foldl (addItem size) (chunks size positive items) =
      chunks size positive (items ++ others) := by
  induction others generalizing items with
  | nil => rw [List.foldl_nil, List.append_nil]
  | cons item rest ih => rw [List.foldl_cons, ← chunks_concat, ih, List.append_assoc,
      List.singleton_append]

theorem length_le_of_mem_chunks {items piece : List α}
    (mem : piece ∈ chunks size positive items) : piece.length ≤ size := by
  fun_induction chunks size positive items with
  | case1 => contradiction
  | case2 items nonempty ih =>
      rcases List.mem_cons.mp mem with rfl | later
      · exact List.length_take_le size items
      · exact ih later

end Items

/-! ### Adding one plan -/

/-- The batches of pieces, numbered from zero. -/
def ofPieces (pieces : List (List Job)) : List Batch :=
  pieces.zipIdx.map fun (jobs, index) => ⟨index, jobs⟩

theorem ofPieces_concat (pieces : List (List Job)) (piece : List Job) :
    ofPieces (pieces ++ [piece]) = ofPieces pieces ++ [⟨pieces.length, piece⟩] := by
  simp [ofPieces, List.zipIdx_append]

theorem length_ofPieces (pieces : List (List Job)) : (ofPieces pieces).length = pieces.length := by
  simp [ofPieces]

theorem addJob_ofPieces (limit : Nat) (pieces : List (List Job)) (job : Job) :
    addJob limit (ofPieces pieces) job = ofPieces (addItem limit pieces job) := by
  rcases List.eq_nil_or_concat pieces with rfl | ⟨before, last, rfl⟩
  · rfl
  · rw [List.concat_eq_append, addItem_concat, ofPieces_concat, addJob, List.getLast?_concat]
    simp only [List.dropLast_concat, List.length_append, List.length_singleton, length_ofPieces]
    split
    · rw [ofPieces_concat]
    · rw [show before ++ [last, [job]] = before ++ [last] ++ [[job]] by simp, ofPieces_concat,
        ofPieces_concat, List.length_append, List.length_singleton]

/-- The batches of a list are those that grow plan by plan. -/
theorem partition_eq_foldl (plans : List Plan) (size : Nat) :
    partition plans size = (jobsOf plans).foldl (addJob (max size 1)) [] := by
  have positive : 0 < max size 1 := Nat.le_max_right size 1
  calc partition plans size
      = ofPieces (chunks (max size 1) positive (jobsOf plans)) := rfl
    _ = ofPieces ((jobsOf plans).foldl (addItem (max size 1)) (chunks (max size 1) positive [])) :=
        by rw [foldl_addItem_chunks, List.nil_append]
    _ = (jobsOf plans).foldl (addJob (max size 1)) (ofPieces (chunks (max size 1) positive [])) :=
        (List.foldl_hom ofPieces (addJob_ofPieces (max size 1))).symm
    _ = (jobsOf plans).foldl (addJob (max size 1)) [] := by rw [chunks_nil]; rfl

/-! ### Numbers and sizes -/

/-- Batches are numbered by their places. -/
theorem index_of_getElem? {plans : List Plan} {size place : Nat} {batch : Batch}
    (here : (partition plans size)[place]? = some batch) : batch.index = place := by
  rw [partition, List.getElem?_map, Option.map_eq_some_iff] at here
  obtain ⟨⟨jobs, index⟩, numbered, rfl⟩ := here
  rw [List.getElem?_zipIdx, Option.map_eq_some_iff] at numbered
  obtain ⟨piece, -, same⟩ := numbered
  cases same
  exact Nat.zero_add place

theorem length_le_of_mem_partition {plans : List Plan} {size : Nat} {batch : Batch}
    (mem : batch ∈ partition plans size) : batch.jobs.length ≤ max size 1 := by
  have piece : batch.jobs ∈ (partition plans size).map jobs := List.mem_map_of_mem mem
  rw [map_jobs_partition] at piece
  exact length_le_of_mem_chunks piece

/-- A batch before another one is full. -/
theorem length_of_partition_eq {plans : List Plan} {size : Nat} {before after : List Batch}
    {batch : Batch} (cut : partition plans size = before ++ batch :: after) (more : after ≠ []) :
    batch.jobs.length = max size 1 := by
  have pieces := map_jobs_partition plans size
  rw [cut, List.map_append, List.map_cons] at pieces
  exact length_of_chunks_eq pieces.symm (by simpa using more)

/-- There are as many batches as the plans need, the last of which need not be full. -/
theorem length_partition (plans : List Plan) (size : Nat) :
    (partition plans size).length = (plans.length + (max size 1 - 1)) / max size 1 := by
  have all := congrArg List.length (flatMap_plans_partition plans size)
  rcases List.eq_nil_or_concat (partition plans size) with none | ⟨before, last, some⟩
  · rw [none] at all ⊢
    rw [← all]
    exact (Nat.div_eq_of_lt (by simp; omega)).symm
  · rw [List.concat_eq_append] at some
    have mem : last ∈ partition plans size := by simp [some]
    have filled := length_flatMap_plans_of_partition_eq some (by simp)
    have least := List.length_pos_iff.mpr (jobs_ne_nil_of_mem_partition mem)
    have most := length_le_of_mem_partition mem
    rw [some, List.flatMap_append, List.length_append, filled, List.flatMap_singleton,
      length_plans] at all
    rw [some, List.length_append, List.length_singleton, ← all]
    symm
    apply Nat.div_eq_of_lt_le
    · rw [Nat.add_mul]
      omega
    · rw [Nat.add_mul, Nat.add_mul]
      omega

/-- The batches are those that grow plan by plan.  Put together they are the plans with their
positions.  Batch by batch they are numbered from zero, and each is full but the last, which has at
least one plan.  There are no more batches than it takes, and none without plans. -/
theorem partition_cuts_evenly (plans : List Plan) (size : Nat) :
    let batches := partition plans size
    let limit := max size 1
    batches = (jobsOf plans).foldl (addJob limit) [] ∧
    (batches.flatMap fun batch => batch.jobs.map fun job => (job.plan, job.position)) =
      plans.zipIdx ∧
    (∀ place batch, batches[place]? = some batch →
      batch.index = place ∧ 1 ≤ batch.jobs.length ∧ batch.jobs.length ≤ limit ∧
      (place + 1 < batches.length → batch.jobs.length = limit)) ∧
    batches.length = (plans.length + (limit - 1)) / limit ∧ partition [] size = [] := by
  intro batches limit
  refine ⟨partition_eq_foldl plans size, ?_, ?_, length_partition plans size, ?_⟩
  · rw [← List.map_flatMap, flatMap_jobs_partition, jobsOf, List.map_map]
    exact List.map_id plans.zipIdx
  · intro place batch here
    have mem : batch ∈ batches := List.mem_of_getElem? here
    refine ⟨index_of_getElem? here, List.length_pos_iff.mpr (jobs_ne_nil_of_mem_partition mem),
      length_le_of_mem_partition mem, ?_⟩
    intro more
    obtain ⟨bound, rfl⟩ := List.getElem?_eq_some_iff.mp here
    have cut : batches = batches.take place ++ batches[place] :: batches.drop (place + 1) := by
      rw [← List.drop_eq_getElem_cons bound, List.take_append_drop]
    exact length_of_partition_eq cut (by simpa [List.drop_eq_nil_iff] using more)
  · simp [partition, jobsOf]

/-- The plan that moves the CPU of a pod from 100 to 150 millicores. -/
def raiseCpu (pod : String) : Plan where
  container := ⟨⟨"default", pod⟩, "app"⟩
  decisions := ⟨⟨.cpu, .scaleUp, 100, 150, .zero false⟩, .keep .memory 200 (.zero false)⟩
  allocation := ⟨⟨100, 100⟩, ⟨200, 200⟩⟩

/-- Seven plans are cut into five and two; of two plans each has a batch of its own where a batch
may have no plans. -/
theorem partition_cuts_evenly_five_and_two :
    (∃ first second,
      partition (["a", "b", "c", "d", "e", "f", "g"].map raiseCpu) 5 = [first, second] ∧
      first.index = 0 ∧ first.jobs.length = 5 ∧ second.index = 1 ∧
      second.jobs.map Job.position = [5, 6]) ∧
    (partition (["a", "b"].map raiseCpu) 0).length = 2 := by
  obtain ⟨-, pairs, batches, count, -⟩ :=
    partition_cuts_evenly (["a", "b", "c", "d", "e", "f", "g"].map raiseCpu) 5
  obtain ⟨-, -, -, singles, -⟩ := partition_cuts_evenly (["a", "b"].map raiseCpu) 0
  obtain ⟨first, second, two⟩ := List.length_eq_two.mp count
  rw [two] at pairs batches
  obtain ⟨firstIndex, -, -, firstFull⟩ := batches 0 first rfl
  obtain ⟨secondIndex, -, -, -⟩ := batches 1 second rfl
  have five : first.jobs.length = 5 := firstFull (Nat.lt_succ_self 1)
  have positions := congrArg (List.map Prod.snd) pairs
  have all :
      first.jobs.map Job.position ++ second.jobs.map Job.position = [0, 1, 2, 3, 4, 5, 6] := by
    simpa [Function.comp_def] using positions
  refine ⟨⟨first, second, two, firstIndex, five, secondIndex, ?_⟩, singles⟩
  have behind := congrArg (List.drop 5) all
  rwa [List.drop_left' (by simpa using five)] at behind

end Batch

end PodSizing
