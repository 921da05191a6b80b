import PodSizing.Proofs.Executor.Application
import PodSizing.Proofs.Executor.Exclusivity

/-!
# Visits of pods

A visit is what is done for one plan while the lock of its pod is held: a first call, and a second
one where the first was refused in part.  The calls for a pod are those of one visit after the
other, so that no call for another plan comes between the calls of a visit.
-/

namespace PodSizing

/-- The calls for a plan, up to an attempt. -/
structure Visit where
  worker : WorkerId
  job : Job
  attempt : Attempt
  deriving DecidableEq

namespace Visit

/-- The pod that is visited. -/
def pod (visit : Visit) : PodId := visit.job.plan.container.pod

/-- A call of the visit. -/
def call (visit : Visit) (attempt : Attempt) : Call :=
  ⟨visit.worker, visit.job.position, visit.job.plan.requestOf attempt⟩

/-- The calls of a visit so far. -/
def calls (visit : Visit) : List Call :=
  match visit.attempt with
  | .whole => [visit.call .whole]
  | .reduced refused => [visit.call .whole, visit.call (.reduced refused)]

@[simp]
theorem container_pod_call (visit : Visit) (attempt : Attempt) :
    (visit.call attempt).request.container.pod = visit.pod := rfl

end Visit

namespace Worker

/-- The visit that a worker is at. -/
def visit? (id : WorkerId) (worker : Worker) : Option Visit :=
  match worker.state with
  | .calling job _ attempt _ => some ⟨id, job, attempt⟩
  | _ => none

variable {settings : ExecutorSettings} {clock : Duration} {id : WorkerId}
  {worker next : Worker} {place nextPlace : Workplace} {action : WorkerAction}

/-- A call begins a visit or goes on with one. -/
theorem Step.visit_cases (step : Step settings clock id worker place action next nextPlace) :
    (∃ visit : Visit, visit.attempt = .whole ∧ next.visit? id = some visit ∧
        nextPlace.calls = place.calls ++ [visit.call .whole]) ∨
      (∃ (visit : Visit) (refused : List Dimension), visit.attempt = .whole ∧
        worker.visit? id = some visit ∧
        next.visit? id = some { visit with attempt := .reduced refused } ∧
        nextPlace.calls = place.calls ++ [visit.call (.reduced refused)]) ∨
      (next.visit? id = none ∧ nextPlace.calls = place.calls) := by
  cases step with
  | @start done place job lock held => exact .inl ⟨⟨id, job, .whole⟩, rfl, rfl, rfl⟩
  | @retry done place job lock since action reply now refused ends again =>
      exact .inr (.inl ⟨⟨id, job, .whole⟩, refused, rfl, rfl, rfl, rfl⟩)
  | leave | take | skip | lookUp | enqueue | finish | breakDown => exact .inr (.inr ⟨rfl, rfl⟩)

/-- Who is at a visit has the lock of the pod for it. -/
theorem claim?_of_visit? {visit : Visit} (visiting : worker.visit? id = some visit) :
    ∃ lock, worker.claim? = some ⟨visit.pod, lock, .calling⟩ := by
  rcases worker with ⟨state, done⟩
  cases state with
  | calling job lock attempt since =>
      cases visiting
      exact ⟨lock, rfl⟩
  | _ => contradiction

end Worker

namespace Executor

/-- The visit that a worker is at. -/
def visit? (executor : Executor) (id : WorkerId) : Option Visit :=
  (executor.worker? id).bind (Worker.visit? id)

/-- The calls for a pod. -/
def callsTo (executor : Executor) (pod : PodId) : List Call :=
  executor.calls.filter fun call => call.request.container.pod == pod

/-- The calls for a pod are those of the visits, and whoever is at a visit is at the last one. -/
structure Visited (executor : Executor) (pod : PodId) (visits : List Visit) : Prop where
  calls : executor.callsTo pod = visits.flatMap Visit.calls
  pods : ∀ visit ∈ visits, visit.pod = pod
  current : ∀ id visit, executor.visit? id = some visit → visit.pod = pod →
    visits.getLast? = some visit

variable {executor next : Executor} {action : Action} {pod : PodId} {visits : List Visit}

theorem claim?_of_visit? {id : WorkerId} {visit : Visit}
    (visiting : executor.visit? id = some visit) :
    ∃ lock, executor.claim? id = some ⟨visit.pod, lock, .calling⟩ := by
  rcases Option.bind_eq_some_iff.mp visiting with ⟨worker, present, visiting⟩
  obtain ⟨lock, claimed⟩ := Worker.claim?_of_visit? visiting
  exact ⟨lock, by rw [claim?, present, Option.bind_some, claimed]⟩

/-- At most one worker is at a visit of a pod. -/
theorem eq_of_visit? (sound : executor.locks.Sound executor.claim?) {id other : WorkerId}
    {visit otherVisit : Visit} (visiting : executor.visit? id = some visit)
    (otherVisiting : executor.visit? other = some otherVisit) (pods : otherVisit.pod = visit.pod) :
    other = id := by
  obtain ⟨lock, claimed⟩ := claim?_of_visit? visiting
  obtain ⟨otherLock, otherClaimed⟩ := claim?_of_visit? otherVisiting
  exact sound.eq_of_calling claimed rfl otherClaimed rfl pods

theorem SameClaims.visit?_eq (same : executor.SameClaims next) : next.visit? = executor.visit? := by
  funext id
  rcases same id with eq | ⟨before, after⟩
  · rw [visit?, visit?, eq]
  · have none_of {state : Executor} (free : state.claim? id = none) : state.visit? id = none := by
      rw [Option.eq_none_iff_forall_ne_some]
      intro visit visiting
      obtain ⟨lock, claimed⟩ := claim?_of_visit? visiting
      rw [free] at claimed
      contradiction
    rw [none_of before, none_of after]

private theorem callsTo_append {call : Call} (calls : next.calls = executor.calls ++ [call]) :
    next.callsTo pod =
      executor.callsTo pod ++ if call.request.container.pod = pod then [call] else [] := by
  rw [callsTo, callsTo, calls, List.filter_append]
  by_cases eq : call.request.container.pod = pod <;> simp [eq]

private theorem visit?_update {id : WorkerId} {after : Worker}
    (workers : next.worker? = Function.update executor.worker? id (some after)) :
    next.visit? = Function.update executor.visit? id (after.visit? id) := by
  funext other
  rw [visit?, workers]
  by_cases eq : other = id
  · subst other
    simp
  · simp [eq, visit?]

/-- A visit of another pod does not show. -/
private theorem Visited.of_ne (visited : executor.Visited pod visits) {id : WorkerId}
    {replacing : Option Visit} (calls : next.callsTo pod = executor.callsTo pod)
    (visiting : next.visit? = Function.update executor.visit? id replacing)
    (other : ∀ visit ∈ replacing, visit.pod ≠ pod) : next.Visited pod visits := by
  refine ⟨calls.trans visited.calls, visited.pods, ?_⟩
  intro someone visit isVisit inPod
  rw [visiting] at isVisit
  by_cases eq : someone = id
  · subst someone
    rw [Function.update_self] at isVisit
    exact absurd inPod (other visit isVisit)
  · rw [Function.update_of_ne eq] at isVisit
    exact visited.current someone visit isVisit inPod

/-- A first call begins a visit after the others. -/
private theorem Visited.begin (visited : executor.Visited pod visits) {visit : Visit}
    (whole : visit.attempt = .whole) (inPod : visit.pod = pod)
    (calls : next.calls = executor.calls ++ [visit.call .whole])
    (only : ∀ someone other, next.visit? someone = some other → other.pod = pod →
      other = visit) :
    next.Visited pod (visits ++ [visit]) := by
  constructor
  · rw [callsTo_append calls, visited.calls]
    simp [inPod, Visit.calls, whole]
  · intro other mem
    rcases List.mem_append.mp mem with old | new
    · exact visited.pods other old
    · rw [List.mem_singleton.mp new]
      exact inPod
  · intro someone other isOther otherInPod
    rw [only someone other isOther otherInPod]
    simp

/-- A second call goes on with the last visit. -/
private theorem Visited.goOn (visited : executor.Visited pod visits) {id : WorkerId}
    {visit : Visit} {refused : List Dimension} (before : executor.visit? id = some visit)
    (whole : visit.attempt = .whole) (inPod : visit.pod = pod)
    (calls : next.calls = executor.calls ++ [visit.call (.reduced refused)])
    (only : ∀ someone other, next.visit? someone = some other → other.pod = pod →
      other = { visit with attempt := .reduced refused }) :
    ∃ earlier, next.Visited pod (earlier ++ [{ visit with attempt := .reduced refused }]) := by
  have isLast := visited.current id visit before inPod
  rcases List.getLast?_eq_some_iff.mp isLast with ⟨earlier, rfl⟩
  refine ⟨earlier, ?_, ?_, ?_⟩
  · rw [callsTo_append calls, visited.calls, Visit.container_pod_call, if_pos inPod]
    simp [Visit.calls, whole, Visit.call]
  · intro other mem
    rcases List.mem_append.mp mem with old | new
    · exact visited.pods other (List.mem_append_left _ old)
    · rw [List.mem_singleton.mp new]
      exact inPod
  · intro someone other isOther otherInPod
    rw [only someone other isOther otherInPod]
    simp

/-- A step makes a new visit or goes on with the last one. -/
theorem LockStep.visited (step : LockStep executor next)
    (sound : next.locks.Sound next.claim?) (visited : executor.Visited pod visits) :
    ∃ nextVisits, next.Visited pod nextVisits := by
  cases step with
  | keep same calls locks =>
      refine ⟨visits, ?_, visited.pods, ?_⟩
      · rw [callsTo, calls]
        exact visited.calls
      · rw [same.visit?_eq]
        exact visited.current
  | prune same calls locks =>
      refine ⟨visits, ?_, visited.pods, ?_⟩
      · rw [callsTo, calls]
        exact visited.calls
      · rw [same.visit?_eq]
        exact visited.current
  | @work id worker after place nextPlace action present step locks calls workers nextLocks
      nextCalls =>
      have visiting := visit?_update workers
      -- Whoever is at a visit of the pod of this worker's visit is this worker.
      have only {visit : Visit} (isVisit : after.visit? id = some visit) (inPod : visit.pod = pod) :
          ∀ someone other, next.visit? someone = some other → other.pod = pod →
            other = visit := by
        have now : next.visit? id = some visit := by rw [visiting, Function.update_self, isVisit]
        intro someone other isOther otherInPod
        have same := eq_of_visit? sound now isOther (otherInPod.trans inPod.symm)
        rw [same, now] at isOther
        exact (Option.some.inj isOther).symm
      rcases step.visit_cases with ⟨visit, whole, isVisit, made⟩ |
        ⟨visit, refused, whole, wasVisit, isVisit, made⟩ | ⟨noVisit, made⟩
      · rw [← nextCalls, calls] at made
        by_cases inPod : visit.pod = pod
        · exact ⟨_, visited.begin whole inPod made (only isVisit inPod)⟩
        · refine ⟨visits, visited.of_ne ?_ visiting ?_⟩
          · simp [callsTo_append made, inPod]
          · rintro other isOther
            rw [isVisit] at isOther
            cases isOther
            exact inPod
      · rw [← nextCalls, calls] at made
        by_cases inPod : visit.pod = pod
        · have before : executor.visit? id = some visit := by
            rw [visit?, present, Option.bind_some, wasVisit]
          obtain ⟨earlier, goesOn⟩ := visited.goOn before whole inPod made (only isVisit inPod)
          exact ⟨_, goesOn⟩
        · refine ⟨visits, visited.of_ne ?_ visiting ?_⟩
          · simp [callsTo_append made, inPod]
          · rintro other isOther
            rw [isVisit] at isOther
            cases isOther
            exact inPod
      · rw [← nextCalls, calls] at made
        refine ⟨visits, visited.of_ne ?_ visiting ?_⟩
        · rw [callsTo, made, callsTo]
        · rw [noVisit]
          simp

theorem visited_ofSettings (settings : ExecutorSettings) (pod : PodId) :
    (ofSettings settings).Visited pod [] :=
  ⟨rfl, by simp, by simp [visit?, worker?, pool?, ofSettings]⟩

/-- The calls for a pod are always those of visits in turn. -/
theorem exists_visited_of_run? {settings : ExecutorSettings} {actions : List Action}
    (run : (ofSettings settings).run? actions = some executor) (pod : PodId) :
    ∃ visits, executor.Visited pod visits := by
  have both := run?_preserves
    (fun state => state.locks.Sound state.claim? ∧ ∃ visits, state.Visited pod visits)
    (fun holds step => by
      rcases holds with ⟨sound, visits, visited⟩
      have nextSound := step.lockStep.locks_sound sound
      exact ⟨nextSound, step.lockStep.visited nextSound visited⟩)
    run ⟨locks_sound_ofSettings settings, [], visited_ofSettings settings pod⟩
  exact both.2

/-- Nobody else can start a visit of a pod that is visited. -/
private theorem step?_start_eq_none (sound : executor.locks.Sound executor.claim?)
    {id other : WorkerId} {visit : Visit} {worker : Worker} {job : Job} {lock : Nat}
    (visiting : executor.visit? id = some visit) (present : executor.worker? other = some worker)
    (waiting : worker.state = .waiting job lock) (pods : job.plan.container.pod = visit.pod) :
    executor.step? (.work other .start) = none := by
  rw [Option.eq_none_iff_forall_ne_some]
  intro next started
  have otherClaimed : executor.claim? other = some ⟨visit.pod, lock, .waiting⟩ := by
    simp [claim?, present, Worker.claim?, waiting, pods]
  obtain ⟨visitLock, claimed⟩ := claim?_of_visit? visiting
  cases step?_eq_some_iff.mp started with
  | work here stage inPool step =>
      rw [worker?_of_running here stage, inPool] at present
      cases present
      cases step with
      | start held =>
          cases waiting
          have same := sound.eq_of_isHeldBy claimed rfl otherClaimed rfl held
          rw [same, claimed] at otherClaimed
          simp at otherClaimed
      | finish ends => cases ends
      | retry ends => cases ends

/-- However many executions overlap and in whichever order their workers act, a pod is visited by
one worker at a time, and the calls for it are those of one visit after the other.  Nobody else can
start there meanwhile.  Dropping the unused locks drops none that is claimed, and who comes to a
pod whose lock is held or waited for still does not get it.  When all executions have returned, no
lock is left. -/
theorem pods_visited_in_turn {settings : ExecutorSettings} {actions : List Action}
    (run : (ofSettings settings).run? actions = some executor) :
    (∀ id other visit otherVisit, executor.visit? id = some visit →
      executor.visit? other = some otherVisit → otherVisit.pod = visit.pod → other = id) ∧
    (∀ pod, ∃ visits, executor.Visited pod visits) ∧
    (∀ id other visit worker job lock, executor.visit? id = some visit →
      executor.worker? other = some worker → worker.state = .waiting job lock →
      job.plan.container.pod = visit.pod → executor.step? (.work other .start) = none) ∧
    (∀ id claim, executor.claim? id = some claim →
      executor.locks.prune.find? claim.pod = some claim.lock) ∧
    (∀ id claim other, executor.claim? id = some claim → claim.stage ≠ .lookedUp →
      executor.claim? other = none →
      let found := executor.locks.prune.lookUp claim.pod other
      found.1 = claim.lock ∧
        (found.2.enqueue found.1 other).isHeldBy found.1 other = false) ∧
    ((∀ execution ∈ executor.executions, execution.stage = .returned) →
      executor.locks.isEmpty = true) := by
  have sound := locks_sound_of_run? run
  refine ⟨?_, ?_, ?_, ?_, ?_, ?_⟩
  · intro id other visit otherVisit visiting otherVisiting pods
    exact eq_of_visit? sound visiting otherVisiting pods
  · exact exists_visited_of_run? run
  · intro id other visit worker job lock visiting present waiting pods
    exact step?_start_eq_none sound visiting present waiting pods
  · intro id claim claimed
    exact sound.find?_prune claimed
  · intro id claim other claimed queued absent
    exact sound.blocks claimed queued absent
  · intro allReturned
    rw [PodLocks.isEmpty, List.isEmpty_iff]
    apply Decidable.byContradiction
    intro someLock
    obtain ⟨execution, mem, unreturned⟩ := locksInUse_of_run? run someLock
    exact unreturned (allReturned execution mem)

/-- A plan for the pod that is shared by the executions below. -/
def sharedPlan : Plan :=
  .ofTargets ⟨⟨"default", "web"⟩, "app"⟩ ⟨100, 1000⟩ ⟨100, 2000⟩

/-- Two executions begin with a plan for the same pod; one is at its visit, the other waits. -/
def overlapping : List Action :=
  [.execute [sharedPlan] 1 1, .execute [sharedPlan] 1 1, .turn 0, .turn 1,
    .work ⟨0, 0⟩ .take, .work ⟨1, 0⟩ .take, .work ⟨1, 0⟩ (.lookUp default),
    .work ⟨0, 0⟩ (.lookUp default), .work ⟨0, 0⟩ .enqueue, .work ⟨1, 0⟩ .enqueue,
    .work ⟨0, 0⟩ .start]

theorem pods_visited_in_turn_overlapping :
    ∃ executor, (ofSettings .default).run? overlapping = some executor ∧
      executor.visit? ⟨0, 0⟩ = some ⟨⟨0, 0⟩, ⟨0, sharedPlan⟩, .whole⟩ ∧
      executor.visit? ⟨1, 0⟩ = none ∧
      executor.step? (.work ⟨1, 0⟩ .start) = none ∧
      (∃ visits, executor.Visited sharedPlan.container.pod visits) ∧
      executor.locks.prune.find? sharedPlan.container.pod = some 0 := by
  let executor := ((ofSettings .default).run? overlapping).get (by decide +kernel)
  have run : (ofSettings .default).run? overlapping = some executor := (Option.some_get _).symm
  have visiting : executor.visit? ⟨0, 0⟩ = some ⟨⟨0, 0⟩, ⟨0, sharedPlan⟩, .whole⟩ := by
    decide +kernel
  have present : executor.worker? ⟨1, 0⟩ = some ⟨.waiting ⟨0, sharedPlan⟩ 0, []⟩ := by
    decide +kernel
  have claimed : executor.claim? ⟨1, 0⟩ = some ⟨sharedPlan.container.pod, 0, .waiting⟩ := by
    decide +kernel
  obtain ⟨-, visited, excluded, kept, -⟩ := pods_visited_in_turn run
  exact ⟨executor, run, visiting, by decide +kernel,
    excluded _ _ _ _ _ _ visiting present rfl rfl, visited _, kept _ _ claimed⟩

end Executor

end PodSizing
