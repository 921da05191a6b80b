import Mathlib.Logic.Function.Basic
import PodSizing.Executor.PodLocks

/-!
# Soundness of pod locks

Everyone who uses a lock makes a claim to it.  A table of locks is sound for some claims when the
users and the queue of each lock are those who claim it, when whoever calls is first in the queue,
and when the table leads from the pod of each claim to its lock.  Every operation keeps a table
sound; dropping the unused locks changes no claim.
-/

namespace PodSizing

/-- How far someone is who uses a lock. -/
inductive ClaimStage where
  | lookedUp
  | waiting
  /-- The lock is held for calls. -/
  | calling
  deriving DecidableEq

/-- The use of the lock of a pod. -/
structure Claim where
  pod : PodId
  lock : Nat
  stage : ClaimStage
  deriving DecidableEq

variable {α : Type} [DecidableEq α]

namespace PodLock

/-- The users of a lock and its queue are those who are at the given stages. -/
structure Sound (lock : PodLock α) (stages : α → Option ClaimStage) : Prop where
  users_nodup : lock.users.Nodup
  mem_users : ∀ user, user ∈ lock.users ↔ stages user ≠ none
  waiting_nodup : lock.waiting.Nodup
  mem_waiting : ∀ user, user ∈ lock.waiting ↔
    stages user = some .waiting ∨ stages user = some .calling
  held : ∀ user, stages user = some .calling → lock.isHeldBy user = true

variable {lock : PodLock α} {stages : α → Option ClaimStage} {user : α}

theorem isHeldBy_iff : lock.isHeldBy user = true ↔ lock.waiting.head? = some user := by
  simp [isHeldBy]

theorem mem_waiting_of_isHeldBy (holds : lock.isHeldBy user = true) : user ∈ lock.waiting :=
  List.mem_of_mem_head? (isHeldBy_iff.mp holds)

theorem isHeldBy_enqueue {other : α} (holds : lock.isHeldBy other = true) :
    (lock.enqueue user).isHeldBy other = true := by
  rw [isHeldBy_iff] at holds ⊢
  simp [enqueue, holds]

/-- A lock is held by one user at most. -/
theorem eq_of_isHeldBy {other : α} (holds : lock.isHeldBy user = true)
    (otherHolds : lock.isHeldBy other = true) : user = other := by
  rw [isHeldBy_iff] at holds otherHolds
  exact Option.some.inj (holds.symm.trans otherHolds)

theorem sound_fresh (user : α) :
    (fresh user).Sound (Function.update (fun _ => none) user (some .lookedUp)) := by
  refine ⟨by simp [fresh], ?_, by simp [fresh], ?_, ?_⟩
  · intro other
    by_cases eq : other = user <;> simp [fresh, eq]
  · intro other
    by_cases eq : other = user <;> simp [fresh, eq]
  · intro other
    by_cases eq : other = user <;> simp [eq]

theorem Sound.addUser (sound : lock.Sound stages) (absent : stages user = none) :
    (lock.addUser user).Sound (Function.update stages user (some .lookedUp)) := by
  have notUser : user ∉ lock.users := fun mem => (sound.mem_users user).mp mem absent
  refine ⟨?_, ?_, sound.waiting_nodup, ?_, ?_⟩
  · rw [PodLock.addUser, List.nodup_append]
    refine ⟨sound.users_nodup, by simp, ?_⟩
    rintro other mem new memNew rfl
    exact notUser (List.mem_singleton.mp memNew ▸ mem)
  · intro other
    by_cases eq : other = user
    · simp [PodLock.addUser, eq]
    · simp [PodLock.addUser, eq, sound.mem_users]
  · intro other
    by_cases eq : other = user
    · simp [PodLock.addUser, eq, sound.mem_waiting, absent]
    · simp [PodLock.addUser, eq, sound.mem_waiting]
  · intro other calling
    by_cases eq : other = user
    · simp [eq] at calling
    · rw [Function.update_of_ne eq] at calling
      exact sound.held other calling

theorem Sound.enqueue (sound : lock.Sound stages) (lookedUp : stages user = some .lookedUp) :
    (lock.enqueue user).Sound (Function.update stages user (some .waiting)) := by
  have notWaiting : user ∉ lock.waiting := by
    rw [sound.mem_waiting, lookedUp]
    simp
  refine ⟨sound.users_nodup, ?_, ?_, ?_, ?_⟩
  · intro other
    by_cases eq : other = user
    · simp [PodLock.enqueue, eq, sound.mem_users, lookedUp]
    · simp [PodLock.enqueue, eq, sound.mem_users]
  · rw [PodLock.enqueue, List.nodup_append]
    refine ⟨sound.waiting_nodup, by simp, ?_⟩
    rintro other mem new memNew rfl
    exact notWaiting (List.mem_singleton.mp memNew ▸ mem)
  · intro other
    by_cases eq : other = user
    · simp [PodLock.enqueue, eq]
    · simp [PodLock.enqueue, eq, sound.mem_waiting]
  · intro other calling
    by_cases eq : other = user
    · simp [eq] at calling
    · rw [Function.update_of_ne eq] at calling
      exact isHeldBy_enqueue (sound.held other calling)

theorem Sound.start (sound : lock.Sound stages) (waiting : stages user = some .waiting)
    (holds : lock.isHeldBy user = true) :
    lock.Sound (Function.update stages user (some .calling)) := by
  refine ⟨sound.users_nodup, ?_, sound.waiting_nodup, ?_, ?_⟩
  · intro other
    by_cases eq : other = user
    · simp [eq, sound.mem_users, waiting]
    · simp [eq, sound.mem_users]
  · intro other
    by_cases eq : other = user
    · simp [eq, sound.mem_waiting, waiting]
    · simp [eq, sound.mem_waiting]
  · intro other calling
    by_cases eq : other = user
    · exact eq ▸ holds
    · rw [Function.update_of_ne eq] at calling
      exact sound.held other calling

theorem Sound.release (sound : lock.Sound stages) (calling : stages user = some .calling) :
    (lock.release user).Sound (Function.update stages user none) := by
  refine ⟨sound.users_nodup.erase user, ?_, sound.waiting_nodup.erase user, ?_, ?_⟩
  · intro other
    by_cases eq : other = user
    · simp [PodLock.release, eq, sound.users_nodup.mem_erase_iff]
    · simp [PodLock.release, eq, sound.users_nodup.mem_erase_iff, sound.mem_users]
  · intro other
    by_cases eq : other = user
    · simp [PodLock.release, eq, sound.waiting_nodup.mem_erase_iff]
    · simp [PodLock.release, eq, sound.waiting_nodup.mem_erase_iff, sound.mem_waiting]
  · intro other otherCalling
    by_cases eq : other = user
    · simp [eq] at otherCalling
    · -- Whoever else calls would hold the lock too.
      rw [Function.update_of_ne eq] at otherCalling
      exact absurd (eq_of_isHeldBy (sound.held other otherCalling) (sound.held user calling)) eq

/-- When somebody stands in the queue, the first one there holds the lock. -/
theorem Sound.exists_holder (sound : lock.Sound stages) (queued : user ∈ lock.waiting) :
    ∃ holder, lock.isHeldBy holder = true ∧
      (stages holder = some .waiting ∨ stages holder = some .calling) := by
  cases queue : lock.waiting with
  | nil => simp [queue] at queued
  | cons holder rest =>
      have holds : lock.isHeldBy holder = true := by simp [isHeldBy_iff, queue]
      exact ⟨holder, holds, (sound.mem_waiting holder).mp (mem_waiting_of_isHeldBy holds)⟩

end PodLock

namespace PodLocks

/-- The stages of those who claim the lock of a number. -/
def stagesAt (claims : α → Option Claim) (number : Nat) (user : α) : Option ClaimStage :=
  (claims user).bind fun claim => if claim.lock = number then some claim.stage else none

/-- Each pod has one lock at most, the locks are used as claimed, and the pod of a claim has the
lock of the claim. -/
structure Sound (locks : PodLocks α) (claims : α → Option Claim) : Prop where
  pods : (locks.table.map Prod.fst).Nodup
  made : ∀ entry ∈ locks.table, entry.2 < locks.locks.length
  used : ∀ (number : Nat) (lock : PodLock α), locks.locks[number]? = some lock →
    lock.Sound (stagesAt claims number)
  found : ∀ user claim, claims user = some claim → locks.find? claim.pod = some claim.lock

theorem sound_empty : (empty : PodLocks α).Sound fun _ => none :=
  ⟨by simp [empty], by simp [empty], by simp [empty], by simp⟩

variable {locks : PodLocks α} {claims : α → Option Claim} {user : α} {claim : Claim}
  {pod : PodId} {number : Nat}

omit [DecidableEq α] in
theorem stagesAt_of_claim (claimed : claims user = some claim) :
    stagesAt claims claim.lock user = some claim.stage := by
  simp [stagesAt, claimed]

omit [DecidableEq α] in
theorem exists_claim_of_stagesAt {stage : ClaimStage}
    (atStage : stagesAt claims number user = some stage) :
    ∃ claim, claims user = some claim ∧ claim.lock = number ∧ claim.stage = stage := by
  rcases Option.bind_eq_some_iff.mp atStage with ⟨claim, claimed, isStage⟩
  split at isStage
  · rename_i same
    exact ⟨claim, claimed, same, Option.some.inj isStage⟩
  · contradiction

theorem stagesAt_update (claims : α → Option Claim) (user : α) (claim : Option Claim)
    (number : Nat) :
    stagesAt (Function.update claims user claim) number =
      Function.update (stagesAt claims number) user
        (claim.bind fun claim => if claim.lock = number then some claim.stage else none) := by
  funext other
  by_cases eq : other = user
  · subst other
    simp [stagesAt]
  · simp [stagesAt, eq]

/-- A change of a claim leaves the other locks alone. -/
theorem stagesAt_update_of_ne {replacing : Option Claim}
    (absent : stagesAt claims number user = none)
    (other : ∀ claim ∈ replacing, claim.lock ≠ number) :
    stagesAt (Function.update claims user replacing) number = stagesAt claims number := by
  rw [stagesAt_update]
  cases replacing with
  | none => rw [Option.bind_none, ← absent, Function.update_eq_self]
  | some claim =>
      rw [Option.bind_some, if_neg (other claim rfl), ← absent, Function.update_eq_self]

private theorem find?_entry_iff {table : List (PodId × Nat)} (pods : (table.map Prod.fst).Nodup) :
    (table.find? fun entry => entry.1 == pod).map Prod.snd = some number ↔
      (pod, number) ∈ table := by
  induction table with
  | nil => simp
  | cons entry rest ih =>
      rcases entry with ⟨other, otherNumber⟩
      rw [List.map_cons, List.nodup_cons] at pods
      by_cases eq : other = pod
      · subst other
        have absent : (pod, number) ∉ rest := fun mem => pods.1 (List.mem_map.mpr ⟨_, mem, rfl⟩)
        simp [absent, eq_comm]
      · simp [eq, ih pods.2, Ne.symm eq]

omit [DecidableEq α] in
/-- The lock of a pod is the one that stands in the table. -/
theorem find?_eq_some_iff (pods : (locks.table.map Prod.fst).Nodup) :
    locks.find? pod = some number ↔ (pod, number) ∈ locks.table :=
  find?_entry_iff pods

omit [DecidableEq α] in
theorem find?_eq_none_iff : locks.find? pod = none ↔ ∀ entry ∈ locks.table, entry.1 ≠ pod := by
  simp [find?]

namespace Sound

/-- Who claims a lock uses it. -/
theorem exists_lock (sound : locks.Sound claims) (claimed : claims user = some claim) :
    ∃ lock, locks.locks[claim.lock]? = some lock ∧ lock.Sound (stagesAt claims claim.lock) ∧
      user ∈ lock.users := by
  have entry := (find?_eq_some_iff sound.pods).mp (sound.found user claim claimed)
  have here := List.getElem?_eq_getElem (sound.made _ entry)
  have lockSound := sound.used _ _ here
  refine ⟨_, here, lockSound, (lockSound.mem_users user).mpr ?_⟩
  rw [stagesAt_of_claim claimed]
  simp

/-- A change of one lock, and of a claim to it, keeps the others sound. -/
private theorem used_modify (sound : locks.Sound claims) {change : PodLock α → PodLock α}
    {replacing : Option Claim}
    (absent : ∀ other, other ≠ number → stagesAt claims other user = none)
    (same : ∀ claim ∈ replacing, claim.lock = number)
    (changed : ∀ lock, locks.locks[number]? = some lock → lock.Sound (stagesAt claims number) →
      (change lock).Sound (stagesAt (Function.update claims user replacing) number)) :
    ∀ (other : Nat) (lock : PodLock α), (locks.locks.modify number change)[other]? = some lock →
      lock.Sound (stagesAt (Function.update claims user replacing) other) := by
  intro other lock here
  rw [List.getElem?_modify, Option.map_eq_map, Option.map_eq_some_iff] at here
  rcases here with ⟨before, was, rfl⟩
  by_cases eq : number = other
  · subst other
    rw [if_pos rfl]
    exact changed before was (sound.used number before was)
  · rw [if_neg eq, stagesAt_update_of_ne (absent other (Ne.symm eq))]
    · exact sound.used other before was
    · rintro claim mem rfl
      exact eq (same claim mem).symm

/-- The pods of the claims have their locks after a change of one claim. -/
private theorem found_update (sound : locks.Sound claims) {next : PodLocks α}
    {replacing : Option Claim}
    (kept : ∀ pod number, locks.find? pod = some number → next.find? pod = some number)
    (new : ∀ claim ∈ replacing, next.find? claim.pod = some claim.lock) :
    ∀ other claim, Function.update claims user replacing other = some claim →
      next.find? claim.pod = some claim.lock := by
  intro other claim claimed
  by_cases eq : other = user
  · subst other
    rw [Function.update_self] at claimed
    exact new claim claimed
  · rw [Function.update_of_ne eq] at claimed
    exact kept _ _ (sound.found other claim claimed)

omit [DecidableEq α] in
private theorem stagesAt_of_ne (claimed : claims user = some claim) {other : Nat}
    (ne : other ≠ claim.lock) : stagesAt claims other user = none := by
  simp [stagesAt, claimed, Ne.symm ne]

/-- A claim may move on to another stage together with its lock. -/
private theorem modify (sound : locks.Sound claims) (claimed : claims user = some claim)
    {change : PodLock α → PodLock α} {stage : ClaimStage}
    (changed : ∀ lock, locks.locks[claim.lock]? = some lock →
      lock.Sound (stagesAt claims claim.lock) →
      (change lock).Sound (Function.update (stagesAt claims claim.lock) user (some stage))) :
    Sound { locks with locks := locks.locks.modify claim.lock change }
      (Function.update claims user (some { claim with stage })) := by
  refine ⟨sound.pods, ?_, ?_, ?_⟩
  · simpa using sound.made
  · apply sound.used_modify (fun other ne => stagesAt_of_ne claimed ne) _ _
    · rintro replaced ⟨⟩
      rfl
    · intro lock here lockSound
      rw [stagesAt_update, Option.bind_some, if_pos rfl]
      exact changed lock here lockSound
  · apply sound.found_update (fun _ _ found => found) _
    rintro replaced ⟨⟩
    exact sound.found user claim claimed

theorem enqueue (sound : locks.Sound claims) (claimed : claims user = some claim)
    (lookedUp : claim.stage = .lookedUp) :
    (locks.enqueue claim.lock user).Sound
      (Function.update claims user (some { claim with stage := .waiting })) := by
  apply sound.modify claimed _
  intro lock here lockSound
  apply lockSound.enqueue
  rw [stagesAt_of_claim claimed, lookedUp]

theorem start (sound : locks.Sound claims) (claimed : claims user = some claim)
    (waiting : claim.stage = .waiting) (holds : locks.isHeldBy claim.lock user = true) :
    locks.Sound (Function.update claims user (some { claim with stage := .calling })) := by
  have unchanged : locks = { locks with locks := locks.locks.modify claim.lock id } := by
    rw [List.modify_id]
  rw [unchanged]
  apply sound.modify claimed _
  intro lock here lockSound
  have lockHeld : lock.isHeldBy user = true := by simpa [isHeldBy, here] using holds
  apply lockSound.start _ lockHeld
  rw [stagesAt_of_claim claimed, waiting]

theorem release (sound : locks.Sound claims) (claimed : claims user = some claim)
    (calling : claim.stage = .calling) :
    (locks.release claim.lock user).Sound (Function.update claims user none) := by
  refine ⟨sound.pods, ?_, ?_, ?_⟩
  · simpa [PodLocks.release] using sound.made
  · apply sound.used_modify (fun other ne => stagesAt_of_ne claimed ne) (by simp) _
    intro lock here lockSound
    rw [stagesAt_update, Option.bind_none]
    apply lockSound.release
    rw [stagesAt_of_claim claimed, calling]
  · exact sound.found_update (fun _ _ found => found) (by simp)

/-- Nobody claims a lock that has not been made. -/
private theorem stagesAt_length (sound : locks.Sound claims) :
    stagesAt claims locks.locks.length = fun _ => none := by
  funext user
  rw [Option.eq_none_iff_forall_ne_some]
  intro stage atStage
  obtain ⟨claim, claimed, number, -⟩ := exists_claim_of_stagesAt atStage
  obtain ⟨lock, here, -⟩ := sound.exists_lock claimed
  rw [number] at here
  simp at here

/-- Looking up a lock that stands in the table makes a claim to it. -/
private theorem lookUp_old (sound : locks.Sound claims) (absent : claims user = none)
    (found : locks.find? pod = some number) :
    PodLocks.Sound { locks with locks := locks.locks.modify number fun lock => lock.addUser user }
      (Function.update claims user (some ⟨pod, number, .lookedUp⟩)) := by
  have noStage : ∀ other, stagesAt claims other user = none := by
    intro other
    simp [stagesAt, absent]
  refine ⟨sound.pods, ?_, ?_, ?_⟩
  · simpa using sound.made
  · apply sound.used_modify (fun other _ => noStage other)
    · rintro claim ⟨⟩
      rfl
    · intro lock here lockSound
      rw [stagesAt_update, Option.bind_some, if_pos rfl]
      exact lockSound.addUser (noStage number)
  · apply sound.found_update (fun _ _ kept => kept)
    rintro claim ⟨⟩
    exact found

/-- A lock that is made for a pod is claimed by the one who looks it up. -/
private theorem lookUp_new (sound : locks.Sound claims) (absent : claims user = none)
    (found : locks.find? pod = none) :
    PodLocks.Sound
      ⟨locks.locks ++ [.fresh user], locks.table ++ [(pod, locks.locks.length)]⟩
      (Function.update claims user (some ⟨pod, locks.locks.length, .lookedUp⟩)) := by
  have noStage : ∀ other, stagesAt claims other user = none := by
    intro other
    simp [stagesAt, absent]
  rw [find?_eq_none_iff] at found
  refine ⟨?_, ?_, ?_, ?_⟩
  · rw [List.map_append, List.nodup_append]
    refine ⟨sound.pods, by simp, ?_⟩
    rintro other mem new memNew rfl
    rcases List.mem_map.mp mem with ⟨entry, inTable, isPod⟩
    exact found entry inTable (isPod.trans (List.mem_singleton.mp memNew))
  · intro entry mem
    rw [List.length_append, List.length_singleton]
    rcases List.mem_append.mp mem with old | new
    · exact Nat.lt_succ_of_lt (sound.made entry old)
    · rw [List.mem_singleton.mp new]
      exact Nat.lt_succ_self _
  · intro number lock here
    rcases Nat.lt_or_ge number locks.locks.length with bound | bound
    · rw [List.getElem?_append_left bound] at here
      rw [stagesAt_update_of_ne (noStage number)]
      · exact sound.used number lock here
      · rintro claim ⟨⟩
        exact (Nat.ne_of_lt bound).symm
    · rw [List.getElem?_append_right bound, List.getElem?_singleton] at here
      split at here
      · have eq : locks.locks.length = number := by omega
        cases here
        rw [stagesAt_update, Option.bind_some, if_pos eq, ← eq, sound.stagesAt_length]
        exact PodLock.sound_fresh user
      · contradiction
  · apply sound.found_update
    · intro other number kept
      rw [find?, Option.map_eq_some_iff] at kept ⊢
      rcases kept with ⟨entry, first, rfl⟩
      exact ⟨entry, by simp [List.find?_append, first], rfl⟩
    · rintro claim ⟨⟩
      rw [find?, List.find?_append, List.find?_eq_none.mpr (by simpa using found)]
      simp

/-- Looking up the lock of a pod makes a claim to it. -/
theorem lookUp (sound : locks.Sound claims) (absent : claims user = none) (pod : PodId) :
    (locks.lookUp pod user).2.Sound
      (Function.update claims user (some ⟨pod, (locks.lookUp pod user).1, .lookedUp⟩)) := by
  cases found : locks.find? pod with
  | some number =>
      simp only [PodLocks.lookUp, found]
      exact sound.lookUp_old absent found
  | none =>
      simp only [PodLocks.lookUp, found]
      exact sound.lookUp_new absent found

/-- Dropping the unused locks drops none that is claimed. -/
theorem find?_prune (sound : locks.Sound claims) (claimed : claims user = some claim) :
    locks.prune.find? claim.pod = some claim.lock := by
  have entry := (find?_eq_some_iff sound.pods).mp (sound.found user claim claimed)
  obtain ⟨lock, here, -, isUser⟩ := sound.exists_lock claimed
  have used : locks.isUsed claim.lock = true := by
    simp [isUsed, here, List.ne_nil_of_mem isUser]
  have pods : (locks.prune.table.map Prod.fst).Nodup :=
    sound.pods.sublist (List.Sublist.map _ List.filter_sublist)
  exact (find?_eq_some_iff pods).mpr (List.mem_filter.mpr ⟨entry, used⟩)

theorem prune (sound : locks.Sound claims) : locks.prune.Sound claims where
  pods := sound.pods.sublist (List.Sublist.map _ List.filter_sublist)
  made entry mem := sound.made entry (List.mem_filter.mp mem).1
  used := sound.used
  found _ _ claimed := sound.find?_prune claimed

/-- The table is empty after the unused locks were dropped when nobody claims one. -/
theorem table_prune_eq_nil (sound : locks.Sound claims) (nobody : ∀ user, claims user = none) :
    locks.prune.table = [] := by
  rw [PodLocks.prune, List.filter_eq_nil_iff]
  intro entry mem used
  have here := List.getElem?_eq_getElem (sound.made entry mem)
  have lockSound := sound.used _ _ here
  rw [isUsed, here, Option.any_some, Bool.not_eq_true', List.isEmpty_eq_false_iff] at used
  obtain ⟨user, isUser⟩ := List.exists_mem_of_ne_nil _ used
  apply (lockSound.mem_users user).mp isUser
  simp [stagesAt, nobody]

/-- Who calls holds the lock. -/
theorem isHeldBy (sound : locks.Sound claims) (claimed : claims user = some claim)
    (calling : claim.stage = .calling) : locks.isHeldBy claim.lock user = true := by
  obtain ⟨lock, here, lockSound, -⟩ := sound.exists_lock claimed
  rw [PodLocks.isHeldBy, here, Option.any_some]
  apply lockSound.held
  rw [stagesAt_of_claim claimed, calling]

/-- Nobody else holds the lock of a pod for which somebody calls. -/
theorem eq_of_isHeldBy (sound : locks.Sound claims) {other : α} {otherClaim : Claim}
    (claimed : claims user = some claim) (calling : claim.stage = .calling)
    (otherClaimed : claims other = some otherClaim) (pods : otherClaim.pod = claim.pod)
    (holds : locks.isHeldBy otherClaim.lock other = true) : other = user := by
  have found := sound.found other otherClaim otherClaimed
  rw [pods, sound.found user claim claimed] at found
  have same : claim.lock = otherClaim.lock := Option.some.inj found
  have held := sound.isHeldBy claimed calling
  obtain ⟨lock, here, -⟩ := sound.exists_lock claimed
  rw [PodLocks.isHeldBy, here, Option.any_some] at held
  rw [PodLocks.isHeldBy, ← same, here, Option.any_some] at holds
  exact PodLock.eq_of_isHeldBy holds held

/-- For one pod there is one caller at most. -/
theorem eq_of_calling (sound : locks.Sound claims) {other : α} {otherClaim : Claim}
    (claimed : claims user = some claim) (calling : claim.stage = .calling)
    (otherClaimed : claims other = some otherClaim) (otherCalling : otherClaim.stage = .calling)
    (pods : otherClaim.pod = claim.pod) : other = user :=
  sound.eq_of_isHeldBy claimed calling otherClaimed pods
    (sound.isHeldBy otherClaimed otherCalling)

/-- Who waits or calls stands in the queue of the lock. -/
private theorem exists_queue (sound : locks.Sound claims) (claimed : claims user = some claim)
    (queued : claim.stage ≠ .lookedUp) :
    ∃ lock, locks.locks[claim.lock]? = some lock ∧ lock.Sound (stagesAt claims claim.lock) ∧
      user ∈ lock.waiting := by
  obtain ⟨lock, here, lockSound, -⟩ := sound.exists_lock claimed
  refine ⟨lock, here, lockSound, (lockSound.mem_waiting user).mpr ?_⟩
  rw [stagesAt_of_claim claimed]
  cases stage : claim.stage with
  | lookedUp => exact absurd stage queued
  | waiting => exact .inl rfl
  | calling => exact .inr rfl

/-- When somebody stands in the queue of a lock, the first one there holds it. -/
theorem exists_holder (sound : locks.Sound claims) (claimed : claims user = some claim)
    (queued : claim.stage ≠ .lookedUp) :
    ∃ holder held, claims holder = some held ∧ held.stage ≠ .lookedUp ∧
      locks.isHeldBy held.lock holder = true := by
  obtain ⟨lock, here, lockSound, inQueue⟩ := sound.exists_queue claimed queued
  obtain ⟨holder, holds, stage⟩ := lockSound.exists_holder inQueue
  have lockHeld : locks.isHeldBy claim.lock holder = true := by
    rw [PodLocks.isHeldBy, here, Option.any_some]
    exact holds
  rcases stage with holderWaits | holderCalls
  · obtain ⟨held, heldClaimed, number, isWaiting⟩ := exists_claim_of_stagesAt holderWaits
    exact ⟨holder, held, heldClaimed, by simp [isWaiting], by rw [number]; exact lockHeld⟩
  · obtain ⟨held, heldClaimed, number, isCalling⟩ := exists_claim_of_stagesAt holderCalls
    exact ⟨holder, held, heldClaimed, by simp [isCalling], by rw [number]; exact lockHeld⟩

/-- Who comes to a pod whose lock is held or waited for gets the same lock, also after the unused
locks were dropped, and does not hold it. -/
theorem blocks (sound : locks.Sound claims) (claimed : claims user = some claim)
    (queued : claim.stage ≠ .lookedUp) {other : α} (absent : claims other = none) :
    let found := locks.prune.lookUp claim.pod other
    found.1 = claim.lock ∧ (found.2.enqueue found.1 other).isHeldBy found.1 other = false := by
  have lookedUp : locks.prune.lookUp claim.pod other = (claim.lock,
      { locks.prune with
        locks := locks.prune.locks.modify claim.lock fun lock => lock.addUser other }) := by
    simp [PodLocks.lookUp, sound.find?_prune claimed]
  obtain ⟨lock, here, lockSound, inQueue⟩ := sound.exists_queue claimed queued
  have pruned : locks.prune.locks[claim.lock]? = some lock := here
  obtain ⟨holder, holds, stage⟩ := lockSound.exists_holder inQueue
  have ne : other ≠ holder := by
    rintro rfl
    simp [stagesAt, absent] at stage
  have stillHolds : ((lock.addUser other).enqueue other).isHeldBy holder = true :=
    PodLock.isHeldBy_enqueue holds
  simp only [lookedUp, PodLocks.enqueue, PodLocks.isHeldBy, List.getElem?_modify_eq, pruned,
    Option.map_eq_map, Option.map_some, Option.any_some, true_and]
  rw [Bool.eq_false_iff]
  exact fun otherHolds => ne (PodLock.eq_of_isHeldBy otherHolds stillHolds)

end Sound

end PodLocks

end PodSizing
