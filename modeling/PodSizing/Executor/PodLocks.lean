import PodSizing.Container

/-!
# Pod locks

Calls for one pod are made one at a time.  A table gives every pod in use a lock.  Whoever wants
the lock of a pod first looks it up, which makes it one of the users of the lock, then joins the
queue of the lock, and holds the lock when it is first in the queue.  A lock that is dropped from
the table lives on as long as it has users; a lock is dropped only when it has none, so that a
pod never has two locks in use.
-/

namespace PodSizing

/-- The lock of a pod. -/
structure PodLock (α : Type) where
  /-- Those who have looked the lock up and have not let go of it. -/
  users : List α
  /-- Those who want the lock, in the order in which they get it; the first holds it. -/
  waiting : List α
  deriving DecidableEq

/-- The locks that were ever made, by number, and the number of the lock that each pod has now. -/
structure PodLocks (α : Type) where
  locks : List (PodLock α)
  table : List (PodId × Nat)
  deriving DecidableEq

namespace PodLock

variable {α : Type} [DecidableEq α]

/-- A lock that one user has looked up. -/
def fresh (user : α) : PodLock α := ⟨[user], []⟩

/-- The lock after one more user has looked it up. -/
def addUser (lock : PodLock α) (user : α) : PodLock α :=
  { lock with users := lock.users ++ [user] }

/-- The lock after a user has joined its queue, at the end. -/
def enqueue (lock : PodLock α) (user : α) : PodLock α :=
  { lock with waiting := lock.waiting ++ [user] }

/-- The user is first in the queue. -/
def isHeldBy (lock : PodLock α) (user : α) : Bool :=
  lock.waiting.head? == some user

/-- The lock after a user has let go of it. -/
def release (lock : PodLock α) (user : α) : PodLock α :=
  ⟨lock.users.erase user, lock.waiting.erase user⟩

end PodLock

namespace PodLocks

variable {α : Type} [DecidableEq α]

/-- No lock has been made. -/
def empty : PodLocks α := ⟨[], []⟩

/-- The number of the lock that a pod has. -/
def find? (locks : PodLocks α) (pod : PodId) : Option Nat :=
  (locks.table.find? fun entry => entry.1 == pod).map Prod.snd

/-- Looks up the lock of a pod, making one where there is none. -/
def lookUp (locks : PodLocks α) (pod : PodId) (user : α) : Nat × PodLocks α :=
  match locks.find? pod with
  | some number =>
      (number, { locks with locks := locks.locks.modify number fun lock => lock.addUser user })
  | none =>
      let number := locks.locks.length
      (number, ⟨locks.locks ++ [.fresh user], locks.table ++ [(pod, number)]⟩)

/-- Joins the queue of a lock. -/
def enqueue (locks : PodLocks α) (number : Nat) (user : α) : PodLocks α :=
  { locks with locks := locks.locks.modify number fun lock => lock.enqueue user }

/-- The user is first in the queue of the lock. -/
def isHeldBy (locks : PodLocks α) (number : Nat) (user : α) : Bool :=
  locks.locks[number]?.any fun lock => lock.isHeldBy user

/-- Lets go of a lock. -/
def release (locks : PodLocks α) (number : Nat) (user : α) : PodLocks α :=
  { locks with locks := locks.locks.modify number fun lock => lock.release user }

/-- The lock has users. -/
def isUsed (locks : PodLocks α) (number : Nat) : Bool :=
  locks.locks[number]?.any fun lock => !lock.users.isEmpty

/-- Drops the locks that nobody uses from the table. -/
def prune (locks : PodLocks α) : PodLocks α :=
  { locks with table := locks.table.filter fun entry => locks.isUsed entry.2 }

/-- The number of pods that have a lock. -/
def size (locks : PodLocks α) : Nat := locks.table.length

/-- No pod has a lock. -/
def isEmpty (locks : PodLocks α) : Bool := locks.table.isEmpty

end PodLocks

end PodSizing
