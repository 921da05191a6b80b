import PodSizing.Container
import PodSizing.Event
import PodSizing.Instant
import PodSizing.Proofs.Lookup

/-!
# Cooldowns

The table of the last change of each dimension of each container.  A dimension rests from its last
change until the window after it has passed.  An entry whose window has passed no longer matters,
so it may be dropped: `isResting_prune` says that no later question is answered differently.
-/

namespace PodSizing

/-- One dimension of one container. -/
abbrev CooldownKey := ContainerId × Dimension

namespace Cooldown

/-- The longest window that is taken as given: `2 ^ 63 - 1` milliseconds. -/
def maxWindow : Duration := .ofMillis (Nat.pow 2 63 - 1)

/-- What stands for a longer window: a century of 5200 weeks. -/
def century : Duration := .ofSeconds (5200 * 7 * 86400)

/-- The end of the window after a change, at most the last instant. -/
def expiry (changed : Instant) (window : Duration) : Instant :=
  let window := if maxWindow.nanos < window.nanos then century else window
  (changed.add? window).getD .last

end Cooldown

/-- The instant of the last change of each dimension of each container. -/
structure CooldownTable where
  entries : List (CooldownKey × Instant)
  nodup_keys : (entries.map Prod.fst).Nodup

namespace CooldownTable

/-- No change has been recorded. -/
def empty : CooldownTable := ⟨[], List.nodup_nil⟩

instance : Inhabited CooldownTable := ⟨empty⟩

/-- The number of changes that are remembered. -/
def size (table : CooldownTable) : Nat := table.entries.length

/-- No change is remembered. -/
def isEmpty (table : CooldownTable) : Bool := table.entries.isEmpty

/-- The instant of the last change. -/
def get? (table : CooldownTable) (key : CooldownKey) : Option Instant :=
  table.entries.lookup key

/-- Records a change.  What was recorded before for the same dimension is forgotten. -/
def record (table : CooldownTable) (key : CooldownKey) (changed : Instant) : CooldownTable where
  entries := (key, changed) :: table.entries.filter fun entry => entry.1 != key
  nodup_keys := by
    simp only [List.map_cons, List.nodup_cons]
    constructor
    · simp
    · exact List.Nodup.sublist (List.Sublist.map _ List.filter_sublist) table.nodup_keys

/-- The dimension was changed less than a window ago. -/
def isResting (table : CooldownTable) (key : CooldownKey) (now : Instant) (window : Duration) :
    Bool :=
  match table.get? key with
  | some changed => now < Cooldown.expiry changed window
  | none => false

/-- Drops the entries whose window has passed. -/
def prune (table : CooldownTable) (now : Instant) (window : Duration) : CooldownTable where
  entries := table.entries.filter fun entry => now < Cooldown.expiry entry.2 window
  nodup_keys :=
    List.Nodup.sublist (List.Sublist.map _ List.filter_sublist) table.nodup_keys

/-- The number of entries that `prune` drops. -/
def prunedCount (table : CooldownTable) (now : Instant) (window : Duration) : Nat :=
  table.size - (table.prune now window).size

/-- The event for a recorded change. -/
def recordEvent (key : CooldownKey) : Event where
  severity := .debug
  message := "Recording cooldown"
  fields := [("container", .text key.1.toText), ("dimension", .text key.2.name)]

/-- A recorded change is found again, and no other entry is touched. -/
theorem get?_record (table : CooldownTable) (key other : CooldownKey) (changed : Instant) :
    (table.record key changed).get? other =
      if other = key then some changed else table.get? other := by
  simp only [get?, record, List.lookup_cons]
  by_cases eq : other = key
  · simp [eq]
  · simp [eq, lookup_filter_ne eq, beq_eq_false_iff_ne.2 eq]

private theorem lookup_filter {entries : List (CooldownKey × Instant)}
    (nodup : (entries.map Prod.fst).Nodup) (keep : Instant → Bool) (key : CooldownKey) :
    (entries.filter fun entry => keep entry.2).lookup key = (entries.lookup key).filter keep := by
  induction entries with
  | nil => rfl
  | cons entry rest ih =>
      obtain ⟨key', changed⟩ := entry
      simp only [List.map_cons, List.nodup_cons] at nodup
      have ih := ih nodup.2
      by_cases eq : key = key'
      · subst eq
        cases kept : keep changed
        · have absent : rest.lookup key = none := lookup_eq_none_of_notMem nodup.1
          simp [Option.filter, kept, ih, absent]
        · simp [Option.filter, kept]
      · cases kept : keep changed <;>
          simp [kept, List.lookup_cons, beq_eq_false_iff_ne.2 eq, ih]

/-- An entry survives pruning exactly when its window has not passed. -/
theorem get?_prune (table : CooldownTable) (now : Instant) (window : Duration)
    (key : CooldownKey) :
    (table.prune now window).get? key =
      (table.get? key).filter fun changed => now < Cooldown.expiry changed window :=
  lookup_filter table.nodup_keys (fun changed => decide (now < Cooldown.expiry changed window)) key

/-- Pruning changes no answer about the same or a later instant. -/
theorem isResting_prune (table : CooldownTable) {pruned now : Instant} (le : pruned ≤ now)
    (window : Duration) (key : CooldownKey) :
    (table.prune pruned window).isResting key now window = table.isResting key now window := by
  simp only [isResting, get?_prune]
  cases table.get? key with
  | none => rfl
  | some changed =>
      by_cases kept : pruned < Cooldown.expiry changed window
      · simp [Option.filter, kept]
      · have expired : ¬ now < Cooldown.expiry changed window := by
          intro resting
          exact kept (Int.lt_of_le_of_lt le resting)
        simp [Option.filter, kept, expired]

end CooldownTable

end PodSizing
