import PodSizing.Binary64.Shortest
import PodSizing.Dimension
import PodSizing.Duration

/-!
# Policies

A policy says when a container is resized and how far: thresholds in percent of what is
configured, the multiplier from usage to the new value, the range of allowed values in each
dimension, and the time for which a dimension rests after a change.  The executor settings say how
plans are applied.  `check` refuses what the rest of the program is not prepared for, and says
why.
-/

namespace PodSizing

/-- The inclusive range of the values that a dimension may be resized to. -/
structure Bounds where
  min : Nat
  max : Nat
  deriving DecidableEq

namespace Bounds

/-- The bounds leave no value. -/
def isInverted (bounds : Bounds) : Bool := bounds.max < bounds.min

/-- The allowed value nearest to the given one; there is none between inverted bounds. -/
def clamp? (bounds : Bounds) (value : Nat) : Option Nat :=
  if bounds.isInverted then none
  else if value < bounds.min then some bounds.min
  else if bounds.max < value then some bounds.max
  else some value

/-- The value lies within the bounds. -/
def contains (bounds : Bounds) (value : Nat) : Bool :=
  bounds.min ≤ value && value ≤ bounds.max

theorem contains_of_clamp? {bounds : Bounds} {value clamped : Nat}
    (h : bounds.clamp? value = some clamped) : bounds.contains clamped = true := by
  simp only [clamp?] at h
  split at h
  · simp at h
  · rename_i ordered
    have ordered : bounds.min ≤ bounds.max := by simpa [isInverted] using ordered
    simp only [contains, Bool.and_eq_true, decide_eq_true_eq]
    split at h
    · simp_all
    · split at h <;> simp only [Option.some.injEq] at h <;> omega

theorem isSome_clamp? {bounds : Bounds} {value : Nat} :
    (bounds.clamp? value).isSome = !bounds.isInverted := by
  simp only [clamp?]
  split
  · simp_all
  · split
    · simp_all
    · split <;> simp_all

end Bounds

/-- When and how far containers are resized. -/
structure Policy where
  /-- Utilization in percent above which a dimension grows. -/
  upperThreshold : Binary64
  /-- Utilization in percent below which a dimension shrinks. -/
  lowerThreshold : Binary64
  /-- Allowed millicores and bytes. -/
  bounds : PerDimension Bounds
  /-- The least number of seconds between two changes of one dimension of one container. -/
  cooldownSeconds : Nat
  /-- The new value is the usage times this number, moved into the bounds. -/
  stepMultiplier : Binary64
  deriving DecidableEq

namespace Policy

/-- Between 30 and 80 percent nothing changes; a change aims at 1.2 times the usage; 10 to 4000
millicores, 64 MiB to 8 GiB; five minutes of rest. -/
def default : Policy where
  upperThreshold := .ofNat 80
  lowerThreshold := .ofNat 30
  bounds := ⟨⟨10, 4000⟩, ⟨64 * 1024 * 1024, 8192 * 1024 * 1024⟩⟩
  cooldownSeconds := 300
  stepMultiplier := .ofDecimal false 12 (-1)

/-- The time for which a dimension rests after a change. -/
def cooldown (policy : Policy) : Duration := .ofSeconds policy.cooldownSeconds

end Policy

/-- How the plans of a cycle are applied. -/
structure ExecutorSettings where
  /-- Plans in a batch at most. -/
  batchSize : Nat
  /-- Plans applied at a time within a batch at most. -/
  concurrency : Nat
  /-- The time given to one call of the runtime. -/
  applyTimeoutMillis : Nat
  /-- Batches that have not started by then are put off to the next cycle. -/
  cycleDeadlineSeconds : Option Nat
  /-- The pause between two batches. -/
  batchDelayMillis : Nat
  /-- Plans are made and reported, but the runtime is not called. -/
  dryRun : Bool
  deriving DecidableEq

namespace ExecutorSettings

/-- Batches of three plans, three workers, ten seconds for a call; no deadline and no pause. -/
def default : ExecutorSettings where
  batchSize := 3
  concurrency := 3
  applyTimeoutMillis := 10000
  cycleDeadlineSeconds := none
  batchDelayMillis := 0
  dryRun := false

/-- The time that a call of the runtime is given. -/
def applyTimeout (settings : ExecutorSettings) : Duration := .ofMillis settings.applyTimeoutMillis

/-- The pause between two batches. -/
def batchDelay (settings : ExecutorSettings) : Duration := .ofMillis settings.batchDelayMillis

/-- The time after which no further batch is begun. -/
def cycleDeadline (settings : ExecutorSettings) : Option Duration :=
  settings.cycleDeadlineSeconds.map .ofSeconds

end ExecutorSettings

/-- Why settings are refused. -/
inductive SettingsError where
  /-- The upper threshold does not lie above the lower one. -/
  | thresholdOrder (upper lower : Binary64)
  /-- A threshold is negative or not finite. -/
  | thresholdRange (percent : Binary64)
  | invertedBounds (dimension : Dimension) (bounds : Bounds)
  /-- The multiplier is not a positive finite number. -/
  | stepMultiplier (multiplier : Binary64)
  /-- A size that has to be at least one is zero. -/
  | zeroSize (setting : String)
  | zeroTimeout
  deriving DecidableEq

/-- The text of a refusal. -/
def SettingsError.message : SettingsError → String
  | .thresholdOrder upper lower =>
      "upper threshold (" ++ upper.toText ++ "%) must be greater than lower threshold (" ++
        lower.toText ++ "%)"
  | .thresholdRange percent => "threshold " ++ percent.toText ++ "% is out of range"
  | .invertedBounds dimension bounds =>
      dimension.name ++ " minimum (" ++ toString bounds.min ++ ") exceeds maximum (" ++
        toString bounds.max ++ ")"
  | .stepMultiplier multiplier =>
      "step multiplier must be positive, got " ++ multiplier.toText
  | .zeroSize setting => setting ++ " must be at least 1"
  | .zeroTimeout => "apply timeout must be non-zero"

namespace Policy

/-- A threshold is a finite number and not negative. -/
def isThreshold (percent : Binary64) : Bool :=
  percent.isFinite && !percent.lt (.ofNat 0)

/-- Accepts a policy or gives the first reason against it. -/
def check (policy : Policy) : Except SettingsError Unit := do
  for percent in [policy.upperThreshold, policy.lowerThreshold] do
    unless isThreshold percent do throw (.thresholdRange percent)
  if policy.upperThreshold.le policy.lowerThreshold then
    throw (.thresholdOrder policy.upperThreshold policy.lowerThreshold)
  for dimension in Dimension.all do
    let bounds := policy.bounds.get dimension
    if bounds.isInverted then throw (.invertedBounds dimension bounds)
  unless policy.stepMultiplier.isFinite && Binary64.lt (.ofNat 0) policy.stepMultiplier do
    throw (.stepMultiplier policy.stepMultiplier)

end Policy

/-- Accepts executor settings or gives the first reason against them. -/
def ExecutorSettings.check (settings : ExecutorSettings) : Except SettingsError Unit := do
  if settings.batchSize = 0 then throw (.zeroSize "batch_size")
  if settings.concurrency = 0 then throw (.zeroSize "concurrency")
  if settings.applyTimeoutMillis = 0 then throw .zeroTimeout

end PodSizing
