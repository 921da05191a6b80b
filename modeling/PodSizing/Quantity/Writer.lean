import PodSizing.Dimension

/-!
# Writing resource quantities

Whole cores are written without a suffix and other amounts of CPU in millicores; memory is written
with the largest of the binary suffixes that divides it.
-/

namespace PodSizing.Quantity

/-- The text of an amount of CPU. -/
def cpuText (millicores : Nat) : String :=
  if millicores % 1000 = 0 then toString (millicores / 1000) else toString millicores ++ "m"

/-- The text of an amount of memory. -/
def memoryText (bytes : Nat) : String :=
  if bytes = 0 then "0"
  else if bytes % Nat.pow 2 30 = 0 then toString (bytes / Nat.pow 2 30) ++ "Gi"
  else if bytes % Nat.pow 2 20 = 0 then toString (bytes / Nat.pow 2 20) ++ "Mi"
  else if bytes % Nat.pow 2 10 = 0 then toString (bytes / Nat.pow 2 10) ++ "Ki"
  else toString bytes

/-- The text of an amount in a dimension. -/
def text : Dimension → Nat → String
  | .cpu => cpuText
  | .memory => memoryText

end PodSizing.Quantity
