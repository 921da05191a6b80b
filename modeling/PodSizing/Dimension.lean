/-!
# Resource dimensions

A container is sized in two dimensions.  `PerDimension` holds one value for each of them, and
lists over dimensions are always in the order CPU, memory.
-/

namespace PodSizing

/-- A resource that a container requests and is limited in. -/
inductive Dimension where
  | cpu
  | memory
  deriving DecidableEq, Repr

namespace Dimension

/-- Both dimensions, in the order in which they are always treated. -/
def all : List Dimension := [.cpu, .memory]

theorem mem_all (dimension : Dimension) : dimension ∈ all := by
  cases dimension <;> simp [all]

/-- The name of a dimension in resource lists and messages. -/
def name : Dimension → String
  | .cpu => "cpu"
  | .memory => "memory"

/-- The dimension of a name. -/
def ofName? : String → Option Dimension
  | "cpu" => some .cpu
  | "memory" => some .memory
  | _ => none

theorem ofName?_name (dimension : Dimension) : ofName? dimension.name = some dimension := by
  cases dimension <;> rfl

theorem name_inj {first second : Dimension} : first.name = second.name ↔ first = second := by
  cases first <;> cases second <;> decide

/-- The dimension as a list of them shows it. -/
def title : Dimension → String
  | .cpu => "Cpu"
  | .memory => "Memory"

/-- A list of dimensions as messages show it. -/
def listText (dimensions : List Dimension) : String :=
  "[" ++ ", ".intercalate (dimensions.map title) ++ "]"

end Dimension

/-- One value for each dimension. -/
structure PerDimension (α : Type) where
  cpu : α
  memory : α
  deriving DecidableEq

namespace PerDimension

variable {α : Type}

/-- The value for a dimension. -/
def get (values : PerDimension α) : Dimension → α
  | .cpu => values.cpu
  | .memory => values.memory

/-- Replaces the value for a dimension. -/
def set (values : PerDimension α) (dimension : Dimension) (value : α) : PerDimension α :=
  match dimension with
  | .cpu => { values with cpu := value }
  | .memory => { values with memory := value }

/-- The values that a function gives. -/
def ofFn (value : Dimension → α) : PerDimension α :=
  ⟨value .cpu, value .memory⟩

/-- Both values, CPU first. -/
def toList (values : PerDimension α) : List α := [values.cpu, values.memory]

@[simp]
theorem get_ofFn (value : Dimension → α) (dimension : Dimension) :
    (ofFn value).get dimension = value dimension := by
  cases dimension <;> rfl

@[simp]
theorem get_set_self (values : PerDimension α) (dimension : Dimension) (value : α) :
    (values.set dimension value).get dimension = value := by
  cases dimension <;> rfl

theorem get_set (values : PerDimension α) (written read : Dimension) (value : α) :
    (values.set written value).get read = if read = written then value else values.get read := by
  cases written <;> cases read <;> rfl

end PerDimension

end PodSizing
