/-!
# Flags

The six switches of a run, and a record of one item for each of them.
-/

namespace BytecodeFacts

inductive Flag where
  | ssa
  | phantoms
  | taint
  | jimple
  | standardOutput
  | staticness
  deriving DecidableEq

def Flag.all : List Flag := [.ssa, .phantoms, .taint, .jimple, .standardOutput, .staticness]

def Flag.name : Flag → String
  | .ssa => "use_ssa"
  | .phantoms => "allow_phantom_references"
  | .taint => "run_taint_analysis"
  | .jimple => "generate_intermediate_form"
  | .standardOutput => "write_to_standard_output"
  | .staticness => "ignore_staticness_mismatch"

structure Flags (α : Type) where
  ssa : α
  phantoms : α
  taint : α
  jimple : α
  standardOutput : α
  staticness : α
  deriving DecidableEq

namespace Flags

variable {α β : Type}

def replicate (a : α) : Flags α := ⟨a, a, a, a, a, a⟩

def get (flags : Flags α) : Flag → α
  | .ssa => flags.ssa
  | .phantoms => flags.phantoms
  | .taint => flags.taint
  | .jimple => flags.jimple
  | .standardOutput => flags.standardOutput
  | .staticness => flags.staticness

def set (flags : Flags α) (flag : Flag) (a : α) : Flags α :=
  match flag with
  | .ssa => { flags with ssa := a }
  | .phantoms => { flags with phantoms := a }
  | .taint => { flags with taint := a }
  | .jimple => { flags with jimple := a }
  | .standardOutput => { flags with standardOutput := a }
  | .staticness => { flags with staticness := a }

def map (f : α → β) (flags : Flags α) : Flags β where
  ssa := f flags.ssa
  phantoms := f flags.phantoms
  taint := f flags.taint
  jimple := f flags.jimple
  standardOutput := f flags.standardOutput
  staticness := f flags.staticness

/-- The flags with the value of `f` at each. -/
def tabulate (f : Flag → α) : Flags α where
  ssa := f .ssa
  phantoms := f .phantoms
  taint := f .taint
  jimple := f .jimple
  standardOutput := f .standardOutput
  staticness := f .staticness

theorem get_set (flags : Flags α) (flag other : Flag) (a : α) :
    (flags.set flag a).get other = if other = flag then a else flags.get other := by
  cases flag <;> cases other <;> rfl

@[simp] theorem get_map (f : α → β) (flags : Flags α) (flag : Flag) :
    (flags.map f).get flag = f (flags.get flag) := by
  cases flag <;> rfl

@[simp] theorem get_replicate (a : α) (flag : Flag) : (replicate a).get flag = a := by
  cases flag <;> rfl

@[simp] theorem get_tabulate (f : Flag → α) (flag : Flag) : (tabulate f).get flag = f flag := by
  cases flag <;> rfl

theorem ext_get {flags other : Flags α} (h : ∀ flag, flags.get flag = other.get flag) :
    flags = other := by
  cases flags
  cases other
  simp only [mk.injEq]
  exact ⟨h .ssa, h .phantoms, h .taint, h .jimple, h .standardOutput, h .staticness⟩

end Flags

end BytecodeFacts
