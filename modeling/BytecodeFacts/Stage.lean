import BytecodeFacts.Enumeration

/-!
# Stages

The steps that a run can take, listed in the order in which a run takes them. Taint analysis works
on the loaded program, so it stands before every stage that writes an intermediate form.
-/

namespace BytecodeFacts

inductive Stage where
  | loadInputs
  | loadDependencies
  | resolvePhantoms
  | taintAnalysis
  | transformSsa
  | emitJimple
  | emitFacts
  deriving DecidableEq

instance : Enumeration Stage where
  typeName := "Stage"
  all := [.loadInputs, .loadDependencies, .resolvePhantoms, .taintAnalysis, .transformSsa,
    .emitJimple, .emitFacts]
  name
    | .loadInputs => "LOAD_INPUTS"
    | .loadDependencies => "LOAD_DEPENDENCIES"
    | .resolvePhantoms => "RESOLVE_PHANTOMS"
    | .taintAnalysis => "FLOWDROID"
    | .transformSsa => "TRANSFORM_SSA"
    | .emitJimple => "EMIT_JIMPLE"
    | .emitFacts => "EMIT_FACTS"
  label
    | .loadInputs => "load inputs"
    | .loadDependencies => "load dependencies"
    | .resolvePhantoms => "resolve phantom references"
    | .taintAnalysis => "flowdroid taint analysis"
    | .transformSsa => "shimple (ssa) transform"
    | .emitJimple => "emit jimple"
    | .emitFacts => "emit facts"
  mem_all stage := by cases stage <;> simp
  name_injective {a b} h := by cases a <;> cases b <;> simp_all
  label_injective {a b} h := by cases a <;> cases b <;> simp_all

end BytecodeFacts
