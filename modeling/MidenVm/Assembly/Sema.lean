import MidenVm.Assembly.ConstEval
import MidenVm.Assembly.NameResolver

/-!
# Diagnostics and the constant-evaluation pass of semantic analysis

`SemanticAnalysisError` (`sema/errors.rs`) is the diagnostic of semantic analysis. The passes
report diagnostics to their `AnalysisContext` (`sema/context.rs`) through `error`; `has_failed`
takes them out into a `SyntaxError` once one of them is an error, and `into_result` does so at
the end. `ConstEvalVisitor` (`sema/passes/const_eval.rs`) replaces every immediate that names a
constant by the constant's value, or reports why it cannot.

`AnalysisContext` is modelled in two parts: its constants, with the errors of constant
definition, are `AnalysisContext` of `ConstEval`; its diagnostic state for the passes is
`Diagnostics` here, and a pass returns the diagnostics it reports, in order.

* `run_diagnostics`: over any run of `error`, `has_failed` and `set_warnings_as_errors`, every
  diagnostic reported comes out once, in order, in a `SyntaxError` or still in the context, and
  while warnings are not errors no `SyntaxError` is made of warnings only.
* `visitMutImmediates_spec`: over the constants any run of `define_constant` leaves, the pass
  never panics, keeps what every immediate denotes, and reports nothing exactly when every
  immediate it leaves is a value.
-/

namespace MidenVm.Assembly

namespace Sema

/-! ## Diagnostics -/

/-- `SemanticAnalysisError`. A variant that a modelled function raises carries the name or the
target its span marks; the spans of the others are left out. -/
inductive SemanticAnalysisError
  | missingEntrypoint
  | unexpectedEntrypoint
  | multipleEntrypoints
  | unexpectedExport
  | symbolConflict (name : String)
  | symbolUndefined (name : String)
  | unusedImport
  | missingImport (name : String)
  | importConflict
  | importToKernel
  | syscallInKernel (target : InvocationTarget)
  | callInKernel (target : InvocationTarget)
  | callerInKernel
  | invalidSyscallTarget
  | invalidRecursiveCall
  | selfRecursive (target : InvocationTarget)
  | immediateOverflow (name : String)
  | limitExceeded
  | unusedDocstring
  | importDocstring

/-- Modelled from the spec: the `Severity` levels of the diagnostics library that `errors.rs`
uses. -/
inductive Severity
  | error
  | warning
  deriving DecidableEq

namespace SemanticAnalysisError

/-- The severity a variant declares: `severity(Warning)` on the unused import and the two
docstring diagnostics, none on the others. -/
def severity : SemanticAnalysisError → Option Severity
  | .unusedImport | .unusedDocstring | .importDocstring => some .warning
  | _ => none

def IsError (err : SemanticAnalysisError) : Prop := err.severity.getD .error = .error

instance : DecidablePred IsError := fun err =>
  inferInstanceAs (Decidable (err.severity.getD .error = .error))

/-- The two diagnostics of `define_constant` and `get_constant`. -/
def ofConstEval : Assembly.SemanticAnalysisError → SemanticAnalysisError
  | .symbolConflict name => .symbolConflict name
  | .symbolUndefined name => .symbolUndefined name

end SemanticAnalysisError

/-- `SyntaxError`: the diagnostics it carries (the source file is left out). -/
structure SyntaxError where
  errors : List SemanticAnalysisError

/-- The diagnostic state of `AnalysisContext`: the diagnostics reported so far, and
`warnings_as_errors`. -/
structure Diagnostics where
  errors : List SemanticAnalysisError
  warningsAsErrors : Bool

namespace Diagnostics

variable (d : Diagnostics)

def error (diagnostic : SemanticAnalysisError) : Diagnostics :=
  { d with errors := d.errors ++ [diagnostic] }

def setWarningsAsErrors (yes : Bool) : Diagnostics := { d with warningsAsErrors := yes }

/-- `has_errors`: with warnings as errors any diagnostic counts, otherwise only one of severity
`Error`. -/
def hasErrors : Bool :=
  if d.warningsAsErrors then !d.errors.isEmpty else d.errors.any fun err => decide err.IsError

/-- `has_failed`: the diagnostics are taken out of the context into the `SyntaxError`. -/
def hasFailed : Except SyntaxError Unit × Diagnostics :=
  if d.hasErrors then (.error ⟨d.errors⟩, { d with errors := [] }) else (.ok (), d)

/-- `into_result`: the context is consumed; without errors its warnings are printed. -/
def intoResult : Except SyntaxError Unit :=
  if d.hasErrors then .error ⟨d.errors⟩ else .ok ()

end Diagnostics

/-- The calls a pass makes on the diagnostics of its `AnalysisContext`. -/
inductive DiagnosticsOp
  | error (diagnostic : SemanticAnalysisError)
  | hasFailed
  | setWarningsAsErrors (yes : Bool)

def DiagnosticsOp.reported : DiagnosticsOp → List SemanticAnalysisError
  | .error diagnostic => [diagnostic]
  | _ => []

namespace Diagnostics

/-- One call: the `SyntaxError` it returns, if any, and the new state. -/
def step (d : Diagnostics) : DiagnosticsOp → Option SyntaxError × Diagnostics
  | .error diagnostic => (none, d.error diagnostic)
  | .hasFailed =>
    match d.hasFailed with
    | (.error err, d') => (some err, d')
    | (.ok (), d') => (none, d')
  | .setWarningsAsErrors yes => (none, d.setWarningsAsErrors yes)

/-- A run of calls: the `SyntaxError`s returned, in order, and the final state. -/
def run (d : Diagnostics) : List DiagnosticsOp → List SyntaxError × Diagnostics
  | [] => ([], d)
  | op :: ops =>
    let (out, d') := d.step op
    let (outs, d'') := d'.run ops
    (out.toList ++ outs, d'')

lemma exists_isError_of_step {d : Diagnostics} (hw : d.warningsAsErrors = false) {err : SyntaxError}
    (h : (d.step .hasFailed).1 = some err) : ∃ e ∈ err.errors, e.IsError := by
  simp only [step, hasFailed, hasErrors, hw, Bool.false_eq_true, if_false] at h
  split_ifs at h with hf
  obtain rfl := Option.some_injective _ h
  simpa using hf

/-- While warnings are not errors, a call other than `set_warnings_as_errors(true)` returns only a
`SyntaxError` that holds a diagnostic of severity `Error`, and keeps warnings from being errors. -/
lemma step_isError {d : Diagnostics} (hw : d.warningsAsErrors = false) {op : DiagnosticsOp}
    (hop : op ≠ .setWarningsAsErrors true) :
    (∀ err ∈ (d.step op).1, ∃ e ∈ err.errors, e.IsError) ∧
      (d.step op).2.warningsAsErrors = false := by
  cases op with
  | error _ => exact ⟨fun _ h => (by cases h), hw⟩
  | hasFailed =>
    refine ⟨fun _ h => exists_isError_of_step hw h, ?_⟩
    simp only [step, hasFailed]
    split_ifs <;> exact hw
  | setWarningsAsErrors yes =>
    cases yes
    · exact ⟨fun _ h => (by cases h), rfl⟩
    · exact absurd rfl hop

/-- One call keeps the diagnostics: what it returns and what it holds after it are what it held
before and what it reports. -/
lemma step_errors (d : Diagnostics) (op : DiagnosticsOp) :
    (d.step op).1.toList.flatMap (·.errors) ++ (d.step op).2.errors = d.errors ++ op.reported := by
  cases op with
  | error diagnostic => simp [step, error, DiagnosticsOp.reported]
  | hasFailed =>
    simp only [step, hasFailed, DiagnosticsOp.reported, List.append_nil]
    split_ifs <;> simp
  | setWarningsAsErrors yes => simp [step, setWarningsAsErrors, DiagnosticsOp.reported]

end Diagnostics

open Diagnostics

/-- **No diagnostic is lost or duplicated.** Over any run of `error`, `has_failed` and
`set_warnings_as_errors`, the diagnostics of the `SyntaxError`s returned, followed by those the
context still holds, are those it held and those reported, in order. While warnings are not
errors, every `SyntaxError` returned holds a diagnostic of severity `Error`. -/
theorem run_diagnostics (d : Diagnostics) (ops : List DiagnosticsOp) :
    (d.run ops).1.flatMap (·.errors) ++ (d.run ops).2.errors = d.errors ++ ops.flatMap (·.reported) ∧
    (d.warningsAsErrors = false → (∀ op ∈ ops, op ≠ .setWarningsAsErrors true) →
      ∀ err ∈ (d.run ops).1, ∃ e ∈ err.errors, e.IsError) := by
  induction ops generalizing d with
  | nil => simp [run]
  | cons op ops ih =>
    obtain ⟨ih₁, ih₂⟩ := ih (d.step op).2
    refine ⟨?_, fun hw hops err herr => ?_⟩
    · -- the diagnostics: one call, then the rest of the run
      simp only [run, List.flatMap_append, List.append_assoc, ih₁, List.flatMap_cons]
      rw [← List.append_assoc, step_errors, List.append_assoc]
    · -- the severity: the call's own `SyntaxError`, or one of the rest of the run
      have hstep := step_isError hw (hops op (List.mem_cons_self _ _))
      simp only [run, List.mem_append, Option.mem_toList] at herr
      rcases herr with herr | herr
      · exact hstep.1 err herr
      · exact ih₂ hstep.2 (fun o ho => hops o (List.mem_cons_of_mem _ ho)) err herr

/-- An unused import, then an undefined symbol, each followed by `has_failed`. -/
theorem run_diagnostics_unused_import :
    ∀ err ∈ (Diagnostics.run ⟨[], false⟩ [.error .unusedImport, .hasFailed,
      .error (.symbolUndefined "x"), .hasFailed]).1, ∃ e ∈ err.errors, e.IsError :=
  (run_diagnostics ⟨[], false⟩ _).2 rfl (by simp)

/-! ## The constant-evaluation pass -/

/-- Modelled from the spec: `Immediate<T>`, a value, or the name of a constant (spans are left
out). -/
inductive Immediate (T : Type)
  | value (value : T)
  | constant (name : String)

namespace Immediate

variable {T : Type}

def IsValue : Immediate T → Prop
  | .value _ => True
  | .constant _ => False

/-- What an immediate denotes over the analyzer's constants: its value, or the value of the
constant it names converted to its type. -/
def denote (tryFrom : ℕ → Option T) (analyzer : AnalysisContext) : Immediate T → Option T
  | .value v => some v
  | .constant name =>
    match analyzer.getConstant name with
    | some (.ok v) => tryFrom v.asInt
    | _ => none

end Immediate

/-- `T::try_from(u64)` for the unsigned integer type of `w` bits: the value, if it fits. -/
def tryFromU64 (w n : ℕ) : Option (Fin (2 ^ w)) :=
  if h : n < 2 ^ w then some ⟨n, h⟩ else none

namespace ConstEvalVisitor

variable {T : Type} (analyzer : AnalysisContext)

/-- `eval_const`: a constant is replaced by its value when the value fits the immediate's type;
otherwise the immediate stays, and the overflow or the missing symbol is reported.
`get_constant` panics on a constant that is not a literal. -/
def evalConst (tryFrom : ℕ → Option T) :
    Immediate T → Option (Immediate T × List SemanticAnalysisError)
  | .value value => some (.value value, [])
  | .constant name =>
    (analyzer.getConstant name).map fun
      | .ok value =>
        match tryFrom value.asInt with
        | some value => (.value value, [])
        | none => (.constant name, [.immediateOverflow name])
      | .error error => (.constant name, [.ofConstEval error])

def visitMutImmediateU8 := evalConst analyzer (tryFromU64 8)

def visitMutImmediateU16 := evalConst analyzer (tryFromU64 16)

def visitMutImmediateU32 := evalConst analyzer (tryFromU64 32)

/-- `visit_mut_immediate_error_code`: an error code is a `u32`. -/
def visitMutImmediateErrorCode := evalConst analyzer (tryFromU64 32)

/-- `visit_mut_immediate_felt`: as `eval_const`, with no range to check. -/
def visitMutImmediateFelt : Immediate Felt → Option (Immediate Felt × List SemanticAnalysisError)
  | .value value => some (.value value, [])
  | .constant name =>
    (analyzer.getConstant name).map fun
      | .ok value => (.value value, [])
      | .error error => (.constant name, [.ofConstEval error])

lemma visitMutImmediateFelt_eq :
    visitMutImmediateFelt analyzer = evalConst analyzer fun n => some (Felt.new n) := by
  funext imm
  cases imm with
  | value => rfl
  | constant name =>
    simp only [visitMutImmediateFelt, evalConst, Felt.new, Felt.asInt, ZMod.natCast_zmod_val]

end ConstEvalVisitor

/-- Modelled from the spec: an immediate of an instruction, with its type. -/
inductive AnyImmediate
  | u8 (imm : Immediate (Fin (2 ^ 8)))
  | u16 (imm : Immediate (Fin (2 ^ 16)))
  | u32 (imm : Immediate (Fin (2 ^ 32)))
  | errorCode (imm : Immediate (Fin (2 ^ 32)))
  | felt (imm : Immediate Felt)

namespace AnyImmediate

def IsValue : AnyImmediate → Prop
  | .u8 imm | .u16 imm | .u32 imm | .errorCode imm => imm.IsValue
  | .felt imm => imm.IsValue

/-- What an immediate denotes over the analyzer's constants, as an integer. -/
def denote (analyzer : AnalysisContext) : AnyImmediate → Option ℕ
  | .u8 imm => (imm.denote (tryFromU64 8) analyzer).map Fin.val
  | .u16 imm => (imm.denote (tryFromU64 16) analyzer).map Fin.val
  | .u32 imm | .errorCode imm => (imm.denote (tryFromU64 32) analyzer).map Fin.val
  | .felt imm => (imm.denote (fun n => some (Felt.new n)) analyzer).map Felt.asInt

end AnyImmediate

open ConstEvalVisitor

/-- The visit of one immediate, by its type. -/
def ConstEvalVisitor.visitMutImmediate (analyzer : AnalysisContext) :
    AnyImmediate → Option (AnyImmediate × List SemanticAnalysisError)
  | .u8 imm => (visitMutImmediateU8 analyzer imm).map fun r => (.u8 r.1, r.2)
  | .u16 imm => (visitMutImmediateU16 analyzer imm).map fun r => (.u16 r.1, r.2)
  | .u32 imm => (visitMutImmediateU32 analyzer imm).map fun r => (.u32 r.1, r.2)
  | .errorCode imm => (visitMutImmediateErrorCode analyzer imm).map fun r => (.errorCode r.1, r.2)
  | .felt imm => (visitMutImmediateFelt analyzer imm).map fun r => (.felt r.1, r.2)

/-- The walk over the immediates of a module, in the order it meets them: the immediates it
leaves, and the diagnostics it reports. -/
def ConstEvalVisitor.visitMutImmediates (analyzer : AnalysisContext) :
    List AnyImmediate → Option (List AnyImmediate × List SemanticAnalysisError)
  | [] => some ([], [])
  | imm :: imms => do
    let r ← visitMutImmediate analyzer imm
    let rs ← visitMutImmediates analyzer imms
    pure (r.1 :: rs.1, r.2 ++ rs.2)

namespace ConstEvalVisitor

variable {analyzer : AnalysisContext}

/-- **One immediate.** Over literal constants `eval_const` never panics, keeps what the immediate
denotes, and reports nothing exactly when it leaves a value. -/
lemma evalConst_spec {T : Type} (hl : analyzer.LiteralsOnly) (tryFrom : ℕ → Option T)
    (imm : Immediate T) :
    ∃ imm' errs, evalConst analyzer tryFrom imm = some (imm', errs) ∧
      imm'.denote tryFrom analyzer = imm.denote tryFrom analyzer ∧ (errs = [] ↔ imm'.IsValue) := by
  cases imm with
  | value value => exact ⟨_, _, rfl, rfl, by simp [Immediate.IsValue]⟩
  | constant name =>
    obtain ⟨res, hres⟩ := Option.ne_none_iff_exists'.1 (getConstant_ne_none hl name)
    rcases res with error | value
    · -- an undefined name is reported
      exact ⟨.constant name, [.ofConstEval error], by simp [evalConst, hres],
        by simp [Immediate.denote, hres], by simp [Immediate.IsValue]⟩
    · rcases hv : tryFrom value.asInt with _ | v
      · -- a value too large for the type is reported
        exact ⟨.constant name, [.immediateOverflow name], by simp [evalConst, hres, hv],
          by simp [Immediate.denote, hres, hv], by simp [Immediate.IsValue]⟩
      · -- the value replaces the name
        exact ⟨.value v, [], by simp [evalConst, hres, hv], by simp [Immediate.denote, hres, hv],
          by simp [Immediate.IsValue]⟩

lemma visitMutImmediate_spec (hl : analyzer.LiteralsOnly) (imm : AnyImmediate) :
    ∃ imm' errs, visitMutImmediate analyzer imm = some (imm', errs) ∧
      imm'.denote analyzer = imm.denote analyzer ∧ (errs = [] ↔ imm'.IsValue) := by
  cases imm with
  | u8 imm =>
    obtain ⟨imm', errs, h, hd, hv⟩ := evalConst_spec hl (tryFromU64 8) imm
    exact ⟨.u8 imm', errs, by simp [visitMutImmediate, visitMutImmediateU8, h],
      by simp [AnyImmediate.denote, hd], hv⟩
  | u16 imm =>
    obtain ⟨imm', errs, h, hd, hv⟩ := evalConst_spec hl (tryFromU64 16) imm
    exact ⟨.u16 imm', errs, by simp [visitMutImmediate, visitMutImmediateU16, h],
      by simp [AnyImmediate.denote, hd], hv⟩
  | u32 imm =>
    obtain ⟨imm', errs, h, hd, hv⟩ := evalConst_spec hl (tryFromU64 32) imm
    exact ⟨.u32 imm', errs, by simp [visitMutImmediate, visitMutImmediateU32, h],
      by simp [AnyImmediate.denote, hd], hv⟩
  | errorCode imm =>
    obtain ⟨imm', errs, h, hd, hv⟩ := evalConst_spec hl (tryFromU64 32) imm
    exact ⟨.errorCode imm', errs, by simp [visitMutImmediate, visitMutImmediateErrorCode, h],
      by simp [AnyImmediate.denote, hd], hv⟩
  | felt imm =>
    obtain ⟨imm', errs, h, hd, hv⟩ := evalConst_spec hl (fun n => some (Felt.new n)) imm
    exact ⟨.felt imm', errs, by simp [visitMutImmediate, visitMutImmediateFelt_eq, h],
      by simp [AnyImmediate.denote, hd], hv⟩

end ConstEvalVisitor

/-- **The constant-evaluation pass.** Over the constants that any run of `define_constant` from a
new context leaves, the pass never panics; every immediate it leaves denotes what it denoted
before; and it reports no diagnostic exactly when every immediate it leaves is a value. -/
theorem visitMutImmediates_spec (constants : List Constant) (analyzer : AnalysisContext)
    (hdef : AnalysisContext.new.defineConstants constants = some analyzer)
    (imms : List AnyImmediate) :
    ∃ imms' errs, visitMutImmediates analyzer imms = some (imms', errs) ∧
      imms'.map (·.denote analyzer) = imms.map (·.denote analyzer) ∧
      (errs = [] ↔ ∀ imm ∈ imms', imm.IsValue) := by
  have hl := defineConstants_literalsOnly constants literalsOnly_new hdef
  induction imms with
  | nil => exact ⟨[], [], rfl, rfl, by simp⟩
  | cons imm imms ih =>
    obtain ⟨imm', errs, h, hd, hv⟩ := visitMutImmediate_spec hl imm
    obtain ⟨imms', errs', h', hd', hv'⟩ := ih
    refine ⟨imm' :: imms', errs ++ errs', by simp [visitMutImmediates, h, h'], ?_, ?_⟩
    · simp [hd, hd']
    · rw [List.append_eq_nil, hv, hv', List.forall_mem_cons]

/-- The context after `const.A = 300`. -/
def constAContext : AnalysisContext :=
  ⟨Function.update (fun _ => none) "A" (some ⟨"A", .literal 300⟩), []⟩

/-- After `const.A = 300`, the pass over `A` as a `u8` and as a `u16` immediate. -/
theorem visitMutImmediates_spec_const_a :
    ∃ imms' errs, visitMutImmediates constAContext
        [.u8 (.constant "A"), .u16 (.constant "A")] = some (imms', errs) ∧
      imms'.map (·.denote constAContext) =
        [AnyImmediate.u8 (.constant "A"), .u16 (.constant "A")].map (·.denote constAContext) ∧
      (errs = [] ↔ ∀ imm ∈ imms', imm.IsValue) :=
  visitMutImmediates_spec [⟨"A", .literal 300⟩] _ rfl _

end Sema

end MidenVm.Assembly
