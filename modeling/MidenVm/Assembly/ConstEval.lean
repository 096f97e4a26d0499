import MidenVm.Felt

/-!
# Constant evaluation in semantic analysis

`AnalysisContext::define_constant` (`sema/context.rs`) evaluates the expression of a constant
over the constants defined before it and stores the value as a literal; `const_eval` evaluates
the right operand of a binary node first, and reads a name through `get_constant`, which panics
(`expect_literal`) if the stored constant is not a literal. A panic of the Rust code is `none`
here.

* `defineConstant_eq_some_iff`: everything one call does: a symbol conflict is recorded, a value
  is stored as a literal, or the error is returned with the collected errors.
* `defineConstants_literalsOnly`: over any sequence of calls every stored constant stays a
  literal, so `get_constant` never panics.
* `constEval_eq_none`: over such constants an evaluation panics only at an integer division
  whose divisor evaluates to `0`.
* `define_constant_int_div_zero_panics`: `A = 0` followed by `B = 10 // A` panics.
-/

namespace MidenVm.Assembly

/-- Modelled from the spec: `ConstantOp`. -/
inductive ConstantOp
  | add
  | sub
  | mul
  | div
  | intDiv
  deriving DecidableEq

/-- Modelled from the spec: `ConstantExpr`; an identifier is its name, spans are left out. -/
inductive ConstantExpr
  | literal (value : Felt)
  | var (name : String)
  | binaryOp (op : ConstantOp) (lhs rhs : ConstantExpr)

/-- Modelled from the spec: `ConstantExpr::expect_literal`, which panics unless the expression
is a literal. -/
def ConstantExpr.expectLiteral : ConstantExpr → Option Felt
  | .literal value => some value
  | _ => none

/-- Modelled from the spec: `Constant`, a name bound to an expression. -/
structure Constant where
  name : String
  value : ConstantExpr

/-- The `SemanticAnalysisError`s of constant evaluation; each names the symbol its span marks. -/
inductive SemanticAnalysisError
  | symbolConflict (name : String)
  | symbolUndefined (name : String)
  deriving DecidableEq

/-- `SyntaxError`: the errors collected so far (the source file is left out). -/
structure SyntaxError where
  errors : List SemanticAnalysisError

/-- `AnalysisContext`: the constants defined so far and the errors collected so far. -/
structure AnalysisContext where
  constants : String → Option Constant
  errors : List SemanticAnalysisError

namespace AnalysisContext

def new : AnalysisContext := ⟨fun _ => none, []⟩

def getConstant (ctx : AnalysisContext) (name : String) :
    Option (Except SemanticAnalysisError Felt) :=
  match ctx.constants name with
  | some expr => expr.value.expectLiteral.map .ok
  | none => some (.error (.symbolUndefined name))

end AnalysisContext

/-- The `match op` of `const_eval`; `none` is the panic of the `u64` division by zero. -/
def ConstantOp.apply : ConstantOp → Felt → Felt → Option Felt
  | .add, lhs, rhs => some (lhs + rhs)
  | .sub, lhs, rhs => some (lhs - rhs)
  | .mul, lhs, rhs => some (lhs * rhs)
  | .div, lhs, rhs => some (Felt.div lhs rhs)
  | .intDiv, lhs, rhs =>
    if rhs.asInt = 0 then none else some (Felt.new (lhs.asInt / rhs.asInt))

namespace AnalysisContext

/-- `const_eval`: the right operand first, then the left one, each `?` passing an error on. -/
def constEval (ctx : AnalysisContext) : ConstantExpr → Option (Except SemanticAnalysisError Felt)
  | .literal value => some (.ok value)
  | .var name => ctx.getConstant name
  | .binaryOp op lhs rhs =>
    match ctx.constEval rhs with
    | some (.ok rhs) =>
      match ctx.constEval lhs with
      | some (.ok lhs) => (op.apply lhs rhs).map .ok
      | r => r
    | r => r

/-- `define_constant`: a symbol conflict is recorded and answered `Ok`; otherwise the value is
stored as a literal, or the error is returned with every error collected so far. -/
def defineConstant (ctx : AnalysisContext) (constant : Constant) :
    Option (Except SyntaxError Unit × AnalysisContext) :=
  match ctx.constants constant.name with
  | some _ => some (.ok (), { ctx with errors := ctx.errors ++ [.symbolConflict constant.name] })
  | none =>
    match ctx.constEval constant.value with
    | some (.ok value) =>
      some (.ok (), { ctx with
        constants := Function.update ctx.constants constant.name
          (some { constant with value := .literal value }) })
    | some (.error err) => some (.error ⟨ctx.errors ++ [err]⟩, { ctx with errors := [] })
    | none => none

/-- A sequence of `define_constant` calls, each made whatever the one before returned; `none`
if one of them panics. -/
def defineConstants : AnalysisContext → List Constant → Option AnalysisContext
  | ctx, [] => some ctx
  | ctx, c :: cs =>
    match ctx.defineConstant c with
    | some (_, ctx') => defineConstants ctx' cs
    | none => none

/-- Every stored constant is a literal. -/
def LiteralsOnly (ctx : AnalysisContext) : Prop :=
  ∀ name c, ctx.constants name = some c → ∃ value, c.value = .literal value

end AnalysisContext

open AnalysisContext

/-! ## One call -/

/-- **What one `define_constant` does.** A name already defined records a conflict and keeps
the constants; otherwise an evaluation to a value stores the value as a literal, and an
evaluation to an error returns it after the errors collected so far, clearing them and keeping
the constants. -/
lemma defineConstant_eq_some_iff {ctx ctx' : AnalysisContext} {c : Constant}
    {r : Except SyntaxError Unit} :
    ctx.defineConstant c = some (r, ctx') ↔
      ((ctx.constants c.name).isSome ∧ r = .ok () ∧
          ctx' = { ctx with errors := ctx.errors ++ [.symbolConflict c.name] }) ∨
        (ctx.constants c.name = none ∧ ∃ value, ctx.constEval c.value = some (.ok value) ∧
          r = .ok () ∧ ctx' = { ctx with
            constants := Function.update ctx.constants c.name
              (some { c with value := .literal value }) }) ∨
        (ctx.constants c.name = none ∧ ∃ err, ctx.constEval c.value = some (.error err) ∧
          r = .error ⟨ctx.errors ++ [err]⟩ ∧ ctx' = { ctx with errors := [] }) := by
  unfold defineConstant
  rcases hc : ctx.constants c.name with _ | d
  · rcases he : ctx.constEval c.value with _ | _ | _ <;>
      simp [eq_comm, and_comm]
  · simp [eq_comm, and_comm]

lemma defineConstant_eq_none_iff {ctx : AnalysisContext} {c : Constant} :
    ctx.defineConstant c = none ↔ ctx.constants c.name = none ∧ ctx.constEval c.value = none := by
  unfold defineConstant
  rcases ctx.constants c.name with _ | d
  · rcases ctx.constEval c.value with _ | _ | _ <;> simp
  · simp

lemma defineConstant_constants_of_not_stored {ctx ctx' : AnalysisContext} {c : Constant}
    {r : Except SyntaxError Unit} (h : ctx.defineConstant c = some (r, ctx'))
    (hr : r ≠ .ok () ∨ (ctx.constants c.name).isSome) : ctx'.constants = ctx.constants := by
  rcases defineConstant_eq_some_iff.1 h with ⟨-, -, rfl⟩ | ⟨hn, -, -, rfl, -⟩ | ⟨-, -, -, -, rfl⟩
  · rfl
  · simp [hn] at hr
  · rfl

lemma defineConstant_stored {ctx ctx' : AnalysisContext} {c : Constant}
    (h : ctx.defineConstant c = some (.ok (), ctx')) (hn : ctx.constants c.name = none) :
    ∃ value, ctx.constEval c.value = some (.ok value) ∧
      ctx'.constants c.name = some { c with value := .literal value } := by
  rcases defineConstant_eq_some_iff.1 h with ⟨h', -⟩ | ⟨-, value, he, -, rfl⟩ |
      ⟨-, _, -, h', -⟩
  · simp [hn] at h'
  · exact ⟨value, he, Function.update_same _ _ _⟩
  · cases h'

/-! ## Literals only -/

lemma literalsOnly_new : AnalysisContext.new.LiteralsOnly := fun _ _ h => by cases h

lemma getConstant_ne_none {ctx : AnalysisContext} (h : ctx.LiteralsOnly) (name : String) :
    ctx.getConstant name ≠ none := by
  unfold getConstant
  rcases hc : ctx.constants name with _ | c
  · simp
  · obtain ⟨value, hv⟩ := h name c hc
    simp [hv, ConstantExpr.expectLiteral]

lemma defineConstant_literalsOnly {ctx ctx' : AnalysisContext} {c : Constant}
    {r : Except SyntaxError Unit} (hl : ctx.LiteralsOnly)
    (h : ctx.defineConstant c = some (r, ctx')) : ctx'.LiteralsOnly := by
  rcases defineConstant_eq_some_iff.1 h with ⟨-, -, rfl⟩ | ⟨-, value, -, -, rfl⟩ |
      ⟨-, -, -, -, rfl⟩
  · exact hl
  · intro name d hd
    dsimp only at hd
    by_cases hname : name = c.name
    · subst hname
      simp only [Function.update_same, Option.some.injEq] at hd
      exact ⟨value, by rw [← hd]⟩
    · rw [Function.update_noteq hname] at hd
      exact hl name d hd
  · exact hl

/-- Over any sequence of calls that does not panic, every stored constant stays a literal. -/
lemma defineConstants_literalsOnly :
    ∀ {ctx ctx' : AnalysisContext} (cs : List Constant), ctx.LiteralsOnly →
      ctx.defineConstants cs = some ctx' → ctx'.LiteralsOnly
  | _, _, [], hl, h => by cases h; exact hl
  | ctx, _, c :: cs, hl, h => by
    unfold defineConstants at h
    rcases hd : ctx.defineConstant c with _ | ⟨r, ctx₁⟩ <;> rw [hd] at h
    · cases h
    · exact defineConstants_literalsOnly cs (defineConstant_literalsOnly hl hd) h

/-! ## Where evaluation panics -/

/-- The expression has an integer division whose divisor evaluates to `0`. -/
def ConstantExpr.HasZeroIntDiv (ctx : AnalysisContext) : ConstantExpr → Prop
  | .binaryOp op lhs rhs =>
    (op = .intDiv ∧ ctx.constEval rhs = some (.ok 0)) ∨ lhs.HasZeroIntDiv ctx ∨
      rhs.HasZeroIntDiv ctx
  | _ => False

lemma ConstantOp.apply_eq_none {op : ConstantOp} {lhs rhs : Felt} (h : op.apply lhs rhs = none) :
    op = .intDiv ∧ rhs = 0 := by
  cases op <;> simp only [apply, reduceCtorEq, ite_eq_left_iff, true_and] at h ⊢
  by_contra hr
  exact h fun h0 => hr (ZMod.val_eq_zero rhs |>.1 h0) |>.elim

/-- **Over literal constants, evaluation panics only at an integer division by zero.** -/
lemma constEval_eq_none {ctx : AnalysisContext} (hl : ctx.LiteralsOnly) :
    ∀ e : ConstantExpr, ctx.constEval e = none → e.HasZeroIntDiv ctx
  | .literal _, h => by cases h
  | .var name, h => getConstant_ne_none hl name h
  | .binaryOp op lhs rhs, h => by
    simp only [constEval] at h
    rcases hr : ctx.constEval rhs with _ | _ | r <;> rw [hr] at h
    · -- the right operand panics
      exact .inr (.inr (constEval_eq_none hl rhs hr))
    · cases h
    rcases hlhs : ctx.constEval lhs with _ | _ | l <;> rw [hlhs] at h
    · -- the left operand panics
      exact .inr (.inl (constEval_eq_none hl lhs hlhs))
    · cases h
    · -- the operation panics: an integer division by zero
      obtain ⟨rfl, rfl⟩ := ConstantOp.apply_eq_none (Option.map_eq_none'.1 h)
      exact .inl ⟨rfl, hr⟩

/-! ## A panic -/

/-- **`B = 10 // A` panics after `A = 0`.** The first definition stores `A = 0`; the second
reads it as the divisor of an integer division, which divides by zero in `u64` instead of
reporting an error. -/
theorem define_constant_int_div_zero_panics :
    ∃ ctx, AnalysisContext.new.defineConstant ⟨"A", .literal 0⟩ = some (.ok (), ctx) ∧
      ctx.defineConstant ⟨"B", .binaryOp .intDiv (.literal 10) (.var "A")⟩ = none :=
  ⟨_, rfl, rfl⟩

end MidenVm.Assembly
