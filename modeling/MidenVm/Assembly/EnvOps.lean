import MidenVm.Felt

/-!
# Environment inputs: `push_one`, `push_many` and `caller`

`assembler/instruction/env_ops.rs` appends operations to the span block under construction.
Constants go through `push_felt`, whose choice of operations the doc comment of `push_one` gives:
`PAD` for `0`, `PAD INCR` for `1`, and `PUSH` for any other value. `PAD` pushes `0`, `INCR` adds
`1` to the top of the stack, and `PUSH(v)` pushes `v`. With these effects, the replacements
push the same value as `PUSH`.

* `pushFelt_run`: the operations that `push_felt` appends act on the stack as `PUSH` does;
* `pushMany_run`: `push_many` pushes every immediate in order, so the last one ends on top.
-/

namespace MidenVm.Assembly.EnvOps

/-- The operations the environment inputs append. -/
inductive Operation
  | pad
  | incr
  | push (value : Felt)
  | caller
  deriving DecidableEq

/-- The stack effect of an operation, with the top of the stack first. `INCR` on an empty stack
is stuck. The effect of `CALLER` (the hash of the procedure that made the current syscall) is
not modelled, so a run that reaches it is stuck too. -/
def Operation.exec : Operation → List Felt → Option (List Felt)
  | .pad, stack => some (0 :: stack)
  | .incr, a :: stack => some ((a + 1) :: stack)
  | .incr, [] => none
  | .push value, stack => some (value :: stack)
  | .caller, _ => none

/-- Modelled from the spec: the span block under construction, as the operations appended so
far. -/
structure SpanBuilder where
  ops : List Operation

def SpanBuilder.addOp (span : SpanBuilder) (op : Operation) : SpanBuilder :=
  ⟨span.ops ++ [op]⟩

def run (ops : List Operation) (stack : List Felt) : Option (List Felt) :=
  ops.foldlM (fun stack op => op.exec stack) stack

@[simp] lemma run_nil (stack : List Felt) : run [] stack = some stack := rfl

lemma run_append (ops ops' : List Operation) (stack : List Felt) :
    run (ops ++ ops') stack = run ops stack >>= run ops' :=
  List.foldlM_append _ _ _ _

@[simp] lemma run_addOp (span : SpanBuilder) (op : Operation) (stack : List Felt) :
    run (span.addOp op).ops stack = run span.ops stack >>= op.exec := by
  rw [SpanBuilder.addOp, run_append]
  simp [run]

/-- Modelled from the doc comment of `push_one`: `push_felt` appends `PAD` for `0`, `PAD INCR`
for `1`, and `PUSH(value)` otherwise. -/
def pushFelt (span : SpanBuilder) (value : Felt) : SpanBuilder :=
  if value = 0 then span.addOp .pad
  else if value = 1 then (span.addOp .pad).addOp .incr
  else span.addOp (.push value)

/-- `push_one`: `into` is the conversion `Into<Felt>` of the immediate's type. -/
def pushOne {T : Type} (into : T → Felt) (imm : T) (span : SpanBuilder) : SpanBuilder :=
  pushFelt span (into imm)

/-- `push_many`: `push_felt` of every immediate, in order. -/
def pushMany {T : Type} (into : T → Felt) (imms : List T) (span : SpanBuilder) : SpanBuilder :=
  imms.foldl (fun span imm => pushFelt span (into imm)) span

/-- **`push_felt` pushes its value**: `PAD` and `PAD INCR` act on the stack as `PUSH(0)` and
`PUSH(1)` do. -/
theorem pushFelt_run (span : SpanBuilder) (value : Felt) (stack : List Felt) :
    run (pushFelt span value).ops stack = run (span.addOp (.push value)).ops stack := by
  unfold pushFelt
  split_ifs with h0 h1
  · simp [h0, Operation.exec]
  · simp [h1, Option.bind_assoc, Operation.exec]
  · rfl

/-- **`push_many` pushes its immediates**: after the operations it appends, the stack holds
the immediates on top of what was there, the last immediate on top. -/
theorem pushMany_run {T : Type} (into : T → Felt) (imms : List T) (span : SpanBuilder)
    (stack : List Felt) :
    run (pushMany into imms span).ops stack =
      (run span.ops stack).map ((imms.map into).reverse ++ ·) := by
  induction imms generalizing span with
  | nil => simp [pushMany]
  | cons imm imms ih =>
    rw [pushMany, List.foldl_cons, ← pushMany, ih, pushFelt_run, run_addOp]
    cases run span.ops stack <;> simp [Operation.exec]

/-- `caller`'s view of the `AssemblyContext`: the procedure being compiled, if any. -/
structure ProcedureContext where
  isKernel : Bool

/-- Modelled from the spec: the context of the assembler, as `caller` reads it. -/
structure AssemblyContext where
  currentProcedure : Option ProcedureContext

/-- `unwrap_current_procedure`: it panics outside a procedure. -/
def AssemblyContext.unwrapCurrentProcedure (context : AssemblyContext) :
    Option ProcedureContext :=
  context.currentProcedure

/-- The variant of `AssemblyError` that `caller` returns; its span and source file are not
modelled. -/
inductive AssemblyError
  | callerOutsideOfKernel
  deriving DecidableEq

/-- `caller`, with the span it mutates: outside a kernel procedure it returns
`CallerOutsideOfKernel` before it touches the span. -/
def caller (span : SpanBuilder) (context : AssemblyContext) :
    Option (SpanBuilder × Except AssemblyError Unit) := do
  let currentProcedure ← context.unwrapCurrentProcedure
  if !currentProcedure.isKernel then
    return (span, .error .callerOutsideOfKernel)
  pure (span.addOp .caller, .ok ())

end MidenVm.Assembly.EnvOps
