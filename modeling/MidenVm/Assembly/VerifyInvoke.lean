import MidenVm.Assembly.Sema

/-!
# Checking invocation targets

`VerifyInvokeTargets` (`sema/passes/verify_invoke.rs`) walks a procedure of a module. It reports
`caller` outside a kernel, calls and syscalls made from a kernel, self-recursive and undefined
local names, and paths through modules that are not imported. It rewrites every path through an
imported module into the absolute path of that module, counts the use of the import, and records
every invocation in the procedure.

* `visitMutBody_import_uses`: over any body, the use count of each import grows by the number of
  paths through it.
* `visitMutBody_same_procedure`: instruction by instruction, every target the pass leaves
  resolves, through `NameResolver`, to the procedure the original target resolves to.
* `visitMutProcedure_invoked`: the procedure records the invocations of its body as rewritten,
  a `procref` as an `exec`, and the visitor starts the next procedure with none.
-/

namespace MidenVm.Assembly

deriving instance DecidableEq for InvocationTarget

def InvocationTarget.pathModules : InvocationTarget → List String
  | .procedurePath _ module => [module]
  | _ => []

/-- The target a path through an imported module becomes: the absolute path of the module. -/
def InvocationTarget.rewrite (paths : List (String × String)) : InvocationTarget → InvocationTarget
  | .procedurePath name module =>
    match paths.lookup module with
    | some path => .absoluteProcedurePath name path
    | none => .procedurePath name module
  | target => target

def ResolvedTarget.intoGlobalId : ResolvedTarget → Option GlobalProcedureIndex
  | .exact gid | .resolved gid _ => some gid
  | .cached _ gid => gid
  | .phantom _ => none

namespace Sema

/-! ## The pass -/

/-- Modelled from the spec: an `Import` as the pass reads and counts it: the name the module is
imported under, its path, and the number of uses found so far. -/
structure Import where
  name : String
  path : String
  uses : ℕ

/-- `import.uses += 1` on the first import of the name. -/
def Import.useFirst (name : String) : List Import → List Import
  | [] => []
  | i :: is => if i.name = name then { i with uses := i.uses + 1 } :: is else i :: useFirst name is

/-- Modelled from the spec: the parts of `Module` the pass reads: its imports, and whether it is
a kernel. -/
structure Module where
  imports : List Import
  isKernel : Bool

namespace Module

variable (m : Module)

/-- `resolve_import_mut`: the first import of the name. -/
def resolveImport (name : String) : Option Import := m.imports.find? (·.name == name)

/-- Counting a use of the import `resolve_import_mut(name)` gives. -/
def useImport (name : String) : Module := { m with imports := Import.useFirst name m.imports }

def importPaths : List (String × String) := m.imports.map fun i => (i.name, i.path)

end Module

/-- Modelled from the spec: the instructions of a procedure body that the pass looks at, in the
order the walk visits them (nested blocks flattened); every other instruction is `other`. -/
inductive Instruction
  | caller
  | exec (target : InvocationTarget)
  | call (target : InvocationTarget)
  | sysCall (target : InvocationTarget)
  | procRef (target : InvocationTarget)
  | other

namespace Instruction

/-- The invocation an instruction makes, with the kind it is recorded with. -/
def invocation? : Instruction → Option (InvokeKind × InvocationTarget)
  | .exec target | .procRef target => some (.exec, target)
  | .call target => some (.call, target)
  | .sysCall target => some (.sysCall, target)
  | .caller | .other => none

def rewrite (paths : List (String × String)) : Instruction → Instruction
  | .exec target => .exec (target.rewrite paths)
  | .call target => .call (target.rewrite paths)
  | .sysCall target => .sysCall (target.rewrite paths)
  | .procRef target => .procRef (target.rewrite paths)
  | inst => inst

def pathModules (inst : Instruction) : List String :=
  match inst.invocation? with
  | some (_, target) => target.pathModules
  | none => []

end Instruction

/-- Modelled from the spec: `Invoke`, an invocation and its kind. -/
structure Invoke where
  kind : InvokeKind
  target : InvocationTarget
  deriving DecidableEq

/-- `VerifyInvokeTargets`: the diagnostics it has reported to the analyzer, the module, the names
of the module's procedures, the procedure being walked, and the invocations collected. -/
structure VerifyInvokeTargets where
  errors : List SemanticAnalysisError
  module : Module
  procedures : List String
  currentProcedure : String
  invoked : List Invoke

namespace VerifyInvokeTargets

variable (v : VerifyInvokeTargets)

def error (diagnostic : SemanticAnalysisError) : VerifyInvokeTargets :=
  { v with errors := v.errors ++ [diagnostic] }

/-- `resolve_local`: an undefined name is reported. -/
def resolveLocal (name : String) : VerifyInvokeTargets :=
  if name ∈ v.procedures then v else v.error (.symbolUndefined name)

/-- `resolve_external`: the absolute path through the import, whose use is counted, or the
missing import reported. -/
def resolveExternal (name module : String) : VerifyInvokeTargets × Option InvocationTarget :=
  match v.module.resolveImport module with
  | some imp =>
    ({ v with module := v.module.useImport module }, some (.absoluteProcedurePath name imp.path))
  | none => (v.error (.missingImport name), none)

def visitMutInvokeTarget (target : InvocationTarget) : VerifyInvokeTargets × InvocationTarget :=
  match target with
  | .mastRoot _ | .absoluteProcedurePath .. => (v, target)
  | .procedureName name =>
    if name = v.currentProcedure then (v.error (.selfRecursive target), target)
    else (v.resolveLocal name, target)
  | .procedurePath name module =>
    match v.resolveExternal name module with
    | (v', some newTarget) => (v', newTarget)
    | (v', none) => (v', target)

def insertInvoked (kind : InvokeKind) (target : InvocationTarget) : VerifyInvokeTargets :=
  { v with invoked := v.invoked.insert ⟨kind, target⟩ }

/-- `visit_mut_syscall`: a local name is left for the kernel to resolve. -/
def visitMutSyscall (target : InvocationTarget) : VerifyInvokeTargets × InvocationTarget :=
  let v₁ := if v.module.isKernel then v.error (.syscallInKernel target) else v
  let r := match target with
    | .procedureName _ => (v₁, target)
    | _ => v₁.visitMutInvokeTarget target
  (r.1.insertInvoked .sysCall r.2, r.2)

def visitMutCall (target : InvocationTarget) : VerifyInvokeTargets × InvocationTarget :=
  let v₁ := if v.module.isKernel then v.error (.callInKernel target) else v
  let r := v₁.visitMutInvokeTarget target
  (r.1.insertInvoked .call r.2, r.2)

def visitMutExec (target : InvocationTarget) : VerifyInvokeTargets × InvocationTarget :=
  let r := v.visitMutInvokeTarget target
  (r.1.insertInvoked .exec r.2, r.2)

/-- `visit_mut_procref`: recorded as an `exec`. -/
def visitMutProcref (target : InvocationTarget) : VerifyInvokeTargets × InvocationTarget :=
  let r := v.visitMutInvokeTarget target
  (r.1.insertInvoked .exec r.2, r.2)

/-- `visit_mut_inst`: `caller` is checked here; the other instructions go to the default walk,
which sends each invocation to its method. -/
def visitMutInst : Instruction → VerifyInvokeTargets × Instruction
  | .caller => (if v.module.isKernel then v else v.error .callerInKernel, .caller)
  | .exec target => let r := v.visitMutExec target; (r.1, .exec r.2)
  | .call target => let r := v.visitMutCall target; (r.1, .call r.2)
  | .sysCall target => let r := v.visitMutSyscall target; (r.1, .sysCall r.2)
  | .procRef target => let r := v.visitMutProcref target; (r.1, .procRef r.2)
  | .other => (v, .other)

/-- `visit_mut_procedure_alias`: a use of the import named by the alias's name is counted. -/
def visitMutProcedureAlias (aliasName : String) : VerifyInvokeTargets :=
  match v.module.resolveImport aliasName with
  | some _ => { v with module := v.module.useImport aliasName }
  | none => v

end VerifyInvokeTargets

/-- The walk over a procedure body: the visitor after it, and the body it leaves. -/
def VerifyInvokeTargets.visitMutBody (v : VerifyInvokeTargets) :
    List Instruction → VerifyInvokeTargets × List Instruction
  | [] => (v, [])
  | inst :: body =>
    let r := v.visitMutInst inst
    let rs := r.1.visitMutBody body
    (rs.1, r.2 :: rs.2)

/-- Modelled from the spec: a `Procedure`: its body and the invocations it records. -/
structure Procedure where
  body : List Instruction
  invoked : List Invoke

/-- `visit_mut_procedure`: the body is walked, then the invocations collected are moved into the
procedure (`extend_invoked(take(&mut self.invoked))`). -/
def VerifyInvokeTargets.visitMutProcedure (v : VerifyInvokeTargets) (procedure : Procedure) :
    VerifyInvokeTargets × Procedure :=
  let r := v.visitMutBody procedure.body
  ({ r.1 with invoked := [] }, { body := r.2, invoked := procedure.invoked ∪ r.1.invoked })

/-! ## The imports -/

namespace Import

lemma map_useFirst {α : Type} (f : Import → α) (hf : ∀ i k, f { i with uses := k } = f i)
    (name : String) : ∀ l : List Import, (useFirst name l).map f = l.map f
  | [] => rfl
  | i :: is => by
    unfold useFirst
    split_ifs
    · rw [List.map_cons, List.map_cons, hf]
    · rw [List.map_cons, List.map_cons, map_useFirst f hf name is]

/-- With distinct names, counting a use of the first import of a name adds one to the use count
of the import of that name. -/
lemma useFirst_eq (name : String) : ∀ {l : List Import}, (l.map (·.name)).Nodup →
    useFirst name l = l.map fun i => { i with uses := i.uses + [name].count i.name }
  | [], _ => rfl
  | i :: is, hnd => by
    rw [List.map_cons, List.nodup_cons] at hnd
    by_cases hi : i.name = name
    · subst hi
      have hrest : ∀ j ∈ is, { j with uses := j.uses + [i.name].count j.name } = j := fun j hj => by
        rw [List.count_eq_zero.2 (show j.name ∉ [i.name] from fun h =>
          hnd.1 (List.mem_map.2 ⟨j, hj, List.mem_singleton.1 h⟩))]
        rfl
      rw [useFirst, if_pos rfl, List.map_cons, List.count_singleton_self,
        List.map_congr_left hrest, List.map_id']
    · rw [useFirst, if_neg hi, List.map_cons, useFirst_eq name hnd.2, List.count_singleton,
        if_neg fun h => hi (beq_iff_eq.1 h).symm]
      rfl

end Import

namespace Module

variable (m : Module)

def useImports (names : List String) : Module := names.foldl useImport m

@[simp] lemma useImports_isKernel (names : List String) :
    (m.useImports names).isKernel = m.isKernel := by
  induction names generalizing m with
  | nil => rfl
  | cons name names ih => exact ih (m.useImport name)

@[simp] lemma useImports_nil : m.useImports [] = m := rfl

lemma useImports_append (names names' : List String) :
    m.useImports (names ++ names') = (m.useImports names).useImports names' :=
  List.foldl_append _ _ _ _

@[simp] lemma importPaths_useImports (names : List String) :
    (m.useImports names).importPaths = m.importPaths := by
  induction names generalizing m with
  | nil => rfl
  | cons name names ih =>
    exact (ih (m.useImport name)).trans
      (Import.map_useFirst (fun i => (i.name, i.path)) (fun _ _ => rfl) name m.imports)

lemma names_useImport (name : String) :
    (m.useImport name).imports.map (·.name) = m.imports.map (·.name) :=
  Import.map_useFirst (·.name) (fun _ _ => rfl) name m.imports

/-- **The use counts.** With distinct import names, the uses of several names add to each import
the number of times its name occurs. -/
lemma useImports_imports (hnd : (m.imports.map (·.name)).Nodup) (names : List String) :
    (m.useImports names).imports =
      m.imports.map fun i => { i with uses := i.uses + names.count i.name } := by
  induction names generalizing m with
  | nil => exact (List.map_id' _).symm
  | cons name names ih =>
    have hnd' : ((m.useImport name).imports.map (·.name)).Nodup := by
      rwa [names_useImport]
    rw [useImports, List.foldl_cons, ← useImports, ih _ hnd', useImport,
      Import.useFirst_eq name hnd, List.map_map]
    refine List.map_congr_left fun i _ => ?_
    simp only [Function.comp, List.count_cons, List.count_nil]
    congr 1
    omega

lemma useImport_of_resolveImport_none {name : String} (h : m.resolveImport name = none) :
    m.useImport name = m := by
  have hne : ∀ i ∈ m.imports, i.name ≠ name := fun i hi hn =>
    by simpa [resolveImport, hn] using List.find?_eq_none.1 h i hi
  suffices ∀ l : List Import, (∀ i ∈ l, i.name ≠ name) → Import.useFirst name l = l from
    congrArg (fun l => { m with imports := l }) (this _ hne)
  intro l hl
  induction l with
  | nil => rfl
  | cons i is ih =>
    rw [Import.useFirst, if_neg (hl i (List.mem_cons_self _ _)),
      ih fun j hj => hl j (List.mem_cons_of_mem _ hj)]

lemma resolveImport_path (name : String) :
    (m.resolveImport name).map (·.path) = m.importPaths.lookup name := by
  rw [resolveImport, importPaths]
  induction m.imports with
  | nil => rfl
  | cons i is ih =>
    rw [List.find?_cons, List.map_cons, List.lookup_cons]
    by_cases h : i.name = name
    · rw [beq_iff_eq.2 h, beq_iff_eq.2 h.symm]
      rfl
    · rw [beq_false_of_ne h, beq_false_of_ne (Ne.symm h)]
      exact ih

end Module

/-! ## One instruction -/

namespace VerifyInvokeTargets

variable (v : VerifyInvokeTargets)

@[simp] lemma error_module (d : SemanticAnalysisError) : (v.error d).module = v.module := rfl

@[simp] lemma error_invoked (d : SemanticAnalysisError) : (v.error d).invoked = v.invoked := rfl

@[simp] lemma insertInvoked_module (kind : InvokeKind) (target : InvocationTarget) :
    (v.insertInvoked kind target).module = v.module := rfl

@[simp] lemma insertInvoked_invoked (kind : InvokeKind) (target : InvocationTarget) :
    (v.insertInvoked kind target).invoked = v.invoked.insert ⟨kind, target⟩ := rfl

@[simp] lemma ite_error_module (c : Prop) [Decidable c] (d : SemanticAnalysisError) :
    (if c then v.error d else v).module = v.module := by
  split_ifs <;> rfl

@[simp] lemma ite_error_invoked (c : Prop) [Decidable c] (d : SemanticAnalysisError) :
    (if c then v.error d else v).invoked = v.invoked := by
  split_ifs <;> rfl

@[simp] lemma resolveLocal_module (name : String) : (v.resolveLocal name).module = v.module := by
  unfold resolveLocal; split_ifs <;> rfl

@[simp] lemma resolveLocal_invoked (name : String) :
    (v.resolveLocal name).invoked = v.invoked := by
  unfold resolveLocal; split_ifs <;> rfl

/-- **What `visit_mut_invoke_target` does**: it counts the use of the import a path goes
through, collects nothing, and leaves the rewritten target. -/
lemma visitMutInvokeTarget_spec (target : InvocationTarget) :
    (v.visitMutInvokeTarget target).1.module = v.module.useImports target.pathModules ∧
    (v.visitMutInvokeTarget target).1.invoked = v.invoked ∧
    (v.visitMutInvokeTarget target).2 = target.rewrite v.module.importPaths := by
  cases target with
  | procedureName name =>
    dsimp only [visitMutInvokeTarget]
    split_ifs <;> exact ⟨by simp [InvocationTarget.pathModules], by simp, rfl⟩
  | procedurePath name module =>
    have hpath := v.module.resolveImport_path module
    rcases hi : v.module.resolveImport module with _ | imp <;> rw [hi] at hpath <;>
      simp only [visitMutInvokeTarget, resolveExternal, hi]
    · exact ⟨(v.module.useImport_of_resolveImport_none hi).symm, by simp,
        by simp [InvocationTarget.rewrite, ← hpath]⟩
    · exact ⟨rfl, by simp, by simp [InvocationTarget.rewrite, ← hpath]⟩
  | mastRoot _ => exact ⟨rfl, rfl, rfl⟩
  | absoluteProcedurePath _ _ => exact ⟨rfl, rfl, rfl⟩

/-- **What `visit_mut_inst` does**: it counts the uses of the imports its paths go through,
records its invocation as rewritten, and leaves the rewritten instruction. -/
lemma visitMutInst_spec (inst : Instruction) :
    (v.visitMutInst inst).1.module = v.module.useImports inst.pathModules ∧
    (v.visitMutInst inst).1.invoked =
      ((inst.rewrite v.module.importPaths).invocation?).elim v.invoked
        (fun i => v.invoked.insert ⟨i.1, i.2⟩) ∧
    (v.visitMutInst inst).2 = inst.rewrite v.module.importPaths := by
  cases inst with
  | exec target =>
    obtain ⟨h₁, h₂, h₃⟩ := v.visitMutInvokeTarget_spec target
    simp [visitMutInst, visitMutExec, h₁, h₂, h₃, Instruction.pathModules,
      Instruction.invocation?, Instruction.rewrite]
  | call target =>
    obtain ⟨h₁, h₂, h₃⟩ := visitMutInvokeTarget_spec
      (if v.module.isKernel then v.error (.callInKernel target) else v) target
    simp only [ite_error_module, ite_error_invoked] at h₁ h₂ h₃
    simp [visitMutInst, visitMutCall, h₁, h₂, h₃, Instruction.pathModules,
      Instruction.invocation?, Instruction.rewrite]
  | sysCall target =>
    obtain ⟨h₁, h₂, h₃⟩ := visitMutInvokeTarget_spec
      (if v.module.isKernel then v.error (.syscallInKernel target) else v) target
    simp only [ite_error_module, ite_error_invoked] at h₁ h₂ h₃
    cases target <;>
      simp [visitMutInst, visitMutSyscall, h₁, h₂, h₃, Instruction.pathModules,
        Instruction.invocation?, Instruction.rewrite, InvocationTarget.pathModules,
        InvocationTarget.rewrite]
  | procRef target =>
    obtain ⟨h₁, h₂, h₃⟩ := v.visitMutInvokeTarget_spec target
    simp [visitMutInst, visitMutProcref, h₁, h₂, h₃, Instruction.pathModules,
      Instruction.invocation?, Instruction.rewrite]
  | caller =>
    simp only [visitMutInst, Instruction.pathModules, Instruction.invocation?,
      Instruction.rewrite, Module.useImports_nil, Option.elim, and_true]
    split_ifs <;> exact ⟨rfl, rfl⟩
  | other => exact ⟨rfl, rfl, rfl⟩

end VerifyInvokeTargets

/-! ## A whole body -/

lemma Instruction.invocation?_rewrite (paths : List (String × String)) (inst : Instruction) :
    (inst.rewrite paths).invocation? = inst.invocation?.map fun i => (i.1, i.2.rewrite paths) := by
  cases inst <;> rfl

/-- **What the walk over a body does**: it counts the uses of the imports its paths go through,
collects its invocations as rewritten, and leaves the rewritten body. -/
lemma VerifyInvokeTargets.visitMutBody_spec (v : VerifyInvokeTargets) (body : List Instruction) :
    (v.visitMutBody body).1.module = v.module.useImports (body.flatMap Instruction.pathModules) ∧
    (v.visitMutBody body).2 = body.map (Instruction.rewrite v.module.importPaths) ∧
    ∀ i, i ∈ (v.visitMutBody body).1.invoked ↔ i ∈ v.invoked ∨
      ∃ inst ∈ body, (inst.rewrite v.module.importPaths).invocation? = some (i.kind, i.target) := by
  induction body generalizing v with
  | nil => simp [visitMutBody]
  | cons inst body ih =>
    obtain ⟨h₁, h₂, h₃⟩ := v.visitMutInst_spec inst
    obtain ⟨ih₁, ih₂, ih₃⟩ := ih (v.visitMutInst inst).1
    have hpaths : (v.visitMutInst inst).1.module.importPaths = v.module.importPaths := by
      rw [h₁, Module.importPaths_useImports]
    refine ⟨?_, ?_, fun i => ?_⟩
    · -- the uses: this instruction's, then the rest's
      rw [visitMutBody, ih₁, h₁, List.flatMap_cons, Module.useImports_append]
    · -- the body: the rewritten instruction, then the rest rewritten
      rw [visitMutBody, ih₂, h₃, hpaths, List.map_cons]
    · -- the invocations: this instruction's, if any, then the rest's
      rw [visitMutBody, ih₃, h₂, hpaths, List.exists_mem_cons_iff]
      cases i
      rcases (inst.rewrite v.module.importPaths).invocation? with _ | ⟨kind, target⟩
      · simp
      · simp only [Option.elim, List.mem_insert_iff, Invoke.mk.injEq, Option.some.injEq,
          Prod.mk.injEq]
        tauto

/-- Two resolutions agree on the procedure: they give the same procedure
(`into_global_id`) when the first resolves, and the same error when it fails; a first one that
panics asks nothing of the second. -/
def SameProcedure : Option (Except AssemblyError ResolvedTarget) →
    Option (Except AssemblyError ResolvedTarget) → Prop
  | some (.ok x), some (.ok y) => x.intoGlobalId = y.intoGlobalId
  | some (.error e), some (.error e') => e = e'
  | none, _ => True
  | _, _ => False

lemma sameProcedure_refl : ∀ res, SameProcedure res res
  | some (.ok _) | some (.error _) => rfl
  | none => trivial

lemma intoGlobalId_cachedOrResolved {r : NameResolver} {gid : GlobalProcedureIndex}
    {x : ResolvedTarget} (h : r.cachedOrResolved gid = some x) : x.intoGlobalId = some gid := by
  unfold NameResolver.cachedOrResolved at h
  split at h
  · cases h; rfl
  · split at h
    · cases h; rfl
    · cases h

lemma intoGlobalId_cachedOrExact (r : NameResolver) (gid : GlobalProcedureIndex) :
    (r.cachedOrExact gid).intoGlobalId = some gid := by
  unfold NameResolver.cachedOrExact
  split <;> rfl

/-- **The rewrite keeps the procedure.** In a module whose imports the resolver reads, a path
through an import and the absolute path it is rewritten to resolve to the same procedure, or
fail with the same error. -/
lemma sameProcedure_rewrite (r : NameResolver) (caller : CallerInfo) {tm : ThinModule}
    (hm : r.moduleAt caller.module = some tm) (target : InvocationTarget) :
    SameProcedure (r.resolveTarget caller target)
      (r.resolveTarget caller (target.rewrite tm.imports)) := by
  cases target with
  | procedurePath name module =>
    rcases hl : tm.imports.lookup module with _ | path
    · simp only [InvocationTarget.rewrite, hl]
      exact sameProcedure_refl _
    · have himp : r.resolveImport caller module = some (some path) := by
        rw [NameResolver.resolveImport, hm]
        exact congrArg some hl
      simp only [InvocationTarget.rewrite, hl, NameResolver.resolveTarget, himp]
      rcases r.find caller ⟨path, name⟩ with _ | e | gid
      · trivial
      · exact rfl
      · show SameProcedure ((r.cachedOrResolved gid).map .ok) (some (.ok (r.cachedOrExact gid)))
        rcases hc : r.cachedOrResolved gid with _ | x
        · trivial
        · exact (intoGlobalId_cachedOrResolved hc).trans (intoGlobalId_cachedOrExact r gid).symm
  | mastRoot _ | procedureName _ | absoluteProcedurePath _ _ => exact sameProcedure_refl _

open VerifyInvokeTargets

/-- **Import use counts.** With distinct import names, walking any body adds to the use count of
each import the number of invocations in the body that name a path through it, and changes
nothing else of the imports. -/
theorem visitMutBody_import_uses (v : VerifyInvokeTargets)
    (hnd : (v.module.imports.map (·.name)).Nodup) (body : List Instruction) :
    (v.visitMutBody body).1.module.imports = v.module.imports.map fun i =>
      { i with uses := i.uses + (body.flatMap Instruction.pathModules).count i.name } := by
  rw [(v.visitMutBody_spec body).1, Module.useImports_imports _ hnd]

/-- A visitor of `main`, in a module that imports `std::math` as `std`. -/
def stdVisitor : VerifyInvokeTargets := ⟨[], ⟨[⟨"std", "std::math", 0⟩], false⟩, ["main"], "main", []⟩

/-- `exec.std::add` and `call.std::mul`. -/
def stdBody : List Instruction :=
  [.exec (.procedurePath "add" "std"), .call (.procedurePath "mul" "std")]

theorem visitMutBody_import_uses_std :
    (stdVisitor.visitMutBody stdBody).1.module.imports = stdVisitor.module.imports.map fun i =>
      { i with uses := i.uses + (stdBody.flatMap Instruction.pathModules).count i.name } :=
  visitMutBody_import_uses stdVisitor (by decide) stdBody

/-- **The rewritten body calls the same procedures.** When the resolver reads the caller's
module with the imports the pass reads, then instruction by instruction each invocation the pass
leaves has the original's kind, and its target resolves to the procedure the original target
resolves to, or fails with the same error. -/
theorem visitMutBody_same_procedure (r : NameResolver) (callerModule : ℕ) (tm : ThinModule)
    (hm : r.moduleAt callerModule = some tm) (v : VerifyInvokeTargets)
    (hi : tm.imports = v.module.importPaths) (body : List Instruction) :
    List.Forall₂ (fun inst inst' => ∀ kind target, inst.invocation? = some (kind, target) →
      ∃ target', inst'.invocation? = some (kind, target') ∧
        SameProcedure (r.resolveTarget ⟨callerModule, kind⟩ target)
          (r.resolveTarget ⟨callerModule, kind⟩ target'))
      body (v.visitMutBody body).2 := by
  rw [(v.visitMutBody_spec body).2.1, List.forall₂_map_right_iff, List.forall₂_same, ← hi]
  intro inst _ kind target h
  exact ⟨target.rewrite tm.imports, by rw [Instruction.invocation?_rewrite, h]; rfl,
    sameProcedure_rewrite r ⟨callerModule, kind⟩ hm target⟩

/-- The graph of `app`, which imports `std::math` as `std`, and of `std::math`. -/
def stdResolver : NameResolver where
  graph :=
    { modules := [⟨"app", [], [("std", "std::math")], ["main"]⟩,
        ⟨"std::math", [("add", .local 0), ("mul", .local 1)], [], ["add", "mul"]⟩]
      kernelIndex := none
      hasNonemptyKernel := false
      getMastRoot := fun _ => none
      getProcedureIndexByDigest := fun _ => none }
  pending := []

theorem visitMutBody_same_procedure_std :
    List.Forall₂ (fun inst inst' => ∀ kind target, inst.invocation? = some (kind, target) →
      ∃ target', inst'.invocation? = some (kind, target') ∧
        SameProcedure (stdResolver.resolveTarget ⟨0, kind⟩ target)
          (stdResolver.resolveTarget ⟨0, kind⟩ target'))
      stdBody (stdVisitor.visitMutBody stdBody).2 :=
  visitMutBody_same_procedure stdResolver 0 _ rfl stdVisitor rfl stdBody

/-- **Every invocation is recorded.** After the walk of a procedure, the procedure records the
invocations it recorded before, those the visitor had collected, and the invocations of its
body as rewritten, a `procref` as an `exec`; the visitor is left with none. -/
theorem visitMutProcedure_invoked (v : VerifyInvokeTargets) (procedure : Procedure) :
    (v.visitMutProcedure procedure).1.invoked = [] ∧
    ∀ i, i ∈ (v.visitMutProcedure procedure).2.invoked ↔ i ∈ procedure.invoked ∨ i ∈ v.invoked ∨
      ∃ inst ∈ procedure.body,
        (inst.rewrite v.module.importPaths).invocation? = some (i.kind, i.target) :=
  ⟨rfl, fun i => by
    simp only [visitMutProcedure, List.mem_union_iff, (v.visitMutBody_spec procedure.body).2.2 i]⟩

end Sema

end MidenVm.Assembly
