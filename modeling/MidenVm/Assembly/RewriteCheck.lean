import MidenVm.Assembly.NameResolver

/-!
# Adding modules to the resolver, and the rewrite check

`NameResolver::push_pending` (`module_graph/name_resolver.rs`) adds a module that is on its way
into the graph to the modules name resolution consults. `MaybeRewriteCheck::check`
(`module_graph/analysis/rewrite_check.rs`) resolves the invocation targets of a module already
in the graph, in the order its visitor meets them, and stops at the first target whose
resolution would change the module's body. The check exists because new modules can make
targets resolvable that were not; the results below say that this is the only thing they do.

* `resolveTarget_pushPending`: a pending module changes no resolution, except one that panicked
  or failed for a missing module.
* `check_eq_ok_false_iff`: the check answers `Ok(false)` exactly when every target resolves to
  a target the module can keep.
* `check_pushPending`: the check's answer survives `push_pending`, unless it was a missing
  module.
-/

namespace MidenVm.Assembly

namespace NameResolver

/-! ## `push_pending` -/

section PushPending

variable (r : NameResolver) (module : ThinModule)

/-- `push_pending`: the module goes after the pending ones. -/
def pushPending : NameResolver := { r with pending := r.pending ++ [module] }

@[simp] lemma pushPending_graph : (r.pushPending module).graph = r.graph := rfl

variable {r module}

lemma moduleAt_pushPending {i : ℕ} {m : ThinModule} (h : r.moduleAt i = some m) :
    (r.pushPending module).moduleAt i = some m := by
  rw [moduleAt_eq] at h ⊢
  obtain ⟨hi, -⟩ := List.getElem?_eq_some_iff.1 h
  rw [pushPending, ← List.append_assoc, List.getElem?_append_left hi, h]

lemma findModuleIndex_pushPending {path : String} {i : ℕ} (h : r.findModuleIndex path = some i) :
    (r.pushPending module).findModuleIndex path = some i := by
  rw [findModuleIndex] at h ⊢
  rw [pushPending, List.map_append, ← List.append_assoc, List.findIdx?_append, h]
  rfl

lemma resolveLocalWithIndex_pushPending {i : ℕ} {callee : String} {res : Option ResolvedProcedure}
    (h : r.resolveLocalWithIndex i callee = some res) :
    (r.pushPending module).resolveLocalWithIndex i callee = some res := by
  obtain ⟨m, hm, rfl⟩ := Option.map_eq_some'.1 h
  rw [resolveLocalWithIndex, moduleAt_pushPending hm]
  rfl

lemma lookup_pushPending {n : FullyQualifiedProcedureName} (h : r.lookup n ≠ .missingModule) :
    (r.pushPending module).lookup n = r.lookup n := by
  unfold lookup at h ⊢
  rcases hi : r.findModuleIndex n.module with _ | i
  · simp only [hi, ne_eq, not_true_eq_false] at h
  obtain ⟨m, hm⟩ := r.findModuleIndex_moduleAt hi
  have hres : r.resolveLocalWithIndex i n.name = some (m.resolve n.name) := by
    rw [resolveLocalWithIndex, hm]
    rfl
  rw [findModuleIndex_pushPending hi]
  dsimp only
  rw [resolveLocalWithIndex_pushPending hres, hres]

/-- `find`'s loop answers the same after `push_pending`, unless it failed for a missing
module. -/
lemma findLoop_pushPending {kind : InvokeKind} (hk : kind ≠ .sysCall)
    (n : FullyQualifiedProcedureName) (visited : List FullyQualifiedProcedureName)
    (h : ∀ p, r.findLoop kind n visited ≠ some (.error (.undefinedModule p))) :
    (r.pushPending module).findLoop kind n visited = r.findLoop kind n visited := by
  induction n, visited using r.findLoop_induction with
  | step n visited ih =>
  rw [findLoop_eq _ hk] at h ⊢
  rw [findLoop_eq _ hk]
  rcases hl : r.lookup n with gid | fqn | _ | _
  · simp only [lookup_pushPending (by rw [hl]; exact fun h => by cases h), hl]
  · simp only [lookup_pushPending (by rw [hl]; exact fun h => by cases h), hl] at h ⊢
    split_ifs at h ⊢ with hv
    · rfl
    · exact ih fqn hl hv h
  · simp only [hl] at h
    exact absurd rfl (h n.module)
  · simp only [lookup_pushPending (by rw [hl]; exact fun h => by cases h), hl]

lemma find_pushPending (caller : CallerInfo) (callee : FullyQualifiedProcedureName)
    (h : ∀ p, r.find caller callee ≠ some (.error (.undefinedModule p))) :
    (r.pushPending module).find caller callee = r.find caller callee :=
  findLoop_pushPending (find_kind_ne_sysCall caller) callee [] h

lemma resolveLocal_pushPending {caller : CallerInfo} {callee : String}
    {res : Option ResolvedProcedure} (h : r.resolveLocal caller callee = some res) :
    (r.pushPending module).resolveLocal caller callee = some res := by
  unfold resolveLocal at h ⊢
  rw [pushPending_graph]
  split_ifs at h ⊢
  · rcases hk : r.graph.kernelIndex with _ | kernel
    · rwa [hk] at h
    · rw [hk] at h
      exact resolveLocalWithIndex_pushPending h
  · exact resolveLocalWithIndex_pushPending h

lemma resolveImport_pushPending {caller : CallerInfo} {name : String} {res : Option String}
    (h : r.resolveImport caller name = some res) :
    (r.pushPending module).resolveImport caller name = some res := by
  obtain ⟨m, hm, rfl⟩ := Option.map_eq_some'.1 h
  rw [resolveImport, moduleAt_pushPending hm]
  rfl

lemma modulePath_pushPending {i : ℕ} {path : String} (h : r.modulePath i = some path) :
    (r.pushPending module).modulePath i = some path := by
  obtain ⟨m, hm, rfl⟩ := Option.map_eq_some'.1 h
  rw [modulePath, moduleAt_pushPending hm]
  rfl

lemma procedureName_pushPending {gid : GlobalProcedureIndex} {name : String}
    (h : r.procedureName gid = some name) :
    (r.pushPending module).procedureName gid = some name := by
  obtain ⟨m, hm, hn⟩ := Option.bind_eq_some.1 h
  rw [procedureName, moduleAt_pushPending hm]
  exact hn

lemma cachedOrResolved_pushPending {gid : GlobalProcedureIndex} {x : ResolvedTarget}
    (h : r.cachedOrResolved gid = some x) :
    (r.pushPending module).cachedOrResolved gid = some x := by
  unfold cachedOrResolved at h ⊢
  rw [pushPending_graph]
  rcases hm : r.graph.getMastRoot gid with _ | digest
  · rw [hm] at h
    rcases hp : r.modulePath gid.module with _ | path
    · rw [hp] at h; cases h
    rcases hn : r.procedureName gid with _ | name
    · rw [hp, hn] at h; cases h
    rw [hp, hn] at h
    rw [modulePath_pushPending hp, procedureName_pushPending hn]
    exact h
  · rwa [hm] at h

lemma find_match_pushPending {caller : CallerInfo} {callee : FullyQualifiedProcedureName}
    (k k' : GlobalProcedureIndex → Option ResolvedTarget)
    (hk : ∀ gid x, k gid = some x → k' gid = some x) {res : Except AssemblyError ResolvedTarget}
    (h : (match r.find caller callee with
      | some (.ok gid) => (k gid).map .ok
      | some (.error e) => some (.error e)
      | none => none) = some res)
    (hres : ∀ p, res ≠ .error (.undefinedModule p)) :
    (match (r.pushPending module).find caller callee with
      | some (.ok gid) => (k' gid).map .ok
      | some (.error e) => some (.error e)
      | none => none) = some res := by
  have hf : (r.pushPending module).find caller callee = r.find caller callee :=
    find_pushPending caller callee fun p hp => hres p <| by
      rw [hp] at h
      exact (Option.some_injective _ h).symm
  rw [hf]
  rcases hfind : r.find caller callee with _ | _ | gid <;> simp only [hfind] at h ⊢
  · cases h
  · exact h
  · obtain ⟨x, hx, rfl⟩ := Option.map_eq_some'.1 h
    rw [hk gid x hx]
    rfl

/-- **A pending module resolves only what was unresolvable.** Every resolution that did not
panic or fail for a missing module gives the same answer after `push_pending`. -/
lemma resolveTarget_pushPending {caller : CallerInfo} {target : InvocationTarget}
    {res : Except AssemblyError ResolvedTarget} (h : r.resolveTarget caller target = some res)
    (hres : ∀ p, res ≠ .error (.undefinedModule p)) :
    (r.pushPending module).resolveTarget caller target = some res := by
  cases target with
  | mastRoot digest => exact h
  | procedureName callee =>
    simp only [resolveTarget, resolve] at h ⊢
    rcases hl : r.resolveLocal caller callee with _ | _ | _ | fqn <;> rw [hl] at h
    · cases h
    all_goals rw [resolveLocal_pushPending hl]
    · -- an undefined name
      exact h
    · -- a local procedure: the graph decides
      exact h
    · -- an alias: `find`, then the cache or the module graph
      exact find_match_pushPending _ _ (fun _ _ => cachedOrResolved_pushPending) h hres
  | procedurePath name importedModule =>
    simp only [resolveTarget] at h ⊢
    rcases hi : r.resolveImport caller importedModule with _ | _ | path <;> rw [hi] at h
    · cases h
    · cases h
      exact absurd rfl (hres importedModule)
    · rw [resolveImport_pushPending hi]
      exact find_match_pushPending _ _ (fun _ _ => cachedOrResolved_pushPending) h hres
  | absoluteProcedurePath name path =>
    simp only [resolveTarget] at h ⊢
    exact find_match_pushPending (fun gid => some (r.cachedOrExact gid))
      (fun gid => some ((r.pushPending module).cachedOrExact gid)) (fun _ _ hx => hx) h hres

end PushPending

end NameResolver

open NameResolver

/-! ## The rewrite check -/

/-- `core::ops::ControlFlow`: go on with the walk, or stop it with a value. -/
inductive ControlFlow (B : Type)
  | «continue»
  | «break» (value : B)

/-- A target the module can keep as it is: an exact or phantom target, or a cached one that is
named by its MAST root already. -/
def ResolvedTarget.Keeps (target : InvocationTarget) : ResolvedTarget → Prop
  | .exact _ | .phantom _ => True
  | .cached .. => ∃ digest, target = .mastRoot digest
  | .resolved .. => False

/-- `RewriteCheckVisitor`: the resolver and the index of the module being checked (its source
file is left out). -/
structure RewriteCheckVisitor where
  resolver : NameResolver
  moduleId : ℕ

namespace RewriteCheckVisitor

variable (v : RewriteCheckVisitor)

/-- `RewriteCheckVisitor::resolve_target`: an error, or a target the caller would be rewritten
to, stops the walk; an exact or phantom target, or a cached one named by its MAST root, lets it
go on. -/
def resolveTarget (kind : InvokeKind) (target : InvocationTarget) :
    Option (ControlFlow (Except AssemblyError Bool)) :=
  (v.resolver.resolveTarget ⟨v.moduleId, kind⟩ target).map fun
    | .error err => .break (.error err)
    | .ok (.resolved ..) => .break (.ok true)
    | .ok (.exact ..) | .ok (.phantom _) => .continue
    | .ok (.cached ..) =>
      match target with
      | .mastRoot _ => .continue
      | _ => .break (.ok true)

/-- The walk of `visit_module` over the module's invocation targets, in the order it meets
them, each with the kind of the method that receives it (`visit_syscall`, `visit_call`, and
`visit_invoke_target` for `exec` and `procref`); the first `Break` ends it. -/
def visitTargets : List (InvokeKind × InvocationTarget) →
    Option (ControlFlow (Except AssemblyError Bool))
  | [] => some .continue
  | (kind, target) :: rest =>
    (v.resolveTarget kind target).bind fun
      | .continue => visitTargets rest
      | .break result => some (.break result)

end RewriteCheckVisitor

/-- `MaybeRewriteCheck::check`: the value of the first `Break`, or `Ok(false)`. -/
def MaybeRewriteCheck.check (resolver : NameResolver) (moduleId : ℕ)
    (module : List (InvokeKind × InvocationTarget)) : Option (Except AssemblyError Bool) :=
  (RewriteCheckVisitor.visitTargets ⟨resolver, moduleId⟩ module).map fun
    | .break result => result
    | .continue => .ok false

namespace RewriteCheckVisitor

variable {v : RewriteCheckVisitor}

/-- One target lets the walk go on exactly when it resolves to a target the module keeps. -/
lemma resolveTarget_eq_continue_iff {kind : InvokeKind} {target : InvocationTarget} :
    v.resolveTarget kind target = some .continue ↔
      ∃ x, v.resolver.resolveTarget ⟨v.moduleId, kind⟩ target = some (.ok x) ∧ x.Keeps target := by
  unfold resolveTarget
  rcases v.resolver.resolveTarget ⟨v.moduleId, kind⟩ target with _ | _ | x
  · simp
  · simp
  · cases x <;> cases target <;> simp [ResolvedTarget.Keeps]

lemma resolveTarget_ne_break_false (kind : InvokeKind) (target : InvocationTarget) :
    v.resolveTarget kind target ≠ some (.break (.ok false)) := by
  unfold resolveTarget
  rcases v.resolver.resolveTarget ⟨v.moduleId, kind⟩ target with _ | _ | x
  · simp
  · simp
  · cases x <;> cases target <;> simp

lemma visitTargets_eq_continue_iff {l : List (InvokeKind × InvocationTarget)} :
    v.visitTargets l = some .continue ↔ ∀ s ∈ l, v.resolveTarget s.1 s.2 = some .continue := by
  induction l with
  | nil => simp [visitTargets]
  | cons s l ih =>
    rw [visitTargets, List.forall_mem_cons, ← ih]
    rcases v.resolveTarget s.1 s.2 with _ | _ | b <;> simp

lemma visitTargets_ne_break_false (l : List (InvokeKind × InvocationTarget)) :
    v.visitTargets l ≠ some (.break (.ok false)) := by
  induction l with
  | nil => simp [visitTargets]
  | cons s l ih =>
    rw [visitTargets]
    have := v.resolveTarget_ne_break_false s.1 s.2
    revert this
    rcases v.resolveTarget s.1 s.2 with _ | _ | b
    · simp
    · exact fun _ => ih
    · simp

lemma resolveTarget_pushPending (module : ThinModule) {kind : InvokeKind}
    {target : InvocationTarget} {cf : ControlFlow (Except AssemblyError Bool)}
    (h : v.resolveTarget kind target = some cf)
    (hcf : ∀ p, cf ≠ .break (.error (.undefinedModule p))) :
    (⟨v.resolver.pushPending module, v.moduleId⟩ : RewriteCheckVisitor).resolveTarget kind target =
      some cf := by
  unfold resolveTarget at h ⊢
  obtain ⟨res, hres, rfl⟩ := Option.map_eq_some'.1 h
  refine (congrArg _ (NameResolver.resolveTarget_pushPending hres fun p hp => hcf p ?_)).trans rfl
  rw [hp]

lemma visitTargets_pushPending (module : ThinModule) {l : List (InvokeKind × InvocationTarget)}
    {cf : ControlFlow (Except AssemblyError Bool)} (h : v.visitTargets l = some cf)
    (hcf : ∀ p, cf ≠ .break (.error (.undefinedModule p))) :
    (⟨v.resolver.pushPending module, v.moduleId⟩ : RewriteCheckVisitor).visitTargets l =
      some cf := by
  induction l with
  | nil => exact h
  | cons s l ih =>
    rw [visitTargets] at h ⊢
    rcases hs : v.resolveTarget s.1 s.2 with _ | _ | b
    · rw [hs] at h; cases h
    · rw [hs] at h
      rw [resolveTarget_pushPending module hs fun p hp => by cases hp]
      exact ih h
    · rw [hs] at h
      cases h
      rw [resolveTarget_pushPending module hs hcf]
      rfl

end RewriteCheckVisitor

open RewriteCheckVisitor

/-- **When a module needs no rewrite.** The check answers `Ok(false)` exactly when every
invocation target of the module resolves, without error, to a target the module can keep: an
exact or phantom target, or a cached one already named by its MAST root. -/
lemma check_eq_ok_false_iff (resolver : NameResolver) (moduleId : ℕ)
    (module : List (InvokeKind × InvocationTarget)) :
    MaybeRewriteCheck.check resolver moduleId module = some (.ok false) ↔
      ∀ s ∈ module, ∃ x, resolver.resolveTarget ⟨moduleId, s.1⟩ s.2 = some (.ok x) ∧
        x.Keeps s.2 := by
  have hcont := (visitTargets_eq_continue_iff (v := ⟨resolver, moduleId⟩) (l := module)).trans
    (forall₂_congr fun s _ => resolveTarget_eq_continue_iff)
  rw [← hcont, MaybeRewriteCheck.check]
  have hne := visitTargets_ne_break_false (v := ⟨resolver, moduleId⟩) module
  revert hne
  rcases visitTargets ⟨resolver, moduleId⟩ module with _ | _ | b
  · simp
  · simp
  · intro hne
    simp only [Option.map_some', Option.some.injEq, reduceCtorEq, iff_false]
    rintro rfl
    exact hne rfl

/-- **New modules never undo a rewrite.** The check's answer stays the same after
`push_pending`, unless it was an `UndefinedModule` error: a module found to need a rewrite still
needs it, and one found to need none still needs none. -/
theorem check_pushPending (resolver : NameResolver) (module : ThinModule) (moduleId : ℕ)
    (targets : List (InvokeKind × InvocationTarget)) {res : Except AssemblyError Bool}
    (h : MaybeRewriteCheck.check resolver moduleId targets = some res)
    (hres : ∀ p, res ≠ .error (.undefinedModule p)) :
    MaybeRewriteCheck.check (resolver.pushPending module) moduleId targets = some res := by
  obtain ⟨cf, hcf, rfl⟩ := Option.map_eq_some'.1 h
  rw [MaybeRewriteCheck.check,
    visitTargets_pushPending (v := ⟨resolver, moduleId⟩) module hcf fun p hp => hres p (by rw [hp])]
  rfl

/-- A graph of one compiled module `lib`, whose procedure `foo` has the MAST root `7`. -/
def compiledLibResolver : NameResolver where
  graph :=
    { modules := [⟨"lib", [("foo", .local 0)], [], ["foo"]⟩]
      kernelIndex := none
      hasNonemptyKernel := false
      getMastRoot := fun gid => if gid = ⟨0, 0⟩ then some 7 else none
      getProcedureIndexByDigest := fun _ => none }
  pending := []

/-- `exec.foo` in `lib` is cached, so `lib` needs a rewrite to the MAST root, and still does
once a module `app` is pending. -/
theorem check_pushPending_compiled_lib :
    MaybeRewriteCheck.check (compiledLibResolver.pushPending ⟨"app", [], [], []⟩) 0
      [(.exec, .procedureName "foo")] = some (.ok true) :=
  check_pushPending compiledLibResolver ⟨"app", [], [], []⟩ 0 [(.exec, .procedureName "foo")]
    rfl (fun _ h => by cases h)

end MidenVm.Assembly
