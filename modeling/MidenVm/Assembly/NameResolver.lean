import Mathlib.Data.Finset.Card

/-!
# Name resolution across modules

`NameResolver` (`module_graph/name_resolver.rs`) resolves a procedure name to its definition.
A module may re-export a procedure of a module it imports under an alias, so `find` follows the
chain of aliases from module to module until it reaches a local definition; it records the alias
targets it has followed and reports a recursive alias when one comes back.

The modules are those of the graph followed by the pending ones, indexed by position; a module
is its path, its table of local names (procedures and aliases), its imports and the names of its
procedures. A panic of the Rust code (an index past the modules) is `none`.

* `find` terminates because every alias step adds a new alias target to the visited set, and
  there are finitely many (`findLoop`'s `termination_by`).
* `findLoop_eq`: one step of the loop, in terms of `lookup`, what resolving a name in its module
  gives.
* `find_result_of_alias_chain`: `find` never panics, and its result is the end of the alias
  chain: the definition it reaches, the first missing module or name, or a recursive alias
  exactly when the chain comes back to a name it passed.
* `find_sysCall_eq_exec`: a syscall is resolved as an `exec`, so the check that the definition
  lies in the kernel never fires; `syscall_resolves_outside_kernel` is a syscall answered with a
  procedure of another module.
-/

namespace MidenVm.Assembly

/-- Modelled from the spec: `FullyQualifiedProcedureName`, a module path and a procedure name
(the span is left out). -/
structure FullyQualifiedProcedureName where
  module : String
  name : String
  deriving DecidableEq

/-- Modelled from the spec: `ResolvedProcedure`, what a module's local name resolver gives. -/
inductive ResolvedProcedure
  | «local» (index : ℕ)
  | external (fqn : FullyQualifiedProcedureName)

/-- Modelled from the spec: `InvokeKind`. -/
inductive InvokeKind
  | exec
  | call
  | sysCall
  deriving DecidableEq

/-- A module as name resolution reads it (`ThinModule`, or a module of the graph): its path, its
local name resolver as the table of its names, its imports, and its procedures' names. -/
structure ThinModule where
  path : String
  resolver : List (String × ResolvedProcedure)
  imports : List (String × String)
  procedureNames : List String

def ThinModule.resolve (m : ThinModule) (name : String) : Option ResolvedProcedure :=
  m.resolver.lookup name

/-- `resolve_import`: the path of the imported module named `name`. -/
def ThinModule.resolveImport (m : ThinModule) (name : String) : Option String :=
  m.imports.lookup name

structure GlobalProcedureIndex where
  module : ℕ
  index : ℕ
  deriving DecidableEq

/-- Modelled from the spec: the parts of `ModuleGraph` name resolution reads; MAST roots are
numbers. -/
structure ModuleGraph where
  modules : List ThinModule
  kernelIndex : Option ℕ
  hasNonemptyKernel : Bool
  getMastRoot : GlobalProcedureIndex → Option ℕ
  getProcedureIndexByDigest : ℕ → Option GlobalProcedureIndex

/-- `CallerInfo`: the caller's module and how it invokes (span and source file are left out). -/
structure CallerInfo where
  module : ℕ
  kind : InvokeKind

/-- Modelled from the spec: `InvocationTarget`. -/
inductive InvocationTarget
  | mastRoot (digest : ℕ)
  | procedureName (name : String)
  | procedurePath (name module : String)
  | absoluteProcedurePath (name path : String)

inductive ResolvedTarget
  | cached (digest : ℕ) (gid : Option GlobalProcedureIndex)
  | exact (gid : GlobalProcedureIndex)
  | resolved (gid : GlobalProcedureIndex) (target : InvocationTarget)
  | phantom (digest : ℕ)

/-- The `AssemblyError`s name resolution raises; a `Failed` error is the texts of its labels. -/
inductive AssemblyError
  | undefinedModule (path : String)
  | invalidSysCallTarget (callee : FullyQualifiedProcedureName)
  | failed (labels : List String)
  deriving DecidableEq

/-- `NameResolver`: the graph and the pending modules. -/
structure NameResolver where
  graph : ModuleGraph
  pending : List ThinModule

lemma lookup_mem {β : Type} {a : String} {b : β} :
    ∀ {l : List (String × β)}, l.lookup a = some b → (a, b) ∈ l
  | [], h => by cases h
  | (k, b') :: es, h => by
    rw [List.lookup_cons] at h
    split at h
    · rename_i hk
      cases h
      rw [beq_iff_eq.1 hk]
      exact List.mem_cons_self _ _
    · exact List.mem_cons_of_mem _ (lookup_mem h)

namespace NameResolver

variable (r : NameResolver)

/-! ## The resolver's functions -/

/-- The module at index `module`: a pending one past the graph's modules. Every function of the
resolver that reads a module reads it so. -/
def moduleAt (module : ℕ) : Option ThinModule :=
  let pendingOffset := r.graph.modules.length
  if module ≥ pendingOffset then r.pending[module - pendingOffset]? else r.graph.modules[module]?

/-- `find_module_index`: the first position of the path among the graph's modules followed by
the pending ones. -/
def findModuleIndex (name : String) : Option ℕ :=
  (r.graph.modules.map (·.path) ++ r.pending.map (·.path)).findIdx? (· == name)

def resolveLocalWithIndex (module : ℕ) (callee : String) : Option (Option ResolvedProcedure) :=
  (r.moduleAt module).map (·.resolve callee)

def modulePath (module : ℕ) : Option String := (r.moduleAt module).map (·.path)

/-- `self.pending[..].resolver.get_name(index)`, or `self.graph[gid].name()`. -/
def procedureName (gid : GlobalProcedureIndex) : Option String :=
  (r.moduleAt gid.module).bind (·.procedureNames[gid.index]?)

def resolveImport (caller : CallerInfo) (name : String) : Option (Option String) :=
  (r.moduleAt caller.module).map (·.resolveImport name)

/-- `resolve_local`: a syscall resolves a local name in the kernel, if there is one. -/
def resolveLocal (caller : CallerInfo) (callee : String) : Option (Option ResolvedProcedure) :=
  if caller.kind = .sysCall then
    match r.graph.kernelIndex with
    | some kernel => r.resolveLocalWithIndex kernel callee
    | none => some none
  else r.resolveLocalWithIndex caller.module callee

/-- The targets of every alias of every module: the finite set `find`'s visited set lives in. -/
def aliasTargets : List FullyQualifiedProcedureName :=
  (r.graph.modules ++ r.pending).flatMap fun m => m.resolver.filterMap fun e =>
    match e.2 with
    | .external fqn => some fqn
    | .local _ => none

lemma moduleAt_eq (module : ℕ) : r.moduleAt module = (r.graph.modules ++ r.pending)[module]? := by
  dsimp only [moduleAt]
  split_ifs with h
  · rw [List.getElem?_append_right h]
  · rw [List.getElem?_append_left (by omega)]

lemma mem_aliasTargets {module : ℕ} {m : ThinModule} {name : String}
    {fqn : FullyQualifiedProcedureName} (hm : r.moduleAt module = some m)
    (h : m.resolve name = some (.external fqn)) : fqn ∈ r.aliasTargets := by
  rw [moduleAt_eq] at hm
  exact List.mem_flatMap.2 ⟨m, List.getElem?_mem hm,
    List.mem_filterMap.2 ⟨(name, .external fqn), lookup_mem h, rfl⟩⟩

lemma mem_aliasTargets_of_resolveLocalWithIndex {module : ℕ} {name : String}
    {fqn : FullyQualifiedProcedureName}
    (h : r.resolveLocalWithIndex module name = some (some (.external fqn))) :
    fqn ∈ r.aliasTargets := by
  obtain ⟨m, hm, hr⟩ := Option.map_eq_some'.1 h
  exact r.mem_aliasTargets hm hr

/-- The loop of `find`, from the name `callee` with the alias targets `visited` followed so far;
`kind` is the caller's kind, which the loop carries unchanged. -/
def findLoop (kind : InvokeKind) (callee : FullyQualifiedProcedureName)
    (visited : List FullyQualifiedProcedureName) :
    Option (Except AssemblyError GlobalProcedureIndex) :=
  match r.findModuleIndex callee.module with
  | none => some (.error (.undefinedModule callee.module))
  | some moduleIndex =>
    match h : r.resolveLocalWithIndex moduleIndex callee.name with
    | some (some (.local index)) =>
      if kind = .sysCall ∧ r.graph.kernelIndex ≠ some moduleIndex then
        some (.error (.invalidSysCallTarget callee))
      else some (.ok ⟨moduleIndex, index⟩)
    | some (some (.external fqn)) =>
      if hv : fqn ∈ visited then some (.error (.failed ["recursive alias", "recursive alias"]))
      else findLoop kind fqn (fqn :: visited)
    | some none =>
      if kind = .sysCall then
        if r.graph.hasNonemptyKernel then
          some (.error (.failed ["undefined kernel procedure", "invalid syscall"]))
        else
          some (.error (.failed ["undefined kernel procedure", "name resolution cannot proceed"]))
      else some (.error (.failed ["undefined procedure", "name resolution cannot proceed"]))
    | none => none
termination_by (r.aliasTargets.toFinset \ visited.toFinset).card
decreasing_by
  simp_wf
  rw [Finset.sdiff_insert]
  exact Finset.card_erase_lt_of_mem (Finset.mem_sdiff.2
    ⟨List.mem_toFinset.2 (r.mem_aliasTargets_of_resolveLocalWithIndex h), by simpa using hv⟩)

/-- `find`: a syscall is turned into an `exec` until the definition is found. -/
def find (caller : CallerInfo) (callee : FullyQualifiedProcedureName) :
    Option (Except AssemblyError GlobalProcedureIndex) :=
  let kind := if caller.kind = .sysCall then InvokeKind.exec else caller.kind
  r.findLoop kind callee []

def cachedOrExact (gid : GlobalProcedureIndex) : ResolvedTarget :=
  match r.graph.getMastRoot gid with
  | some digest => .cached digest (some gid)
  | none => .exact gid

/-- The `Cached` or `Resolved` target of a procedure found through `find`. -/
def cachedOrResolved (gid : GlobalProcedureIndex) : Option ResolvedTarget :=
  match r.graph.getMastRoot gid with
  | some digest => some (.cached digest (some gid))
  | none =>
    match r.modulePath gid.module, r.procedureName gid with
    | some path, some name => some (.resolved gid (.absoluteProcedurePath name path))
    | _, _ => none

def resolve (caller : CallerInfo) (callee : String) :
    Option (Except AssemblyError ResolvedTarget) :=
  match r.resolveLocal caller callee with
  | some (some (.local index)) =>
    if caller.kind = .sysCall then
      r.graph.kernelIndex.map fun kernel => .ok (r.cachedOrExact ⟨kernel, index⟩)
    else some (.ok (r.cachedOrExact ⟨caller.module, index⟩))
  | some (some (.external fqn)) =>
    match r.find caller fqn with
    | some (.ok gid) => (r.cachedOrResolved gid).map .ok
    | some (.error e) => some (.error e)
    | none => none
  | some none => some (.error (.failed ["undefined procedure"]))
  | none => none

def resolveTarget (caller : CallerInfo) (target : InvocationTarget) :
    Option (Except AssemblyError ResolvedTarget) :=
  match target with
  | .mastRoot mastRoot =>
    match r.graph.getProcedureIndexByDigest mastRoot with
    | none => some (.ok (.phantom mastRoot))
    | some gid => some (.ok (.exact gid))
  | .procedureName callee => r.resolve caller callee
  | .procedurePath name importedModule =>
    match r.resolveImport caller importedModule with
    | some (some path) =>
      match r.find caller ⟨path, name⟩ with
      | some (.ok gid) => (r.cachedOrResolved gid).map .ok
      | some (.error e) => some (.error e)
      | none => none
    | some none => some (.error (.undefinedModule importedModule))
    | none => none
  | .absoluteProcedurePath name path =>
    match r.find caller ⟨path, name⟩ with
    | some (.ok gid) => some (.ok (r.cachedOrExact gid))
    | some (.error e) => some (.error e)
    | none => none

/-! ## The alias chain -/

/-- What resolving a fully-qualified name in its module gives. -/
inductive Lookup
  | found (gid : GlobalProcedureIndex)
  | alias (fqn : FullyQualifiedProcedureName)
  | missingModule
  | missingName

def lookup (n : FullyQualifiedProcedureName) : Lookup :=
  match r.findModuleIndex n.module with
  | none => .missingModule
  | some i =>
    match r.resolveLocalWithIndex i n.name with
    | some (some (.local index)) => .found ⟨i, index⟩
    | some (some (.external fqn)) => .alias fqn
    | _ => .missingName

def aliasNext (n : FullyQualifiedProcedureName) : Option FullyQualifiedProcedureName :=
  match r.lookup n with
  | .alias fqn => some fqn
  | _ => none

/-- The alias chain from `n₀`: `n₀`, the name it aliases, and so on, until a name that is not an
alias. -/
def aliasChain (n₀ : FullyQualifiedProcedureName) : ℕ → Option FullyQualifiedProcedureName
  | 0 => some n₀
  | k + 1 => (aliasChain n₀ k).bind r.aliasNext

/-- The alias chain passes a name twice. -/
def AliasChainCyclic (n₀ : FullyQualifiedProcedureName) : Prop :=
  ∃ i j x, i < j ∧ r.aliasChain n₀ i = some x ∧ r.aliasChain n₀ j = some x

def Lookup.IsFinal (l : Lookup) : Prop := ∀ fqn, l ≠ .alias fqn

lemma aliasChain_add (n : FullyQualifiedProcedureName) (i : ℕ) :
    ∀ t, r.aliasChain n (i + t) = (r.aliasChain n i).bind fun x => r.aliasChain x t
  | 0 => by rw [Nat.add_zero]; cases r.aliasChain n i <;> rfl
  | t + 1 => by
    rw [← Nat.add_assoc, aliasChain, aliasChain_add n i t]
    cases r.aliasChain n i <;> rfl

lemma aliasChain_succ_of_alias {n fqn : FullyQualifiedProcedureName}
    (h : r.lookup n = .alias fqn) (k : ℕ) : r.aliasChain n (k + 1) = r.aliasChain fqn k := by
  rw [Nat.add_comm, aliasChain_add]
  simp only [aliasChain, Option.some_bind, aliasNext, h]

lemma aliasChain_eq_none_of_le {n : FullyQualifiedProcedureName} {k k' : ℕ} (hk : k ≤ k')
    (h : r.aliasChain n k = none) : r.aliasChain n k' = none := by
  rw [show k' = k + (k' - k) by omega, aliasChain_add, h, Option.none_bind]

lemma aliasChain_succ_of_final {n x : FullyQualifiedProcedureName} {k : ℕ}
    (hx : r.aliasChain n k = some x) (hf : (r.lookup x).IsFinal) :
    r.aliasChain n (k + 1) = none := by
  rw [aliasChain, hx, Option.some_bind, aliasNext]
  split
  · exact absurd ‹_› (hf _)
  · rfl

lemma aliasChain_final_unique {n x y : FullyQualifiedProcedureName} {k k' : ℕ}
    (hx : r.aliasChain n k = some x) (hfx : (r.lookup x).IsFinal)
    (hy : r.aliasChain n k' = some y) (hfy : (r.lookup y).IsFinal) : x = y := by
  rcases lt_trichotomy k k' with hlt | rfl | hlt
  · rw [r.aliasChain_eq_none_of_le hlt (r.aliasChain_succ_of_final hx hfx)] at hy
    cases hy
  · exact Option.some_injective _ (hx.symm.trans hy)
  · rw [r.aliasChain_eq_none_of_le hlt (r.aliasChain_succ_of_final hy hfy)] at hx
    cases hx

lemma not_final_of_cyclic {n₀ x : FullyQualifiedProcedureName} {k : ℕ}
    (hc : r.AliasChainCyclic n₀) (hx : r.aliasChain n₀ k = some x) : ¬ (r.lookup x).IsFinal := by
  obtain ⟨i, j, y, hij, hi, hj⟩ := hc
  have hperiod : ∀ t, r.aliasChain n₀ (i + t * (j - i)) = some y := fun t => by
    induction t with
    | zero => simpa using hi
    | succ t ih =>
      rw [show i + (t + 1) * (j - i) = j + t * (j - i) by rw [Nat.succ_mul]; omega,
        aliasChain_add, hj, ← hi, ← aliasChain_add, ih, hi]
  intro hf
  have hnone := r.aliasChain_eq_none_of_le
    ((Nat.le_mul_of_pos_right _ (Nat.sub_pos_of_lt hij)).trans (Nat.le_add_left _ i))
    (r.aliasChain_succ_of_final hx hf)
  rw [hperiod] at hnone
  cases hnone

/-! ## The loop of `find` -/

lemma findModuleIndex_moduleAt {path : String} {i : ℕ} (h : r.findModuleIndex path = some i) :
    ∃ m, r.moduleAt i = some m := by
  rw [findModuleIndex, List.findIdx?_eq_some_iff_findIdx_eq] at h
  simp only [List.length_append, List.length_map] at h
  rw [moduleAt_eq]
  exact ⟨_, List.getElem?_eq_getElem (by simpa using h.1)⟩

/-- **One step of `find`'s loop**, for a caller that is not a syscall: a definition is the
result, a missing module or name is the error, and an alias is followed unless it was followed
before. -/
lemma findLoop_eq {kind : InvokeKind} (hk : kind ≠ .sysCall) (n : FullyQualifiedProcedureName)
    (visited : List FullyQualifiedProcedureName) :
    r.findLoop kind n visited =
      match r.lookup n with
      | .found gid => some (.ok gid)
      | .alias fqn =>
        if fqn ∈ visited then some (.error (.failed ["recursive alias", "recursive alias"]))
        else r.findLoop kind fqn (fqn :: visited)
      | .missingModule => some (.error (.undefinedModule n.module))
      | .missingName =>
        some (.error (.failed ["undefined procedure", "name resolution cannot proceed"])) := by
  conv_lhs => unfold findLoop
  unfold lookup
  rcases hi : r.findModuleIndex n.module with _ | i
  · rfl
  dsimp only
  split
  · rename_i h
    simp only [h, hk, false_and, if_false]
  · rename_i h
    simp only [h, dite_eq_ite]
  · rename_i h
    simp only [h, hk, if_false]
  · rename_i h
    obtain ⟨m, hm⟩ := r.findModuleIndex_moduleAt hi
    simp [resolveLocalWithIndex, hm] at h

/-- Induction along `find`'s loop: a property of the loop's state that holds whenever it holds
of every state the loop moves on to. -/
lemma findLoop_induction
    {motive : FullyQualifiedProcedureName → List FullyQualifiedProcedureName → Prop}
    (step : ∀ n visited, (∀ fqn, r.lookup n = .alias fqn → fqn ∉ visited →
      motive fqn (fqn :: visited)) → motive n visited) (n : FullyQualifiedProcedureName)
    (visited : List FullyQualifiedProcedureName) : motive n visited := by
  induction' hm : (r.aliasTargets.toFinset \ visited.toFinset).card using Nat.strong_induction_on
    with m ih generalizing n visited
  refine step n visited fun fqn hl hv => ih _ ?_ fqn _ rfl
  have hmem : fqn ∈ r.aliasTargets := by
    revert hl
    unfold lookup
    split
    · simp
    split <;> simp only [reduceCtorEq, Lookup.alias.injEq, IsEmpty.forall_iff]
    rintro rfl
    exact r.mem_aliasTargets_of_resolveLocalWithIndex ‹_›
  rw [← hm, List.toFinset_cons, Finset.sdiff_insert]
  exact Finset.card_erase_lt_of_mem (Finset.mem_sdiff.2 ⟨List.mem_toFinset.2 hmem,
    by simpa using hv⟩)

/-- What the loop returns, read off the alias chain from its current name: it never panics, and
it returns the definition the chain reaches, a recursive alias where the chain comes to a name
followed before, or the missing module or name the chain ends at. -/
lemma findLoop_spec {kind : InvokeKind} (hk : kind ≠ .sysCall) (n : FullyQualifiedProcedureName)
    (visited : List FullyQualifiedProcedureName) :
    ∃ res, r.findLoop kind n visited = some res ∧
      ((∃ gid, res = .ok gid ∧ ∃ k x, r.aliasChain n k = some x ∧ r.lookup x = .found gid) ∨
        (res = .error (.failed ["recursive alias", "recursive alias"]) ∧
          ∃ j x, 1 ≤ j ∧ r.aliasChain n j = some x ∧
            (x ∈ visited ∨ ∃ i, 1 ≤ i ∧ i < j ∧ r.aliasChain n i = some x)) ∨
        (∃ k x, res = .error (.undefinedModule x.module) ∧ r.aliasChain n k = some x ∧
          r.lookup x = .missingModule) ∨
        (res = .error (.failed ["undefined procedure", "name resolution cannot proceed"]) ∧
          ∃ k x, r.aliasChain n k = some x ∧ r.lookup x = .missingName)) := by
  induction n, visited using r.findLoop_induction with
  | step n visited ih =>
  rw [r.findLoop_eq hk]
  rcases hl : r.lookup n with gid | fqn | _ | _
  · -- a definition
    exact ⟨_, rfl, .inl ⟨gid, rfl, 0, n, rfl, hl⟩⟩
  · have h1 : r.aliasChain n 1 = some fqn := r.aliasChain_succ_of_alias hl 0
    by_cases hv : fqn ∈ visited
    · -- an alias followed before
      simp only [hv, if_true]
      exact ⟨_, rfl, .inr (.inl ⟨rfl, 1, fqn, le_rfl, h1, .inl hv⟩)⟩
    · -- an alias followed now: the chain from `n` is the chain from `fqn`, one step later
      simp only [hv, if_false]
      obtain ⟨res, hres, hcases⟩ := ih fqn hl hv
      refine ⟨res, hres, ?_⟩
      simp only [← r.aliasChain_succ_of_alias hl] at hcases
      rcases hcases with ⟨gid, rfl, k, x, hx, hf⟩ | ⟨rfl, j, x, hj, hx, hrep⟩ |
          ⟨k, x, rfl, hx, hf⟩ | ⟨rfl, k, x, hx, hf⟩
      · exact .inl ⟨gid, rfl, k + 1, x, hx, hf⟩
      · refine .inr (.inl ⟨rfl, j + 1, x, by omega, hx, ?_⟩)
        rcases hrep with hx' | ⟨i, hi, hij, hix⟩
        · rcases List.mem_cons.1 hx' with rfl | hx'
          · exact .inr ⟨1, le_rfl, by omega, h1⟩
          · exact .inl hx'
        · exact .inr ⟨i + 1, by omega, by omega, hix⟩
      · exact .inr (.inr (.inl ⟨k + 1, x, rfl, hx, hf⟩))
      · exact .inr (.inr (.inr ⟨rfl, k + 1, x, hx, hf⟩))
  · -- a missing module
    exact ⟨_, rfl, .inr (.inr (.inl ⟨0, n, rfl, rfl, hl⟩))⟩
  · -- a missing name
    exact ⟨_, rfl, .inr (.inr (.inr ⟨rfl, 0, n, rfl, hl⟩))⟩

/-! ## `find` -/

lemma find_kind_ne_sysCall (caller : CallerInfo) :
    (if caller.kind = .sysCall then InvokeKind.exec else caller.kind) ≠ .sysCall := by
  split_ifs with h
  · exact fun h' => by cases h'
  · exact h

/-- What `find` answers when the alias chain ends at `x`. -/
def finalResult (x : FullyQualifiedProcedureName) : Except AssemblyError GlobalProcedureIndex :=
  match r.lookup x with
  | .found gid => .ok gid
  | .missingModule => .error (.undefinedModule x.module)
  | .missingName => .error (.failed ["undefined procedure", "name resolution cannot proceed"])
  | .alias _ => .error (.failed ["recursive alias", "recursive alias"])

lemma isFinal_of_eq {x : FullyQualifiedProcedureName} {l : Lookup} (h : r.lookup x = l)
    (hl : ∀ fqn, l ≠ .alias fqn) : (r.lookup x).IsFinal := h ▸ hl

lemma find_eq_of_final (caller : CallerInfo) {callee x : FullyQualifiedProcedureName} {k : ℕ}
    (hx : r.aliasChain callee k = some x) (hf : (r.lookup x).IsFinal) :
    r.find caller callee = some (r.finalResult x) := by
  obtain ⟨res, hres, hcases⟩ := r.findLoop_spec (find_kind_ne_sysCall caller) callee []
  refine hres.trans (congrArg some ?_)
  rcases hcases with ⟨gid, rfl, k', x', hx', hf'⟩ | ⟨rfl, j, x', -, hx', hrep⟩ |
      ⟨k', x', rfl, hx', hf'⟩ | ⟨rfl, k', x', hx', hf'⟩
  · -- the chain reaches a definition
    obtain rfl := r.aliasChain_final_unique hx hf hx' (r.isFinal_of_eq hf' fun _ h => by cases h)
    simp [finalResult, hf']
  · -- a recursive alias: the chain never ends
    simp only [List.not_mem_nil, false_or] at hrep
    obtain ⟨i, -, hij, hi⟩ := hrep
    exact absurd hf (r.not_final_of_cyclic ⟨i, j, x', hij, hi, hx'⟩ hx)
  · -- a missing module
    obtain rfl := r.aliasChain_final_unique hx hf hx' (r.isFinal_of_eq hf' fun _ h => by cases h)
    simp [finalResult, hf']
  · -- a missing name
    obtain rfl := r.aliasChain_final_unique hx hf hx' (r.isFinal_of_eq hf' fun _ h => by cases h)
    simp [finalResult, hf']

lemma find_eq_of_cyclic (caller : CallerInfo) {callee : FullyQualifiedProcedureName}
    (hc : r.AliasChainCyclic callee) :
    r.find caller callee = some (.error (.failed ["recursive alias", "recursive alias"])) := by
  obtain ⟨res, hres, hcases⟩ := r.findLoop_spec (find_kind_ne_sysCall caller) callee []
  refine hres.trans ?_
  rcases hcases with ⟨gid, rfl, k, x, hx, hf⟩ | ⟨rfl, -⟩ | ⟨k, x, rfl, hx, hf⟩ |
      ⟨rfl, k, x, hx, hf⟩
  · exact absurd (r.isFinal_of_eq hf fun _ h => by cases h) (r.not_final_of_cyclic hc hx)
  · rfl
  · exact absurd (r.isFinal_of_eq hf fun _ h => by cases h) (r.not_final_of_cyclic hc hx)
  · exact absurd (r.isFinal_of_eq hf fun _ h => by cases h) (r.not_final_of_cyclic hc hx)

/-! ## Syscalls -/

/-- **A syscall is resolved as an `exec`.** `find` turns a syscall caller into an `exec` caller
and carries that kind through the loop. -/
lemma find_sysCall_eq_exec (module : ℕ) (callee : FullyQualifiedProcedureName) :
    r.find ⟨module, .sysCall⟩ callee = r.find ⟨module, .exec⟩ callee := rfl

/-- **`find`'s syscall check is dead.** For every module graph, caller and callee, `find` never
answers `InvalidSysCallTarget`: the loop's check that a syscall ends in the kernel module sees
only the `exec` kind that `find` sets before the loop. -/
theorem find_ne_invalidSysCallTarget (caller : CallerInfo)
    (callee callee' : FullyQualifiedProcedureName) :
    r.find caller callee ≠ some (.error (.invalidSysCallTarget callee')) := by
  obtain ⟨res, hres, hcases⟩ := r.findLoop_spec (find_kind_ne_sysCall caller) callee []
  show r.findLoop _ callee [] ≠ _
  rw [hres]
  rcases hcases with ⟨gid, rfl, -⟩ | ⟨rfl, -⟩ | ⟨k, x, rfl, -⟩ | ⟨rfl, -⟩ <;> simp

end NameResolver

open NameResolver

/-- **`find` follows the alias chain to its end.** For every caller and every callee, `find`
does not panic; it returns `Ok gid` exactly when the chain reaches the definition `gid`, the
recursive alias error exactly when the chain passes a name twice, and otherwise the error of the
missing module or name the chain ends at. -/
theorem find_result_of_alias_chain (r : NameResolver) (caller : CallerInfo)
    (callee : FullyQualifiedProcedureName) :
    r.find caller callee ≠ none ∧
    (∀ gid, r.find caller callee = some (.ok gid) ↔
      ∃ k x, r.aliasChain callee k = some x ∧ r.lookup x = .found gid) ∧
    (r.find caller callee = some (.error (.failed ["recursive alias", "recursive alias"])) ↔
      r.AliasChainCyclic callee) ∧
    (∀ path, r.find caller callee = some (.error (.undefinedModule path)) ↔
      ∃ k x, r.aliasChain callee k = some x ∧ r.lookup x = .missingModule ∧ path = x.module) ∧
    (r.find caller callee =
        some (.error (.failed ["undefined procedure", "name resolution cannot proceed"])) ↔
      ∃ k x, r.aliasChain callee k = some x ∧ r.lookup x = .missingName) := by
  obtain ⟨res, hres, hcases⟩ := r.findLoop_spec (find_kind_ne_sysCall caller) callee []
  have hfind : r.find caller callee = some res := hres
  -- a chain that ends is answered with its end
  have hend : ∀ {k x l}, r.aliasChain callee k = some x → r.lookup x = l →
      (∀ fqn, l ≠ .alias fqn) → r.find caller callee = some (r.finalResult x) :=
    fun hx hl hfin => r.find_eq_of_final caller hx (r.isFinal_of_eq hl hfin)
  refine ⟨by simp [hfind], fun gid => ⟨fun h => ?_, fun ⟨k, x, hx, hf⟩ => ?_⟩,
    ⟨fun h => ?_, r.find_eq_of_cyclic caller⟩,
    fun path => ⟨fun h => ?_, fun ⟨k, x, hx, hf, hp⟩ => ?_⟩,
    ⟨fun h => ?_, fun ⟨k, x, hx, hf⟩ => ?_⟩⟩
  · -- `Ok`: the chain reaches the definition
    rw [hfind] at h
    rcases hcases with ⟨gid', rfl, k, x, hx, hf⟩ | ⟨rfl, -⟩ | ⟨k, x, rfl, -⟩ | ⟨rfl, -⟩ <;>
      simp at h
    exact ⟨k, x, hx, h ▸ hf⟩
  · rw [hend hx hf (fun _ h => by cases h), finalResult, hf]
  · -- the recursive alias: the chain comes back
    rw [hfind] at h
    rcases hcases with ⟨gid', rfl, -⟩ | ⟨rfl, j, x, -, hx, hrep⟩ | ⟨k, x, rfl, -⟩ | ⟨rfl, -⟩ <;>
      simp at h
    simp only [List.not_mem_nil, false_or] at hrep
    obtain ⟨i, -, hij, hi⟩ := hrep
    exact ⟨i, j, x, hij, hi, hx⟩
  · -- a missing module
    rw [hfind] at h
    rcases hcases with ⟨gid', rfl, -⟩ | ⟨rfl, -⟩ | ⟨k, x, rfl, hx, hf⟩ | ⟨rfl, -⟩ <;>
      simp at h
    exact ⟨k, x, hx, hf, h.symm⟩
  · rw [hend hx hf (fun _ h => by cases h), finalResult, hf, hp]
  · -- a missing name
    rw [hfind] at h
    rcases hcases with ⟨gid', rfl, -⟩ | ⟨rfl, -⟩ | ⟨k, x, rfl, -⟩ | ⟨rfl, k, x, hx, hf⟩ <;>
      simp at h
    exact ⟨k, x, hx, hf⟩
  · rw [hend hx hf (fun _ h => by cases h), finalResult, hf]

/-- A kernel that re-exports the procedure `foo` of the module `m` under the name `bar`. -/
def kernelAliasResolver : NameResolver where
  graph :=
    { modules := [⟨"kernel", [("bar", .external ⟨"m", "foo"⟩)], [], []⟩,
        ⟨"m", [("foo", .local 0)], [], ["foo"]⟩]
      kernelIndex := some 0
      hasNonemptyKernel := true
      getMastRoot := fun _ => none
      getProcedureIndexByDigest := fun _ => none }
  pending := []

/-- **A syscall is answered with a procedure outside the kernel.** The kernel is module `0`; a
syscall of `bar`, which the kernel aliases to `m::foo`, and a syscall of the absolute path
`m::foo` both resolve to procedure `0` of module `1`. -/
theorem syscall_resolves_outside_kernel :
    kernelAliasResolver.graph.kernelIndex = some 0 ∧
    kernelAliasResolver.find ⟨0, .sysCall⟩ ⟨"m", "foo"⟩ = some (.ok ⟨1, 0⟩) ∧
    kernelAliasResolver.resolve ⟨0, .sysCall⟩ "bar" =
      some (.ok (.resolved ⟨1, 0⟩ (.absoluteProcedurePath "foo" "m"))) ∧
    kernelAliasResolver.resolveTarget ⟨0, .sysCall⟩ (.absoluteProcedurePath "foo" "m") =
      some (.ok (.exact ⟨1, 0⟩)) := by
  have hfind : kernelAliasResolver.find ⟨0, .sysCall⟩ ⟨"m", "foo"⟩ = some (.ok ⟨1, 0⟩) := by
    show kernelAliasResolver.findLoop .exec ⟨"m", "foo"⟩ [] = _
    rw [findLoop_eq _ (by decide)]
    rfl
  refine ⟨rfl, hfind, ?_, ?_⟩
  · simp only [resolve, show kernelAliasResolver.resolveLocal ⟨0, .sysCall⟩ "bar" =
      some (some (.external ⟨"m", "foo"⟩)) from rfl, hfind]
    rfl
  · simp only [resolveTarget, hfind]
    rfl

end MidenVm.Assembly
