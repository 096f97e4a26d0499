import MidenVm.VirtualBus.SumCheck

/-!
# The sum-check prover

`SumCheckProver::prove` and `prove_rounds` (`trace/virtual_bus/sum_check/prover/mod.rs`) run the
protocol of `SumCheck` against a random coin, and `sumcheck_round` computes a round polynomial
from the current tables. A panic of the Rust code is `none`, an `Err` is `.error`
(`ExceptT Error Option`); the tables and the coin that the code mutates in place are returned.

* `sumcheckRound_eq`: `sumcheck_round`, with its incremental evaluation along each line and its
  running sum, returns the values at `1, …, d` of the round polynomial `roundPoly`;
* `roundStep_eq`: a round of the loop of `prove_rounds` draws `r`, reduces the claim with the last
  round polynomial, fixes the lowest variable of every table to `r` and sends the next round
  polynomial;
* `foldlM_roundStep`: the loop keeps any invariant its rounds keep, and stops only where a round
  fails;
* `prove_ne_none`: on a nonempty slice, with `max_degree ≥ 1`, `prove` never panics, and it
  returns `Err(NumRoundsZero)` or `Err(MlesDifferentArities)` on bad arities;
* `prove_empty_panics`: `prove` reads `mls[0]` before `prove_rounds` checks for an empty slice, so
  it panics where `prove_rounds` returns `Err(NoMlsProvided)`;
* `proveRounds_ne_atLeastOneVariable`: the check for `AtLeastOneVariable` never fires;
* `prove_failsWith`: `prove` fails only with `NumRoundsZero`, `MlesDifferentArities` or
  `FailedToGenerateChallenge`, each when its check says.
-/

namespace MidenVm.VirtualBus

open Finset

variable {E σ : Type} [Field E]

/-- Modelled from the spec: the prover's `Error`. -/
inductive Error
  | noMlsProvided
  | numRoundsZero
  | tooManyRounds
  | atLeastOneVariable
  | mlesDifferentArities
  | failedToGenerateChallenge
  deriving DecidableEq

/-- `RandomCoin`, as the prover uses it: `reseed` with a round polynomial (the hash of its
coefficients is part of `reseed`), and `draw`, which can fail. -/
structure RandomCoin (E σ : Type) where
  reseed : σ → List E → σ
  draw : σ → Option (E × σ)

structure FinalClaimBuilder (E : Type) where
  buildClaim : List E → List E → FinalOpeningClaim E

/-- Modelled from the spec: the builder that records the openings at the evaluation point. -/
def FinalClaimBuilder.sameEvalPoint : FinalClaimBuilder E :=
  ⟨fun openings evaluationPoint => ⟨evaluationPoint, openings⟩⟩

/-- `SumCheckProver`: the composition polynomial `g` and the final claim builder. -/
structure SumCheckProver (E : Type) where
  compositionPoly : CompositionPolynomial E
  finalClaimBuilder : FinalClaimBuilder E

/-! ## One round polynomial: `sumcheck_round` -/

/-- The inner loop of `sumcheck_round`: `total_evals[0] = g(evals_one)`, then for each further
entry `evals_x += deltas` and `g(evals_x)`. -/
def stepEvals (compositionPoly : CompositionPolynomial E) (deltas : List E) :
    ℕ → List E → List E
  | 0, _ => []
  | n + 1, evalsX => compositionPoly.evaluate evalsX ::
      stepEvals compositionPoly deltas n (List.zipWith (· + ·) evalsX deltas)

/-- The closure of `sumcheck_round` at `i`: `g` at `1, …, d` along the line through the entries
`2i` and `2i + 1` of the tables; `total_evals[0]` panics when `max_degree = 0`. -/
def roundTotalEvals (compositionPoly : CompositionPolynomial E) (mls : List (MultiLinearPoly E))
    (i : ℕ) : Option (List E) := do
  let evalsZero ← mls.mapM fun ml => ml.evaluations[i <<< 1]?
  let evalsOne ← mls.mapM fun ml => ml.evaluations[(i <<< 1) + 1]?
  if compositionPoly.maxDegree = 0 then none
  let deltas := List.zipWith (· - ·) evalsOne evalsZero
  pure (stepEvals compositionPoly deltas compositionPoly.maxDegree evalsOne)

/-- `sumcheck_round`: the round polynomial at `1, …, d`, summed over the hypercube of the
variables after the lowest; `mls[0]` and `num_vars - 1` panic on an empty slice and on tables
without variables. -/
def sumcheckRound (compositionPoly : CompositionPolynomial E) (mls : List (MultiLinearPoly E)) :
    Option (UnivariatePolyEvals E) := do
  let ml0 ← mls[0]?
  if ml0.numVariables = 0 then none
  let numRounds := ml0.numVariables - 1
  let totalEvals ← (List.range (1 <<< numRounds)).mapM (roundTotalEvals compositionPoly mls)
  pure ⟨totalEvals.foldl (fun acc evals => List.zipWith (· + ·) acc evals)
    (List.replicate compositionPoly.maxDegree 0)⟩

section Round

variable (g : CompositionPolynomial E)

/-- The round polynomial of tables in `n + 1` variables, `X ↦ Σ_m g(f[2m] + X (f[2m+1] - f[2m]))`,
at `t`. -/
def roundPoly (mls : List (MultiLinearPoly E)) (n : ℕ) (t : E) : E :=
  ∑ m in range (2 ^ n), g.evaluate (mls.map fun ml =>
    ml.value (2 * m) + t * (ml.value (2 * m + 1) - ml.value (2 * m)))

def roundPolyEvals (mls : List (MultiLinearPoly E)) (n : ℕ) : UnivariatePolyEvals E :=
  ⟨(List.range g.maxDegree).map fun k => roundPoly g mls n ((k + 1 : ℕ) : E)⟩

lemma mapM_eq_some_map {α β : Type*} {f : α → Option β} {F : α → β} :
    ∀ {l : List α}, (∀ x ∈ l, f x = some (F x)) → l.mapM f = some (l.map F)
  | [], _ => rfl
  | x :: l, h => by
    rw [List.mapM_cons, h x (List.mem_cons_self _ _),
      mapM_eq_some_map fun y hy => h y (List.mem_cons_of_mem _ hy)]
    rfl

lemma mapM_getElem? {mls : List (MultiLinearPoly E)} {j : ℕ}
    (h : ∀ ml ∈ mls, j < 2 ^ ml.numVariables) :
    mls.mapM (fun ml => ml.evaluations[j]?) = some (mls.map fun ml => ml.value j) :=
  mapM_eq_some_map fun ml hml => by
    rw [MultiLinearPoly.value, List.getD_eq_getElem?_getD,
      List.getElem?_eq_getElem (ml.length_evaluations ▸ h ml hml)]
    rfl

/-- The inner loop evaluates along a line: entry `k` is `g` at `c + k δ`. -/
lemma stepEvals_eq {ι : Type*} (l : List ι) (δ : ι → E) :
    ∀ (n : ℕ) (c : ι → E), stepEvals g (l.map δ) n (l.map c) =
      (List.range n).map fun k : ℕ => g.evaluate (l.map fun x => c x + k * δ x)
  | 0, _ => rfl
  | n + 1, c => by
    rw [stepEvals, List.zipWith_map, List.zipWith_same, stepEvals_eq l δ n,
      List.range_succ_eq_map, List.map_cons, List.map_map]
    congr 1
    · simp
    · refine List.map_congr_left fun k _ => congrArg g.evaluate (List.map_congr_left fun x _ => ?_)
      simp only [Function.comp, Nat.cast_succ]
      ring

lemma roundTotalEvals_eq (hd : 1 ≤ g.maxDegree) {mls : List (MultiLinearPoly E)} {n : ℕ}
    (h : ∀ ml ∈ mls, ml.numVariables = n + 1) {i : ℕ} (hi : i < 2 ^ n) :
    roundTotalEvals g mls i = some ((List.range g.maxDegree).map fun k =>
      g.evaluate (mls.map fun ml =>
        ml.value (2 * i) + ((k + 1 : ℕ) : E) * (ml.value (2 * i + 1) - ml.value (2 * i)))) := by
  have hbound : ∀ j < 2, ∀ ml ∈ mls, 2 * i + j < 2 ^ ml.numVariables := fun j hj ml hml => by
    rw [h ml hml, pow_succ]
    omega
  simp only [roundTotalEvals, Nat.shiftLeft_eq, pow_one, Nat.mul_comm i 2,
    mapM_getElem? (by simpa using hbound 0 (by norm_num)), mapM_getElem? (hbound 1 one_lt_two),
    Option.bind_eq_bind, Option.some_bind, Nat.pos_iff_ne_zero.1 hd, if_false,
    List.zipWith_map, List.zipWith_same, stepEvals_eq]
  refine congrArg some (List.map_congr_left fun k _ =>
    congrArg g.evaluate (List.map_congr_left fun ml _ => ?_))
  push_cast
  ring

/-- The running sum of `sumcheck_round`: entry `k` is the sum of entry `k` of every row. -/
lemma foldl_zipWith_add (d : ℕ) (H : ℕ → ℕ → E) : ∀ N : ℕ,
    ((List.range N).map fun i => (List.range d).map (H i)).foldl
        (fun acc evals => List.zipWith (· + ·) acc evals) (List.replicate d 0) =
      (List.range d).map fun k => ∑ i in range N, H i k
  | 0 => by simp
  | N + 1 => by
    rw [List.range_succ, List.map_append, List.foldl_append, foldl_zipWith_add d H N]
    simp [List.zipWith_map, List.zipWith_same, sum_range_succ]

/-- **`sumcheck_round` computes the round polynomial**: over nonempty tables in `n + 1`
variables, it returns the values at `1, …, d` of `roundPoly`. -/
theorem sumcheckRound_eq (hd : 1 ≤ g.maxDegree) {mls : List (MultiLinearPoly E)} {n : ℕ}
    (hne : mls ≠ []) (h : ∀ ml ∈ mls, ml.numVariables = n + 1) :
    sumcheckRound g mls = some (roundPolyEvals g mls n) := by
  obtain ⟨ml0, rest, rfl⟩ := List.exists_cons_of_ne_nil hne
  have htot := mapM_eq_some_map (l := List.range (2 ^ n))
    fun i hi => roundTotalEvals_eq g hd h (List.mem_range.1 hi)
  simp only [sumcheckRound, List.getElem?_cons_zero, Option.bind_eq_bind, Option.some_bind,
    h ml0 (List.mem_cons_self _ _), Nat.add_one_ne_zero, if_false, pure_bind, Nat.add_sub_cancel,
    Nat.one_shiftLeft, htot, foldl_zipWith_add, roundPolyEvals, roundPoly]
  rfl

end Round

/-! ## The rounds: `prove_rounds` -/

/-- What the loop of `prove_rounds` carries from one round to the next: the coin, the tables,
the current claim and the round proofs so far. -/
structure RoundState (σ E : Type) where
  coin : σ
  mls : List (MultiLinearPoly E)
  currentRoundClaim : RoundClaim E
  roundProofs : List (RoundProof E)

def drawChallenge (coin : RandomCoin E σ) (s : σ) : ExceptT Error Option (E × σ) :=
  match coin.draw s with
  | some x => pure x
  | none => throw .failedToGenerateChallenge

/-- The first round of `prove_rounds`: the round polynomial of the original tables, sent with
`s(0) = claim - s(1)`. -/
def firstRound (compositionPoly : CompositionPolynomial E) (coin : RandomCoin E σ) (claim : E)
    (mls : List (MultiLinearPoly E)) (s : σ) : Option (RoundState σ E) := do
  let currentRoundClaim : RoundClaim E := ⟨[], claim⟩
  let roundPolyEvals ← sumcheckRound compositionPoly mls
  let roundPolyCoefs := roundPolyEvals.toPoly currentRoundClaim.claim
  pure ⟨coin.reseed s roundPolyCoefs.values, mls, currentRoundClaim, [⟨roundPolyCoefs⟩]⟩

/-- Round `i` of the loop of `prove_rounds`. -/
def roundStep (compositionPoly : CompositionPolynomial E) (coin : RandomCoin E σ)
    (st : RoundState σ E) (i : ℕ) : ExceptT Error Option (RoundState σ E) := do
  let (roundChallenge, s) ← drawChallenge coin st.coin
  let currentProof ← (st.roundProofs[i - 1]? : Option _)
  let newRoundClaim := reduceClaim currentProof st.currentRoundClaim roundChallenge
  let mls ← (st.mls.mapM fun ml => ml.bind roundChallenge : Option _)
  let roundPolyEvals ← (sumcheckRound compositionPoly mls : Option _)
  let roundPolyCoefs := roundPolyEvals.toPoly newRoundClaim.claim
  pure ⟨coin.reseed s roundPolyCoefs.values, mls, newRoundClaim,
    st.roundProofs ++ [⟨roundPolyCoefs⟩]⟩

/-- The end of `prove_rounds`: the last challenge, the last binding and the final claim. -/
def lastRound (coin : RandomCoin E σ) (numRounds : ℕ) (st : RoundState σ E) :
    ExceptT Error Option ((RoundClaim E × List (RoundProof E)) × List (MultiLinearPoly E) × σ) := do
  let (roundChallenge, s) ← drawChallenge coin st.coin
  let mls ← (st.mls.mapM fun ml => ml.bind roundChallenge : Option _)
  let currentProof ← (st.roundProofs[numRounds - 1]? : Option _)
  pure ((reduceClaim currentProof st.currentRoundClaim roundChallenge, st.roundProofs), mls, s)

/-- `SumCheckProver::prove_rounds`, with the tables and the coin it leaves behind. -/
def proveRounds (compositionPoly : CompositionPolynomial E) (coin : RandomCoin E σ) (claim : E)
    (mls : List (MultiLinearPoly E)) (numRounds : ℕ) (s : σ) :
    ExceptT Error Option ((RoundClaim E × List (RoundProof E)) × List (MultiLinearPoly E) × σ) := do
  if mls.isEmpty then throw .noMlsProvided
  if numRounds = 0 then throw .numRoundsZero
  let ml0 ← (mls[0]? : Option (MultiLinearPoly E))
  let mlVariables := ml0.numVariables
  if numRounds > mlVariables then throw .tooManyRounds
  if mlVariables < 1 then throw .atLeastOneVariable
  if !mls.all (fun ml => ml.numVariables == mlVariables) then throw .mlesDifferentArities
  let st ← (firstRound compositionPoly coin claim mls s : Option _)
  let st ← (List.range' 1 (numRounds - 1)).foldlM (roundStep compositionPoly coin) st
  lastRound coin numRounds st

/-- `SumCheckProver::prove`, with the tables and the coin it leaves behind. -/
def SumCheckProver.prove (prover : SumCheckProver E) (claim : E) (mls : List (MultiLinearPoly E))
    (coin : RandomCoin E σ) (s : σ) :
    ExceptT Error Option (Proof E × List (MultiLinearPoly E) × σ) := do
  let ml0 ← (mls[0]? : Option (MultiLinearPoly E))
  let numRounds := ml0.numVariables
  let ((⟨evalPoint, _⟩, roundProofs), mls, s) ←
    proveRounds prover.compositionPoly coin claim mls numRounds s
  let openings ← (mls.mapM fun ml => ml.evaluations[0]? : Option _)
  let openingsClaim := prover.finalClaimBuilder.buildClaim openings evalPoint
  pure (⟨openingsClaim, roundProofs⟩, mls, s)

/-! ## Runs of the prover -/

section Run

variable (g : CompositionPolynomial E) (coin : RandomCoin E σ)

/-- The loop invariant of `prove_rounds` before round `i`: the `i - 1` challenges drawn so far
are the evaluation point, the tables are the original ones `fs` with their lowest variables fixed
to them, and `i` round polynomials have been sent. -/
structure RoundInvariant (fs : List (MultiLinearPoly E)) (i : ℕ) (st : RoundState σ E) :
    Prop where
  length_evalPoint : st.currentRoundClaim.evalPoint.length + 1 = i
  mls : st.mls = fs.map fun f => f.fixAll st.currentRoundClaim.evalPoint
  length_roundProofs : st.roundProofs.length = i

lemma mapM_bind {mls : List (MultiLinearPoly E)} (h : ∀ ml ∈ mls, 0 < ml.numVariables) (r : E) :
    mls.mapM (fun ml => ml.bind r) = some (mls.map fun ml => ml.fixLowest r) :=
  mapM_eq_some_map fun ml hml => MultiLinearPoly.bind_eq_some (h ml hml) r

lemma numVariables_of_mem_fixAll {fs : List (MultiLinearPoly E)} {ν : ℕ}
    (harity : ∀ f ∈ fs, f.numVariables = ν) {rs : List E} {ml : MultiLinearPoly E}
    (hml : ml ∈ fs.map fun f => f.fixAll rs) : ml.numVariables = ν - rs.length := by
  obtain ⟨f, hf, rfl⟩ := List.mem_map.1 hml
  simp [harity f hf]

lemma mapM_bind_fixAll {fs : List (MultiLinearPoly E)} {ν : ℕ}
    (harity : ∀ f ∈ fs, f.numVariables = ν) {rs : List E} (hrs : rs.length < ν) (r : E) :
    (fs.map fun f => f.fixAll rs).mapM (fun ml => ml.bind r) =
      some (fs.map fun f => f.fixAll (rs ++ [r])) := by
  rw [mapM_bind (fun ml hml => by rw [numVariables_of_mem_fixAll harity hml]; omega) r,
    List.map_map]
  simp only [Function.comp_def, MultiLinearPoly.fixAll_append]

@[simp] lemma liftM_some_bind {α β : Type} (x : α) (f : α → ExceptT Error Option β) :
    (liftM (some x : Option α) : ExceptT Error Option α) >>= f = f x := rfl

lemma roundStep_of_draw_none {st : RoundState σ E} (hdraw : coin.draw st.coin = none) (i : ℕ) :
    roundStep g coin st i = throw .failedToGenerateChallenge := by
  simp only [roundStep, drawChallenge, hdraw]
  rfl

/-- **One round of the loop**: from the invariant before round `i < ν`, a successful draw `r`
reduces the claim with round polynomial `i - 1`, fixes the lowest variable of every table to `r`
and sends the round polynomial of the new tables. -/
theorem roundStep_eq (hd : 1 ≤ g.maxDegree) {fs : List (MultiLinearPoly E)} (hfs : fs ≠ [])
    {ν : ℕ} (harity : ∀ f ∈ fs, f.numVariables = ν) {i : ℕ} (hi : i < ν) {st : RoundState σ E}
    (hinv : RoundInvariant fs i st) {r : E} {s : σ} (hdraw : coin.draw st.coin = some (r, s))
    {p : RoundProof E} (hp : st.roundProofs[i - 1]? = some p) :
    roundStep g coin st i =
      let roundClaim := reduceClaim p st.currentRoundClaim r
      let mls := fs.map fun f => f.fixAll roundClaim.evalPoint
      let roundPolyCoefs := (roundPolyEvals g mls (ν - i - 1)).toPoly roundClaim.claim
      pure ⟨coin.reseed s roundPolyCoefs.values, mls, roundClaim,
        st.roundProofs ++ [⟨roundPolyCoefs⟩]⟩ := by
  have hlen := hinv.length_evalPoint
  set rs := st.currentRoundClaim.evalPoint
  have hround := sumcheckRound_eq g hd (n := ν - i - 1)
    (show (fs.map fun f => f.fixAll (rs ++ [r])) ≠ [] by simpa using hfs) fun ml hml => by
      rw [numVariables_of_mem_fixAll harity hml, List.length_append, List.length_singleton]
      omega
  simp only [roundStep, drawChallenge, hdraw, pure_bind, hp, hinv.mls, liftM_some_bind,
    mapM_bind_fixAll harity (show rs.length < ν by omega) r, hround]
  rfl

/-- A round keeps the invariant, or fails at its draw. -/
lemma roundStep_invariant (hd : 1 ≤ g.maxDegree) {fs : List (MultiLinearPoly E)} (hfs : fs ≠ [])
    {ν : ℕ} (harity : ∀ f ∈ fs, f.numVariables = ν) {i : ℕ} (hi : i < ν) {st : RoundState σ E}
    (hinv : RoundInvariant fs i st) :
    roundStep g coin st i = throw .failedToGenerateChallenge ∨
      ∃ st', roundStep g coin st i = pure st' ∧ RoundInvariant fs (i + 1) st' := by
  have hp : st.roundProofs[i - 1]? = some _ :=
    List.getElem?_eq_getElem (by rw [hinv.length_roundProofs]; have := hinv.length_evalPoint; omega)
  cases hdraw : coin.draw st.coin with
  | none => exact .inl (roundStep_of_draw_none g coin hdraw i)
  | some x =>
    refine .inr ⟨_, roundStep_eq g coin hd hfs harity hi hinv hdraw hp, ?_, rfl, ?_⟩
    · simp [reduceClaim, ← hinv.length_evalPoint]
    · simp [hinv.length_roundProofs]

/-- **The loop of `prove_rounds`**: if every round `i < N` from a state with `P i` either fails
with an error satisfying `Q` or reaches a state with `P (i + 1)`, then so does the loop over the
rounds `a, …, a + k - 1`. -/
theorem foldlM_roundStep {P : ℕ → RoundState σ E → Prop} {Q : Error → Prop} {N : ℕ}
    (hstep : ∀ i st, i < N → P i st → (∃ e, Q e ∧ roundStep g coin st i = throw e) ∨
      ∃ st', roundStep g coin st i = pure st' ∧ P (i + 1) st') :
    ∀ k a st, a + k ≤ N → P a st →
      (∃ e, Q e ∧ (List.range' a k).foldlM (roundStep g coin) st = throw e) ∨
        ∃ st', (List.range' a k).foldlM (roundStep g coin) st = pure st' ∧ P (a + k) st'
  | 0, _, st, _, hP => .inr ⟨st, rfl, hP⟩
  | k + 1, a, st, hk, hP => by
    rw [List.range'_succ, List.foldlM_cons]
    rcases hstep a st (by omega) hP with ⟨e, he, hthrow⟩ | ⟨st', hst', hP'⟩
    · exact .inl ⟨e, he, by rw [hthrow]; rfl⟩
    · rw [hst', pure_bind]
      simpa only [Nat.add_right_comm a 1 k] using
        foldlM_roundStep hstep k (a + 1) st' (by omega) hP'

/-- The state after the first round: the round polynomial of the original tables, sent with
`s(0) = claim - s(1)`. -/
def firstState (claim : E) (fs : List (MultiLinearPoly E)) (ν : ℕ) (s : σ) : RoundState σ E :=
  let roundPolyCoefs := (roundPolyEvals g fs (ν - 1)).toPoly claim
  ⟨coin.reseed s roundPolyCoefs.values, fs, ⟨[], claim⟩, [⟨roundPolyCoefs⟩]⟩

lemma firstState_invariant (claim : E) (fs : List (MultiLinearPoly E)) (ν : ℕ) (s : σ) :
    RoundInvariant fs 1 (firstState g coin claim fs ν s) :=
  ⟨rfl, by simp [firstState, MultiLinearPoly.fixAll], rfl⟩

lemma lastRound_of_draw_none (N : ℕ) {st : RoundState σ E} (hdraw : coin.draw st.coin = none) :
    lastRound coin N st = throw .failedToGenerateChallenge := by
  simp only [lastRound, drawChallenge, hdraw]
  rfl

/-- The end of `prove_rounds`: the last challenge fixes the last variable of every table, and the
last round polynomial reduces the claim. -/
lemma lastRound_eq {fs : List (MultiLinearPoly E)} {ν : ℕ}
    (harity : ∀ f ∈ fs, f.numVariables = ν) {N : ℕ} (hN : N ≤ ν) {st : RoundState σ E}
    (hinv : RoundInvariant fs N st) {r : E} {s : σ} (hdraw : coin.draw st.coin = some (r, s))
    {p : RoundProof E} (hp : st.roundProofs[N - 1]? = some p) :
    lastRound coin N st = pure ((reduceClaim p st.currentRoundClaim r, st.roundProofs),
      fs.map (fun f => f.fixAll (st.currentRoundClaim.evalPoint ++ [r])), s) := by
  have hlen := hinv.length_evalPoint
  simp only [lastRound, drawChallenge, hdraw, pure_bind, hinv.mls, liftM_some_bind,
    mapM_bind_fixAll harity (show st.currentRoundClaim.evalPoint.length < ν by omega) r, hp]

/-- **When its checks pass, `prove_rounds` is its first round, the loop and its end.** -/
theorem proveRounds_eq (hd : 1 ≤ g.maxDegree) {fs : List (MultiLinearPoly E)} (hfs : fs ≠ [])
    {ν : ℕ} (harity : ∀ f ∈ fs, f.numVariables = ν) {N : ℕ} (hN1 : 1 ≤ N) (hN : N ≤ ν)
    (claim : E) (s : σ) :
    proveRounds g coin claim fs N s =
      (List.range' 1 (N - 1)).foldlM (roundStep g coin) (firstState g coin claim fs ν s) >>=
        lastRound coin N := by
  obtain ⟨f, rest, rfl⟩ := List.exists_cons_of_ne_nil hfs
  have hrest : ∀ x ∈ rest, x.numVariables = ν := fun x hx => harity x (List.mem_cons_of_mem _ hx)
  have hfirst :
      firstRound g coin claim (f :: rest) s = some (firstState g coin claim (f :: rest) ν s) := by
    simp only [firstRound, sumcheckRound_eq g hd (n := ν - 1) hfs fun f hf => by
      rw [harity f hf]; omega]
    rfl
  simp [proveRounds, harity f (List.mem_cons_self _ _), hrest, Nat.pos_iff_ne_zero.1 hN1,
    not_lt.2 hN, Nat.pos_iff_ne_zero.1 (hN1.trans hN), hfirst]
  -- the arity check passes: every table of `rest` has `ν` variables
  exact fun x hx h => absurd (hrest x hx) h

end Run

/-! ## `prove` -/

section Prove

variable (prover : SumCheckProver E) (coin : RandomCoin E σ)

lemma prove_eq_of_proveRounds (f : MultiLinearPoly E) (rest : List (MultiLinearPoly E)) {claim : E}
    {s s' : σ} {roundClaim : RoundClaim E} {roundProofs : List (RoundProof E)}
    {mls : List (MultiLinearPoly E)}
    (h : proveRounds prover.compositionPoly coin claim (f :: rest) f.numVariables s =
      pure ((roundClaim, roundProofs), mls, s'))
    (hmls : ∀ ml ∈ mls, ml.numVariables = 0) :
    prover.prove claim (f :: rest) coin s =
      pure (⟨prover.finalClaimBuilder.buildClaim (mls.map fun ml => ml.value 0)
        roundClaim.evalPoint, roundProofs⟩, mls, s') := by
  simp only [SumCheckProver.prove, List.getElem?_cons_zero, liftM_some_bind, h, pure_bind,
    mapM_getElem? (j := 0) fun ml hml => by rw [hmls ml hml]; norm_num]

lemma prove_of_proveRounds_throw {f : MultiLinearPoly E} {rest : List (MultiLinearPoly E)}
    {claim : E} {s : σ} {e : Error}
    (h : proveRounds prover.compositionPoly coin claim (f :: rest) f.numVariables s = throw e) :
    prover.prove claim (f :: rest) coin s = throw e := by
  simp only [SumCheckProver.prove, List.getElem?_cons_zero, liftM_some_bind, h]
  rfl

lemma prove_numRoundsZero {f : MultiLinearPoly E} (rest : List (MultiLinearPoly E))
    (h : f.numVariables = 0) (claim : E) (s : σ) :
    prover.prove claim (f :: rest) coin s = throw .numRoundsZero :=
  prove_of_proveRounds_throw prover coin (by simp [proveRounds, h])

lemma prove_mlesDifferentArities {f : MultiLinearPoly E} {rest : List (MultiLinearPoly E)}
    (h : 1 ≤ f.numVariables) (hne : ∃ ml ∈ rest, ml.numVariables ≠ f.numVariables) (claim : E)
    (s : σ) :
    prover.prove claim (f :: rest) coin s = throw .mlesDifferentArities :=
  prove_of_proveRounds_throw prover coin (by simp [proveRounds, Nat.pos_iff_ne_zero.1 h, hne])

/-- On tables of one arity `ν ≥ 1`, `prove` returns a proof or fails at a draw: it indexes
`round_proofs` and the tables only in bounds, and calls `sumcheck_round` only while a variable
is left. -/
theorem prove_of_arity (hd : 1 ≤ prover.compositionPoly.maxDegree) {fs : List (MultiLinearPoly E)}
    (hfs : fs ≠ []) {ν : ℕ} (harity : ∀ f ∈ fs, f.numVariables = ν) (hν : 1 ≤ ν) (claim : E)
    (s : σ) :
    prover.prove claim fs coin s = throw .failedToGenerateChallenge ∨
      ∃ x, prover.prove claim fs coin s = pure x := by
  obtain ⟨f, rest, rfl⟩ := List.exists_cons_of_ne_nil hfs
  have hf : f.numVariables = ν := harity f (List.mem_cons_self _ _)
  have hrounds := proveRounds_eq prover.compositionPoly coin hd hfs harity hν le_rfl claim s
  rcases foldlM_roundStep prover.compositionPoly coin (P := RoundInvariant (f :: rest))
      (Q := (· = .failedToGenerateChallenge)) (N := ν)
      (fun i st hi hinv => (roundStep_invariant _ coin hd hfs harity hi hinv).imp
        (fun h => ⟨_, rfl, h⟩) id)
      (ν - 1) 1 _ (by omega) (firstState_invariant _ coin claim _ ν s) with
    ⟨e, rfl, hloop⟩ | ⟨st, hloop, hinv⟩
  · exact .inl (prove_of_proveRounds_throw prover coin (by rw [hf, hrounds, hloop]; rfl))
  · rw [Nat.add_sub_cancel' hν] at hinv
    cases hdraw : coin.draw st.coin with
    | none =>
      exact .inl (prove_of_proveRounds_throw prover coin (by
        rw [hf, hrounds, hloop, pure_bind, lastRound_of_draw_none coin ν hdraw]))
    | some x =>
      have hp : st.roundProofs[ν - 1]? = some _ :=
        List.getElem?_eq_getElem (by rw [hinv.length_roundProofs]; omega)
      refine .inr ⟨_, prove_eq_of_proveRounds prover coin f rest (by
        rw [hf, hrounds, hloop, pure_bind, lastRound_eq coin harity le_rfl hinv hdraw hp]) ?_⟩
      intro ml hml
      have := hinv.length_evalPoint
      rw [numVariables_of_mem_fixAll harity hml, List.length_append, List.length_singleton]
      omega

/-- **`prove` never panics on a nonempty slice** when `max_degree ≥ 1`. -/
theorem prove_ne_none (hd : 1 ≤ prover.compositionPoly.maxDegree) {mls : List (MultiLinearPoly E)}
    (hne : mls ≠ []) (claim : E) (s : σ) : (prover.prove claim mls coin s).run ≠ none := by
  obtain ⟨f, rest, rfl⟩ := List.exists_cons_of_ne_nil hne
  by_cases h0 : f.numVariables = 0
  · rw [prove_numRoundsZero prover coin rest h0]
    simp
  by_cases harity : ∃ ml ∈ rest, ml.numVariables ≠ f.numVariables
  · rw [prove_mlesDifferentArities prover coin (Nat.pos_of_ne_zero h0) harity]
    simp
  push_neg at harity
  rcases prove_of_arity prover coin hd hne (List.forall_mem_cons.2 ⟨rfl, harity⟩)
    (Nat.pos_of_ne_zero h0) claim s with h | ⟨x, h⟩ <;> rw [h] <;> simp

/-- **`prove` panics on an empty slice**, where `prove_rounds` returns `Err(NoMlsProvided)`:
`prove` reads `mls[0]` before it calls `prove_rounds`. -/
theorem prove_empty_panics (prover : SumCheckProver E) (claim : E) (coin : RandomCoin E σ)
    (s : σ) (numRounds : ℕ) :
    proveRounds prover.compositionPoly coin claim [] numRounds s = throw .noMlsProvided ∧
      (prover.prove claim [] coin s).run = none :=
  ⟨rfl, rfl⟩

end Prove

/-! ## The errors of the prover

Each check of `prove_rounds` returns its own error. `FailsWith Q x` says that every `Err` that
`x` returns satisfies `Q`; it composes along `?` and loops, so the errors of `prove_rounds` and
`prove` are read off their bodies. -/

section Errors

/-- Every `Err` that `x` returns satisfies `Q`. -/
def FailsWith (Q : Error → Prop) {α : Type} (x : ExceptT Error Option α) : Prop :=
  ∀ e, x.run = some (.error e) → Q e

namespace FailsWith

variable {Q : Error → Prop} {α β : Type}

lemma of_pure (a : α) : FailsWith Q (pure a : ExceptT Error Option α) := fun _ h => by cases h

lemma of_throw {e : Error} (h : Q e) : FailsWith Q (throw e : ExceptT Error Option α) :=
  fun _ he => by cases he; exact h

lemma mono {Q' : Error → Prop} {x : ExceptT Error Option α} (hx : FailsWith Q x)
    (h : ∀ e, Q e → Q' e) : FailsWith Q' x :=
  fun e he => h e (hx e he)

lemma bind {x : ExceptT Error Option α} {f : α → ExceptT Error Option β} (hx : FailsWith Q x)
    (hf : ∀ a, FailsWith Q (f a)) : FailsWith Q (x >>= f) := fun e h => by
  rw [ExceptT.run_bind] at h
  rcases hx' : x.run with _ | _ | a <;> rw [hx'] at h
  · cases h
  · cases h; exact hx e hx'
  · exact hf a e h

lemma of_lift (x : Option α) : FailsWith Q (liftM x : ExceptT Error Option α) := fun _ h => by
  cases x <;> cases h

/-- The same, with what is known of the value in scope of what follows. -/
lemma lift_bind {x : Option α} {f : α → ExceptT Error Option β}
    (hf : ∀ a, x = some a → FailsWith Q (f a)) : FailsWith Q (liftM x >>= f) := by
  cases x with
  | none => exact fun _ h => by cases h
  | some a => exact hf a rfl

lemma guard {c : Prop} [Decidable c] {e : Error} {k : PUnit → ExceptT Error Option α}
    (he : c → Q e) (hk : ¬c → FailsWith Q (k ())) :
    FailsWith Q (if c then throw e >>= k else pure () >>= k) := by
  split_ifs with hc
  · exact fun _ h => by cases h; exact he hc
  · exact .bind (.of_pure _) fun _ => hk hc

lemma foldlM {f : β → α → ExceptT Error Option β} (hf : ∀ b a, FailsWith Q (f b a)) :
    ∀ (l : List α) (b : β), FailsWith Q (l.foldlM f b)
  | [], b => of_pure b
  | a :: l, b => by
    rw [List.foldlM_cons]
    exact (hf b a).bind fun b' => FailsWith.foldlM hf l b'

end FailsWith

/-- `Justified mls numRounds e`: the check of `prove_rounds` that returns `e` fails on these
arguments. No argument fails the check that returns `AtLeastOneVariable`. -/
def Error.Justified (mls : List (MultiLinearPoly E)) (numRounds : ℕ) : Error → Prop
  | .noMlsProvided => mls = []
  | .numRoundsZero => numRounds = 0
  | .tooManyRounds => ∃ ml0 ∈ mls.head?, ml0.numVariables < numRounds
  | .atLeastOneVariable => False
  | .mlesDifferentArities => ∃ ml0 ∈ mls.head?, ∃ ml ∈ mls, ml.numVariables ≠ ml0.numVariables
  | .failedToGenerateChallenge => True

variable (g : CompositionPolynomial E) (coin : RandomCoin E σ)

omit [Field E] in
lemma drawChallenge_failsWith (s : σ) :
    FailsWith (· = .failedToGenerateChallenge) (drawChallenge coin s) := by
  unfold drawChallenge
  split
  · exact .of_pure _
  · exact .of_throw rfl

lemma roundStep_failsWith (st : RoundState σ E) (i : ℕ) :
    FailsWith (· = .failedToGenerateChallenge) (roundStep g coin st i) :=
  (drawChallenge_failsWith coin _).bind fun _ =>
    .bind (.of_lift _) fun _ => .bind (.of_lift _) fun _ => .bind (.of_lift _) fun _ => .of_pure _

lemma lastRound_failsWith (N : ℕ) (st : RoundState σ E) :
    FailsWith (· = .failedToGenerateChallenge) (lastRound coin N st) :=
  (drawChallenge_failsWith coin _).bind fun _ =>
    .bind (.of_lift _) fun _ => .bind (.of_lift _) fun _ => .of_pure _

/-- Every error of `prove_rounds` is returned by a check its arguments fail, or by a draw. -/
lemma proveRounds_failsWith (claim : E) (mls : List (MultiLinearPoly E)) (numRounds : ℕ)
    (s : σ) : FailsWith (Error.Justified mls numRounds) (proveRounds g coin claim mls numRounds s) := by
  unfold proveRounds
  refine .guard List.isEmpty_iff.1 fun _ => .guard id fun _ => .lift_bind fun ml0 h0 => ?_
  have hhead : ml0 ∈ mls.head? := by rwa [List.head?_eq_getElem?]
  refine .guard (fun h => ⟨ml0, hhead, h⟩) fun _ => .guard (fun _ => by omega) fun _ =>
    .guard (fun h => ⟨ml0, hhead, by simpa using h⟩) fun _ => ?_
  refine .mono (.lift_bind fun st _ => .bind (.foldlM (roundStep_failsWith g coin) _ st)
    (lastRound_failsWith coin _)) fun e he => ?_
  subst he
  trivial

/-- **The check for `AtLeastOneVariable` in `prove_rounds` is dead**: a first table without
variables has already failed the check for `NumRoundsZero` or for `TooManyRounds`. -/
theorem proveRounds_ne_atLeastOneVariable (claim : E) (mls : List (MultiLinearPoly E))
    (numRounds : ℕ) (s : σ) :
    (proveRounds g coin claim mls numRounds s).run ≠ some (.error .atLeastOneVariable) :=
  fun h => proveRounds_failsWith g coin claim mls numRounds s _ h

/-- **The errors of `prove`**: `NumRoundsZero` when the first table has no variables,
`MlesDifferentArities` when the tables' arities differ, or `FailedToGenerateChallenge`.
`prove` never returns `NoMlsProvided` (it panics on an empty slice), `TooManyRounds` (it asks
for as many rounds as the first table has variables) or `AtLeastOneVariable`. -/
theorem prove_failsWith (prover : SumCheckProver E) (claim : E) (mls : List (MultiLinearPoly E))
    (s : σ) :
    FailsWith (fun e => (e = .numRoundsZero ∧ ∃ f ∈ mls.head?, f.numVariables = 0) ∨
      (e = .mlesDifferentArities ∧ ∃ f ∈ mls.head?, ∃ ml ∈ mls, ml.numVariables ≠ f.numVariables) ∨
      e = .failedToGenerateChallenge) (prover.prove claim mls coin s) := by
  unfold SumCheckProver.prove
  refine .lift_bind fun f hf => .bind (.mono (proveRounds_failsWith _ coin claim mls _ s) ?_)
    fun _ => .lift_bind fun _ _ => .of_pure _
  have hhead : f ∈ mls.head? := by rwa [List.head?_eq_getElem?]
  intro e he
  cases e with
  | noMlsProvided => simp [show mls = [] from he] at hf
  | numRoundsZero => exact .inl ⟨rfl, f, hhead, he⟩
  | tooManyRounds =>
    obtain ⟨ml0, hml0, hlt⟩ := he
    cases Option.mem_unique hml0 hhead
    exact absurd hlt (lt_irrefl _)
  | atLeastOneVariable => exact he.elim
  | mlesDifferentArities => exact .inr (.inl ⟨rfl, he⟩)
  | failedToGenerateChallenge => exact .inr (.inr rfl)

end Errors

end MidenVm.VirtualBus
