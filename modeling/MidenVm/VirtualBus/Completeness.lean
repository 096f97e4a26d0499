import MidenVm.VirtualBus.SumCheckProver

/-!
# Completeness of the sum-check prover

On the honest claim `v = Σ_x g(f(x))`, every round polynomial that `SumCheckProver::prove` sends
is the partial sum `X ↦ Σ_x g(f(r_0, …, r_{i-1}, X, x))` of `SumCheck`, its openings are the
polynomials at the challenges, and the verifier accepts (`prove_complete`). The prover sends
`d + 1` values of each round polynomial, so this needs every round polynomial to have degree at
most `d = max_degree`; a total degree at most `d` of `g` gives it (`lineDegreeLE_of_totalDegree`).
A degree at most `d` in each variable of `g` does not: with `g = X_0 X_1` and `d = 1` the round
polynomial has degree `2` and the last check fails (`prove_incomplete_of_degree_in_each_variable`).
-/

namespace MidenVm.VirtualBus

open Finset Polynomial

variable {E σ : Type} [Field E]

section Honest

variable (g : CompositionPolynomial E) (coin : RandomCoin E σ) (fs : List (MultiLinearPoly E))
  (ν : ℕ)

/-- The prover's round polynomial over the tables with their lowest variables fixed to `rs` is
the partial sum after `rs`. -/
lemma roundPoly_fixAll (harity : ∀ f ∈ fs, f.numVariables = ν) {rs : List E}
    (hrs : rs.length < ν) (t : E) :
    roundPoly g (fs.map fun f => f.fixAll rs) (ν - rs.length - 1) t = partialSum g fs ν rs t := by
  refine sum_congr rfl fun m hm => congrArg g.evaluate ?_
  rw [List.map_map]
  refine List.map_congr_left fun f hf => ?_
  have hn : f.numVariables - rs.length = ν - rs.length - 1 + 1 := by rw [harity f hf]; omega
  calc (f.fixAll rs).value (2 * m) +
        t * ((f.fixAll rs).value (2 * m + 1) - (f.fixAll rs).value (2 * m))
      = mle (bindFn (f.fixAll rs).value t) (ν - rs.length - 1) (bit m) :=
        (mle_bits _ (bindFn (f.fixAll rs).value t) (mem_range.1 hm)).symm
    _ = mle (f.fixAll rs).value (f.numVariables - rs.length) (consPoint t (bit m)) := by
        rw [hn, mle_succ]
    _ = mle f.value ν (prependPoint rs (consPoint t (bit m))) := by
        rw [mle_fixAll rs f (by rw [harity f hf]; omega), harity f hf]

/-- **The round polynomial sent is the partial sum**: at the honest claim after `rs`, `to_poly`
of `sumcheck_round`'s values is the partial sum after `rs`, when `g` has degree at most `d` along
every line and `0, …, d` are distinct in `E`. -/
theorem evaluate_toPoly (hd : 1 ≤ g.maxDegree) (hline : LineDegreeLE g.evaluate g.maxDegree)
    (hnodes : ∀ k, 0 < k → k ≤ g.maxDegree → (k : E) ≠ 0)
    (harity : ∀ f ∈ fs, f.numVariables = ν) {rs : List E} (hrs : rs.length < ν) (t : E) :
    ((roundPolyEvals g (fs.map fun f => f.fixAll rs) (ν - rs.length - 1)).toPoly
      (fullSum g fs ν rs)).evaluate t = partialSum g fs ν rs t := by
  obtain ⟨q, hq, heval⟩ := partialSum_poly g fs ν hline rs
  have hvals := toPoly_of_values hd fun k : ℕ => partialSum g fs ν rs k
  simp only [Nat.cast_zero, Nat.cast_one] at hvals
  rw [roundPolyEvals, List.map_congr_left fun k _ => roundPoly_fixAll g fs ν harity hrs _,
    ← partialSum_zero_add_one g fs ν hrs, hvals]
  simp only [heval]
  exact evaluate_eq_eval hnodes q hq t

/-- The prover's state before round `i` is honest: the loop invariant holds, and every round
polynomial sent is the partial sum after the challenges drawn before it. -/
structure HonestState (i : ℕ) (st : RoundState σ E) : Prop where
  invariant : RoundInvariant fs i st
  roundProofs : ∀ k p, st.roundProofs[k]? = some p → ∀ t,
    p.roundPolyCoefs.evaluate t = partialSum g fs ν (st.currentRoundClaim.evalPoint.take k) t

variable (hd : 1 ≤ g.maxDegree) (hline : LineDegreeLE g.evaluate g.maxDegree)
  (hnodes : ∀ k, 0 < k → k ≤ g.maxDegree → (k : E) ≠ 0)
  (harity : ∀ f ∈ fs, f.numVariables = ν)
include hd hline hnodes harity

lemma firstState_honest (hν : 1 ≤ ν) (s : σ) :
    HonestState g fs ν 1 (firstState g coin (hypercubeSum g fs ν) fs ν s) := by
  refine ⟨firstState_invariant g coin _ fs ν s, fun k p hp t => ?_⟩
  rcases k with _ | k
  · simp only [firstState, List.getElem?_cons_zero, Option.some.injEq] at hp
    subst hp
    have hfs : (fs.map fun f => f.fixAll ([] : List E)) = fs := by simp [MultiLinearPoly.fixAll]
    have := evaluate_toPoly g fs ν hd hline hnodes harity (show ([] : List E).length < ν by simpa) t
    rw [hfs, fullSum_nil] at this
    exact this
  · simp [firstState] at hp

/-- **An honest round stays honest**: with the invariant before round `i < ν` and a successful
draw, the round polynomial sent is the partial sum after the challenges so far. -/
lemma roundStep_honest (hfs : fs ≠ []) {i : ℕ} (hi : i < ν) {st : RoundState σ E}
    (hst : HonestState g fs ν i st) {r : E} {s : σ} (hdraw : coin.draw st.coin = some (r, s)) :
    ∃ st', roundStep g coin st i = pure st' ∧ HonestState g fs ν (i + 1) st' := by
  have hlen := hst.invariant.length_evalPoint
  have hlt : i - 1 < st.roundProofs.length := by rw [hst.invariant.length_roundProofs]; omega
  set p := st.roundProofs[i - 1]
  have hp : st.roundProofs[i - 1]? = some p := List.getElem?_eq_getElem hlt
  -- the new claim is the sum after `rs ++ [r]`
  have hclaim : p.roundPolyCoefs.evaluate r =
      fullSum g fs ν (st.currentRoundClaim.evalPoint ++ [r]) := by
    rw [hst.roundProofs _ _ hp, ← hlen, Nat.add_sub_cancel, List.take_length,
      partialSum_eq_fullSum_append]
  refine ⟨_, roundStep_eq g coin hd hfs harity hi hst.invariant hdraw hp,
    ⟨⟨by simp [reduceClaim, ← hlen], rfl, by simp [hst.invariant.length_roundProofs]⟩,
      fun k p' hp' t => ?_⟩⟩
  simp only [reduceClaim] at hp' ⊢
  rcases lt_or_le k i with hk | hk
  · rw [List.getElem?_append_left (by rw [hst.invariant.length_roundProofs]; exact hk)] at hp'
    rw [List.take_append_of_le_length (by omega)]
    exact hst.roundProofs k p' hp' t
  · rw [List.getElem?_append_right (by rw [hst.invariant.length_roundProofs]; exact hk),
      hst.invariant.length_roundProofs] at hp'
    obtain rfl : k = i := by
      by_contra hne
      rw [List.getElem?_eq_none (by simp; omega)] at hp'
      cases hp'
    rw [Nat.sub_self, List.getElem?_cons_zero, Option.some.injEq] at hp'
    subst hp'
    rw [List.take_of_length_le (by simp; omega), hclaim,
      show ν - k - 1 = ν - (st.currentRoundClaim.evalPoint ++ [r]).length - 1 by simp; omega]
    exact evaluate_toPoly g fs ν hd hline hnodes harity (by simp; omega) t

end Honest

/-- **Completeness of the sum-check prover.** For a composition polynomial `g` of total degree at
most `max_degree ≥ 1`, with `0, …, max_degree` distinct in `E`, nonempty tables in `ν ≥ 1`
variables and a coin whose draws succeed, `prove` on the honest claim `v = Σ_x g(f(x))` returns
a proof that the verifier accepts, whose round polynomials are the partial sums after the
challenges drawn, and whose openings are the polynomials at the challenges. -/
theorem prove_complete (g : CompositionPolynomial E) (p : MvPolynomial ℕ E)
    (hg : ∀ xs, g.evaluate xs = MvPolynomial.eval (fun j => xs.getD j 0) p)
    (hdeg : p.totalDegree ≤ g.maxDegree) (hd : 1 ≤ g.maxDegree)
    (hnodes : ∀ k, 0 < k → k ≤ g.maxDegree → (k : E) ≠ 0)
    (coin : RandomCoin E σ) (hdraw : ∀ s, coin.draw s ≠ none)
    (fs : List (MultiLinearPoly E)) (hfs : fs ≠ []) (ν : ℕ) (hν : 1 ≤ ν)
    (harity : ∀ f ∈ fs, f.numVariables = ν) (s : σ) :
    ∃ proof mls s', SumCheckProver.prove ⟨g, .sameEvalPoint⟩ (hypercubeSum g fs ν) fs coin s =
        pure (proof, mls, s') ∧
      VerifierAccepts g ν (hypercubeSum g fs ν) proof ∧
      (∀ i < ν, ∀ t,
        proof.roundPoly i t = partialSum g fs ν (proof.openingsClaim.evalPoint.take i) t) ∧
      proof.openingsClaim.openings = fs.map fun f => mle f.value ν fun k => proof.challenge k := by
  have hline := lineDegreeLE_of_totalDegree p hg hdeg
  have hdraw' : ∀ s, ∃ x, coin.draw s = some x := fun s => Option.ne_none_iff_exists'.1 (hdraw s)
  -- the loop keeps the prover honest
  rcases foldlM_roundStep g coin (P := HonestState g fs ν) (Q := fun _ => False) (N := ν)
      (fun i st hi hst => .inr (roundStep_honest g coin fs ν hd hline hnodes harity hfs hi hst
        (hdraw' st.coin).choose_spec))
      (ν - 1) 1 _ (by omega) (firstState_honest g coin fs ν hd hline hnodes harity hν s) with
    ⟨_, ⟨⟩, _⟩ | ⟨st, hloop, hst⟩
  rw [Nat.add_sub_cancel' hν] at hst
  have hlen := hst.invariant.length_evalPoint
  -- the last round
  obtain ⟨⟨r, s'⟩, hlast⟩ := hdraw' st.coin
  have hp : st.roundProofs[ν - 1]? = some _ :=
    List.getElem?_eq_getElem (by rw [hst.invariant.length_roundProofs]; omega)
  set rs := st.currentRoundClaim.evalPoint ++ [r]
  have hrs : rs.length = ν := by simp [rs]; omega
  obtain ⟨f, rest, rfl⟩ := List.exists_cons_of_ne_nil hfs
  have hprove := prove_eq_of_proveRounds ⟨g, .sameEvalPoint⟩ coin f rest
    (by rw [harity f (List.mem_cons_self _ _), proveRounds_eq g coin hd hfs harity hν le_rfl,
      hloop, pure_bind, lastRound_eq coin harity le_rfl hst.invariant hlast hp])
    fun ml hml => by rw [numVariables_of_mem_fixAll harity hml, hrs, Nat.sub_self]
  -- every round polynomial sent is the partial sum after the challenges before it
  have hround : ∀ i < ν, ∀ t, (Proof.mk ⟨rs, ((f :: rest).map fun f => f.fixAll rs).map
      fun ml => ml.value 0⟩ st.roundProofs).roundPoly i t =
      partialSum g (f :: rest) ν (rs.take i) t := fun i hi t => by
    have hpi : st.roundProofs[i]? = some _ :=
      List.getElem?_eq_getElem (by rw [hst.invariant.length_roundProofs]; exact hi)
    have htake : rs.take i = st.currentRoundClaim.evalPoint.take i :=
      List.take_append_of_le_length (by omega)
    rw [Proof.roundPoly, hpi, htake]
    exact hst.roundProofs i _ hpi t
  have hopen : (List.map (fun f => f.fixAll rs) (f :: rest)).map (fun ml => ml.value 0) =
      (f :: rest).map fun f => mle f.value ν fun k => rs.getD k 0 := by
    rw [List.map_map]
    refine List.map_congr_left fun f hf => ?_
    rw [Function.comp_apply, value_fixAll_of_length (by rw [hrs, harity f hf]), harity f hf]
  exact ⟨_, _, _, hprove,
    honest_accepts g _ ν hν _ hst.invariant.length_roundProofs hrs hround hopen, hround, hopen⟩

/-- A coin whose every draw is `2`. -/
def constantCoin : RandomCoin ℚ Unit := ⟨fun _ _ => (), fun _ => some (2, ())⟩

/-- Two tables in one variable, both `f(x) = x`. -/
def identityTables : List (MultiLinearPoly ℚ) := [⟨1, [0, 1], rfl⟩, ⟨1, [0, 1], rfl⟩]

/-- `g(x) = x_0`, of total degree `1`. -/
def firstComposition : CompositionPolynomial ℚ := ⟨1, fun xs => xs.getD 0 0⟩

theorem prove_complete_first_variable :
    ∃ proof mls s', SumCheckProver.prove ⟨firstComposition, .sameEvalPoint⟩
        (hypercubeSum firstComposition identityTables 1) identityTables constantCoin () =
        pure (proof, mls, s') ∧
      VerifierAccepts firstComposition 1 (hypercubeSum firstComposition identityTables 1) proof ∧
      (∀ i < 1, ∀ t, proof.roundPoly i t =
        partialSum firstComposition identityTables 1 (proof.openingsClaim.evalPoint.take i) t) ∧
      proof.openingsClaim.openings =
        identityTables.map fun f => mle f.value 1 fun k => proof.challenge k :=
  prove_complete firstComposition (MvPolynomial.X 0) (fun xs => by simp [firstComposition])
    (by simp [firstComposition]) le_rfl (fun k hk _ => Nat.cast_ne_zero.2 (by omega)) constantCoin
    (fun _ => by simp [constantCoin]) identityTables (by simp [identityTables]) 1 le_rfl
    (by simp [identityTables]) ()

/-- `g(x) = x_0 x_1`: degree `1` in each variable, total degree `2`. -/
def productComposition : CompositionPolynomial ℚ := ⟨1, fun xs => xs.getD 0 0 * xs.getD 1 0⟩

/-- **A degree bound in each variable is not enough**: `g = X_0 X_1` has degree `1` in each
variable, but on the tables `f_0 = f_1 = x` the prover sends the line `s_0(X) = X` for the round
polynomial `X²`, and at the challenge `2` the last check compares `2` with `g(2, 2) = 4`. -/
theorem prove_incomplete_of_degree_in_each_variable :
    (∀ xs, productComposition.evaluate xs =
      MvPolynomial.eval (fun j => xs.getD j 0) (MvPolynomial.X 0 * MvPolynomial.X 1)) ∧
    (∀ j, (MvPolynomial.X 0 * MvPolynomial.X 1 : MvPolynomial ℕ ℚ).degreeOf j ≤
      productComposition.maxDegree) ∧
    ∃ proof mls s', SumCheckProver.prove ⟨productComposition, .sameEvalPoint⟩
        (hypercubeSum productComposition identityTables 1) identityTables constantCoin () =
        pure (proof, mls, s') ∧
      ¬ VerifierAccepts productComposition 1 (hypercubeSum productComposition identityTables 1)
        proof := by
  refine ⟨fun xs => by simp [productComposition], fun j => ?_, ?_⟩
  · refine (MvPolynomial.degreeOf_mul_le j _ _).trans ?_
    simp only [MvPolynomial.degreeOf_X, productComposition]
    split_ifs <;> omega
  have harity : ∀ f ∈ identityTables, f.numVariables = 1 := by simp [identityTables]
  have hfs : identityTables ≠ [] := by simp [identityTables]
  have hv : hypercubeSum productComposition identityTables 1 = 1 := by
    simp [hypercubeSum, productComposition, identityTables, Finset.sum_range_succ,
      MultiLinearPoly.value]
  have hrounds := (proveRounds_eq productComposition constantCoin le_rfl hfs harity le_rfl le_rfl
    (hypercubeSum productComposition identityTables 1) ()).trans
      (lastRound_eq constantCoin harity le_rfl (firstState_invariant _ _ _ _ _ _) rfl rfl)
  have hprove := prove_eq_of_proveRounds ⟨productComposition, .sameEvalPoint⟩ constantCoin
    ⟨1, [0, 1], rfl⟩ [⟨1, [0, 1], rfl⟩] hrounds
    fun ml hml => by rw [numVariables_of_mem_fixAll harity hml]; rfl
  refine ⟨_, _, _, hprove, fun h => ?_⟩
  -- the prover's round polynomial is the line through `(0, 0)` and `(1, 1)`
  have hcoefs : (roundPolyEvals productComposition identityTables (1 - 1)).toPoly
      (hypercubeSum productComposition identityTables 1) = ⟨[0, 1]⟩ := by
    rw [hv]
    simp [roundPolyEvals, UnivariatePolyEvals.toPoly, roundPoly, productComposition,
      List.range_succ, identityTables, MultiLinearPoly.value]
  have heval : UnivariatePolyCoef.evaluate ⟨[0, 1]⟩ (2 : ℚ) = 2 := by
    simp [UnivariatePolyCoef.evaluate, Finset.sum_range_succ,
      show (Finset.range 2).erase 1 = {0} by decide]
  -- both tables fixed at `2` open to `2`
  have hu : (identityTables.map fun f => f.fixAll [2]).map (fun ml => ml.value 0) = [2, 2] := by
    simp [identityTables, MultiLinearPoly.fixAll, MultiLinearPoly.fixLowest, MultiLinearPoly.value,
      bindFn]
  have hlast : UnivariatePolyCoef.evaluate ((roundPolyEvals productComposition identityTables
      (1 - 1)).toPoly (hypercubeSum productComposition identityTables 1)) 2 =
      productComposition.evaluate ((identityTables.map fun f => f.fixAll [2]).map
        fun ml => ml.value 0) := h.last
  rw [hcoefs, heval, hu] at hlast
  norm_num [productComposition] at hlast

end MidenVm.VirtualBus
