import MidenVm.VirtualBus.SumCheckProver

/-!
# `sumcheck_round` with its buffers

`sumcheck_round` allocates four buffers of one entry per table, `evals_zero`, `evals_one`,
`deltas` and `evals_x`, once, and reuses them for every index `i` of the hypercube of the
variables after the lowest. For each `i` it copies entries `2i` and `2i + 1` of the tables into
the first two, sets `deltas = evals_one - evals_zero` and `evals_x = evals_one`, and reaches the
points `2, …, d` by adding `deltas` to `evals_x` once per point; a `fold` adds the values of
every `i` into a running sum. `sumcheckRoundInPlace` runs it so, each `i` on the buffers the
previous one left.

* `roundEvalsInPlace_eq`: whatever an earlier `i` left in the buffers, the closure at `i` returns
  what `roundTotalEvals` computes afresh, and leaves buffers of one entry per table;
* `sumcheckRoundInPlace_eq`: the run with shared buffers is `sumcheckRound`, the model the
  proofs of the prover use;
* `sumcheck_round_interpolates`: on tables of one arity `v ≥ 1` and `max_degree = d ≥ 1`, every
  closure and the whole round agree with the round polynomial by direct affine interpolation,
  `S(t) = Σ_i g((1 - t) f[2i] + t f[2i + 1])`, at `t = 1, …, d`.
-/

namespace MidenVm.VirtualBus

open Finset

variable {E : Type}

/-! ## The buffers and the copy loop -/

/-- The four buffers `sumcheck_round` allocates once. -/
structure RoundBuffers (E : Type) where
  evalsZero : List E
  evalsOne : List E
  deltas : List E
  evalsX : List E

/-- Every buffer holds one entry per table, as `vec![E::ZERO; num_ml]` allocates them. -/
structure RoundBuffers.Sized (buf : RoundBuffers E) (n : ℕ) : Prop where
  length_evalsZero : buf.evalsZero.length = n
  length_evalsOne : buf.evalsOne.length = n
  length_deltas : buf.deltas.length = n
  length_evalsX : buf.evalsX.length = n

/-- `v[j] = x`, which panics when `j` is past the end of `v`. -/
def setAt {α : Type} (v : List α) (j : ℕ) (x : α) : Option (List α) :=
  if j < v.length then some (v.set j x) else none

lemma setAt_of_lt {α : Type} {v : List α} {j : ℕ} (h : j < v.length) (x : α) :
    setAt v j x = some (v.set j x) :=
  if_pos h

/-- One iteration of `for (j, ml) in mls.iter().enumerate()`: `evals_zero[j] =
ml.evaluations()[i << 1]` and `evals_one[j] = ml.evaluations()[(i << 1) + 1]`. -/
def loadEntry (i : ℕ) (evals : List E × List E) (entry : ℕ × MultiLinearPoly E) :
    Option (List E × List E) := do
  let evalsZero ← setAt evals.1 entry.1 (← entry.2.evaluations[i <<< 1]?)
  let evalsOne ← setAt evals.2 entry.1 (← entry.2.evaluations[(i <<< 1) + 1]?)
  pure (evalsZero, evalsOne)

/-- The loop `for (j, ml) in mls.iter().enumerate()`, which copies entries `2i` and `2i + 1` of
every table into `evals_zero` and `evals_one`. -/
def loadEvals (mls : List (MultiLinearPoly E)) (i : ℕ) (evalsZero evalsOne : List E) :
    Option (List E × List E) :=
  mls.enum.foldlM (loadEntry i) (evalsZero, evalsOne)

lemma length_of_mapM_eq_some {α β : Type} {f : α → Option β} :
    ∀ {l : List α} {l' : List β}, l.mapM f = some l' → l'.length = l.length
  | [], l', h => by cases h; rfl
  | x :: l, l', h => by
    rw [List.mapM_cons] at h
    cases hx : f x with
    | none => rw [hx] at h; cases h
    | some y =>
      cases hl : l.mapM f with
      | none => rw [hx, hl] at h; cases h
      | some ys =>
        rw [hx, hl] at h
        cases h
        rw [List.length_cons, length_of_mapM_eq_some hl, List.length_cons]

lemma foldlM_loadEntry (i : ℕ) : ∀ (l : List (MultiLinearPoly E)) (pz po z o : List E),
    po.length = pz.length → z.length = l.length → o.length = l.length →
    (l.enumFrom pz.length).foldlM (loadEntry i) (pz ++ z, po ++ o) = do
      let zs ← l.mapM fun ml => ml.evaluations[i <<< 1]?
      let os ← l.mapM fun ml => ml.evaluations[(i <<< 1) + 1]?
      pure (pz ++ zs, po ++ os)
  | [], pz, po, z, o, _, hz, ho => by
    rw [List.length_eq_zero.1 hz, List.length_eq_zero.1 ho]
    rfl
  | ml :: l, pz, po, z, o, hp, hz, ho => by
    obtain ⟨z0, z, rfl⟩ := List.exists_cons_of_length_eq_add_one hz
    obtain ⟨o0, o, rfl⟩ := List.exists_cons_of_length_eq_add_one ho
    simp only [List.length_cons, Nat.add_right_cancel_iff] at hz ho
    rw [List.enumFrom_cons, List.foldlM_cons, List.mapM_cons, List.mapM_cons]
    cases ha : ml.evaluations[i <<< 1]? with
    | none => simp [loadEntry, ha]
    | some a =>
      cases hb : ml.evaluations[(i <<< 1) + 1]? with
      | none => simp [loadEntry, ha, hb, setAt_of_lt]
      | some b =>
        -- both entries are written at `j`, and the loop goes on from `j + 1`
        have hrest := foldlM_loadEntry i l (pz ++ [a]) (po ++ [b]) z o (by simp [hp]) hz ho
        simp only [List.length_append, List.length_singleton, List.append_assoc,
          List.singleton_append] at hrest
        simp [loadEntry, ha, hb, setAt_of_lt, List.set_append_right, hp, hrest, Option.bind_assoc]

lemma loadEvals_eq (mls : List (MultiLinearPoly E)) {i : ℕ} {z o : List E}
    (hz : z.length = mls.length) (ho : o.length = mls.length) :
    loadEvals mls i z o = (do
      let zs ← mls.mapM fun ml => ml.evaluations[i <<< 1]?
      let os ← mls.mapM fun ml => ml.evaluations[(i <<< 1) + 1]?
      pure (zs, os)) := by
  simpa using foldlM_loadEntry i mls [] [] z o rfl hz ho

variable [Field E]

/-! ## The reset and the additions -/

/-- The `for_each` over `evals_zero.iter().zip(evals_one.iter().zip(deltas.iter_mut()
.zip(evals_x.iter_mut())))`: `*delta = *a1 - *a0` and `*evx = *a1` at every position the four
buffers share. Returns `deltas` and `evals_x`. -/
def resetDeltas : List E → List E → List E → List E → List E × List E
  | a0 :: evalsZero, a1 :: evalsOne, _ :: deltas, _ :: evalsX =>
    let r := resetDeltas evalsZero evalsOne deltas evalsX
    ((a1 - a0) :: r.1, a1 :: r.2)
  | _, _, deltas, evalsX => (deltas, evalsX)

/-- `xs.iter_mut().zip(ys.iter()).for_each(|(x, y)| *x += *y)`: `ys` added to `xs` at every
position they share. -/
def addAssign : List E → List E → List E
  | x :: xs, y :: ys => (x + y) :: addAssign xs ys
  | xs, _ => xs

/-- `total_evals.iter_mut().skip(1).for_each(...)` over `n` entries: `evals_x += deltas`, and
the entry is `g(evals_x)`. Returns the entries and `evals_x` after them. -/
def fillPoints (compositionPoly : CompositionPolynomial E) (deltas : List E) :
    ℕ → List E → List E × List E
  | 0, evalsX => ([], evalsX)
  | n + 1, evalsX =>
    let evalsX := addAssign evalsX deltas
    let r := fillPoints compositionPoly deltas n evalsX
    (compositionPoly.evaluate evalsX :: r.1, r.2)

@[simp] lemma length_addAssign : ∀ xs ys : List E, (addAssign xs ys).length = xs.length
  | _ :: xs, _ :: ys => by simp [addAssign, length_addAssign xs ys]
  | [], _ | _ :: _, [] => rfl

lemma addAssign_eq_zipWith : ∀ {xs ys : List E}, xs.length = ys.length →
    addAssign xs ys = List.zipWith (· + ·) xs ys
  | _ :: xs, _ :: ys, h => by
    rw [addAssign, addAssign_eq_zipWith (Nat.succ.inj h), List.zipWith_cons_cons]
  | [], [], _ => rfl

lemma resetDeltas_eq : ∀ {z o ds xs : List E}, o.length = z.length → ds.length = z.length →
    xs.length = z.length → resetDeltas z o ds xs = (List.zipWith (· - ·) o z, o)
  | a0 :: z, a1 :: o, _ :: ds, _ :: xs, ho, hds, hxs => by
    rw [resetDeltas, resetDeltas_eq (Nat.succ.inj ho) (Nat.succ.inj hds) (Nat.succ.inj hxs),
      List.zipWith_cons_cons]
  | [], [], [], [], _, _, _ => rfl

@[simp] lemma length_fillPoints (g : CompositionPolynomial E) (deltas : List E) :
    ∀ (n : ℕ) (evalsX : List E), (fillPoints g deltas n evalsX).2.length = evalsX.length
  | 0, _ => rfl
  | n + 1, evalsX => by
    rw [fillPoints, length_fillPoints g deltas n, length_addAssign]

/-- The points after the first are reached by repeated addition: the same values as
`stepEvals`, which steps along the line from the next point. -/
lemma fillPoints_fst (g : CompositionPolynomial E) {deltas : List E} :
    ∀ (n : ℕ) {evalsX : List E}, evalsX.length = deltas.length →
      (fillPoints g deltas n evalsX).1 =
        stepEvals g deltas n (List.zipWith (· + ·) evalsX deltas)
  | 0, _, _ => rfl
  | n + 1, evalsX, h => by
    have hlen : (List.zipWith (· + ·) evalsX deltas).length = deltas.length := by simp [h]
    rw [fillPoints, stepEvals, addAssign_eq_zipWith h, fillPoints_fst g n hlen]

@[simp] lemma length_stepEvals (g : CompositionPolynomial E) (deltas : List E) :
    ∀ (n : ℕ) (evalsX : List E), (stepEvals g deltas n evalsX).length = n
  | 0, _ => rfl
  | n + 1, _ => by rw [stepEvals, List.length_cons, length_stepEvals g deltas n]

/-! ## One closure on reused buffers -/

/-- The closure of `sumcheck_round` at `i`, on the buffers an earlier `i` left: `g` at the
points `1, …, d` of the line through entries `2i` and `2i + 1`, and the buffers after it.
`total_evals[0]` panics when `max_degree = 0`. -/
def roundEvalsInPlace (compositionPoly : CompositionPolynomial E)
    (mls : List (MultiLinearPoly E)) (buf : RoundBuffers E) (i : ℕ) :
    Option (RoundBuffers E × List E) := do
  let (evalsZero, evalsOne) ← loadEvals mls i buf.evalsZero buf.evalsOne
  if compositionPoly.maxDegree = 0 then none
  let first := compositionPoly.evaluate evalsOne
  let (deltas, evalsX) := resetDeltas evalsZero evalsOne buf.deltas buf.evalsX
  let rest := fillPoints compositionPoly deltas (compositionPoly.maxDegree - 1) evalsX
  pure (⟨evalsZero, evalsOne, deltas, rest.2⟩, first :: rest.1)

section Closure

variable (g : CompositionPolynomial E) (mls : List (MultiLinearPoly E))

lemma length_of_roundTotalEvals {i : ℕ} {totalEvals : List E}
    (h : roundTotalEvals g mls i = some totalEvals) : totalEvals.length = g.maxDegree := by
  rw [roundTotalEvals] at h
  cases hz : mls.mapM fun ml => ml.evaluations[i <<< 1]? with
  | none => rw [hz] at h; cases h
  | some zs =>
    cases ho : mls.mapM fun ml => ml.evaluations[(i <<< 1) + 1]? with
    | none => rw [hz, ho] at h; cases h
    | some os =>
      by_cases hd : g.maxDegree = 0
      · simp only [hz, ho, hd, Option.bind_eq_bind, Option.some_bind, if_true] at h
        cases h
      · simp only [hz, ho, hd, Option.bind_eq_bind, Option.some_bind, if_false, Option.pure_def,
          Option.some.injEq] at h
        rw [← h, length_stepEvals]

/-- **One closure, on reused buffers**: whatever an earlier `i` left in buffers of one entry per
table, the closure at `i` returns the values `roundTotalEvals` computes afresh, and leaves
buffers of one entry per table. -/
theorem roundEvalsInPlace_eq {buf : RoundBuffers E} (hbuf : buf.Sized mls.length) (i : ℕ) :
    (roundEvalsInPlace g mls buf i).map Prod.snd = roundTotalEvals g mls i ∧
      ∀ r ∈ roundEvalsInPlace g mls buf i, r.1.Sized mls.length := by
  rw [roundEvalsInPlace, loadEvals_eq mls hbuf.length_evalsZero hbuf.length_evalsOne,
    roundTotalEvals]
  cases hz : mls.mapM fun ml => ml.evaluations[i <<< 1]? with
  | none => exact ⟨rfl, fun _ h => by cases h⟩
  | some zs =>
    cases ho : mls.mapM fun ml => ml.evaluations[(i <<< 1) + 1]? with
    | none => exact ⟨rfl, fun _ h => by cases h⟩
    | some os =>
      have hzs := length_of_mapM_eq_some hz
      have hos := length_of_mapM_eq_some ho
      cases hd : g.maxDegree with
      | zero => exact ⟨rfl, fun _ h => by cases h⟩
      | succ d =>
        -- the reset, then the repeated additions from `evals_x = evals_one`
        have hreset : resetDeltas zs os buf.deltas buf.evalsX =
            (List.zipWith (· - ·) os zs, os) :=
          resetDeltas_eq (by omega) (by rw [hbuf.length_deltas]; omega)
            (by rw [hbuf.length_evalsX]; omega)
        have hfill : (fillPoints g (List.zipWith (· - ·) os zs) d os).1 =
            stepEvals g (List.zipWith (· - ·) os zs) d
              (List.zipWith (· + ·) os (List.zipWith (· - ·) os zs)) :=
          fillPoints_fst g d (by simp; omega)
        simp only [Option.bind_eq_bind, Option.some_bind, Nat.add_one_ne_zero, if_false,
          Nat.add_sub_cancel, hreset, Option.pure_def, Option.map_some', hfill, stepEvals]
        refine ⟨trivial, fun r hr => ?_⟩
        cases hr
        exact ⟨hzs, hos, by simp; omega, by simp [hos]⟩

end Closure

/-! ## The whole round -/

/-- One step of the `map` and the `fold` over `i`: the closure at `i` on the buffers, then
`acc += evals`. -/
def roundAccumulate (compositionPoly : CompositionPolynomial E)
    (mls : List (MultiLinearPoly E)) (st : RoundBuffers E × List E) (i : ℕ) :
    Option (RoundBuffers E × List E) := do
  let (buf, totalEvals) ← roundEvalsInPlace compositionPoly mls st.1 i
  pure (buf, addAssign st.2 totalEvals)

/-- `sumcheck_round` as the code runs it: the buffers allocated once, `vec![E::ZERO; num_ml]`
each, and carried from each `i` to the next; `mls[0]` and `num_vars - 1` panic on an empty slice
and on tables without variables. -/
def sumcheckRoundInPlace (compositionPoly : CompositionPolynomial E)
    (mls : List (MultiLinearPoly E)) : Option (UnivariatePolyEvals E) := do
  let numMl := mls.length
  let ml0 ← mls[0]?
  if ml0.numVariables = 0 then none
  let numRounds := ml0.numVariables - 1
  let zeros : List E := List.replicate numMl 0
  let (_, evaluations) ← (List.range (1 <<< numRounds)).foldlM
    (roundAccumulate compositionPoly mls)
    (⟨zeros, zeros, zeros, zeros⟩, List.replicate compositionPoly.maxDegree 0)
  pure ⟨evaluations⟩

/-- **The loop over `i`, with shared buffers**: from buffers of one entry per table and a
running sum of `d` entries, the closures and the `fold` give what `roundTotalEvals` afresh and
a sum of the rows give. -/
lemma foldlM_roundAccumulate (g : CompositionPolynomial E) (mls : List (MultiLinearPoly E)) :
    ∀ (is : List ℕ) (buf : RoundBuffers E) (acc : List E), buf.Sized mls.length →
      acc.length = g.maxDegree →
      (is.foldlM (roundAccumulate g mls) (buf, acc)).map Prod.snd =
        (is.mapM (roundTotalEvals g mls)).map fun totalEvals =>
          totalEvals.foldl (fun acc evals => List.zipWith (· + ·) acc evals) acc
  | [], _, _, _, _ => rfl
  | i :: is, buf, acc, hbuf, hacc => by
    obtain ⟨hvals, hsized⟩ := roundEvalsInPlace_eq g mls hbuf i
    rw [List.foldlM_cons, List.mapM_cons]
    cases h : roundEvalsInPlace g mls buf i with
    | none =>
      rw [h] at hvals
      simp [roundAccumulate, h, ← hvals]
    | some r =>
      obtain ⟨buf', totalEvals⟩ := r
      rw [h] at hvals hsized
      have hte : roundTotalEvals g mls i = some totalEvals := hvals.symm
      -- the running sum of `d` entries takes the row of `d` entries entry by entry
      have hadd : addAssign acc totalEvals = List.zipWith (· + ·) acc totalEvals :=
        addAssign_eq_zipWith (by rw [hacc, length_of_roundTotalEvals g mls hte])
      have hstep : roundAccumulate g mls (buf, acc) i =
          some (buf', List.zipWith (· + ·) acc totalEvals) := by
        simp only [roundAccumulate, h, hadd, Option.bind_eq_bind, Option.some_bind,
          Option.pure_def]
      have ih := foldlM_roundAccumulate g mls is buf' (List.zipWith (· + ·) acc totalEvals)
        (hsized _ rfl) (by rw [← hadd, length_addAssign, hacc])
      rw [hstep, hte]
      simp only [Option.bind_eq_bind, Option.some_bind, ih]
      cases List.mapM (roundTotalEvals g mls) is <;> rfl

/-- **Sharing the buffers changes nothing**: `sumcheck_round` as the code runs it, with its
buffers carried from each `i` to the next, is `sumcheckRound`, on every slice of tables. -/
theorem sumcheckRoundInPlace_eq (g : CompositionPolynomial E) (mls : List (MultiLinearPoly E)) :
    sumcheckRoundInPlace g mls = sumcheckRound g mls := by
  rw [sumcheckRoundInPlace, sumcheckRound]
  cases h0 : mls[0]? with
  | none => rfl
  | some ml0 =>
    by_cases hv : ml0.numVariables = 0
    · simp [hv]
    have hrun := foldlM_roundAccumulate g mls (List.range (1 <<< (ml0.numVariables - 1)))
      ⟨List.replicate mls.length 0, List.replicate mls.length 0, List.replicate mls.length 0,
        List.replicate mls.length 0⟩ (List.replicate g.maxDegree 0) ⟨by simp, by simp, by simp,
        by simp⟩ (by simp)
    simp only [Option.bind_eq_bind, Option.some_bind, hv, if_false, Option.pure_def]
    cases hf : (List.range (1 <<< (ml0.numVariables - 1))).foldlM (roundAccumulate g mls)
        (⟨List.replicate mls.length 0, List.replicate mls.length 0, List.replicate mls.length 0,
          List.replicate mls.length 0⟩, List.replicate g.maxDegree 0) with
    | none =>
      rw [hf, Option.map_none'] at hrun
      rw [Option.map_eq_none'.1 hrun.symm]
      rfl
    | some st =>
      obtain ⟨buf, evaluations⟩ := st
      rw [hf, Option.map_some'] at hrun
      obtain ⟨totalEvals, htot, hst⟩ := Option.map_eq_some'.1 hrun.symm
      dsimp only at hst
      rw [htot, Option.some_bind, Option.some_bind, hst]

/-! ## Direct affine interpolation -/

section Interpolation

variable (g : CompositionPolynomial E) (mls : List (MultiLinearPoly E))

/-- The description of `sumcheck_round`: `g` at `(1 - t) f_j[2i] + t f_j[2i + 1]`, every table
`f_j` interpolated directly between its entries `2i` and `2i + 1`. -/
def interpolatedEval (i : ℕ) (t : E) : E :=
  g.evaluate (mls.map fun ml => (1 - t) * ml.value (2 * i) + t * ml.value (2 * i + 1))

def interpolatedSum (n : ℕ) (t : E) : E := ∑ i in range (2 ^ n), interpolatedEval g mls i t

lemma interpolatedEval_eq (i : ℕ) (t : E) : interpolatedEval g mls i t = g.evaluate
    (mls.map fun ml => ml.value (2 * i) + t * (ml.value (2 * i + 1) - ml.value (2 * i))) :=
  congrArg g.evaluate (List.map_congr_left fun _ _ => by ring)

lemma roundPoly_eq_interpolatedSum (n : ℕ) (t : E) :
    roundPoly g mls n t = interpolatedSum g mls n t :=
  sum_congr rfl fun i _ => (interpolatedEval_eq g mls i t).symm

end Interpolation

/-- **`sumcheck_round` interpolates**: for `c ≥ 1` tables in `v ≥ 1` variables and a composition
polynomial of `max_degree = d ≥ 1`, every closure at `i < 2^(v-1)`, on whatever buffers an
earlier `i` left, returns `g` at the direct interpolation `(1 - t) f[2i] + t f[2i + 1]` for
`t = 1, …, d`; and `sumcheck_round`, its buffers shared across every `i`, returns
`[S(1), …, S(d)]`. -/
theorem sumcheck_round_interpolates (g : CompositionPolynomial E) (hd : 1 ≤ g.maxDegree)
    (mls : List (MultiLinearPoly E)) (hc : mls ≠ []) (v : ℕ) (hv : 1 ≤ v)
    (harity : ∀ ml ∈ mls, ml.numVariables = v) :
    (∀ buf : RoundBuffers E, buf.Sized mls.length → ∀ i < 2 ^ (v - 1),
      (roundEvalsInPlace g mls buf i).map Prod.snd =
        some ((List.range g.maxDegree).map fun k => interpolatedEval g mls i ((k + 1 : ℕ) : E))) ∧
    sumcheckRoundInPlace g mls = some
      ⟨(List.range g.maxDegree).map fun k => interpolatedSum g mls (v - 1) ((k + 1 : ℕ) : E)⟩ := by
  have harity' : ∀ ml ∈ mls, ml.numVariables = v - 1 + 1 := fun ml hml => by
    rw [harity ml hml]
    omega
  refine ⟨fun buf hbuf i hi => ?_, ?_⟩
  · -- one closure: the incremental points are the interpolated ones
    rw [(roundEvalsInPlace_eq g mls hbuf i).1, roundTotalEvals_eq g hd harity' hi]
    simp only [interpolatedEval_eq]
  · -- the whole round
    rw [sumcheckRoundInPlace_eq, sumcheckRound_eq g hd hc harity', roundPolyEvals]
    simp only [roundPoly_eq_interpolatedSum]

/-- `g(x) = x_0 x_1`, of degree `2`. -/
def productOfTwo : CompositionPolynomial ℚ := ⟨2, fun xs => xs.getD 0 0 * xs.getD 1 0⟩

/-- Two tables in one variable: `f_0 = (1, 3)` and `f_1 = (2, 5)`. -/
def twoTables : List (MultiLinearPoly ℚ) := [⟨1, [1, 3], rfl⟩, ⟨1, [2, 5], rfl⟩]

theorem sumcheck_round_interpolates_two_tables :
    1 ≤ productOfTwo.maxDegree ∧ twoTables ≠ [] ∧ (∀ ml ∈ twoTables, ml.numVariables = 1) ∧
      ((∀ buf : RoundBuffers ℚ, buf.Sized twoTables.length → ∀ i < 2 ^ (1 - 1),
        (roundEvalsInPlace productOfTwo twoTables buf i).map Prod.snd =
          some ((List.range productOfTwo.maxDegree).map fun k =>
            interpolatedEval productOfTwo twoTables i ((k + 1 : ℕ) : ℚ))) ∧
      sumcheckRoundInPlace productOfTwo twoTables =
        some ⟨(List.range productOfTwo.maxDegree).map fun k =>
          interpolatedSum productOfTwo twoTables (1 - 1) ((k + 1 : ℕ) : ℚ)⟩) :=
  ⟨by decide, List.cons_ne_nil _ _, by simp [twoTables],
    sumcheck_round_interpolates productOfTwo (by decide) twoTables (List.cons_ne_nil _ _) 1
      le_rfl (by simp [twoTables])⟩

end MidenVm.VirtualBus
