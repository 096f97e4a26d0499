import MidenVm.Processor.Dispatch
import Mathlib.Algebra.BigOperators.Intervals

/-!
# The kernel procedure table

The kernel ROM chiplet lists the kernel's procedures: procedure `j` occupies a run of consecutive
rows whose address column holds `j`, one row for each time it is called. Two builders turn the
segment into inclusions of the procedures: the response `build_kernel_procedure_table_responses`
weighs each row's value by the change of address to the next row, and the virtual table's
`chiplets_kernel_table_include` includes a row's value where the address changes. Both compare
the segment's last row with the padding row after it, whose address is `0`.

* `kernelSegment_of_intoTrace`: the segment `fill_trace` lays out from the kernel ROM's rows.
* `kernel_procedure_table_prod`: over a segment of `n` procedures the responses include every
  procedure but the last once, and weigh the last by `n - (n - 1) v`.
* `kernel_table_include_prod`: the inclusions are the values at the last rows of the procedures,
  read with the decoder's address, and the last procedure's only when `n ≥ 2`.
* `kernel_table_single_procedure_mismatch`: a kernel of one procedure is included by neither.
-/

namespace MidenVm.Processor

open scoped BigOperators

variable {E : Type*} [CommRing E] [Algebra Felt E]

/-- The value both builders give the procedure at address `addr` with root `root`. -/
def kernelProcValue (alphas : ℕ → E) (addr : Felt) (root : ℕ → Felt) : E :=
  alphas 0 + mulBase (alphas 1) addr + mulBase (alphas 2) (root 0) + mulBase (alphas 3) (root 1) +
    mulBase (alphas 4) (root 2) + mulBase (alphas 5) (root 3)

/-- The procedure addresses of the kernel ROM's `len` rows: `0` on the first row, growing by at
most `1` from a row to the next, and `n - 1` on the last row. -/
structure KernelRomRuns (len n : ℕ) (a : ℕ → ℕ) : Prop where
  len_pos : 0 < len
  first : a 0 = 0
  step : ∀ k, k + 1 < len → a (k + 1) = a k ∨ a (k + 1) = a k + 1
  last : a (len - 1) + 1 = n

/-- The kernel ROM segment of a main trace: the rows `start + k`, `k < len`, are kernel rows
holding the address `a k` and the root `root (a k)`, and the padding row after them has
address `0`. -/
structure KernelSegment (mt : MainTrace) (start len n : ℕ) (a : ℕ → ℕ) (root : ℕ → ℕ → Felt) :
    Prop where
  runs : KernelRomRuns len n a
  kernelRow : ∀ k < len, mt.isKernelRow (start + k)
  addr : ∀ k < len, mt.chipletKernelAddr (start + k) = a k
  root : ∀ k < len, ∀ i < 4, mt.chipletKernelRoot i (start + k) = root (a k) i
  paddingAddr : mt.chipletKernelAddr (start + len) = 0

/-! ## The segment `fill_trace` lays out -/

namespace Chiplets

variable (ch : Chiplets)

lemma layoutCell_kernelRom {T c r : ℕ} (hc : 4 ≤ c ∧ c < 10)
    (hr : ch.kernelRomStart ≤ r ∧ r < ch.paddingStart) :
    ch.layoutCell T c r = ch.kernelRom.fill (c - 4) (r - ch.kernelRomStart) := by
  rw [layoutCell, if_pos]
  simp only [kernelRomWindow, Window.Mem, paddingStart] at hr ⊢
  omega

end Chiplets

/-- The kernel ROM rows of a table `into_trace` returns form a kernel segment: the selectors of
its rows read `1, 1, 1, 0`, its address and root columns are the kernel ROM's, and the padding
row after it is zero. -/
lemma kernelSegment_of_intoTrace (ch : Chiplets) {T numRandRows n : ℕ} {mt : MainTrace}
    {a : ℕ → ℕ} {root : ℕ → ℕ → Felt} (htr : ch.intoTrace T numRandRows = some mt.chiplets)
    (runs : KernelRomRuns ch.kernelRom.traceLen n a)
    (haddr : ∀ k < ch.kernelRom.traceLen, ch.kernelRom.fill 1 k = a k)
    (hroot : ∀ k < ch.kernelRom.traceLen, ∀ i < 4, ch.kernelRom.fill (2 + i) k = root (a k) i) :
    KernelSegment mt ch.kernelRomStart ch.kernelRom.traceLen n a root := by
  obtain ⟨hT, hmt⟩ := ch.intoTrace_eq_some htr
  have hcell : ∀ c r, mt.chiplets c r = ch.layoutCell T c r := fun c r => by rw [hmt]
  have hpad : ch.paddingStart < T := by rw [Chiplets.traceLen_eq] at hT; omega
  have hk : ∀ k < ch.kernelRom.traceLen,
      ch.kernelRomStart ≤ ch.kernelRomStart + k ∧ ch.kernelRomStart + k < ch.paddingStart :=
    fun k hk => ⟨Nat.le_add_right _ _, by rw [Chiplets.paddingStart]; omega⟩
  have := ch.bitwiseStart_le_memoryStart
  have := ch.memoryStart_le_kernelRomStart
  refine ⟨runs, fun k hkl => ?_, fun k hkl => ?_, fun k hkl i hi => ?_, ?_⟩
  · -- the selectors of a kernel ROM row
    have ⟨h1, h2⟩ := hk k hkl
    have hb : ch.bitwiseStart ≤ ch.kernelRomStart + k := by omega
    have hm : ch.memoryStart ≤ ch.kernelRomStart + k := by omega
    simp only [MainTrace.isKernelRow, MainTrace.chipletSelector, hcell, ch.layoutCell_zero,
      ch.layoutCell_one hb, ch.layoutCell_two hm, ch.layoutCell_three h1, hb, hm, h1,
      show ¬ ch.paddingStart ≤ ch.kernelRomStart + k by omega,
      show ch.kernelRomStart + k < T by omega, and_self, if_true, false_and, if_false]
  · -- the address column
    rw [MainTrace.chipletKernelAddr, hcell, ch.layoutCell_kernelRom (by omega) (hk k hkl),
      Nat.add_sub_cancel_left, haddr k hkl]
  · -- the root columns
    rw [MainTrace.chipletKernelRoot, hcell, ch.layoutCell_kernelRom (by omega) (hk k hkl),
      Nat.add_sub_cancel_left, show 6 + i - 4 = 2 + i by omega, hroot k hkl i hi]
  · -- the padding row
    rw [MainTrace.chipletKernelAddr, hcell,
      ch.layoutCell_padding (r := ch.kernelRomStart + ch.kernelRom.traceLen) le_rfl hpad]
    rfl

/-! ## The procedure table responses -/

section Responses

variable {mt : MainTrace} {start len n : ℕ} {a : ℕ → ℕ} {root : ℕ → ℕ → Felt}
  (hs : KernelSegment mt start len n a root) (alphas : ℕ → E)
include hs

lemma KernelSegment.value_eq {k : ℕ} (hk : k < len) :
    kernelProcValue alphas (mt.chipletKernelAddr (start + k))
        (fun i => mt.chipletKernelRoot i (start + k)) =
      kernelProcValue alphas (a k : Felt) (root (a k)) := by
  simp only [kernelProcValue, hs.addr k hk, hs.root k hk _ (by omega : (0 : ℕ) < 4),
    hs.root k hk _ (by omega : (1 : ℕ) < 4), hs.root k hk _ (by omega : (2 : ℕ) < 4),
    hs.root k hk _ (by omega : (3 : ℕ) < 4)]

lemma KernelSegment.response_eq {k : ℕ} (hk : k < len) :
    buildKernelProcedureTableResponses mt (start + k) alphas =
      mulBase (kernelProcValue alphas (a k : Felt) (root (a k)))
          (mt.chipletKernelAddr (start + k + 1) - a k) +
        algebraMap Felt E (1 - (mt.chipletKernelAddr (start + k + 1) - a k)) := by
  rw [← hs.value_eq alphas hk, ← hs.addr k hk]
  rfl

lemma KernelSegment.response_of_same {k : ℕ} (hk : k + 1 < len) (h : a (k + 1) = a k) :
    buildKernelProcedureTableResponses mt (start + k) alphas = 1 := by
  rw [hs.response_eq alphas (by omega), Nat.add_assoc, hs.addr _ hk, h, sub_self, mulBase_zero,
    sub_zero, map_one, zero_add]

lemma KernelSegment.response_of_next {k : ℕ} (hk : k + 1 < len) (h : a (k + 1) = a k + 1) :
    buildKernelProcedureTableResponses mt (start + k) alphas =
      kernelProcValue alphas (a k : Felt) (root (a k)) := by
  rw [hs.response_eq alphas (by omega), Nat.add_assoc, hs.addr _ hk, h, Nat.cast_succ,
    add_sub_cancel_left, mulBase_one, sub_self, map_zero, add_zero]

/-- The last row of the segment, followed by the padding row, weighs its value by `-(n - 1)`. -/
lemma KernelSegment.response_last :
    buildKernelProcedureTableResponses mt (start + (len - 1)) alphas =
      mulBase (kernelProcValue alphas ((n - 1 : ℕ) : Felt) (root (n - 1))) (-((n - 1 : ℕ) : Felt)) +
        algebraMap Felt E (1 + ((n - 1 : ℕ) : Felt)) := by
  have hlen := hs.runs.len_pos
  have hlast : a (len - 1) = n - 1 := by have := hs.runs.last; omega
  rw [hs.response_eq alphas (by omega), show start + (len - 1) + 1 = start + len by omega,
    hs.paddingAddr, hlast, zero_sub, sub_neg_eq_add]

/-- Over the rows before `m`, the responses include each procedure that ended there once. -/
lemma KernelSegment.prod_response_prefix {m : ℕ} (hm : m < len) :
    ∏ k in Finset.range m, buildKernelProcedureTableResponses mt (start + k) alphas =
      ∏ j in Finset.range (a m), kernelProcValue alphas (j : Felt) (root j) := by
  induction m with
  | zero => rw [hs.runs.first]; rfl
  | succ m ih =>
    rw [Finset.prod_range_succ, ih (by omega)]
    rcases hs.runs.step m hm with h | h
    · -- `m` is followed by a row of its procedure
      rw [hs.response_of_same alphas hm h, mul_one, h]
    · -- `m` is the last row of its procedure
      rw [hs.response_of_next alphas hm h, h, Finset.prod_range_succ]

/-- **The responses over a kernel segment.** Every procedure but the last is included once,
whatever the number of its rows; the last is weighed by the change of address to the padding
row, `-(n - 1)`, so it is not included at all when `n = 1`. -/
lemma kernel_procedure_table_prod :
    ∏ k in Finset.range len, buildKernelProcedureTableResponses mt (start + k) alphas =
      (∏ j in Finset.range (n - 1), kernelProcValue alphas (j : Felt) (root j)) *
        (mulBase (kernelProcValue alphas ((n - 1 : ℕ) : Felt) (root (n - 1)))
            (-((n - 1 : ℕ) : Felt)) +
          algebraMap Felt E (1 + ((n - 1 : ℕ) : Felt))) := by
  have hlen := hs.runs.len_pos
  have hlast : a (len - 1) = n - 1 := by have := hs.runs.last; omega
  rw [show len = len - 1 + 1 by omega, Finset.prod_range_succ,
    hs.prod_response_prefix alphas (by omega), hlast, hs.response_last]

end Responses

/-! ## The virtual table's inclusions -/

section Include

variable {mt : MainTrace} {start len n : ℕ} {a : ℕ → ℕ} {root : ℕ → ℕ → Felt}
  (hs : KernelSegment mt start len n a root) (alphas : ℕ → E)
include hs

/-- The inclusion of a kernel ROM row: its value, read with the decoder's address, where the
kernel address changes. -/
lemma KernelSegment.include_eq {k : ℕ} (hk : k < len) :
    chipletsKernelTableInclude mt alphas (start + k) =
      if mt.isAddrChange (start + k) then
        kernelProcValue alphas (mt.addr (start + k)) (root (a k))
      else 1 := by
  simp only [chipletsKernelTableInclude, hs.kernelRow k hk, true_and, kernelProcValue,
    hs.root k hk _ (by omega : (0 : ℕ) < 4), hs.root k hk _ (by omega : (1 : ℕ) < 4),
    hs.root k hk _ (by omega : (2 : ℕ) < 4), hs.root k hk _ (by omega : (3 : ℕ) < 4)]

lemma KernelSegment.isAddrChange_iff {k : ℕ} (hk : k + 1 < len) :
    mt.isAddrChange (start + k) ↔ a (k + 1) ≠ a k := by
  rw [MainTrace.isAddrChange, Nat.add_assoc, hs.addr _ hk, hs.addr k (by omega)]
  rcases hs.runs.step k hk with h | h
  · simp [h]
  · simp only [h, Nat.cast_succ, ne_eq, Nat.succ_ne_self, not_false_eq_true, iff_true]
    intro h'
    simpa using h'.symm

/-- The last row of the segment is included exactly when the kernel has two procedures or more
(addresses are below the modulus). -/
lemma KernelSegment.isAddrChange_last (hn : n ≤ FELT_MODULUS) :
    mt.isAddrChange (start + (len - 1)) ↔ n ≠ 1 := by
  have hlen := hs.runs.len_pos
  have hlast : a (len - 1) = n - 1 := by have := hs.runs.last; omega
  rw [MainTrace.isAddrChange, show start + (len - 1) + 1 = start + len by omega, hs.paddingAddr,
    hs.addr _ (by omega), hlast, ne_eq, ZMod.natCast_zmod_eq_zero_iff_dvd]
  constructor
  · intro h h1
    exact h (by rw [h1]; exact dvd_zero _)
  · intro h hdvd
    have := hs.runs.last
    exact h (by have := Nat.le_of_dvd (by omega) hdvd; omega)

/-- **The inclusions over a kernel segment.** They are the values, read with the decoder's
address, of the rows where the procedure changes inside the segment, and of the last row only
when `n ≥ 2`. -/
lemma kernel_table_include_prod (hn : n ≤ FELT_MODULUS) :
    ∏ k in Finset.range len, chipletsKernelTableInclude mt alphas (start + k) =
      (∏ k in (Finset.range (len - 1)).filter (fun k => a (k + 1) ≠ a k),
          kernelProcValue alphas (mt.addr (start + k)) (root (a k))) *
        if n = 1 then 1
        else kernelProcValue alphas (mt.addr (start + (len - 1))) (root (n - 1)) := by
  have hlen := hs.runs.len_pos
  have hlast : a (len - 1) = n - 1 := by have := hs.runs.last; omega
  rw [show len = len - 1 + 1 by omega, Finset.prod_range_succ, Finset.prod_filter,
    hs.include_eq alphas (by omega), if_congr (hs.isAddrChange_last hn) rfl rfl, hlast]
  congr 1
  · exact Finset.prod_congr rfl fun k hk => by
      rw [Finset.mem_range] at hk
      rw [hs.include_eq alphas (by omega), if_congr (hs.isAddrChange_iff (by omega)) rfl rfl]
  · by_cases h : n = 1 <;> simp [h]

end Include

/-! ## A kernel of one procedure -/

/-- Chiplets with a kernel ROM of one row only: procedure `0` with root `1, 0, 0, 0`. -/
def singleProcedureChiplets : Chiplets :=
  ⟨0, ⟨0, fun _ _ => 0⟩, ⟨0, fun _ _ => 0⟩, ⟨0, fun _ _ => 0⟩,
    ⟨1, fun c _ => if c = 2 then 1 else 0⟩⟩

/-- A main trace whose chiplets table is the layout of `singleProcedureChiplets`. -/
def singleProcedureTrace : MainTrace where
  opCode := fun _ => 0
  addr := fun _ => 0
  decoderHasherState := fun _ _ => 0
  stackElement := fun _ _ => 0
  helperRegister := fun _ _ => 0
  ctx := fun _ => 0
  clk := fun _ => 0
  chiplets := singleProcedureChiplets.layoutCell 2

/-- **A one-procedure kernel is included by neither builder.** The table `into_trace` lays out
for a kernel ROM of one procedure is a kernel segment; over it, both the procedure table
responses and the virtual table's inclusions are `1`, while the procedure's value is `2`. -/
theorem kernel_table_single_procedure_mismatch :
    singleProcedureChiplets.intoTrace 2 0 = some singleProcedureTrace.chiplets ∧
    KernelSegment singleProcedureTrace 0 1 1 (fun _ => 0) (fun _ i => if i = 0 then 1 else 0) ∧
    ∏ k in Finset.range 1,
        buildKernelProcedureTableResponses singleProcedureTrace (0 + k) (fun _ => (1 : Felt)) = 1 ∧
    ∏ k in Finset.range 1,
        chipletsKernelTableInclude singleProcedureTrace (fun _ => (1 : Felt)) (0 + k) = 1 ∧
    ∏ j in Finset.range 1,
        kernelProcValue (fun _ => (1 : Felt)) (j : Felt) (fun i => if i = 0 then 1 else 0) = 2 := by
  have htr : singleProcedureChiplets.intoTrace 2 0 = some singleProcedureTrace.chiplets := by
    rw [Chiplets.intoTrace, if_pos (by decide), Chiplets.fillTrace_eq _ (by decide)]
    rfl
  have hs : KernelSegment singleProcedureTrace 0 1 1 (fun _ => 0)
      (fun _ i => if i = 0 then 1 else 0) :=
    kernelSegment_of_intoTrace singleProcedureChiplets htr
      ⟨by decide, rfl, fun _ _ => Or.inl rfl, rfl⟩ (fun _ _ => by simp [singleProcedureChiplets])
      (fun _ _ i _ => by simp [singleProcedureChiplets])
  refine ⟨htr, hs, ?_, ?_, ?_⟩
  · rw [kernel_procedure_table_prod hs]
    simp
  · rw [kernel_table_include_prod hs _ (by decide)]
    simp
  · simp [kernelProcValue]
    norm_num

end MidenVm.Processor
