import MidenVm.Processor.AuxTrace

/-!
# Which chiplet answers a row

`get_responses_at` picks the chiplet whose response it builds by an if-chain on the selector
columns `0 - 3` (`responseSegment`), and `Chiplets::fill_trace` writes those columns from the
segment starts. `get_responses_at_segment` says the two agree: on every row of a table
`fill_trace` produces, the if-chain takes the branch of the segment the row lies in
(`Chiplets.segmentOf`), the bitwise cycle test `row % 8 == 7` picks the last row of each cycle of
the bitwise segment (the hasher's length is a multiple of `8`), and every row a builder reads as
"the next row" of a chiplet row is at most `padding_start`, before the random rows.
-/

namespace MidenVm.Processor

namespace Chiplets

variable (ch : Chiplets)

/-- The segment a row lies in, by the segment starts. -/
def segmentOf (r : ℕ) : Segment :=
  if r < ch.bitwiseStart then .hasher
  else if r < ch.memoryStart then .bitwise
  else if r < ch.kernelRomStart then .memory
  else if r < ch.paddingStart then .kernelRom
  else .padding

/-! ## The selector columns of the layout -/

section Selectors

variable {T r : ℕ}

lemma layoutCell_zero : ch.layoutCell T 0 r = if ch.bitwiseStart ≤ r ∧ r < T then 1 else 0 := by
  simp [layoutCell, Window.Mem, hasherWindow, bitwiseWindow, memoryWindow, kernelRomWindow,
    selectorStart]

lemma layoutCell_one (h : ch.bitwiseStart ≤ r) :
    ch.layoutCell T 1 r = if ch.memoryStart ≤ r ∧ r < T then 1 else 0 := by
  simp only [bitwiseStart] at h
  simp [layoutCell, Window.Mem, hasherWindow, bitwiseWindow, memoryWindow, kernelRomWindow,
    selectorStart, show ¬ r < ch.hasher.traceLen by omega]

lemma layoutCell_two (h : ch.memoryStart ≤ r) :
    ch.layoutCell T 2 r = if ch.kernelRomStart ≤ r ∧ r < T then 1 else 0 := by
  simp only [memoryStart, bitwiseStart] at h
  simp [layoutCell, Window.Mem, hasherWindow, bitwiseWindow, memoryWindow, kernelRomWindow,
    selectorStart, bitwiseStart, show ¬ r < ch.hasher.traceLen by omega,
    show ¬ r < ch.hasher.traceLen + ch.bitwise.traceLen by omega]

lemma layoutCell_three (h : ch.kernelRomStart ≤ r) :
    ch.layoutCell T 3 r = if ch.paddingStart ≤ r ∧ r < T then 1 else 0 := by
  simp only [kernelRomStart, memoryStart, bitwiseStart] at h
  simp [layoutCell, Window.Mem, hasherWindow, bitwiseWindow, memoryWindow, kernelRomWindow,
    selectorStart, bitwiseStart, memoryStart, show ¬ r < ch.hasher.traceLen by omega,
    show ¬ r < ch.hasher.traceLen + ch.bitwise.traceLen by omega,
    show ¬ r < ch.hasher.traceLen + ch.bitwise.traceLen + ch.memory.traceLen by omega]

lemma responseSegment_layoutCell (hr : r < T) :
    responseSegment (ch.layoutCell T 0 r) (ch.layoutCell T 1 r) (ch.layoutCell T 2 r)
      (ch.layoutCell T 3 r) = ch.segmentOf r := by
  have := ch.bitwiseStart_le_memoryStart
  have := ch.memoryStart_le_kernelRomStart
  have := ch.kernelRomStart_le_paddingStart
  rw [responseSegment, segmentOf, layoutCell_zero]
  by_cases h0 : r < ch.bitwiseStart
  · simp [h0, show ¬ ch.bitwiseStart ≤ r by omega]
  rw [if_neg (by simp [show ch.bitwiseStart ≤ r by omega, hr]), layoutCell_one _ (by omega),
    if_neg h0]
  by_cases h1 : r < ch.memoryStart
  · simp [h1, show ¬ ch.memoryStart ≤ r by omega]
  rw [if_neg (by simp [show ch.memoryStart ≤ r by omega, hr]), layoutCell_two _ (by omega),
    if_neg h1]
  by_cases h2 : r < ch.kernelRomStart
  · simp [h2, show ¬ ch.kernelRomStart ≤ r by omega]
  rw [if_neg (by simp [show ch.kernelRomStart ≤ r by omega, hr]), layoutCell_three _ (by omega),
    if_neg h2]
  by_cases h3 : r < ch.paddingStart
  · simp [h3, show ¬ ch.paddingStart ≤ r by omega]
  simp [h3, show ch.paddingStart ≤ r by omega, hr]

end Selectors

/-! ## The segments by the row -/

lemma segmentOf_eq_hasher_iff (r : ℕ) : ch.segmentOf r = .hasher ↔ r < ch.bitwiseStart := by
  unfold segmentOf; split_ifs <;> simp_all

lemma segmentOf_eq_bitwise_iff (r : ℕ) :
    ch.segmentOf r = .bitwise ↔ ch.bitwiseStart ≤ r ∧ r < ch.memoryStart := by
  unfold segmentOf; split_ifs <;> simp_all

lemma segmentOf_eq_memory_iff (r : ℕ) :
    ch.segmentOf r = .memory ↔ ch.memoryStart ≤ r ∧ r < ch.kernelRomStart := by
  have := ch.bitwiseStart_le_memoryStart
  unfold segmentOf; split_ifs <;> simp_all; omega

lemma segmentOf_eq_kernelRom_iff (r : ℕ) :
    ch.segmentOf r = .kernelRom ↔ ch.kernelRomStart ≤ r ∧ r < ch.paddingStart := by
  have := ch.bitwiseStart_le_memoryStart
  have := ch.memoryStart_le_kernelRomStart
  unfold segmentOf; split_ifs <;> simp_all <;> omega

lemma segmentOf_eq_padding_iff (r : ℕ) : ch.segmentOf r = .padding ↔ ch.paddingStart ≤ r := by
  have := ch.bitwiseStart_le_memoryStart
  have := ch.memoryStart_le_kernelRomStart
  have := ch.kernelRomStart_le_paddingStart
  unfold segmentOf; split_ifs <;> simp_all <;> omega

lemma intoTrace_eq_some {T numRandRows : ℕ} {tr : Table}
    (htr : ch.intoTrace T numRandRows = some tr) :
    ch.traceLen + numRandRows ≤ T ∧ tr = fun c r => ch.layoutCell T c r := by
  unfold intoTrace at htr
  split_ifs at htr with hT
  rw [ch.fillTrace_eq (by omega), Option.some.injEq] at htr
  exact ⟨hT, htr.symm⟩

end Chiplets

/-! ## The builder of each segment -/

variable {E : Type*} [CommRing E] [Algebra Felt E]

/-- The response `get_responses_at` builds at a row of a segment: the segment's builder, called
with the selectors as the code passes them. -/
def Segment.response (mt : MainTrace) (alphas : ℕ → E) (row : ℕ) : Segment → E
  | .hasher => buildHasherChipletResponses mt row alphas (mt.chipletSelector 1 row)
      (mt.chipletSelector 2 row) (mt.chipletSelector 3 row)
  | .bitwise => buildBitwiseChipletResponses mt row (mt.chipletSelector 2 row) alphas
  | .memory => buildMemoryChipletResponses mt row (mt.chipletSelector 3 row) alphas
  | .kernelRom => buildKernelChipletResponses mt row (mt.chipletSelector 4 row) alphas *
      buildKernelProcedureTableResponses mt row alphas
  | .padding => 1

lemma getResponsesAt_eq_response (mt : MainTrace) (alphas : ℕ → E) (row : ℕ) :
    getResponsesAt mt alphas row = (responseSegment (mt.chipletSelector 0 row)
      (mt.chipletSelector 1 row) (mt.chipletSelector 2 row) (mt.chipletSelector 3 row)).response
        mt alphas row := by
  cases h : responseSegment (mt.chipletSelector 0 row) (mt.chipletSelector 1 row)
    (mt.chipletSelector 2 row) (mt.chipletSelector 3 row) <;>
    simp only [getResponsesAt, h, Segment.response]

/-- On a row of the bitwise segment, `row % 8 == 7` is the last row of a cycle of the segment:
the hasher before it has whole cycles. -/
lemma Chiplets.buildBitwiseChipletResponses_cycle (ch : Chiplets) (h8 : 8 ∣ ch.hasher.traceLen)
    (mt : MainTrace) (alphas : ℕ → E) {r : ℕ} (hb : ch.bitwiseStart ≤ r) (isXor : Felt) :
    buildBitwiseChipletResponses mt r isXor alphas =
      if (r - ch.bitwiseStart) % 8 = 7 then
        alphas 0 + mulBase (alphas 1) (getOpLabel 1 0 isXor 0) +
          mulBase (alphas 2) (mt.chipletBitwiseA r) + mulBase (alphas 3) (mt.chipletBitwiseB r) +
          mulBase (alphas 4) (mt.chipletBitwiseZ r)
      else 1 := by
  have hcycle : r % BITWISE_OP_CYCLE_LEN = BITWISE_OP_CYCLE_LEN - 1 ↔
      (r - ch.bitwiseStart) % 8 = 7 := by
    obtain ⟨q, hq⟩ := h8
    simp only [BITWISE_OP_CYCLE_LEN, Chiplets.bitwiseStart, hq] at hb ⊢
    omega
  simp only [buildBitwiseChipletResponses, hcycle]

/-! ## What the builders read

The responses and the virtual table at a row read the chiplets table at that row, the row before
and the row after (`f_abp`'s next state, the kernel address of the next row), and the decoder's
`addr` at the row. -/

/-- `mt'` agrees with `mt` below row `n` on the columns the chiplets' responses and the virtual
table read: the decoder's `addr` and the chiplets table. A trace and the same trace with other
random rows from `n` on are such a pair. -/
structure MainTrace.AgreeBelow (mt' mt : MainTrace) (n : ℕ) : Prop where
  addr : ∀ row < n, mt'.addr row = mt.addr row
  chiplets : ∀ c row, row < n → mt'.chiplets c row = mt.chiplets c row

lemma MainTrace.AgreeBelow.mono {mt' mt : MainTrace} {n m : ℕ} (h : mt'.AgreeBelow mt n)
    (hm : m ≤ n) : mt'.AgreeBelow mt m :=
  ⟨fun row hr => h.addr row (by omega), fun c row hr => h.chiplets c row (by omega)⟩

lemma MainTrace.AgreeBelow.chipletHasherState {mt' mt : MainTrace} {n : ℕ}
    (h : mt'.AgreeBelow mt n) (row : ℕ) (hr : row < n) :
    mt'.chipletHasherState row = mt.chipletHasherState row :=
  funext fun _ => h.chiplets _ row hr

section Reads

variable {mt' mt : MainTrace} {alphas : ℕ → E} {row : ℕ} (h : mt'.AgreeBelow mt (row + 2))
include h

lemma chipletSelector_congr (i : ℕ) : mt'.chipletSelector i row = mt.chipletSelector i row :=
  h.chiplets i row (by omega)

lemma buildHasherChipletResponses_congr (s1 s2 s3 : Felt) :
    buildHasherChipletResponses mt' row alphas s1 s2 s3 =
      buildHasherChipletResponses mt row alphas s1 s2 s3 := by
  have hn : mt'.chipletNodeIndex row = mt.chipletNodeIndex row := h.chiplets _ row (by omega)
  simp only [buildHasherChipletResponses, chipletSelector_congr h, hn,
    h.chipletHasherState row (by omega), h.chipletHasherState (row + 1) (by omega)]

lemma buildBitwiseChipletResponses_congr (isXor : Felt) :
    buildBitwiseChipletResponses mt' row isXor alphas =
      buildBitwiseChipletResponses mt row isXor alphas := by
  simp (disch := omega) only [buildBitwiseChipletResponses, MainTrace.chipletBitwiseA,
    MainTrace.chipletBitwiseB, MainTrace.chipletBitwiseZ, h.chiplets]

lemma buildMemoryChipletResponses_congr (isRead : Felt) :
    buildMemoryChipletResponses mt' row isRead alphas =
      buildMemoryChipletResponses mt row isRead alphas := by
  simp (disch := omega) only [buildMemoryChipletResponses, MainTrace.chipletMemoryCtx,
    MainTrace.chipletMemoryAddr, MainTrace.chipletMemoryClk, MainTrace.chipletMemoryValue,
    h.chiplets]

lemma buildKernelChipletResponses_congr (kernelChipletSelector : Felt) :
    buildKernelChipletResponses mt' row kernelChipletSelector alphas =
      buildKernelChipletResponses mt row kernelChipletSelector alphas := by
  simp (disch := omega) only [buildKernelChipletResponses, MainTrace.chipletKernelRoot,
    h.chiplets]

lemma buildKernelProcedureTableResponses_congr :
    buildKernelProcedureTableResponses mt' row alphas =
      buildKernelProcedureTableResponses mt row alphas := by
  simp (disch := omega) only [buildKernelProcedureTableResponses, MainTrace.chipletKernelRoot,
    MainTrace.chipletKernelAddr, h.chiplets]

lemma getResponsesAt_congr : getResponsesAt mt' alphas row = getResponsesAt mt alphas row := by
  rw [getResponsesAt_eq_response, getResponsesAt_eq_response]
  simp only [chipletSelector_congr h]
  cases responseSegment (mt.chipletSelector 0 row) (mt.chipletSelector 1 row)
      (mt.chipletSelector 2 row) (mt.chipletSelector 3 row) <;>
    simp only [Segment.response, chipletSelector_congr h, buildHasherChipletResponses_congr h,
      buildBitwiseChipletResponses_congr h, buildMemoryChipletResponses_congr h,
      buildKernelChipletResponses_congr h, buildKernelProcedureTableResponses_congr h]

lemma vtableGetRequestsAt_congr :
    vtableGetRequestsAt mt' alphas row = vtableGetRequestsAt mt alphas row := by
  simp (disch := omega) only [vtableGetRequestsAt, chipletsVtableRemoveSibling, siblingEntry,
    MainTrace.fMu, MainTrace.fMua, MainTrace.HasherSelectors, MainTrace.chipletSelector,
    MainTrace.chipletHasherState, MainTrace.chipletNodeIndex, h.chiplets]

lemma vtableGetResponsesAt_congr :
    vtableGetResponsesAt mt' alphas row = vtableGetResponsesAt mt alphas row := by
  simp (disch := omega) only [vtableGetResponsesAt, chipletsVtableAddSibling,
    chipletsKernelTableInclude, siblingEntry, MainTrace.fMv, MainTrace.fMva,
    MainTrace.HasherSelectors, MainTrace.isKernelRow, MainTrace.isAddrChange,
    MainTrace.chipletSelector, MainTrace.chipletHasherState, MainTrace.chipletNodeIndex,
    MainTrace.chipletKernelAddr, MainTrace.chipletKernelRoot, h.chiplets, h.addr]

end Reads

/-- **`get_responses_at` answers every row with the builder of its segment.** On a table that
`fill_trace` produces, at every row before the random rows:
* the if-chain on the selectors takes the branch of the row's segment, and `get_responses_at`
  returns that segment's builder; the segments are the row ranges between the starts;
* the `debug_assert_eq!`s of each branch hold: the selectors before the one that picks the
  branch are `1`;
* on a bitwise row, the bitwise builder's test `row % 8 == 7` answers exactly at the last row of
  each cycle of the segment, and the row answers `1` elsewhere;
* at a row before the padding, the responses and the virtual table read no row from the random
  rows on: they are the same on any trace that agrees with this one before them. -/
theorem get_responses_at_segment (ch : Chiplets) (T numRandRows : ℕ)
    (h8 : 8 ∣ ch.hasher.traceLen) (tr : Table) (htr : ch.intoTrace T numRandRows = some tr)
    (mt : MainTrace) (hmt : mt.chiplets = tr) (alphas : ℕ → E) (r : ℕ)
    (hr : r < T - numRandRows) :
    responseSegment (mt.chipletSelector 0 r) (mt.chipletSelector 1 r) (mt.chipletSelector 2 r)
      (mt.chipletSelector 3 r) = ch.segmentOf r ∧
    getResponsesAt mt alphas r = (ch.segmentOf r).response mt alphas r ∧
    (ch.segmentOf r = .hasher ↔ r < ch.bitwiseStart) ∧
    (ch.segmentOf r = .bitwise ↔ ch.bitwiseStart ≤ r ∧ r < ch.memoryStart) ∧
    (ch.segmentOf r = .memory ↔ ch.memoryStart ≤ r ∧ r < ch.kernelRomStart) ∧
    (ch.segmentOf r = .kernelRom ↔ ch.kernelRomStart ≤ r ∧ r < ch.paddingStart) ∧
    (ch.segmentOf r = .padding ↔ ch.paddingStart ≤ r) ∧
    (ch.bitwiseStart ≤ r → mt.chipletSelector 0 r = 1) ∧
    (ch.memoryStart ≤ r → mt.chipletSelector 1 r = 1) ∧
    (ch.kernelRomStart ≤ r → mt.chipletSelector 2 r = 1) ∧
    (ch.paddingStart ≤ r → mt.chipletSelector 3 r = 1) ∧
    (ch.segmentOf r = .bitwise → getResponsesAt mt alphas r =
      if (r - ch.bitwiseStart) % 8 = 7 then
        alphas 0 + mulBase (alphas 1) (getOpLabel 1 0 (mt.chipletSelector 2 r) 0) +
          mulBase (alphas 2) (mt.chipletBitwiseA r) + mulBase (alphas 3) (mt.chipletBitwiseB r) +
          mulBase (alphas 4) (mt.chipletBitwiseZ r)
      else 1) ∧
    (r < ch.paddingStart → ∀ mt' : MainTrace, mt'.AgreeBelow mt (T - numRandRows) →
      getResponsesAt mt' alphas r = getResponsesAt mt alphas r ∧
      vtableGetRequestsAt mt' alphas r = vtableGetRequestsAt mt alphas r ∧
      vtableGetResponsesAt mt' alphas r = vtableGetResponsesAt mt alphas r) := by
  obtain ⟨hT, rfl⟩ := ch.intoTrace_eq_some htr
  have hpad : ch.paddingStart < T - numRandRows := by rw [Chiplets.traceLen_eq] at hT; omega
  have hrT : r < T := by omega
  have := ch.bitwiseStart_le_memoryStart
  have := ch.memoryStart_le_kernelRomStart
  have := ch.kernelRomStart_le_paddingStart
  have hseg : responseSegment (mt.chipletSelector 0 r) (mt.chipletSelector 1 r)
      (mt.chipletSelector 2 r) (mt.chipletSelector 3 r) = ch.segmentOf r := by
    simp only [MainTrace.chipletSelector, hmt]
    exact ch.responseSegment_layoutCell hrT
  have hresp : getResponsesAt mt alphas r = (ch.segmentOf r).response mt alphas r := by
    rw [getResponsesAt_eq_response, hseg]
  refine ⟨hseg, hresp, ch.segmentOf_eq_hasher_iff r, ch.segmentOf_eq_bitwise_iff r,
    ch.segmentOf_eq_memory_iff r, ch.segmentOf_eq_kernelRom_iff r, ch.segmentOf_eq_padding_iff r,
    fun hb => ?_, fun hm => ?_, fun hk => ?_, fun hp => ?_, fun hb => ?_, fun hp mt' h => ?_⟩
  -- the selectors a `debug_assert_eq!` reads
  · simp [MainTrace.chipletSelector, hmt, ch.layoutCell_zero, hb, hrT]
  · simp [MainTrace.chipletSelector, hmt, ch.layoutCell_one (by omega : ch.bitwiseStart ≤ r), hm,
      hrT]
  · simp [MainTrace.chipletSelector, hmt, ch.layoutCell_two (by omega : ch.memoryStart ≤ r), hk,
      hrT]
  · simp [MainTrace.chipletSelector, hmt, ch.layoutCell_three (by omega : ch.kernelRomStart ≤ r),
      hp, hrT]
  -- the bitwise cycles
  · rw [hresp, hb, Segment.response,
      ch.buildBitwiseChipletResponses_cycle h8 mt alphas ((ch.segmentOf_eq_bitwise_iff r).1 hb).1]
  -- the reads of a row before the padding
  · have h2 := h.mono (show r + 2 ≤ T - numRandRows by omega)
    exact ⟨getResponsesAt_congr h2, vtableGetRequestsAt_congr h2, vtableGetResponsesAt_congr h2⟩

/-- A main trace whose chiplets columns are the table of `oneCycleChiplets` and whose other
columns are zero. -/
def oneCycleMainTrace : MainTrace :=
  ⟨fun _ => 0, fun _ => 0, fun _ _ => 0, fun _ _ => 0, fun _ _ => 0, fun _ => 0, fun _ => 0,
    fun c r => oneCycleChiplets.layoutCell 16 c r⟩

theorem get_responses_at_segment_one_cycle :
    (8 ∣ oneCycleChiplets.hasher.traceLen ∧
      oneCycleChiplets.intoTrace 16 2 = some (fun c r => oneCycleChiplets.layoutCell 16 c r) ∧
      oneCycleMainTrace.chiplets = (fun c r => oneCycleChiplets.layoutCell 16 c r) ∧ 7 < 16 - 2) ∧
    (responseSegment (oneCycleMainTrace.chipletSelector 0 7) (oneCycleMainTrace.chipletSelector 1 7)
      (oneCycleMainTrace.chipletSelector 2 7) (oneCycleMainTrace.chipletSelector 3 7) =
        oneCycleChiplets.segmentOf 7 ∧
    getResponsesAt oneCycleMainTrace (fun _ => (1 : Felt)) 7 =
      (oneCycleChiplets.segmentOf 7).response oneCycleMainTrace (fun _ => 1) 7 ∧
    (oneCycleChiplets.segmentOf 7 = .hasher ↔ 7 < oneCycleChiplets.bitwiseStart) ∧
    (oneCycleChiplets.segmentOf 7 = .bitwise ↔
      oneCycleChiplets.bitwiseStart ≤ 7 ∧ 7 < oneCycleChiplets.memoryStart) ∧
    (oneCycleChiplets.segmentOf 7 = .memory ↔
      oneCycleChiplets.memoryStart ≤ 7 ∧ 7 < oneCycleChiplets.kernelRomStart) ∧
    (oneCycleChiplets.segmentOf 7 = .kernelRom ↔
      oneCycleChiplets.kernelRomStart ≤ 7 ∧ 7 < oneCycleChiplets.paddingStart) ∧
    (oneCycleChiplets.segmentOf 7 = .padding ↔ oneCycleChiplets.paddingStart ≤ 7) ∧
    (oneCycleChiplets.bitwiseStart ≤ 7 → oneCycleMainTrace.chipletSelector 0 7 = 1) ∧
    (oneCycleChiplets.memoryStart ≤ 7 → oneCycleMainTrace.chipletSelector 1 7 = 1) ∧
    (oneCycleChiplets.kernelRomStart ≤ 7 → oneCycleMainTrace.chipletSelector 2 7 = 1) ∧
    (oneCycleChiplets.paddingStart ≤ 7 → oneCycleMainTrace.chipletSelector 3 7 = 1) ∧
    (oneCycleChiplets.segmentOf 7 = .bitwise →
      getResponsesAt oneCycleMainTrace (fun _ => (1 : Felt)) 7 =
        if (7 - oneCycleChiplets.bitwiseStart) % 8 = 7 then
          1 + mulBase 1 (getOpLabel 1 0 (oneCycleMainTrace.chipletSelector 2 7) 0) +
            mulBase 1 (oneCycleMainTrace.chipletBitwiseA 7) +
            mulBase 1 (oneCycleMainTrace.chipletBitwiseB 7) +
            mulBase 1 (oneCycleMainTrace.chipletBitwiseZ 7)
        else 1) ∧
    (7 < oneCycleChiplets.paddingStart → ∀ mt' : MainTrace,
      mt'.AgreeBelow oneCycleMainTrace (16 - 2) →
      getResponsesAt mt' (fun _ => (1 : Felt)) 7 =
        getResponsesAt oneCycleMainTrace (fun _ => 1) 7 ∧
      vtableGetRequestsAt mt' (fun _ => (1 : Felt)) 7 =
        vtableGetRequestsAt oneCycleMainTrace (fun _ => 1) 7 ∧
      vtableGetResponsesAt mt' (fun _ => (1 : Felt)) 7 =
        vtableGetResponsesAt oneCycleMainTrace (fun _ => 1) 7)) := by
  have htr : oneCycleChiplets.intoTrace 16 2 =
      some (fun c r => oneCycleChiplets.layoutCell 16 c r) := by
    rw [Chiplets.intoTrace, if_pos (by decide), Chiplets.fillTrace_eq _ (by decide)]
  exact ⟨⟨by decide, htr, rfl, by decide⟩,
    get_responses_at_segment oneCycleChiplets 16 2 (by decide) _ htr oneCycleMainTrace rfl
      (fun _ => (1 : Felt)) 7 (by decide)⟩

end MidenVm.Processor
