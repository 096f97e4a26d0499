import MidenVm.Felt

/-!
# The chiplets table: segment starts and `fill_trace`

`Chiplets` owns the four sub-chiplets; of each, the aggregator only reads the length of its
trace and hands it a fragment of the table to fill (`SubChiplet`). The segment accessors
`bitwise_start`, `memory_start`, `kernel_rom_start` and `padding_start` are prefix sums of the
lengths (`Chiplets.bitwiseStart`, ...), and `trace_len` adds the mandatory padding row.

`fill_trace` is modelled step by step as the code runs it:

* the four `trace[i][start..].fill(ONE)` selector fills (`fillOnesFrom`);
* the column loop, one `fillColumn` per physical column `1 ..= 17`, which splits the column
  with `split_at_mut` and pushes the pieces onto the chiplets' `TraceFragment`s;
* each sub-chiplet writing its values through the slices of its fragment (`writeColumns`).

A slice `&mut [Felt]` is a `ColumnSlice`: a column and a row range of the table, so a write
through it lands in the table. Every place the code can panic (`split_at_mut` past the end, a
selector fill starting past the end, the `assert!` of `into_trace`, the `invalid column index`
arm) returns `none`.
-/

namespace MidenVm.Processor

/-! ## The aggregator and its segment starts -/

/-- `CHIPLETS_WIDTH`: the four selector columns and the chiplets' columns up to column 17, as
laid out in the doc of `Chiplets`. -/
def CHIPLETS_WIDTH : ℕ := 18

/-- A sub-chiplet as the aggregator sees it: the length of its trace, and the value its
`fill_trace` writes at column `j`, row `i` of the fragment it is handed. -/
structure SubChiplet where
  traceLen : ℕ
  fill : ℕ → ℕ → Felt

/-- `Chiplets`: the clock and the hasher, bitwise, memory and kernel ROM chiplets. -/
structure Chiplets where
  clk : ℕ
  hasher : SubChiplet
  bitwise : SubChiplet
  memory : SubChiplet
  kernelRom : SubChiplet

namespace Chiplets

variable (ch : Chiplets)

/-- `trace_len`: the four traces and one mandatory padding row. -/
def traceLen : ℕ :=
  ch.hasher.traceLen + ch.bitwise.traceLen + ch.memory.traceLen + ch.kernelRom.traceLen + 1

def bitwiseStart : ℕ := ch.hasher.traceLen

def memoryStart : ℕ := ch.bitwiseStart + ch.bitwise.traceLen

def kernelRomStart : ℕ := ch.memoryStart + ch.memory.traceLen

def paddingStart : ℕ := ch.kernelRomStart + ch.kernelRom.traceLen

def advanceClock : Chiplets := { ch with clk := ch.clk + 1 }

lemma traceLen_eq : ch.traceLen = ch.paddingStart + 1 := rfl

lemma bitwiseStart_le_memoryStart : ch.bitwiseStart ≤ ch.memoryStart :=
  Nat.le_add_right _ _

lemma memoryStart_le_kernelRomStart : ch.memoryStart ≤ ch.kernelRomStart :=
  Nat.le_add_right _ _

lemma kernelRomStart_le_paddingStart : ch.kernelRomStart ≤ ch.paddingStart :=
  Nat.le_add_right _ _

end Chiplets

/-! ## Slices, fragments and the table -/

/-- A slice `&mut [Felt]` of the table: rows `[start, start + len)` of column `col`. -/
structure ColumnSlice where
  col : ℕ
  start : ℕ
  len : ℕ
deriving DecidableEq, Repr

/-- `split_at_mut(mid)`, which panics when `mid` is past the end of the slice. -/
def ColumnSlice.splitAtMut (s : ColumnSlice) (mid : ℕ) : Option (ColumnSlice × ColumnSlice) :=
  if mid ≤ s.len then some (⟨s.col, s.start, mid⟩, ⟨s.col, s.start + mid, s.len - mid⟩)
  else none

/-- Modelled from the spec: `TraceFragment` (not in the sources), the column-major view a
sub-chiplet fills: the list of column slices pushed onto it, the `j`-th being its column `j`. -/
structure TraceFragment where
  data : List ColumnSlice
deriving DecidableEq, Repr

/-- Modelled from the spec: `TraceFragment::push_column_slice(column, num_rows)` splits off the
first `num_rows` rows of `column`, pushes them as the fragment's next column and returns the
rest of the column. -/
def TraceFragment.pushColumnSlice (f : TraceFragment) (column : ColumnSlice) (numRows : ℕ) :
    Option (TraceFragment × ColumnSlice) := do
  let (fragment, rest) ← column.splitAtMut numRows
  pure (⟨f.data ++ [fragment]⟩, rest)

/-- The four fragments `fill_trace` allocates. -/
structure Fragments where
  hasher : TraceFragment
  bitwise : TraceFragment
  memory : TraceFragment
  kernelRom : TraceFragment
deriving DecidableEq, Repr

/-- `TraceFragment::new(CHIPLETS_WIDTH)` four times: no columns yet. -/
def Fragments.empty : Fragments := ⟨⟨[]⟩, ⟨[]⟩, ⟨[]⟩, ⟨[]⟩⟩

/-- The chiplets table, column-major: `tr c r` is row `r` of column `c`. -/
abbrev Table := ℕ → ℕ → Felt

/-- The table `into_trace` allocates: every cell `ZERO`. -/
def Table.zero : Table := fun _ _ => 0

/-- `trace[c][start..].fill(ONE)` on a table of `T` rows; panics when `start > T`. -/
def fillOnesFrom (T : ℕ) (tr : Table) (c start : ℕ) : Option Table :=
  if start ≤ T then some fun c' r => if c' = c ∧ start ≤ r ∧ r < T then 1 else tr c' r
  else none

/-- Writing `vals i` through the slice `s` at its row `i`, for every `i < s.len`. -/
def writeSlice (tr : Table) (s : ColumnSlice) (vals : ℕ → Felt) : Table :=
  fun c r => if c = s.col ∧ s.start ≤ r ∧ r < s.start + s.len then vals (r - s.start) else tr c r

/-- A sub-chiplet's `fill_trace` writing `fill j i` at row `i` of the `j`-th column of its
fragment, the columns numbered from `j`. -/
def writeColumns (fill : ℕ → ℕ → Felt) : ℕ → List ColumnSlice → Table → Table
  | _, [], tr => tr
  | j, s :: ss, tr => writeColumns fill (j + 1) ss (writeSlice tr s (fill j))

def SubChiplet.fillTrace (sc : SubChiplet) (f : TraceFragment) (tr : Table) : Table :=
  writeColumns sc.fill 0 f.data tr

/-! ## `fill_trace` -/

/-- One iteration of the column loop of `fill_trace`: the arm of the `match column_num` for the
full column `column`, with `h`, `b`, `m`, `k` the four trace lengths. -/
def fillColumn (h b m k : ℕ) (fr : Fragments) (columnNum : ℕ) (column : ColumnSlice) :
    Option Fragments :=
  match columnNum with
  | 1 => do
    -- columns 1 and 15 - 17 are relevant only for the hasher
    let (hf, _) ← fr.hasher.pushColumnSlice column h
    pure { fr with hasher := hf }
  | 2 => do
    -- column 2 is relevant to the hasher and to bitwise chiplet
    let (hf, rest) ← fr.hasher.pushColumnSlice column h
    let (bf, _) ← fr.bitwise.pushColumnSlice rest b
    pure { fr with hasher := hf, bitwise := bf }
  | 3 | 10 | 11 | 12 | 13 | 14 => do
    -- columns 3 and 10 - 14 are relevant for hasher, bitwise, and memory chiplets
    let (hf, rest) ← fr.hasher.pushColumnSlice column h
    let (bf, rest) ← fr.bitwise.pushColumnSlice rest b
    let (mf, _) ← fr.memory.pushColumnSlice rest m
    pure { fr with hasher := hf, bitwise := bf, memory := mf }
  | 4 | 5 | 6 | 7 | 8 | 9 => do
    -- columns 4 - 9 are relevant to all chiplets
    let (hf, rest) ← fr.hasher.pushColumnSlice column h
    let (bf, rest) ← fr.bitwise.pushColumnSlice rest b
    let (mf, rest) ← fr.memory.pushColumnSlice rest m
    let (kf, _) ← fr.kernelRom.pushColumnSlice rest k
    pure ⟨hf, bf, mf, kf⟩
  | 15 | 16 => do
    -- columns 15 and 16 are relevant only for the hasher and memory chiplets
    let (hf, rest) ← fr.hasher.pushColumnSlice column h
    -- skip bitwise chiplet
    let (_, rest) ← rest.splitAtMut b
    let (mf, _) ← fr.memory.pushColumnSlice rest m
    pure { fr with hasher := hf, memory := mf }
  | 17 => do
    -- column 17 is relevant only for the memory chiplet
    -- skip the hasher and bitwise chiplets
    let (_, rest) ← column.splitAtMut (h + b)
    let (mf, _) ← fr.memory.pushColumnSlice rest m
    pure { fr with memory := mf }
  | _ => none

/-- The column loop `for (column_num, column) in trace.iter_mut().enumerate().skip(1)` over a
table of `T` rows. -/
def fillColumns (h b m k T : ℕ) : Option Fragments :=
  (List.range' 1 (CHIPLETS_WIDTH - 1)).foldlM
    (fun fr c => fillColumn h b m k fr c ⟨c, 0, T⟩) Fragments.empty

namespace Chiplets

variable (ch : Chiplets)

/-- The fragments `fill_trace` hands to the hasher, bitwise, memory and kernel ROM chiplets. -/
def fragments (T : ℕ) : Option Fragments :=
  fillColumns ch.hasher.traceLen ch.bitwise.traceLen ch.memory.traceLen ch.kernelRom.traceLen T

/-- `Chiplets::fill_trace` on a zero table of `T` rows. -/
def fillTrace (T : ℕ) : Option Table := do
  let tr ← fillOnesFrom T Table.zero 0 ch.bitwiseStart
  let tr ← fillOnesFrom T tr 1 ch.memoryStart
  let tr ← fillOnesFrom T tr 2 ch.kernelRomStart
  let tr ← fillOnesFrom T tr 3 ch.paddingStart
  let fr ← ch.fragments T
  let tr := ch.hasher.fillTrace fr.hasher tr
  let tr := ch.bitwise.fillTrace fr.bitwise tr
  let tr := ch.memory.fillTrace fr.memory tr
  pure (ch.kernelRom.fillTrace fr.kernelRom tr)

/-- `Chiplets::into_trace(trace_len, num_rand_rows)`, which asserts that only padding rows are
overwritten by the random rows. -/
def intoTrace (traceLen numRandRows : ℕ) : Option Table :=
  if ch.traceLen + numRandRows ≤ traceLen then ch.fillTrace traceLen else none

end Chiplets

/-! ## Small lemmas on slices and writes -/

lemma ColumnSlice.splitAtMut_of_le {s : ColumnSlice} {n : ℕ} (h : n ≤ s.len) :
    s.splitAtMut n = some (⟨s.col, s.start, n⟩, ⟨s.col, s.start + n, s.len - n⟩) := by
  simp [ColumnSlice.splitAtMut, h]

lemma TraceFragment.pushColumnSlice_of_le {f : TraceFragment} {s : ColumnSlice} {n : ℕ}
    (h : n ≤ s.len) : f.pushColumnSlice s n =
      some (⟨f.data ++ [⟨s.col, s.start, n⟩]⟩, ⟨s.col, s.start + n, s.len - n⟩) := by
  simp [TraceFragment.pushColumnSlice, ColumnSlice.splitAtMut, h]

lemma fillOnesFrom_of_le {T start : ℕ} (h : start ≤ T) (tr : Table) (c : ℕ) :
    fillOnesFrom T tr c start =
      some fun c' r => if c' = c ∧ start ≤ r ∧ r < T then 1 else tr c' r := by
  simp [fillOnesFrom, h]

lemma writeColumns_range' (fill : ℕ → ℕ → Felt) (c0 r0 n : ℕ) :
    ∀ (w s : ℕ) (tr : Table) (c r : ℕ),
      writeColumns fill s ((List.range' s w).map fun j => ⟨c0 + j, r0, n⟩) tr c r =
        if c0 + s ≤ c ∧ c < c0 + s + w ∧ r0 ≤ r ∧ r < r0 + n then fill (c - c0) (r - r0)
        else tr c r
  | 0, s, tr, c, r => (if_neg (by omega)).symm
  | w + 1, s, tr, c, r => by
    rw [List.range'_succ, List.map_cons, writeColumns, writeColumns_range' fill c0 r0 n w]
    simp only [writeSlice]
    by_cases hin : c0 + s ≤ c ∧ c < c0 + s + (w + 1) ∧ r0 ≤ r ∧ r < r0 + n
    · rw [if_pos hin]
      by_cases hc : c = c0 + s
      · rw [if_neg (by omega), if_pos ⟨hc, hin.2.2⟩, hc, Nat.add_sub_cancel_left]
      · rw [if_pos (by omega)]
    · rw [if_neg hin, if_neg (by omega), if_neg (by omega)]

/-! ## The layout `fill_trace` produces -/

/-- A rectangle of the table: columns `[col, col + width)` over rows `[row, row + height)`. -/
structure Window where
  col : ℕ
  width : ℕ
  row : ℕ
  height : ℕ

namespace Window

/-- The cell `(c, r)` lies in the window. -/
def Mem (w : Window) (c r : ℕ) : Prop :=
  w.col ≤ c ∧ c < w.col + w.width ∧ w.row ≤ r ∧ r < w.row + w.height

instance (w : Window) (c r : ℕ) : Decidable (w.Mem c r) :=
  inferInstanceAs (Decidable (_ ∧ _))

/-- The fragment whose `j`-th column is column `col + j` of the table, over the window's rows. -/
def fragment (w : Window) : TraceFragment :=
  ⟨(List.range w.width).map fun j => ⟨w.col + j, w.row, w.height⟩⟩

lemma not_mem_of_le {w : Window} {c r : ℕ} (h : w.row + w.height ≤ r) : ¬ w.Mem c r :=
  fun hm => absurd hm.2.2.2 (Nat.not_lt.2 h)

lemma fillTrace_fragment (sc : SubChiplet) (w : Window) (tr : Table) (c r : ℕ) :
    sc.fillTrace w.fragment tr c r =
      if w.Mem c r then sc.fill (c - w.col) (r - w.row) else tr c r := by
  simp only [SubChiplet.fillTrace, fragment, List.range_eq_range', writeColumns_range', Mem,
    Nat.add_zero]

end Window

namespace Chiplets

variable (ch : Chiplets)

/-- The hasher's window: columns 1 - 16 over its rows. -/
def hasherWindow : Window := ⟨1, 16, 0, ch.hasher.traceLen⟩

/-- The bitwise chiplet's window: columns 2 - 14 over its rows. -/
def bitwiseWindow : Window := ⟨2, 13, ch.bitwiseStart, ch.bitwise.traceLen⟩

/-- The memory chiplet's window: columns 3 - 17 over its rows. -/
def memoryWindow : Window := ⟨3, 15, ch.memoryStart, ch.memory.traceLen⟩

/-- The kernel ROM's window: columns 4 - 9 over its rows. -/
def kernelRomWindow : Window := ⟨4, 6, ch.kernelRomStart, ch.kernelRom.traceLen⟩

/-- The row from which selector column `i` is `ONE`. -/
def selectorStart : ℕ → ℕ
  | 0 => ch.bitwiseStart
  | 1 => ch.memoryStart
  | 2 => ch.kernelRomStart
  | _ => ch.paddingStart

/-- The writers of the table: the four selector fills and the four sub-chiplets. -/
inductive Writer
  | selector (i : Fin 4)
  | hasher
  | bitwise
  | memory
  | kernelRom
deriving DecidableEq

/-- The cells a writer writes in a table of `T` rows. -/
def Writes (T : ℕ) : Writer → ℕ → ℕ → Prop
  | .selector i, c, r => c = i ∧ ch.selectorStart i ≤ r ∧ r < T
  | .hasher, c, r => ch.hasherWindow.Mem c r
  | .bitwise, c, r => ch.bitwiseWindow.Mem c r
  | .memory, c, r => ch.memoryWindow.Mem c r
  | .kernelRom, c, r => ch.kernelRomWindow.Mem c r

/-- **The intended table**: a selector cell holds `ONE`, a cell of a chiplet's window what the
chiplet writes there, and every other cell `ZERO`. -/
def layoutCell (T c r : ℕ) : Felt :=
  if ch.kernelRomWindow.Mem c r then ch.kernelRom.fill (c - 4) (r - ch.kernelRomStart)
  else if ch.memoryWindow.Mem c r then ch.memory.fill (c - 3) (r - ch.memoryStart)
  else if ch.bitwiseWindow.Mem c r then ch.bitwise.fill (c - 2) (r - ch.bitwiseStart)
  else if ch.hasherWindow.Mem c r then ch.hasher.fill (c - 1) r
  else if c < 4 ∧ ch.selectorStart c ≤ r ∧ r < T then 1
  else 0

/-- The column loop hands every sub-chiplet the fragment of its window. -/
lemma fragments_eq {T : ℕ} (hT : ch.traceLen ≤ T) :
    ch.fragments T = some ⟨ch.hasherWindow.fragment, ch.bitwiseWindow.fragment,
      ch.memoryWindow.fragment, ch.kernelRomWindow.fragment⟩ := by
  obtain ⟨_, ⟨h, _⟩, ⟨b, _⟩, ⟨m, _⟩, ⟨k, _⟩⟩ := ch
  simp only [traceLen] at hT
  have h1 : h ≤ T := by omega
  have h2 : b ≤ T - h := by omega
  have h3 : m ≤ T - (h + b) := by omega
  have h4 : k ≤ T - (h + b + m) := by omega
  have h5 : h + b ≤ T := by omega
  simp only [fragments, fillColumns, CHIPLETS_WIDTH, List.range', List.foldlM_cons,
    List.foldlM_nil, fillColumn, Fragments.empty, TraceFragment.pushColumnSlice_of_le,
    ColumnSlice.splitAtMut_of_le, h1, h2, h3, h4, h5, Option.bind_eq_bind, Option.some_bind,
    zero_add, Nat.sub_sub]
  simp [List.range_succ, hasherWindow, bitwiseWindow, memoryWindow, kernelRomWindow,
    Window.fragment, bitwiseStart, memoryStart, kernelRomStart]

/-- The four selector fills: `ONE` from each segment start on, in columns 0 - 3. -/
lemma selectors_eq {T : ℕ} (hT : ch.traceLen ≤ T) :
    (do
      let tr ← fillOnesFrom T Table.zero 0 ch.bitwiseStart
      let tr ← fillOnesFrom T tr 1 ch.memoryStart
      let tr ← fillOnesFrom T tr 2 ch.kernelRomStart
      fillOnesFrom T tr 3 ch.paddingStart) =
      some fun c r => if c < 4 ∧ ch.selectorStart c ≤ r ∧ r < T then 1 else 0 := by
  have := ch.bitwiseStart_le_memoryStart
  have := ch.memoryStart_le_kernelRomStart
  have := ch.kernelRomStart_le_paddingStart
  have : ch.paddingStart < T := by rw [traceLen_eq] at hT; omega
  simp only [fillOnesFrom_of_le (show ch.bitwiseStart ≤ T by omega),
    fillOnesFrom_of_le (show ch.memoryStart ≤ T by omega),
    fillOnesFrom_of_le (show ch.kernelRomStart ≤ T by omega),
    fillOnesFrom_of_le (show ch.paddingStart ≤ T by omega), Option.bind_eq_bind,
    Option.some_bind, Option.some.injEq]
  funext c r
  match c with
  | 0 | 1 | 2 | 3 => simp [selectorStart, Table.zero]
  | c + 4 => simp [Table.zero]

/-- The table `fill_trace` produces is the intended one. -/
lemma fillTrace_eq {T : ℕ} (hT : ch.traceLen ≤ T) :
    ch.fillTrace T = some fun c r => ch.layoutCell T c r := by
  have hsel := ch.selectors_eq hT
  simp only [fillTrace, Option.bind_eq_bind] at hsel ⊢
  simp only [← Option.bind_assoc] at hsel ⊢
  rw [hsel, Option.some_bind, ch.fragments_eq hT, Option.some_bind, Option.pure_def,
    Option.some.injEq]
  funext c r
  simp only [Window.fillTrace_fragment, layoutCell]
  rfl

/-- At most one writer writes each cell. -/
lemma writes_unique {T : ℕ} {w₁ w₂ : Writer} {c r : ℕ} (h₁ : ch.Writes T w₁ c r)
    (h₂ : ch.Writes T w₂ c r) : w₁ = w₂ := by
  have := ch.bitwiseStart_le_memoryStart
  have := ch.memoryStart_le_kernelRomStart
  have := ch.kernelRomStart_le_paddingStart
  rcases w₁ with i | _ | _ | _ | _ <;> rcases w₂ with j | _ | _ | _ | _ <;>
    (try fin_cases i) <;> (try fin_cases j) <;>
    simp only [Writes, Window.Mem, hasherWindow, bitwiseWindow, memoryWindow, kernelRomWindow,
      selectorStart, memoryStart, kernelRomStart, paddingStart, bitwiseStart, Fin.isValue,
      Fin.val_zero, Fin.val_one, Fin.val_two, Fin.reduceFinMk, Writer.selector.injEq,
      Fin.mk.injEq, reduceCtorEq] at h₁ h₂ ⊢ <;> omega

lemma layoutCell_of_not_writes {T c r : ℕ} (h : ∀ w, ¬ ch.Writes T w c r) :
    ch.layoutCell T c r = 0 := by
  simp only [layoutCell]
  rw [if_neg (show ¬ ch.kernelRomWindow.Mem c r from h .kernelRom),
    if_neg (show ¬ ch.memoryWindow.Mem c r from h .memory),
    if_neg (show ¬ ch.bitwiseWindow.Mem c r from h .bitwise),
    if_neg (show ¬ ch.hasherWindow.Mem c r from h .hasher),
    if_neg fun ⟨hc, hs, hr⟩ => h (.selector ⟨c, hc⟩) ⟨rfl, hs, hr⟩]

/-- A padding row holds `ONE` in the four selector columns and `ZERO` everywhere else. -/
lemma layoutCell_padding {T c r : ℕ} (hr : ch.paddingStart ≤ r) (hrT : r < T) :
    ch.layoutCell T c r = if c < 4 then 1 else 0 := by
  have hk : ch.kernelRomStart ≤ r := ch.kernelRomStart_le_paddingStart.trans hr
  have hm : ch.memoryStart ≤ r := ch.memoryStart_le_kernelRomStart.trans hk
  have hb : ch.bitwiseStart ≤ r := ch.bitwiseStart_le_memoryStart.trans hm
  have hsel : ch.selectorStart c ≤ r := by
    rcases c with _ | _ | _ | _ | c <;> assumption
  -- the row lies below every chiplet's window
  rw [layoutCell, if_neg (ch.kernelRomWindow.not_mem_of_le hr),
    if_neg (ch.memoryWindow.not_mem_of_le hk), if_neg (ch.bitwiseWindow.not_mem_of_le hm),
    if_neg (ch.hasherWindow.not_mem_of_le ((Nat.zero_add _).trans_le hb))]
  simp only [hsel, hrT, and_true]

end Chiplets

/-- **`into_trace` lays the chiplets out as documented.** When `T` leaves room for the chiplets,
the mandatory padding row and the random rows, `into_trace` does not panic; the column loop hands
each sub-chiplet the fragment of its window (the `j`-th column of the hasher's fragment is column
`1 + j` over rows `[0, h)`, and so on); no cell is written by two writers; and the table holds the
intended value in every cell, so a cell no writer claims, in particular every non-selector cell of
a padding row, is `ZERO`. -/
theorem into_trace_layout (ch : Chiplets) (T numRandRows : ℕ)
    (hT : ch.traceLen + numRandRows ≤ T) :
    ch.fragments T = some ⟨ch.hasherWindow.fragment, ch.bitwiseWindow.fragment,
      ch.memoryWindow.fragment, ch.kernelRomWindow.fragment⟩ ∧
    (∀ w₁ w₂ c r, ch.Writes T w₁ c r → ch.Writes T w₂ c r → w₁ = w₂) ∧
    ∃ tr, ch.intoTrace T numRandRows = some tr ∧
      (∀ c r, tr c r = ch.layoutCell T c r) ∧
      (∀ c r, (∀ w, ¬ ch.Writes T w c r) → tr c r = 0) ∧
      (∀ c r, ch.paddingStart ≤ r → r < T → tr c r = if c < 4 then 1 else 0) := by
  have hT' : ch.traceLen ≤ T := by omega
  refine ⟨ch.fragments_eq hT', fun _ _ _ _ => ch.writes_unique, _,
    by rw [Chiplets.intoTrace, if_pos hT, ch.fillTrace_eq hT'], fun _ _ => rfl,
    fun _ _ => ch.layoutCell_of_not_writes, fun _ _ => ch.layoutCell_padding⟩

/-- A hasher of one cycle and empty other chiplets, as a concrete input of `into_trace`. -/
def oneCycleChiplets : Chiplets :=
  ⟨0, ⟨8, fun _ _ => 0⟩, ⟨0, fun _ _ => 0⟩, ⟨0, fun _ _ => 0⟩, ⟨0, fun _ _ => 0⟩⟩

theorem into_trace_layout_one_cycle :
    oneCycleChiplets.traceLen + 2 ≤ 16 ∧
    (oneCycleChiplets.fragments 16 = some ⟨oneCycleChiplets.hasherWindow.fragment,
      oneCycleChiplets.bitwiseWindow.fragment, oneCycleChiplets.memoryWindow.fragment,
      oneCycleChiplets.kernelRomWindow.fragment⟩ ∧
    (∀ w₁ w₂ c r, oneCycleChiplets.Writes 16 w₁ c r → oneCycleChiplets.Writes 16 w₂ c r →
      w₁ = w₂) ∧
    ∃ tr, oneCycleChiplets.intoTrace 16 2 = some tr ∧
      (∀ c r, tr c r = oneCycleChiplets.layoutCell 16 c r) ∧
      (∀ c r, (∀ w, ¬ oneCycleChiplets.Writes 16 w c r) → tr c r = 0) ∧
      (∀ c r, oneCycleChiplets.paddingStart ≤ r → r < 16 → tr c r = if c < 4 then 1 else 0)) :=
  ⟨by decide, into_trace_layout oneCycleChiplets 16 2 (by decide)⟩

end MidenVm.Processor
