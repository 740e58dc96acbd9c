/-
# Analytics.Downsampling -- what LTTB keeps

`lttb` returns `threshold` rows: the first, one for each step, and the last.  The row
of a step comes from the step's own part of the rows, unless the next part holds gap
markers only: then the step takes the middle of that next part.

* **`lttb_ordered_iff`**: with exact widths the rows returned stand in strict order exactly
  when no part after the first is made of gap markers only -- else the step whose part that
  is takes a marker of it again, at or before the one just taken;
* **`lttb_gaps_iff`**: in double precision every gap marker is returned exactly when the list
  is short enough to be returned whole, or no part holds two markers and a marker that no step
  of its own returns is itself a part of markers only, other than the first.

Doubles may cut one index early, so that the last row but one lies in no step's part.
-/
import LocoTwin.Analytics.TelemetryRepository
import Mathlib.Tactic.Linarith

namespace LocoTwin.Analytics

open LocoTwin.Lib LocoTwin.Shared

set_option autoImplicit false

section

variable {F : FloatArith} {fromisoformat : String → Datetime}

/-! ## The indices taken -/

/-- Where `lttb` cuts the rows. -/
def cut (F : FloatArith) (rows : List BucketRow) (threshold : ℕ) : ℕ → ℕ :=
  edge F (bucketSizeOf F rows threshold)

/-- The `a` of the loop before step `i`. -/
def cursor (F : FloatArith) (fromisoformat : String → Datetime) (rows : List BucketRow)
    (threshold : ℕ) : ℕ → ℕ
  | 0 => 0
  | i + 1 =>
      nextPoint F fromisoformat rows (bucketSizeOf F rows threshold)
        (cursor F fromisoformat rows threshold i) i

/-- The indices of the rows returned, in the order of the output. -/
def picks (F : FloatArith) (fromisoformat : String → Datetime) (rows : List BucketRow)
    (threshold : ℕ) : List ℕ :=
  0 :: (List.range (threshold - 2)).map
      (fun i => cursor F fromisoformat rows threshold (i + 1)) ++
    [rows.length - 1]

theorem lttbLoop_eq (F : FloatArith) (fromisoformat : String → Datetime) (rows : List BucketRow)
    (threshold i k : ℕ) :
    lttbLoop F fromisoformat rows (bucketSizeOf F rows threshold) (List.range' i k)
        (cursor F fromisoformat rows threshold i) =
      (List.range' i k).map
        fun j => rowAt rows (cursor F fromisoformat rows threshold (j + 1)) := by
  induction k generalizing i with
  | zero => rfl
  | succ k ih =>
      simp only [List.range'_succ, lttbLoop, List.map_cons]
      exact congrArg _ (ih (i + 1))

theorem lttb_eq {rows : List BucketRow} {threshold : ℕ} (low : 3 ≤ threshold)
    (high : threshold < rows.length) :
    lttb F fromisoformat rows threshold =
      (picks F fromisoformat rows threshold).map (rowAt rows) := by
  have loop := lttbLoop_eq F fromisoformat rows threshold 0 (threshold - 2)
  rw [← List.range_eq_range'] at loop
  rw [lttb, if_neg (by omega)]
  simp only [picks, List.map_cons, List.map_append, List.map_map, List.map_nil]
  rw [show (0 : ℕ) = cursor F fromisoformat rows threshold 0 from rfl, loop]
  rfl

/-! ## The parts -/

variable {rows : List BucketRow} {threshold : ℕ}

theorem exact_cut (low : 3 ≤ threshold) (high : threshold < rows.length) :
    Cuts (cut .exact rows threshold) (threshold - 2) rows.length := by
  have cuts := exact_cuts (show 0 < threshold - 2 by omega)
    (show threshold - 2 ≤ rows.length - 2 by omega)
  rwa [Nat.sub_add_cancel (by omega)] at cuts

theorem binary64_cut (low : 3 ≤ threshold) (high : threshold < rows.length)
    (small : rows.length ≤ 2 ^ 51) :
    Cuts (cut binary64 rows threshold) (threshold - 2) rows.length := by
  have cuts := binary64_cuts (show 0 < threshold - 2 by omega)
    (show threshold - 2 ≤ rows.length - 2 by omega) (by omega)
  rwa [Nat.sub_add_cancel (by omega)] at cuts

section

variable {c : ℕ → ℕ} {m : ℕ} (cuts : Cuts c m rows.length) {k : ℕ}

include cuts

theorem middle_inPart (le : k ≤ m) : InPart rows c k (middle rows c k) := by
  have lt := cuts.step k le
  have top := cuts.lt_top le
  unfold InPart middle
  omega

theorem inPart_iff (lt : k < m) {j : ℕ} : InPart rows c k j ↔ c k ≤ j ∧ j < c (k + 1) := by
  have top := cuts.lt_top (show k + 1 ≤ m from lt)
  rw [InPart, Nat.min_eq_left top.le]

theorem inPart_unique {l j : ℕ} (le : k ≤ m) (le' : l ≤ m) (hk : InPart rows c k j)
    (hl : InPart rows c l j) : k = l := by
  unfold InPart at hk hl
  exact cuts.part_unique le le' hk.1 (by omega) hl.1 (by omega)

theorem exists_inPart {j : ℕ} (first : j ≠ 0) (high : j < c (m + 1)) (last : j < rows.length) :
    ∃ k ≤ m, InPart rows c k j := by
  obtain ⟨k, lt, low, below⟩ := Cuts.exists_part cuts.first (by omega) high
  exact ⟨k, by omega, low, by omega⟩

end

/-! ## What a step takes -/

theorem cursor_gap {i : ℕ} (gaps : GapPart rows (cut F rows threshold) (i + 1)) :
    cursor F fromisoformat rows threshold (i + 1) =
      middle rows (cut F rows threshold) (i + 1) :=
  nextPoint_gap gaps

/-- A step that stays in its part takes the first gap marker there. -/
theorem cursor_first (fromisoformat : String → Datetime) {i : ℕ}
    (valued : ¬GapPart rows (cut F rows threshold) (i + 1)) {g : ℕ}
    (within : InPart rows (cut F rows threshold) i g) (gap : IsGap rows g) :
    IsGap rows (cursor F fromisoformat rows threshold (i + 1)) ∧
      cursor F fromisoformat rows threshold (i + 1) ≤ g := by
  let part := indices (cut F rows threshold i) (cut F rows threshold (i + 1))
  have here : g ∈ part := mem_indices.mpr ⟨within.1, within.2.trans_le (min_le_left _ _)⟩
  cases found : part.find? (fun j => decide (IsGap rows j)) with
  | none =>
      have no := List.find?_eq_none.mp found g here
      simp [gap] at no
  | some f =>
      have eq : cursor F fromisoformat rows threshold (i + 1) = f :=
        nextPoint_first_gap valued found
      rw [eq]
      obtain ⟨isGap, before, after, split, none⟩ := List.find?_eq_some_iff_append.mp found
      refine ⟨by simpa using isGap, ?_⟩
      have sorted : part.Pairwise (· < ·) := List.pairwise_lt_range'
      rw [split] at sorted here
      rcases List.mem_append.mp here with early | late
      · have := none g early
        simp [gap] at this
      · rcases List.mem_cons.mp late with same | later
        · exact le_of_eq same.symm
        · exact (List.rel_of_pairwise_cons (List.pairwise_append.mp sorted).2.1 later).le

section

variable (cuts : Cuts (cut F rows threshold) (threshold - 2) rows.length) {i : ℕ}
  (lt : i < threshold - 2)

include cuts lt

theorem cursor_inPart (fromisoformat : String → Datetime)
    (valued : ¬GapPart rows (cut F rows threshold) (i + 1)) :
    InPart rows (cut F rows threshold) i (cursor F fromisoformat rows threshold (i + 1)) :=
  (inPart_iff cuts lt).mpr (nextPoint_value valued (cuts.step i lt.le))

theorem cursor_cases (fromisoformat : String → Datetime) :
    (GapPart rows (cut F rows threshold) (i + 1) ∧
      cursor F fromisoformat rows threshold (i + 1) =
        middle rows (cut F rows threshold) (i + 1)) ∨
    (¬GapPart rows (cut F rows threshold) (i + 1) ∧
      InPart rows (cut F rows threshold) i (cursor F fromisoformat rows threshold (i + 1))) := by
  by_cases ahead : GapPart rows (cut F rows threshold) (i + 1)
  · exact .inl ⟨ahead, cursor_gap ahead⟩
  · exact .inr ⟨ahead, cursor_inPart cuts lt fromisoformat ahead⟩

theorem cursor_bounds (fromisoformat : String → Datetime)
    (last : ¬IsGap rows (rows.length - 1)) :
    0 < cursor F fromisoformat rows threshold (i + 1) ∧
      cursor F fromisoformat rows threshold (i + 1) < rows.length - 1 := by
  rcases cursor_cases cuts lt fromisoformat with ⟨gaps, eq⟩ | ⟨-, within⟩
  · have mid := middle_inPart cuts (show i + 1 ≤ threshold - 2 from lt)
    have bottom := cuts.one_le (show i + 1 ≤ threshold - 2 + 1 by omega)
    have other : middle rows (cut F rows threshold) (i + 1) ≠ rows.length - 1 := by
      intro same
      exact last (same ▸ gaps _ mid)
    rw [eq]
    unfold InPart at mid
    omega
  · have top := cuts.lt_top (show i + 1 ≤ threshold - 2 from lt)
    have bottom := cuts.one_le (show i ≤ threshold - 2 + 1 by omega)
    unfold InPart at within
    omega

end

/-! ## Strict order -/

section

variable (cuts : Cuts (cut F rows threshold) (threshold - 2) rows.length)

include cuts

theorem cursor_lt_of_valued (fromisoformat : String → Datetime)
    (valued : ∀ k, 1 ≤ k → k ≤ threshold - 2 → ¬GapPart rows (cut F rows threshold) k) {i j : ℕ}
    (lt : i < j) (below : j < threshold - 2) :
    cursor F fromisoformat rows threshold (i + 1) <
      cursor F fromisoformat rows threshold (j + 1) := by
  have stay : ∀ k, k < threshold - 2 → InPart rows (cut F rows threshold) k
      (cursor F fromisoformat rows threshold (k + 1)) :=
    fun k hk => cursor_inPart cuts hk fromisoformat (valued (k + 1) (by omega) hk)
  have edges := cuts.mono (show i + 1 ≤ j from lt) (by omega)
  have left := (stay i (by omega)).2
  have right := (stay j below).1
  omega

omit cuts in
/-- Of a run of parts made of gap markers only, the last. -/
theorem exists_last_gapPart {c : ℕ → ℕ} {m : ℕ} (final : ¬GapPart rows c m) {k : ℕ} (lt : k < m)
    (gaps : GapPart rows c k) :
    ∃ l, k ≤ l ∧ l < m ∧ GapPart rows c l ∧ ¬GapPart rows c (l + 1) := by
  by_cases ahead : GapPart rows c (k + 1)
  · have more : k + 1 < m := by
      rcases Nat.lt_or_ge (k + 1) m with more | none
      · exact more
      · obtain rfl : k + 1 = m := by omega
        exact absurd ahead final
    obtain ⟨l, le, rest⟩ := exists_last_gapPart final more ahead
    exact ⟨l, by omega, rest⟩
  · exact ⟨k, le_rfl, lt, gaps, ahead⟩
termination_by m - k

/-- The step after a part of markers goes back to it. -/
theorem cursor_stuck (fromisoformat : String → Datetime) {k : ℕ} (inner : 1 ≤ k)
    (lt : k < threshold - 2) (gaps : GapPart rows (cut F rows threshold) k)
    (ends : ¬GapPart rows (cut F rows threshold) (k + 1)) :
    cursor F fromisoformat rows threshold (k + 1) ≤
      cursor F fromisoformat rows threshold k := by
  have within := middle_inPart cuts lt.le
  have before : cursor F fromisoformat rows threshold k =
      middle rows (cut F rows threshold) k := by
    obtain ⟨i, rfl⟩ : ∃ i, k = i + 1 := ⟨k - 1, by omega⟩
    exact cursor_gap gaps
  rw [before]
  exact (cursor_first fromisoformat ends within (gaps _ within)).2

theorem picks_sorted_iff (fromisoformat : String → Datetime)
    (last : ¬IsGap rows (rows.length - 1))
    (final : ¬GapPart rows (cut F rows threshold) (threshold - 2)) :
    (picks F fromisoformat rows threshold).Pairwise (· < ·) ↔
      ∀ k, 1 ≤ k → k < threshold - 2 → ¬GapPart rows (cut F rows threshold) k := by
  constructor
  · intro sorted k inner lt gaps
    obtain ⟨l, le, below, full, ends⟩ := exists_last_gapPart final lt gaps
    have stuck := cursor_stuck cuts fromisoformat (by omega) below full ends
    have steps := List.pairwise_map.mp
      (List.pairwise_append.mp (List.pairwise_cons.mp sorted).2).1
    have rel := List.pairwise_iff_getElem.mp steps (l - 1) l (by simp; omega) (by simpa using below)
      (by omega)
    simp only [List.getElem_range] at rel
    rw [Nat.sub_add_cancel (by omega : 1 ≤ l)] at rel
    omega
  · intro valued
    have bounds : ∀ j ∈ (List.range (threshold - 2)).map
        (fun i => cursor F fromisoformat rows threshold (i + 1)),
        0 < j ∧ j < rows.length - 1 := by
      intro j mem
      obtain ⟨i, range, rfl⟩ := List.mem_map.mp mem
      exact cursor_bounds cuts (List.mem_range.mp range) fromisoformat last
    have top := cuts.lt_top (Nat.zero_le (threshold - 2))
    have first := cuts.first
    refine List.pairwise_cons.mpr
      ⟨?_, List.pairwise_append.mpr ⟨?_, List.pairwise_singleton _ _, ?_⟩⟩
    · intro j mem
      rcases List.mem_append.mp mem with inner | final
      · exact (bounds j inner).1
      · rw [List.mem_singleton.mp final]
        omega
    · refine List.pairwise_map.mpr (List.pairwise_lt_range.imp_of_mem ?_)
      intro i j _ below lt
      refine cursor_lt_of_valued cuts fromisoformat ?_ lt (List.mem_range.mp below)
      intro k inner le
      rcases le.lt_or_eq with inside | rfl
      · exact valued k inner inside
      · exact final
    · intro j mem final isFinal
      rw [List.mem_singleton.mp isFinal]
      exact (bounds j mem).2

end

/-- The bucket times increase strictly. -/
def TimeOrdered (fromisoformat : String → Datetime) (rows : List BucketRow) : Prop :=
  rows.Pairwise fun r s => tsToEpoch fromisoformat r.bucket < tsToEpoch fromisoformat s.bucket

instance (fromisoformat : String → Datetime) (rows : List BucketRow) :
    Decidable (TimeOrdered fromisoformat rows) :=
  inferInstanceAs (Decidable (rows.Pairwise _))

/-- `out` is `threshold` rows at strictly increasing indices, the first and the last row
among them. -/
def OrderedSelection (rows : List BucketRow) (threshold : ℕ) (out : List BucketRow) : Prop :=
  ∃ is : List ℕ, is.map (fun i => rows[i]?) = out.map some ∧ is.length = threshold ∧
    is.Pairwise (· < ·) ∧ is.head? = some 0 ∧ is.getLast? = some (rows.length - 1)

theorem TimeOrdered.nodup (times : TimeOrdered fromisoformat rows) : rows.Nodup := by
  refine times.imp ?_
  intro r s lt same
  rw [same] at lt
  exact lt_irrefl _ lt

theorem OrderedSelection.nodup {out : List BucketRow} (nodup : rows.Nodup)
    (selection : OrderedSelection rows threshold out) : out.Nodup := by
  obtain ⟨is, eq, -, sorted, -, -⟩ := selection
  refine List.Nodup.of_map some ?_
  rw [← eq]
  refine List.pairwise_map.mpr (sorted.imp_of_mem ?_)
  intro i j memI memJ lt same
  have inside : i < rows.length := by
    have mem : rows[i]? ∈ out.map some := eq ▸ List.mem_map.mpr ⟨i, memI, rfl⟩
    obtain ⟨r, -, at_i⟩ := List.mem_map.mp mem
    exact (List.getElem?_eq_some_iff.mp at_i.symm).1
  have := (List.getElem?_inj inside nodup).mp same
  omega

theorem getElem?_eq_rowAt {j : ℕ} (lt : j < rows.length) : rows[j]? = some (rowAt rows j) := by
  rw [rowAt, List.getD_eq_getElem?_getD, List.getElem?_eq_getElem lt, Option.getD_some]

theorem picks_lt (cuts : Cuts (cut F rows threshold) (threshold - 2) rows.length)
    (last : ¬IsGap rows (rows.length - 1)) {j : ℕ}
    (mem : j ∈ picks F fromisoformat rows threshold) : j < rows.length := by
  have top := cuts.lt_top (Nat.zero_le (threshold - 2))
  rcases List.mem_append.mp mem with front | final
  · rcases List.mem_cons.mp front with first | inner
    · omega
    · obtain ⟨i, range, rfl⟩ := List.mem_map.mp inner
      have bounds := cursor_bounds cuts (List.mem_range.mp range) fromisoformat last
      omega
  · have := List.mem_singleton.mp final
    omega

/-- Rows that differ in time show the indices they were taken from. -/
theorem indices_unique (nodup : rows.Nodup) :
    ∀ {is js : List ℕ}, (∀ j ∈ js, j < rows.length) →
      is.map (fun i => rows[i]?) = (js.map (rowAt rows)).map some → is = js
  | [], [], _, _ => rfl
  | [], _ :: _, _, eq => by simp at eq
  | _ :: _, [], _, eq => by simp at eq
  | i :: is, j :: js, within, eq => by
      obtain ⟨head, tail⟩ := List.cons.inj eq
      have inside : j < rows.length := within j List.mem_cons_self
      rw [← getElem?_eq_rowAt inside] at head
      have same : j = i := (List.getElem?_inj inside nodup).mp head.symm
      rw [same, indices_unique nodup (fun j mem => within j (List.mem_cons_of_mem _ mem)) tail]

/-- The last step looks ahead at the last row. -/
theorem exact_final (low : 3 ≤ threshold) (high : threshold < rows.length)
    (last : ¬IsGap rows (rows.length - 1)) :
    ¬GapPart rows (cut .exact rows threshold) (threshold - 2) := by
  have cuts := exact_cut low high
  have beyond := cuts.step (threshold - 2) le_rfl
  have top : cut .exact rows threshold (threshold - 2) = rows.length - 2 + 1 :=
    edge_exact_top (by omega)
  intro gaps
  refine last (gaps _ ?_)
  unfold InPart
  omega

/-- **With exact widths the rows returned are in strict order exactly when no part after the
first is made of gap markers only.** -/
theorem lttb_ordered_iff (fromisoformat : String → Datetime) (rows : List BucketRow)
    (threshold : ℕ) (times : TimeOrdered fromisoformat rows) (low : 3 ≤ threshold)
    (high : threshold < rows.length)
    (last : ¬IsGap rows (rows.length - 1)) :
    OrderedSelection rows threshold (lttb .exact fromisoformat rows threshold) ↔
      ∀ k, 1 ≤ k → k < threshold - 2 →
        ∃ j, InPart rows (cut .exact rows threshold) k j ∧ ¬IsGap rows j := by
  have cuts := exact_cut low high
  have valued : (∀ k, 1 ≤ k → k < threshold - 2 →
        ∃ j, InPart rows (cut .exact rows threshold) k j ∧ ¬IsGap rows j) ↔
      ∀ k, 1 ≤ k → k < threshold - 2 → ¬GapPart rows (cut .exact rows threshold) k := by
    simp [GapPart]
  rw [valued, lttb_eq low high,
    ← picks_sorted_iff cuts fromisoformat last (exact_final low high last)]
  constructor
  · rintro ⟨is, eq, -, sorted, -, -⟩
    rw [indices_unique times.nodup (fun j mem => picks_lt cuts last mem) eq] at sorted
    exact sorted
  · intro sorted
    refine ⟨picks .exact fromisoformat rows threshold, ?_, ?_, sorted, rfl,
      List.getLast?_concat⟩
    · rw [List.map_map]
      refine List.map_congr_left ?_
      intro j mem
      exact getElem?_eq_rowAt (picks_lt cuts last mem)
    · simp [picks]
      omega

section

/-- A row of one series at a second, with a value. -/
def seriesRow (second : ℤ) (avg : PyFloat) : BucketRow where
  bucket := .datetime (second * 10 ^ 6)
  locomotiveId := 7
  sensorType := "coolant_temp"
  avgValue := some avg
  minValue := some avg
  maxValue := some avg
  lastValue := some avg
  unit := "°C"

/-- Minute buckets with a silence of four minutes, which gets a marker. -/
def brokenLine : List BucketRow :=
  insertGapMarkers (fun _ => 0)
    [seriesRow 0 80, seriesRow 60 82, seriesRow 300 81, seriesRow 360 84, seriesRow 420 83] 60

theorem lttb_ordered_iff_three :
    OrderedSelection brokenLine 3 (lttb .exact (fun _ => 0) brokenLine 3) :=
  (lttb_ordered_iff (fun _ => 0) brokenLine 3 (by decide +kernel) (by decide) (by decide +kernel)
    (by decide +kernel)).mpr fun _ inner lt => absurd lt (by omega)

/-- Six rows thinned to five: the marker comes twice, and the second row is lost. -/
theorem lttb_repeats_marker :
    TimeOrdered (fun _ => 0) brokenLine ∧ brokenLine.length = 6 ∧ ¬IsGap brokenLine 0 ∧
      ¬IsGap brokenLine 5 ∧
      ¬OrderedSelection brokenLine 5 (lttb .exact (fun _ => 0) brokenLine 5) := by
  have times : TimeOrdered (fun _ => 0) brokenLine := by decide +kernel
  refine ⟨times, by decide +kernel, by decide +kernel, by decide +kernel, ?_⟩
  intro selection
  have twice : ¬(lttb .exact (fun _ => 0) brokenLine 5).Nodup := by decide +kernel
  exact twice (selection.nodup times.nodup)

end

/-! ## Gap markers -/

theorem mem_rows_iff {r : BucketRow} :
    r ∈ rows ↔ ∃ j, j < rows.length ∧ rowAt rows j = r := by
  constructor
  · intro mem
    obtain ⟨j, lt, eq⟩ := List.mem_iff_getElem.mp mem
    refine ⟨j, lt, ?_⟩
    have at_ := getElem?_eq_rowAt lt
    rw [List.getElem?_eq_getElem lt, eq] at at_
    exact (Option.some.inj at_).symm
  · rintro ⟨j, lt, rfl⟩
    exact List.mem_of_getElem? (getElem?_eq_rowAt lt)

theorem rowAt_mem_lttb (nodup : rows.Nodup)
    (cuts : Cuts (cut F rows threshold) (threshold - 2) rows.length) (low : 3 ≤ threshold)
    (high : threshold < rows.length) (last : ¬IsGap rows (rows.length - 1)) {j : ℕ}
    (lt : j < rows.length) :
    rowAt rows j ∈ lttb F fromisoformat rows threshold ↔
      j ∈ picks F fromisoformat rows threshold := by
  rw [lttb_eq low high, List.mem_map]
  constructor
  · rintro ⟨i, mem, eq⟩
    have same := congrArg some eq
    rw [← getElem?_eq_rowAt lt, ← getElem?_eq_rowAt (picks_lt cuts last mem)] at same
    rw [(List.getElem?_inj lt nodup).mp same.symm]
    exact mem
  · intro mem
    exact ⟨j, mem, rfl⟩

/-- No part of the cut `c` holds two gap markers.  A marker that the step of its part passes
over, since there is no such step or the next part is made of markers only, is in a part of
markers only itself, other than the first.  Part `m`, after the parts of the `m` steps, is what
the last of them looks ahead at. -/
def GapsApart (rows : List BucketRow) (c : ℕ → ℕ) (m : ℕ) : Prop :=
  ∀ k ≤ m,
    (∀ g h, InPart rows c k g → InPart rows c k h → IsGap rows g → IsGap rows h → g = h) ∧
    (∀ g, InPart rows c k g → IsGap rows g → k = m ∨ GapPart rows c (k + 1) →
      1 ≤ k ∧ GapPart rows c k)

section

variable (cuts : Cuts (cut F rows threshold) (threshold - 2) rows.length)
  (last : ¬IsGap rows (rows.length - 1))

include cuts last

/-- Which gap markers of a part are taken: the first, when the next part has a value,
and the middle of a part of markers only, other than the first part. -/
theorem gap_mem_picks {k g : ℕ} (le : k ≤ threshold - 2)
    (within : InPart rows (cut F rows threshold) k g) (gap : IsGap rows g)
    (mem : g ∈ picks F fromisoformat rows threshold) :
    (k < threshold - 2 ∧ ¬GapPart rows (cut F rows threshold) (k + 1) ∧
        ∀ h, InPart rows (cut F rows threshold) k h → IsGap rows h → g ≤ h) ∨
      (1 ≤ k ∧ GapPart rows (cut F rows threshold) k ∧
        g = middle rows (cut F rows threshold) k) := by
  have bottom := cuts.one_le (show k ≤ threshold - 2 + 1 by omega)
  obtain ⟨i, below, eq⟩ : ∃ i < threshold - 2,
      cursor F fromisoformat rows threshold (i + 1) = g := by
    rcases List.mem_append.mp mem with front | final
    · rcases List.mem_cons.mp front with zero | inner
      · unfold InPart at within
        omega
      · obtain ⟨i, range, eq⟩ := List.mem_map.mp inner
        exact ⟨i, List.mem_range.mp range, eq⟩
    · rw [List.mem_singleton.mp final] at gap
      exact absurd gap last
  rcases cursor_cases cuts below fromisoformat with ⟨gaps, mid⟩ | ⟨ends, own⟩
  · have at_mid : InPart rows (cut F rows threshold) (i + 1) g := by
      rw [← eq, mid]
      exact middle_inPart cuts below
    obtain rfl := inPart_unique cuts below le at_mid within
    exact .inr ⟨by omega, gaps, by rw [← eq, mid]⟩
  · rw [eq] at own
    obtain rfl := inPart_unique cuts below.le le own within
    refine .inl ⟨below, ends, ?_⟩
    intro h inside gap
    rw [← eq]
    exact (cursor_first fromisoformat ends inside gap).2

/-- The last index of a part of markers only is taken only where the part has one index. -/
theorem single_of_gapPart {k : ℕ} (le : k ≤ threshold - 2)
    (full : GapPart rows (cut F rows threshold) k)
    (kept : ∀ g, InPart rows (cut F rows threshold) k g →
      g ∈ picks F fromisoformat rows threshold) :
    min (cut F rows threshold (k + 1)) rows.length = cut F rows threshold k + 1 := by
  have nonempty := middle_inPart cuts le
  have start : InPart rows (cut F rows threshold) k (cut F rows threshold k) := by
    unfold InPart at nonempty ⊢
    omega
  have final : InPart rows (cut F rows threshold) k
      (min (cut F rows threshold (k + 1)) rows.length - 1) := by
    unfold InPart at nonempty ⊢
    omega
  rcases gap_mem_picks cuts last le final (full _ final) (kept _ final) with
    ⟨-, -, first⟩ | ⟨-, -, mid⟩
  · have := first _ start (full _ start)
    unfold InPart at start
    omega
  · unfold middle at mid
    unfold InPart at start
    omega

theorem gapsApart_of_kept (fromisoformat : String → Datetime)
    (kept : ∀ g, g < rows.length → IsGap rows g → g ∈ picks F fromisoformat rows threshold) :
    GapsApart rows (cut F rows threshold) (threshold - 2) := by
  intro k le
  have taken : ∀ g, InPart rows (cut F rows threshold) k g → IsGap rows g →
      g ∈ picks F fromisoformat rows threshold :=
    fun g within gap => kept g (within.2.trans_le (min_le_right _ _)) gap
  constructor
  · intro g h inG inH gapG gapH
    by_cases full : GapPart rows (cut F rows threshold) k
    · have single := single_of_gapPart cuts last le full fun j within =>
        taken j within (full j within)
      unfold InPart at inG inH
      omega
    · -- no marker is the middle of a full part, so each one is the first marker
      have first : ∀ j, InPart rows (cut F rows threshold) k j → IsGap rows j →
          ∀ h, InPart rows (cut F rows threshold) k h → IsGap rows h → j ≤ h := by
        intro j within gap
        rcases gap_mem_picks cuts last le within gap (taken j within gap) with
          ⟨-, -, first⟩ | ⟨-, gaps, -⟩
        · exact first
        · exact absurd gaps full
      exact le_antisymm (first g inG gapG h inH gapH) (first h inH gapH g inG gapG)
  · intro g within gap passed
    rcases gap_mem_picks cuts last le within gap (taken g within gap) with
      ⟨lt, ends, -⟩ | ⟨inner, gaps, -⟩
    · rcases passed with none | ahead
      · omega
      · exact absurd ahead ends
    · exact ⟨inner, gaps⟩

omit last in
theorem kept_of_gapsApart (fromisoformat : String → Datetime)
    (apart : GapsApart rows (cut F rows threshold) (threshold - 2)) {g : ℕ}
    (high : g < cut F rows threshold (threshold - 2 + 1)) (lt : g < rows.length)
    (gap : IsGap rows g) : g ∈ picks F fromisoformat rows threshold := by
  by_cases zero : g = 0
  · simp [picks, zero]
  obtain ⟨k, le, within⟩ := exists_inPart cuts zero high lt
  obtain ⟨alone, passed⟩ := apart k le
  have taken : ∀ i, i < threshold - 2 → cursor F fromisoformat rows threshold (i + 1) = g →
      g ∈ picks F fromisoformat rows threshold := by
    intro i hi eq
    refine List.mem_append_left _ (List.mem_cons_of_mem _ (List.mem_map.mpr ⟨i, ?_, eq⟩))
    exact List.mem_range.mpr hi
  by_cases passes : k = threshold - 2 ∨ GapPart rows (cut F rows threshold) (k + 1)
  · -- the step of the part looks past it, but the step before takes its middle
    obtain ⟨inner, full⟩ := passed g within gap passes
    have mid := middle_inPart cuts le
    obtain ⟨i, rfl⟩ : ∃ i, k = i + 1 := ⟨k - 1, by omega⟩
    refine taken i (by omega) ?_
    rw [cursor_gap full]
    exact alone _ _ mid within (full _ mid) gap
  · obtain ⟨notLast, valued⟩ := not_or.mp passes
    have below : k < threshold - 2 := by omega
    refine taken k below ?_
    have first := cursor_first fromisoformat valued within gap
    exact alone _ _ (cursor_inPart cuts below fromisoformat valued) within first.1 gap

end

/-- **Every gap marker is returned exactly when the list is returned whole or its markers
stand apart.** -/
theorem lttb_gaps_iff (fromisoformat : String → Datetime) (rows : List BucketRow)
    (threshold : ℕ) (times : TimeOrdered fromisoformat rows) (low : 3 ≤ threshold)
    (last : ¬IsGap rows (rows.length - 1)) (small : rows.length ≤ 2 ^ 51) :
    (∀ r ∈ rows, r.avgValue = none → r ∈ lttb binary64 fromisoformat rows threshold) ↔
      rows.length ≤ threshold ∨
        GapsApart rows (cut binary64 rows threshold) (threshold - 2) := by
  rcases Nat.lt_or_ge threshold rows.length with high | short
  · rw [or_iff_right (by omega)]
    have cuts := binary64_cut low high small
    constructor
    · intro kept
      refine gapsApart_of_kept cuts last fromisoformat ?_
      intro g lt gap
      rw [← rowAt_mem_lttb times.nodup cuts low high last lt]
      exact kept _ (mem_rows_iff.mpr ⟨g, lt, rfl⟩) gap
    · intro apart r mem gap
      obtain ⟨g, lt, rfl⟩ := mem_rows_iff.mp mem
      rw [rowAt_mem_lttb times.nodup cuts low high last lt]
      refine kept_of_gapsApart cuts fromisoformat apart ?_ lt gap
      -- the cuts of the steps reach the last row but one
      have reached : rows.length - 2 ≤ cut binary64 rows threshold (threshold - 2) :=
        le_edge_binary64 (by omega) (by omega) (by omega)
      have beyond := cuts.step (threshold - 2) le_rfl
      have notLast : g ≠ rows.length - 1 := by
        rintro rfl
        exact last gap
      omega
  · have whole : lttb binary64 fromisoformat rows threshold = rows := by
      rw [lttb, if_pos (.inr short)]
    rw [whole]
    exact iff_of_true (fun r mem _ => mem) (.inl short)

theorem lttb_gaps_iff_brokenLine :
    GapsApart brokenLine (cut binary64 brokenLine 3) 1 ∧
      ∀ r ∈ brokenLine, r.avgValue = none → r ∈ lttb binary64 (fun _ => 0) brokenLine 3 := by
  suffices apart : GapsApart brokenLine (cut binary64 brokenLine 3) 1 from
    ⟨apart, (lttb_gaps_iff (fun _ => 0) brokenLine 3 (by decide +kernel) (by decide)
      (by decide +kernel) (by decide +kernel)).mpr (.inr apart)⟩
  have only : ∀ j, j < 6 → IsGap brokenLine j → j = 2 := by decide +kernel
  have length : brokenLine.length = 6 := by decide +kernel
  have first : cut binary64 brokenLine 3 1 = 5 := by decide +kernel
  have inside : ∀ {k j}, InPart brokenLine (cut binary64 brokenLine 3) k j → j < 6 :=
    fun within => within.2.trans_le ((min_le_right _ _).trans length.le)
  intro k le
  refine ⟨?_, ?_⟩
  · intro g h inG inH gapG gapH
    rw [only g (inside inG) gapG, only h (inside inH) gapH]
  · -- the marker's own step returns it, since the part ahead is the last row
    intro g within gap passed
    obtain rfl := only g (inside within) gap
    rcases passed with rfl | ahead
    · have low := within.1
      omega
    · obtain rfl | rfl : k = 0 ∨ k = 1 := by omega
      · have beyond : cut binary64 brokenLine 3 (1 + 1) = 9 := by decide +kernel
        have here : InPart brokenLine (cut binary64 brokenLine 3) (0 + 1) 5 := by
          rw [InPart, zero_add, first, beyond, length]
          decide
        exact absurd (only 5 (by decide) (ahead 5 here)) (by decide)
      · have low := within.1
        omega

/-- Minute buckets with two silences, close to each other. -/
def twoSilences : List BucketRow :=
  insertGapMarkers (fun _ => 0)
    [seriesRow 0 80, seriesRow 60 82, seriesRow 300 81, seriesRow 600 84, seriesRow 660 83,
      seriesRow 720 82, seriesRow 780 81, seriesRow 840 80] 60

/-- Ten rows thinned to four: both markers fall into the first part, and one is lost. -/
theorem lttb_loses_marker :
    TimeOrdered (fun _ => 0) twoSilences ∧ twoSilences.length = 10 ∧ ¬IsGap twoSilences 0 ∧
      ¬IsGap twoSilences 9 ∧ (twoSilences.countP fun r => r.avgValue == none) ≤ 4 - 2 ∧
      ¬∀ r ∈ twoSilences, r.avgValue = none → r ∈ lttb binary64 (fun _ => 0) twoSilences 4 := by
  decide +kernel

end

end LocoTwin.Analytics
