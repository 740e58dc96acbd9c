/-
# Processor.HealthExplanation -- the factors of a health index

Score, ranking, shares and damage of an index come from one list of penalties, one for
each specification whose sensor the reading contains, in the order of the specifications.

* `explained_healthOf`: the factors are the first five of that list, worst first, and the
  sums fit together;
* `sharesOf_nonneg`: the shares are percentages of one whole where no penalty is negative;
* **`health_explained`**: both, for every reading and every damage state.  Damage starts
  at nothing and only grows, so no state of the processor has a negative one.
-/
import LocoTwin.Processor.AgingDamage

namespace LocoTwin.Processor

open LocoTwin.Lib LocoTwin.Shared

set_option autoImplicit false

/-- The share of a penalty in the total, in percent. -/
def share (total : PyFloat) (p : Penalty) : PyFloat := p.penalty / max total (1 / 10 ^ 6) * 100

/-- The index is explained by its penalties: `rows` in the order of the specifications,
`order` worst first. -/
structure Explained (rows : List (Penalty × PyFloat)) (order : List Penalty)
    (health : HealthIndex) : Prop where
  perm : order.Perm (rows.map Prod.fst)
  worst : order.Pairwise fun a b => b.penalty ≤ a.penalty
  ties : ∀ a b, a.penalty = b.penalty → [a, b].Sublist (rows.map Prod.fst) → [a, b].Sublist order
  count : health.topFactors.length = min 5 rows.length
  factors : health.topFactors =
    (order.take 5).map (topFactor (max (order.map Penalty.penalty).sum (1 / 10 ^ 6)))
  score : health.overallScore =
    roundTo 2 (max 0 (min 100 (100 - (order.map Penalty.penalty).sum)))
  damage : health.damagePenalty = roundTo 6 (rows.map Prod.snd).sum
  damage_le : (rows.map Prod.snd).sum ≤ (order.map Penalty.penalty).sum
  shares_eq : rows.length ≤ 5 → 1 / 10 ^ 6 ≤ (order.map Penalty.penalty).sum →
    ((order.take 5).map (share (order.map Penalty.penalty).sum)).sum = 100

/-- The shares of the factors are percentages of one whole. -/
structure SharesOf (order : List Penalty) : Prop where
  range : ∀ p ∈ order.take 5, 0 ≤ share (order.map Penalty.penalty).sum p ∧
    share (order.map Penalty.penalty).sum p ≤ 100
  sum_le : ((order.take 5).map (share (order.map Penalty.penalty).sum)).sum ≤ 100

/-! ## The penalties -/

/-- A penalty is the damage in it and what the deviation costs. -/
theorem mem_penaltiesOf {M : PyMath} (laws : M.PowLaws) {damage : DamageState}
    {reading : TelemetryReading} {row : Penalty × PyFloat}
    (mem : row ∈ penaltiesOf M damage reading) :
    row.2 ≤ row.1.penalty ∧ ((∀ k, 0 ≤ damage.getD k 0) → 0 ≤ row.2) := by
  obtain ⟨e, listed, made⟩ := List.mem_filterMap.mp mem
  obtain ⟨sensor, _, rfl⟩ := Option.map_eq_some_iff.mp made
  have cost := sensorPenalty_nonneg laws sensor.value (locoSpecs_wellformed _ e listed)
  refine ⟨le_add_of_nonneg_left cost, fun nonneg => ?_⟩
  simp only [penaltyOf]
  split_ifs
  · exact nonneg _
  · exact le_rfl

/-! ## The shares -/

theorem sum_share (total : PyFloat) (order : List Penalty) :
    (order.map (share total)).sum =
      (order.map Penalty.penalty).sum / max total (1 / 10 ^ 6) * 100 := by
  induction order with
  | nil => simp
  | cons p rest ih =>
      rw [List.map_cons, List.sum_cons, ih, List.map_cons, List.sum_cons, share]
      ring

theorem sharesOf_nonneg {order : List Penalty} (nonneg : ∀ p ∈ order, 0 ≤ p.penalty) :
    SharesOf order := by
  have positive : 0 < max (order.map Penalty.penalty).sum (1 / 10 ^ 6 : PyFloat) :=
    lt_max_of_lt_right (by norm_num)
  have least : ∀ p ∈ order.take 5, 0 ≤ share (order.map Penalty.penalty).sum p := fun p mem =>
    mul_nonneg (div_nonneg (nonneg p (List.mem_of_mem_take mem)) positive.le) (by norm_num)
  have cut : ((order.take 5).map Penalty.penalty).sum ≤ (order.map Penalty.penalty).sum := by
    rw [List.map_take]
    exact (List.take_sublist 5 _).sum_le_sum (by simpa using nonneg)
  have whole : ((order.take 5).map (share (order.map Penalty.penalty).sum)).sum ≤ 100 := by
    rw [sum_share]
    have le : ((order.take 5).map Penalty.penalty).sum /
        max (order.map Penalty.penalty).sum (1 / 10 ^ 6) ≤ 1 :=
      (div_le_one positive).mpr (cut.trans (le_max_left _ _))
    linarith
  refine ⟨fun p mem => ⟨least p mem, ?_⟩, whole⟩
  refine le_trans (List.single_le_sum ?_ _ (List.mem_map_of_mem mem)) whole
  intro x listed
  obtain ⟨q, among, rfl⟩ := List.mem_map.mp listed
  exact least q among

/-! ## The explanation -/

/-- The index computed from rows whose penalties contain their damage. -/
theorem explained_healthOf (now : Datetime) (reading : TelemetryReading)
    {rows : List (Penalty × PyFloat)} (contained : ∀ row ∈ rows, row.2 ≤ row.1.penalty) :
    Explained rows (ranked Penalty.penalty (rows.map Prod.fst)) (healthOf now reading rows) where
  perm := ranked_perm _ _
  worst := ranked_pairwise _ _
  ties a b tied order := pair_sublist_ranked _ tied.ge order
  count := by
    rw [healthOf, List.length_map, List.length_take, (ranked_perm _ _).length_eq,
      List.length_map]
  factors := rfl
  score := rfl
  damage := rfl
  damage_le := by
    rw [sum_penalties]
    exact List.sum_le_sum contained
  shares_eq := by
    intro few enough
    rw [List.take_of_length_le (by rwa [(ranked_perm _ _).length_eq, List.length_map]), sum_share,
      max_eq_left enough, div_self, one_mul]
    linarith

/-- **The index is explained by its penalties, worst first; where no damage was negative,
none is after the call, and the shares are percentages of one whole.  A call returns unless
the power of an aging sensor overflows.** -/
theorem health_explained {M : PyMath} (laws : M.PowLaws) (grows : M.Exp2Grows) (now : Datetime)
    (state : DamageState) (reading : TelemetryReading) :
    (∀ exc, (calculateHealth M now state reading).1 = .error exc → ∃ x, M.exp2 x = .error exc) ∧
      ((∀ k, 0 ≤ state.getD k 0) → ∀ k, 0 ≤ (calculateHealth M now state reading).2.getD k 0) ∧
      ∀ health, (calculateHealth M now state reading).1 = .ok health →
        ∃ order, Explained (penaltiesOf M (calculateHealth M now state reading).2 reading) order
            health ∧
          ((∀ k, 0 ≤ state.getD k 0) → SharesOf order) := by
  have kept : (∀ k, 0 ≤ state.getD k 0) →
      ∀ k, 0 ≤ (calculateHealth M now state reading).2.getD k 0 := fun nonneg k =>
    (nonneg k).trans (getD_le_calculateHealth grows now state reading k)
  refine ⟨fun exc raised => ?_, kept, fun health ok => ?_⟩
  · rcases looped : (penaltyLoop M (UUID.str reading.locomotiveId) (payloadMap reading) state
      (locoSpecs reading.locomotiveType).entries).1 with exc' | rows
    · obtain ⟨_, _, _, _, _, power⟩ := penaltyLoop_error looped
      have same : exc' = exc := by simpa [calculateHealth, looped, Except.map] using raised
      exact ⟨_, same ▸ power⟩
    · simp [calculateHealth, looped, Except.map] at raised
  · rw [calculateHealth_rows ok]
    refine ⟨_, explained_healthOf now reading fun row mem => (mem_penaltiesOf laws mem).1,
      fun nonneg => sharesOf_nonneg fun p mem => ?_⟩
    obtain ⟨row, listed, rfl⟩ := List.mem_map.mp ((mem_ranked _).mp mem)
    have parts := mem_penaltiesOf laws listed
    exact (parts.2 (kept nonneg)).trans parts.1

/-- A warm transformer and a cool IGBT: the one penalty is the whole of the loss. -/
theorem health_explained_electric :
    ∃ health order, Explained
        (penaltiesOf .onIntegers
          (calculateHealth .onIntegers 0 Dict.empty (electricAt (some 71) (some 50))).2
          (electricAt (some 71) (some 50))) order health ∧ SharesOf order := by
  obtain ⟨raises, _, explained⟩ := health_explained PyMath.onIntegers_powLaws
    PyMath.onIntegers_exp2Laws.grows 0 Dict.empty (electricAt (some 71) (some 50))
  cases called : (calculateHealth .onIntegers 0 Dict.empty (electricAt (some 71) (some 50))).1 with
  | error exc =>
      obtain ⟨x, power⟩ := raises exc called
      simp [PyMath.onIntegers] at power
  | ok health =>
      obtain ⟨order, facts, shares⟩ := explained health called
      exact ⟨health, order, facts, shares fun _ => le_rfl⟩

end LocoTwin.Processor
