/-
# Processor.AgingDamage -- does accumulated damage stay subtracted?

The damage of an aging sensor stays in `_damage_state`, but a call subtracts and reports
only the damage of the sensors its reading contains.

* `getD_le_calculateHealth`: a call, raising or not, takes no damage away;
* `calculateHealth_damage`: what a call reports is what the sensors of its reading have
  accumulated after it;
* **`damage_persistent`**: the reported damage never decreases in a run where each reading
  contains the aging sensors with damage that the last reported reading contained.
-/
import LocoTwin.Lib.Transition
import LocoTwin.Processor.AlertMirror
import LocoTwin.Processor.HealthLoss

namespace LocoTwin.Processor

open LocoTwin.Lib LocoTwin.Shared

set_option autoImplicit false

/-! ## Damage is never taken away -/

theorem getD_le_penaltyFor {M : PyMath} (laws : M.Exp2Grows) (locoId : String)
    (sensors : Dict SensorType SensorPayload) (state : DamageState) (key : SensorType)
    (spec : SensorSpec) (k : Key) :
    state.getD k 0 ≤ (penaltyFor M locoId sensors state key spec).2.getD k 0 := by
  rcases penaltyFor_snd M locoId sensors key spec (state.getD (locoId, key) 0) with
    kept | ⟨_, damage, _, _, after, wrote⟩
  · rw [kept state rfl]
  · rw [wrote state rfl, Dict.getD_set]
    split_ifs with here
    · rw [here]
      exact le_damageAfter laws after
    · exact le_rfl

theorem getD_le_penaltyLoop {M : PyMath} (laws : M.Exp2Grows) (locoId : String)
    (sensors : Dict SensorType SensorPayload) (specs : List (SensorType × SensorSpec))
    (state : DamageState) (k : Key) :
    state.getD k 0 ≤ (penaltyLoop M locoId sensors state specs).2.getD k 0 := by
  induction specs generalizing state with
  | nil => exact le_rfl
  | cons e rest ih =>
      obtain ⟨key, spec⟩ := e
      have here := getD_le_penaltyFor laws locoId sensors state key spec k
      simp only [penaltyLoop]
      rcases stepped : penaltyFor M locoId sensors state key spec with ⟨out, after⟩
      rw [stepped] at here
      cases out with
      | error exc => exact here
      | ok row => exact here.trans (ih after)

theorem getD_le_calculateHealth {M : PyMath} (laws : M.Exp2Grows) (now : Datetime)
    (state : DamageState) (reading : TelemetryReading) (k : Key) :
    state.getD k 0 ≤ (calculateHealth M now state reading).2.getD k 0 :=
  getD_le_penaltyLoop laws _ _ _ state k

/-! ## What a call reports -/

def Contains (reading : TelemetryReading) (key : SensorType) : Prop :=
  key ∈ reading.sensors.map (·.sensorType)

instance (reading : TelemetryReading) (key : SensorType) : Decidable (Contains reading key) :=
  inferInstanceAs (Decidable (_ ∈ _))

/-- The damage in `state` of the aging sensors that the reading contains. -/
def containedDamage (state : DamageState) (reading : TelemetryReading) : PyFloat :=
  ((locoSpecs reading.locomotiveType).entries.map fun e =>
    if e.2.isAgingParam = true ∧ Contains reading e.1 then damageBefore state reading e.1
    else 0).sum

theorem payloadMap_ne_none (reading : TelemetryReading) (key : SensorType) :
    (payloadMap reading).get? key ≠ none ↔ Contains reading key := by
  rw [ne_eq, payloadMap_eq_none, not_not, Contains]

/-- The damage in the penalties of a reading is that of the aging sensors it contains. -/
theorem sum_penaltiesOf (M : PyMath) (damage : DamageState) (reading : TelemetryReading) :
    ((penaltiesOf M damage reading).map Prod.snd).sum = containedDamage damage reading := by
  rw [penaltiesOf, containedDamage]
  induction (locoSpecs reading.locomotiveType).entries with
  | nil => rfl
  | cons e rest ih =>
      have contains := payloadMap_ne_none reading e.1
      rw [List.map_cons, List.sum_cons, ← ih, List.filterMap_cons]
      cases found : (payloadMap reading).get? e.1 with
      | none =>
          rw [found] at contains
          have absent : ¬(e.2.isAgingParam = true ∧ Contains reading e.1) :=
            fun counted => contains.mpr counted.2 rfl
          rw [Option.map_none, if_neg absent, zero_add]
      | some sensor =>
          rw [found] at contains
          have present : Contains reading e.1 := contains.mp (by simp)
          simp only [Option.map_some, List.map_cons, List.sum_cons, present, and_true]
          rfl

/-- The damage a call reports is what the sensors of its reading have after it. -/
theorem calculateHealth_damage {M : PyMath} {now : Datetime} {state : DamageState}
    {reading : TelemetryReading} {health : HealthIndex}
    (ok : (calculateHealth M now state reading).1 = .ok health) :
    health.damagePenalty =
      roundTo 6 (containedDamage (calculateHealth M now state reading).2 reading) := by
  rw [calculateHealth_rows ok, ← sum_penaltiesOf M]
  rfl

/-! ## Runs -/

/-- One `calculate_health` call after another. -/
def healthMachine (M : PyMath) :
    Machine DamageState (Datetime × TelemetryReading) (Except PyError HealthIndex) :=
  fun state call => (calculateHealth M call.1 state call.2).swap

/-- The `damage_penalty` of the calls that returned, in order. -/
def damageReports (M : PyMath) (state : DamageState)
    (calls : List (Datetime × TelemetryReading)) : List PyFloat :=
  ((healthMachine M).run state calls).2.filterMap fun out =>
    match out with
    | .ok health => some health.damagePenalty
    | .error _ => none

/-- The reading contains the aging sensors with damage that `reported` contained. -/
def KeepsAging (state : DamageState) (reported reading : TelemetryReading) : Prop :=
  ∀ e ∈ (locoSpecs reported.locomotiveType).entries, e.2.isAgingParam = true →
    Contains reported e.1 → damageBefore state reported e.1 ≠ 0 → Contains reading e.1

/-- So does each reading of a run with the last reading before it that a call returned an
index for, `last` at the start. -/
def AgingKept (M : PyMath) : DamageState → Option TelemetryReading →
    List (Datetime × TelemetryReading) → Prop
  | _, _, [] => True
  | state, last, (now, reading) :: calls =>
      match calculateHealth M now state reading with
      | (.error _, state') => AgingKept M state' last calls
      | (.ok _, state') =>
          (∀ reported ∈ last, KeepsAging state reported reading) ∧
            AgingKept M state' (some reading) calls

/-- The reading is of the KZ8A locomotive `locomotiveId`. -/
def OfLocomotive (locomotiveId : UUID) (reading : TelemetryReading) : Prop :=
  reading.locomotiveId = locomotiveId ∧ reading.locomotiveType = .kz8a

instance (locomotiveId : UUID) (reading : TelemetryReading) :
    Decidable (OfLocomotive locomotiveId reading) :=
  inferInstanceAs (Decidable (_ ∧ _))

/-- Damage that grew, in sensors that are still contained, is reported as no less. -/
theorem containedDamage_mono {state state' : DamageState} {locomotiveId : UUID}
    {reported reading : TelemetryReading} (own : OfLocomotive locomotiveId reported)
    (own' : OfLocomotive locomotiveId reading)
    (nonneg : ∀ key, 0 ≤ state.getD (UUID.str locomotiveId, key) 0)
    (grown : ∀ k, state.getD k 0 ≤ state'.getD k 0)
    (kept : KeepsAging state reported reading) :
    containedDamage state reported ≤ containedDamage state' reading := by
  unfold KeepsAging at kept
  unfold containedDamage
  simp only [damageBefore, own.1, own.2, own'.1, own'.2] at kept ⊢
  refine List.sum_le_sum fun e mem => ?_
  have more := grown (UUID.str locomotiveId, e.1)
  have low := nonneg e.1
  by_cases counted : e.2.isAgingParam = true ∧ Contains reported e.1
  · rw [if_pos counted]
    by_cases zero : state.getD (UUID.str locomotiveId, e.1) 0 = 0
    · rw [zero] at more ⊢
      split_ifs
      · exact more
      · exact le_rfl
    · rw [if_pos ⟨counted.1, kept e mem counted.1 counted.2 zero⟩]
      exact more
  · rw [if_neg counted]
    split_ifs
    · exact low.trans more
    · exact le_rfl

theorem damageReports_cons (M : PyMath) (state : DamageState) (now : Datetime)
    (reading : TelemetryReading) (calls : List (Datetime × TelemetryReading)) :
    damageReports M state ((now, reading) :: calls) =
      match calculateHealth M now state reading with
      | (.error _, state') => damageReports M state' calls
      | (.ok health, state') => health.damagePenalty :: damageReports M state' calls := by
  rcases out : calculateHealth M now state reading with ⟨_ | health, state'⟩ <;>
    simp [damageReports, healthMachine, out]

/-- The reports of a run are in order, and none is below what the sensors of the last
reported reading have accumulated. -/
theorem damageReports_sorted {M : PyMath} (laws : M.Exp2Grows) {locomotiveId : UUID}
    {calls : List (Datetime × TelemetryReading)}
    (own : ∀ call ∈ calls, OfLocomotive locomotiveId call.2) {state : DamageState}
    (nonneg : ∀ key, 0 ≤ state.getD (UUID.str locomotiveId, key) 0)
    {last : Option TelemetryReading} (own' : ∀ reported ∈ last, OfLocomotive locomotiveId reported)
    (kept : AgingKept M state last calls) :
    (damageReports M state calls).Pairwise (· ≤ ·) ∧
      ∀ reported ∈ last, ∀ d ∈ damageReports M state calls,
        roundTo 6 (containedDamage state reported) ≤ d := by
  induction calls generalizing state last with
  | nil => exact ⟨.nil, fun _ _ _ mem => absurd mem (by simp [damageReports])⟩
  | cons call calls ih =>
      obtain ⟨now, reading⟩ := call
      have here := own _ List.mem_cons_self
      have later := fun call mem => own call (List.mem_cons_of_mem _ mem)
      have grown := getD_le_calculateHealth laws now state reading
      have report := @calculateHealth_damage M now state reading
      rw [AgingKept] at kept
      rw [damageReports_cons]
      rcases called : calculateHealth M now state reading with ⟨out, state'⟩
      rw [called] at kept grown report
      have nonneg' : ∀ key, 0 ≤ state'.getD (UUID.str locomotiveId, key) 0 :=
        fun key => (nonneg key).trans (grown _)
      cases out with
      | error exc =>
          -- no report, but the damage of the sensors visited before the error stays
          obtain ⟨sorted, above⟩ := ih later nonneg' own' kept
          refine ⟨sorted, fun reported mem d reports => ?_⟩
          have same := containedDamage_mono (own' _ mem) (own' _ mem) nonneg grown
            (fun _ _ _ contains _ => contains)
          exact (roundTo_mono 6 same).trans (above reported mem d reports)
      | ok health =>
          obtain ⟨sorted, above⟩ := ih later nonneg'
            (by intro reported mem; rw [← Option.some.inj mem]; exact here) kept.2
          have first := report rfl
          have rest := above reading rfl
          rw [← first] at rest
          refine ⟨List.pairwise_cons.mpr ⟨rest, sorted⟩, fun reported mem d reports => ?_⟩
          have up : roundTo 6 (containedDamage state reported) ≤ health.damagePenalty := by
            rw [first]
            exact roundTo_mono 6
              (containedDamage_mono (own' _ mem) here nonneg grown (kept.1 reported mem))
          rcases List.mem_cons.mp reports with rfl | tail
          · exact up
          · exact up.trans (rest d tail)

/-- **The reported damage of a KZ8A locomotive never decreases in a run whose readings keep
the aging sensors with damage.** -/
theorem damage_persistent {M : PyMath} (laws : M.Exp2Grows) {locomotiveId : UUID}
    {calls : List (Datetime × TelemetryReading)}
    (own : ∀ call ∈ calls, OfLocomotive locomotiveId call.2)
    (kept : AgingKept M Dict.empty none calls) :
    (damageReports M Dict.empty calls).Pairwise (· ≤ ·) :=
  (damageReports_sorted laws own (fun _ => le_rfl) (by simp) kept).1

/-- Readings that contain every aging sensor keep them. -/
theorem agingKept_of_contains (M : PyMath) {calls : List (Datetime × TelemetryReading)}
    (all : ∀ call ∈ calls, call.2.locomotiveType = .kz8a ∧
      Contains call.2 .transformerTemp ∧ Contains call.2 .igbtTemp)
    (state : DamageState) {last : Option TelemetryReading}
    (own : ∀ reported ∈ last, reported.locomotiveType = .kz8a) :
    AgingKept M state last calls := by
  have two : ∀ e ∈ (locoSpecs .kz8a).entries, e.2.isAgingParam = true →
      e.1 = .transformerTemp ∨ e.1 = .igbtTemp := by decide
  induction calls generalizing state last with
  | nil => trivial
  | cons call calls ih =>
      obtain ⟨now, reading⟩ := call
      obtain ⟨type, transformer, igbt⟩ := all _ List.mem_cons_self
      have later := fun call mem => all call (List.mem_cons_of_mem _ mem)
      rw [AgingKept]
      rcases calculateHealth M now state reading with ⟨_ | health, state'⟩
      · exact ih later state' own
      · refine ⟨?_, ih later state' (by intro _ mem; rw [← Option.some.inj mem]; exact type)⟩
        intro reported mem e listed aging _ _
        rw [own reported mem] at listed
        rcases two e listed aging with same | same
        · rw [same]
          exact transformer
        · rw [same]
          exact igbt

/-- A KZ8A locomotive with the given temperatures, where they are reported. -/
def electricAt (transformer igbt : Option PyFloat) : TelemetryReading where
  locomotiveId := 7
  locomotiveType := .kz8a
  timestamp := 0
  sensors :=
    (transformer.map fun celsius => ⟨.transformerTemp, celsius, "°C"⟩).toList ++
      (igbt.map fun celsius => ⟨.igbtTemp, celsius, "°C"⟩).toList

theorem damage_persistent_complete :
    (damageReports .onIntegers Dict.empty
      [(0, electricAt (some 71) (some 50)), (1, electricAt (some 60) (some 63))]).Pairwise
      (· ≤ ·) :=
  @damage_persistent .onIntegers PyMath.onIntegers_exp2Laws.grows 7 _ (by decide)
    (agingKept_of_contains .onIntegers (by decide) Dict.empty (by simp))

/-- A warm transformer, then a reading without it: the damage is gone from the report. -/
theorem damage_forgotten :
    (∀ call ∈ [(0, electricAt (some 71) none), ((1 : Datetime), electricAt none (some 50))],
        OfLocomotive 7 call.2) ∧
      damageReports .onIntegers Dict.empty
        [(0, electricAt (some 71) none), (1, electricAt none (some 50))] = [0.001, 0] ∧
      ¬(damageReports .onIntegers Dict.empty
        [(0, electricAt (some 71) none), (1, electricAt none (some 50))]).Pairwise (· ≤ ·) := by
  decide +kernel

end LocoTwin.Processor
