/-
# Analytics.FleetSummary -- the summary of the last readings

The aggregator keeps one state for each locomotive, and every message overwrites the state of
the locomotive it is about.  After any messages the states are the last readings, one for
each id that has been read (`Files.update`), so that the summary is a summary of these.

A call of `_update_state` that raises, or returns for an empty id, reads nothing.

* `summary_exact`: the sizes and the ten worst of the summary are those of the last readings,
  and the mean is theirs as doubles add it up, in the order in which the locomotives came;
* `mean_of_doubles`: this is not the mean of the scores.
-/
import LocoTwin.Analytics.FleetChanges
import LocoTwin.Lib.Ranking
import Mathlib.Algebra.BigOperators.Group.Finset.Basic

namespace LocoTwin.Analytics

open LocoTwin.Lib LocoTwin.Shared
open FleetAggregator (Reading Worst Summary categoryNorma categoryVnimanie)

set_option autoImplicit false

/-! ## Last readings -/

/-- The readings of the messages, in order. -/
def readings (conv : Conversions) (messages : List (PyVal × Datetime)) : List Reading :=
  messages.filterMap fun m =>
    match FleetAggregator.read conv m.1 with
    | .ok r => r
    | .error _ => none

def lastReading (rs : List Reading) (loco : String) : Option Reading :=
  (rs.filter fun r => r.locoId = loco).getLast?

/-- The last readings, one for each locomotive. -/
def lastReadings (rs : List Reading) : Finset Reading :=
  rs.toFinset.filter fun r => lastReading rs r.locoId = some r

/-- The locomotives in the order of their first readings. -/
def arrivals (rs : List Reading) : List String := (rs.map Reading.locoId).reverse.dedup.reverse

/-- The last scores in that order. -/
def lastScores (rs : List Reading) : List PyFloat :=
  ((arrivals rs).filterMap (lastReading rs)).map Reading.score

/-- The entry of `worst_10` for a reading. -/
def worstOf (r : Reading) : Worst :=
  ⟨r.locoId, r.locomotiveType, binary64.roundTo 1 r.score, r.category⟩

/-- What a summary says of the readings. -/
structure SummaryExact (rs : List Reading) (summary : Summary) : Prop where
  named : ∀ r ∈ rs, r.locoId ≠ ""
  fleetSize : summary.fleetSize = (rs.map Reading.locoId).toFinset.card
  norma : summary.norma =
    ((lastReadings rs).filter fun r => r.category = categoryNorma).card
  vnimanie : summary.vnimanie =
    ((lastReadings rs).filter fun r => r.category = categoryVnimanie).card
  kritichno : summary.kritichno = ((lastReadings rs).filter fun r =>
    r.category ≠ categoryNorma ∧ r.category ≠ categoryVnimanie).card
  total : summary.norma + summary.vnimanie + summary.kritichno = summary.fleetSize
  avgScore : summary.avgScore = binary64.roundTo 1
    (binary64.div (binary64.sum (lastScores rs)) (binary64.round (max summary.fleetSize 1 : ℕ)))
  near : (∀ r ∈ rs, binary64.IsFloat r.score) →
    |binary64.sum (lastScores rs) - ∑ r ∈ lastReadings rs, r.score| ≤
      gamma (2 ^ (-53 : ℤ)) summary.fleetSize * ∑ r ∈ lastReadings rs, |r.score|
  worst10 : ∃ listed : List Reading, summary.worst10 = listed.map worstOf ∧
    listed.length = min 10 summary.fleetSize ∧ (listed.map Reading.locoId).Nodup ∧
    (∀ r ∈ listed, r ∈ lastReadings rs) ∧ listed.Pairwise (fun r s => r.score ≤ s.score) ∧
    ∀ r ∈ lastReadings rs, r ∉ listed → ∀ s ∈ listed, s.score ≤ r.score
  ascending : summary.worst10.Pairwise fun v w => v.score ≤ w.score

theorem lastReading_locoId {rs : List Reading} {loco : String} {r : Reading}
    (last : lastReading rs loco = some r) : r.locoId = loco := by
  have mem := List.mem_of_getLast? last
  simpa using (List.mem_filter.mp mem).2

theorem mem_lastReadings {rs : List Reading} {r : Reading} :
    r ∈ lastReadings rs ↔ lastReading rs r.locoId = some r := by
  unfold lastReadings
  rw [Finset.mem_filter, List.mem_toFinset]
  refine ⟨And.right, fun last => ⟨?_, last⟩⟩
  exact (List.mem_filter.mp (List.mem_of_getLast? last)).1

theorem lastReading_eq_none {rs : List Reading} {loco : String} :
    lastReading rs loco = none ↔ loco ∉ rs.map Reading.locoId := by
  unfold lastReading
  rw [List.getLast?_eq_none_iff, List.filter_eq_nil_iff]
  simp

theorem lastReading_concat (rs : List Reading) (r : Reading) (loco : String) :
    lastReading (rs ++ [r]) loco = if r.locoId = loco then some r else lastReading rs loco := by
  unfold lastReading
  rw [List.filter_append]
  by_cases same : r.locoId = loco
  · simp [same]
  · simp [same]

theorem arrivals_concat (rs : List Reading) (r : Reading) :
    arrivals (rs ++ [r]) =
      if r.locoId ∈ arrivals rs then arrivals rs else arrivals rs ++ [r.locoId] := by
  have reversed : (((rs ++ [r]).map Reading.locoId).reverse) =
      r.locoId :: (rs.map Reading.locoId).reverse := by simp
  have known : r.locoId ∈ arrivals rs ↔ r.locoId ∈ (rs.map Reading.locoId).reverse := by
    rw [arrivals, List.mem_reverse, List.mem_dedup]
  unfold arrivals at known ⊢
  rw [reversed]
  by_cases mem : r.locoId ∈ (rs.map Reading.locoId).reverse
  · rw [if_pos (known.mpr mem), List.dedup_cons_of_mem mem]
  · rw [if_neg (mt known.mp mem), List.dedup_cons_of_notMem mem, List.reverse_cons]

/-! ## The states are the last readings -/

/-- A state without its time. -/
def reading (s : LocoState) : Reading := ⟨s.locomotiveId, s.locomotiveType, s.score, s.category⟩

/-- The aggregator has filed the readings. -/
structure Files (agg : FleetAggregator) (rs : List Reading) : Prop where
  last : ∀ loco, (agg.fleet.get? loco).map reading = lastReading rs loco
  keys : agg.fleet.keys = arrivals rs

/-- `_update_state`, called on one message after another. -/
def updates (conv : Conversions) (agg : FleetAggregator) (messages : List (PyVal × Datetime)) :
    FleetAggregator :=
  messages.foldl (fun agg m => agg.updateState conv m.1 m.2) agg

variable {conv : Conversions} {agg : FleetAggregator} {rs : List Reading}

theorem read_named {data : PyVal} {r : Reading}
    (read : FleetAggregator.read conv data = .ok (some r)) : r.locoId ≠ "" := by
  simp only [FleetAggregator.read, bind, Except.bind, pure, Except.pure] at read
  split at read
  · cases read
  · split at read
    · cases read
    · repeat (split at read; cases read)
      cases read
      assumption

theorem reading_store (agg : FleetAggregator) (r : Reading) (now : Datetime) (loco : String) :
    ((agg.store r.locoId r.locomotiveType r.category r.score now).fleet.get? loco).map reading =
      if r.locoId = loco then some r else (agg.fleet.get? loco).map reading := by
  unfold FleetAggregator.store
  dsimp only
  rw [Dict.get?_set]
  by_cases same : r.locoId = loco
  · subst same
    rw [if_pos rfl, if_pos rfl]
    rfl
  · have other : loco ≠ r.locoId := fun h => same h.symm
    simp [same, other]

theorem keys_store (agg : FleetAggregator) (r : Reading) (now : Datetime) :
    (agg.store r.locoId r.locomotiveType r.category r.score now).fleet.keys =
      if r.locoId ∈ agg.fleet.keys then agg.fleet.keys else agg.fleet.keys ++ [r.locoId] :=
  Dict.keys_set agg.fleet r.locoId _

namespace Files

/-- A message files what it reads. -/
theorem update (files : Files agg rs) (m : PyVal × Datetime) :
    Files (agg.updateState conv m.1 m.2) (rs ++ readings conv [m]) := by
  cases read : FleetAggregator.read conv m.1 with
  | error e =>
      have nothing : readings conv [m] = [] := by simp [readings, read]
      rw [nothing, List.append_nil, FleetAggregator.updateState, read]
      exact files
  | ok result =>
      cases result with
      | none =>
          have nothing : readings conv [m] = [] := by simp [readings, read]
          rw [nothing, List.append_nil, FleetAggregator.updateState, read]
          exact files
      | some r =>
          have one : readings conv [m] = [r] := by simp [readings, read]
          rw [one, FleetAggregator.updateState, read]
          constructor
          · intro loco
            rw [lastReading_concat, reading_store, files.last loco]
          · rw [keys_store, arrivals_concat, files.keys]

theorem updates (files : Files agg rs) (messages : List (PyVal × Datetime)) :
    Files (updates conv agg messages) (rs ++ readings conv messages) := by
  induction messages using List.reverseRecOn with
  | nil => simpa [readings, Analytics.updates] using files
  | append_singleton messages m ih =>
      have apart : readings conv (messages ++ [m]) =
          readings conv messages ++ readings conv [m] := List.filterMap_append
      rw [apart, ← List.append_assoc, Analytics.updates, List.foldl_append]
      exact ih.update m

end Files

/-- The readings in the states, in the order of the fleet. -/
def current (agg : FleetAggregator) : List Reading :=
  (agg.fleet.entries.map Prod.snd).map reading

namespace Files

theorem locoId_current (files : Files agg rs) :
    (current agg).map Reading.locoId = agg.fleet.keys := by
  unfold current Dict.keys
  rw [List.map_map, List.map_map]
  refine List.map_congr_left ?_
  rintro ⟨loco, state⟩ mem
  have last := files.last loco
  rw [Dict.get?_eq_some.mpr mem] at last
  exact lastReading_locoId last.symm

theorem mem_current (files : Files agg rs) (r : Reading) :
    r ∈ current agg ↔ r ∈ lastReadings rs := by
  rw [mem_lastReadings]
  constructor
  · intro mem
    obtain ⟨state, inside, rfl⟩ := List.mem_map.mp mem
    obtain ⟨⟨loco, state⟩, entry, rfl⟩ := List.mem_map.mp inside
    have last := files.last loco
    rw [Dict.get?_eq_some.mpr entry] at last
    have named : (reading state).locoId = loco := lastReading_locoId last.symm
    show lastReading rs (reading state).locoId = some (reading state)
    rw [named]
    exact last.symm
  · intro last
    have found := files.last r.locoId
    rw [last] at found
    obtain ⟨state, got, same⟩ := Option.map_eq_some_iff.mp found
    rw [← same]
    exact List.mem_map_of_mem (List.mem_map_of_mem (f := Prod.snd) (Dict.get?_eq_some.mp got))

/-- The states are the last readings in the order of the first. -/
theorem current_eq (files : Files agg rs) :
    current agg = (arrivals rs).filterMap (lastReading rs) := by
  rw [← files.keys, Dict.keys, List.filterMap_map]
  unfold current
  rw [List.map_map, ← List.filterMap_eq_map]
  refine List.filterMap_congr ?_
  rintro ⟨loco, state⟩ mem
  show some (reading state) = lastReading rs loco
  rw [← files.last loco, Dict.get?_eq_some.mpr mem]
  rfl

theorem lastScores_eq (files : Files agg rs) :
    (agg.fleet.entries.map Prod.snd).map LocoState.score = lastScores rs := by
  rw [lastScores, ← files.current_eq, current, List.map_map (f := reading)]
  rfl

theorem nodup_current (files : Files agg rs) : ((current agg).map Reading.locoId).Nodup := by
  rw [files.locoId_current]
  exact agg.fleet.nodup_keys

theorem toFinset_current (files : Files agg rs) : (current agg).toFinset = lastReadings rs := by
  ext r
  rw [List.mem_toFinset]
  exact files.mem_current r

theorem sum_current (files : Files agg rs) (f : Reading → ℚ) :
    ∑ r ∈ lastReadings rs, f r = ((current agg).map f).sum := by
  rw [← files.toFinset_current, List.sum_toFinset _ files.nodup_current.of_map]

/-- The double sum of the last scores, and their sum. -/
theorem abs_total_sub_le (files : Files agg rs)
    (floats : ∀ r ∈ rs, binary64.IsFloat r.score) :
    |binary64.sum (lastScores rs) - ∑ r ∈ lastReadings rs, r.score| ≤
      gamma (2 ^ (-53 : ℤ)) (current agg).length * ∑ r ∈ lastReadings rs, |r.score| := by
  have scores : lastScores rs = (current agg).map Reading.score := by
    rw [lastScores, ← files.current_eq]
  have lastFloats : ∀ score ∈ lastScores rs, binary64.IsFloat score := by
    intro score mem
    rw [scores] at mem
    obtain ⟨r, current, rfl⟩ := List.mem_map.mp mem
    have last := mem_lastReadings.mp ((files.mem_current r).mp current)
    exact floats r (List.mem_filter.mp (List.mem_of_getLast? last)).1
  have error := FloatArith.abs_sum_sub_le binary64_roundoff lastFloats
  rw [files.sum_current, files.sum_current]
  rw [scores] at error ⊢
  simpa [List.map_map, Function.comp_def] using error

theorem length_current (files : Files agg rs) :
    (current agg).length = (rs.map Reading.locoId).toFinset.card := by
  have ids : (rs.map Reading.locoId).toFinset = ((current agg).map Reading.locoId).toFinset := by
    ext loco
    rw [List.mem_toFinset, List.mem_toFinset, files.locoId_current, ← not_iff_not,
      ← lastReading_eq_none, ← files.last loco, Option.map_eq_none_iff, Dict.get?_eq_none]
  rw [ids, List.toFinset_card_of_nodup files.nodup_current, List.length_map]

/-- The states of a kind are as many as the last readings of that kind. -/
theorem countP_current (files : Files agg rs) (p : Reading → Prop) [DecidablePred p] :
    (agg.fleet.entries.map Prod.snd).countP (fun s => p (reading s)) =
      ((lastReadings rs).filter p).card := by
  have nodup : (current agg).Nodup := files.nodup_current.of_map
  have kind : (lastReadings rs).filter p = ((current agg).filter fun r => p r).toFinset := by
    rw [← files.toFinset_current]
    ext r
    simp
  rw [kind, List.toFinset_card_of_nodup (nodup.filter _), ← List.countP_eq_length_filter,
    current, List.countP_map (f := reading)]
  rfl

/-- The first ten of the states by score. -/
theorem worst_listed (files : Files agg rs) (now : Datetime) :
    ∃ listed : List Reading, (agg.computeSummary now).worst10 = listed.map worstOf ∧
      listed.length = min 10 (agg.computeSummary now).fleetSize ∧
      (listed.map Reading.locoId).Nodup ∧ (∀ r ∈ listed, r ∈ lastReadings rs) ∧
      listed.Pairwise (fun r s => r.score ≤ s.score) ∧
      ∀ r ∈ lastReadings rs, r ∉ listed → ∀ s ∈ listed, s.score ≤ r.score := by
  let states := agg.fleet.entries.map Prod.snd
  let score : LocoState → PyFloatᵒᵈ := fun s => OrderDual.toDual s.score
  have perm : ((ranked score states).map reading).Perm (current agg) :=
    (ranked_perm score states).map reading
  refine ⟨((ranked score states).take 10).map reading, ?_, ?_, ?_, ?_, ?_, ?_⟩
  · rw [List.map_map]
    rfl
  · rw [List.length_map, List.length_take, (ranked_perm score states).length_eq]
    rfl
  · rw [List.map_take, List.map_take]
    exact ((perm.map Reading.locoId).nodup_iff.mpr files.nodup_current).sublist
      (List.take_sublist 10 _)
  · intro r mem
    rw [List.map_take] at mem
    exact (files.mem_current r).mp (perm.mem_iff.mp (List.mem_of_mem_take mem))
  · refine List.pairwise_map.mpr ?_
    exact (ranked_pairwise score states).sublist (List.take_sublist 10 _)
  · intro r last out s listed
    obtain ⟨top, first, rfl⟩ := List.mem_map.mp listed
    have somewhere : r ∈ (ranked score states).map reading :=
      perm.mem_iff.mpr ((files.mem_current r).mpr last)
    rw [← List.take_append_drop 10 (ranked score states), List.map_append] at somewhere
    rcases List.mem_append.mp somewhere with within | behind
    · exact absurd within out
    · obtain ⟨state, later, rfl⟩ := List.mem_map.mp behind
      exact le_of_mem_drop_ranked score first later

/-- The summary of an aggregator that has filed the readings. -/
theorem summary (files : Files agg rs) (named : ∀ r ∈ rs, r.locoId ≠ "") (now : Datetime) :
    SummaryExact rs (agg.computeSummary now) where
  named
  fleetSize := by
    rw [← files.length_current, current, List.length_map]
    rfl
  norma := by
    rw [← files.countP_current]
    rfl
  vnimanie := by
    rw [← files.countP_current]
    rfl
  kritichno := by
    refine Eq.trans (List.countP_congr fun s _ => ?_) (files.countP_current fun r =>
      r.category ≠ categoryNorma ∧ r.category ≠ categoryVnimanie)
    refine Iff.trans ?_ decide_eq_true_iff.symm
    simp [reading]
  total := agg.computeSummary_categories now
  avgScore := by
    have mean : (agg.computeSummary now).avgScore = binary64.roundTo 1 (binary64.div
        (binary64.sum ((agg.fleet.entries.map Prod.snd).map LocoState.score))
        (binary64.round (max (agg.computeSummary now).fleetSize 1 : ℕ))) := rfl
    rw [mean, files.lastScores_eq]
  near := by
    intro floats
    have size : (agg.computeSummary now).fleetSize = (current agg).length := by
      rw [current, List.length_map]
      rfl
    rw [size]
    exact files.abs_total_sub_le floats
  worst10 := files.worst_listed now
  ascending := by
    obtain ⟨listed, eq, -, -, -, ordered, -⟩ := files.worst_listed now
    rw [eq]
    refine List.pairwise_map.mpr (ordered.imp ?_)
    intro r s le
    exact binary64.mono (roundTo_mono 1 le)

end Files

/-- **The fleet summary is that of the last readings**: after every sequence of messages. -/
theorem summary_exact (conv : Conversions) (messages : List (PyVal × Datetime)) (now : Datetime) :
    SummaryExact (readings conv messages)
      ((updates conv ⟨Dict.empty, []⟩ messages).computeSummary now) := by
  have start : Files ⟨Dict.empty, []⟩ [] := ⟨fun _ => rfl, rfl⟩
  refine (start.updates messages).summary ?_ now
  intro r mem
  obtain ⟨m, -, read⟩ := List.mem_filterMap.mp mem
  suffices filed : FleetAggregator.read conv m.1 = .ok (some r) from read_named filed
  split at read
  case h_1 result ok => rw [ok, read]
  case h_2 => cases read

/-! ## Two scores -/

/-- The double nearest to 51.1, which is a little above it. -/
def fiftyOne : PyFloat := binary64.round 51.1

def twoScores : List (PyVal × Datetime) :=
  [(healthMessage "a" "Внимание" 50, 0), (healthMessage "b" "Внимание" fiftyOne, 1)]

/-- Their mean is above 50.55; the double sum is 101.1, and its half a little below. -/
theorem mean_of_doubles :
    ((updates plainConversions ⟨Dict.empty, []⟩ twoScores).computeSummary 2).avgScore =
        binary64.round 50.5 ∧
      roundTo 1 ((∑ r ∈ lastReadings (readings plainConversions twoScores), r.score) / 2) = 50.6 ∧
      binary64.round 50.5 ≠ binary64.round 50.6 := by
  decide +kernel

end LocoTwin.Analytics
