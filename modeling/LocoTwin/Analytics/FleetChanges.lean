/-
# Analytics.FleetChanges -- the changes a dashboard is told about

A dashboard keeps its counters by applying the published changes one after another.  What has
been published, what is at the await of a round and what is still recorded are, for each
locomotive, the changes of its category, in order.  A round that fails drops what it has
drained.

* `fleet_changes_exact`: in every run whose failed rounds had drained nothing, or had been
  carried out, the changes told and recorded are all changes of the category, each once;
* `lost_change`: a round with a change raises, and the change is never published.
-/
import LocoTwin.Analytics.Aggregator

namespace LocoTwin.Analytics

open LocoTwin.Lib LocoTwin.Shared

set_option autoImplicit false

variable {conv : Conversions}

/-- The changes among the publications, in order. -/
def told (published : List Publication) : List Change :=
  published.flatMap fun publication =>
    match publication with
    | .changes changes => changes
    | .summary _ => []

/-- Old and new category of the changes of one locomotive. -/
def steps (loco : String) (changes : List Change) : List (String × String) :=
  (changes.filter fun c => c.locomotiveId == loco).map fun c => (c.oldCategory, c.newCategory)

/-- The categories of one locomotive, as they were filed. -/
def history (loco : String) (filed : List (String × String)) : List String :=
  (filed.filter fun e => e.1 == loco).map Prod.snd

/-- For each locomotive, what has been published and what is recorded are all changes of its
category, each once, in a chain that ends in its current category. -/
structure Exact (s : AggregatorState) : Prop where
  all : ∀ loco, steps loco (told s.published ++ s.agg.changes) =
    Lib.changes (history loco s.filed)
  chain : ∀ loco, (steps loco (told s.published ++ s.agg.changes)).IsChain fun p q => p.2 = q.1
  current : ∀ loco p, (steps loco (told s.published ++ s.agg.changes)).getLast? = some p →
    ∃ state, s.agg.fleet.get? loco = some state ∧ state.category = p.2

/-- A round that raises has drained no change, or its commands have been carried out. -/
def Harmless (s : AggregatorState) : AggregatorEvent → Prop
  | .raised applied => applied = true ∨ ∀ round, s.executing = some round → round.2 = []
  | _ => True

/-! ## What the pieces add up to -/

@[simp] theorem told_append (p q : List Publication) : told (p ++ q) = told p ++ told q :=
  List.flatMap_append

@[simp] theorem told_pipeline (summary : FleetAggregator.Summary) (changes : List Change) :
    told (pipeline summary changes) = changes := by
  unfold pipeline
  split
  case isTrue empty =>
    rw [empty]
    rfl
  case isFalse => exact List.append_nil changes

@[simp] theorem steps_append (loco : String) (c d : List Change) :
    steps loco (c ++ d) = steps loco c ++ steps loco d := by
  simp [steps]

theorem history_append (loco : String) (filed : List (String × String)) (e : String × String) :
    history loco (filed ++ [e]) =
      history loco filed ++ if e.1 = loco then [e.2] else [] := by
  by_cases same : e.1 = loco
  · simp [history, same]
  · simp [history, same]

/-- The changes at the await of a round. -/
def drained (s : AggregatorState) : List Change :=
  match s.executing with
  | some round => round.2
  | none => []

structure Inv (s : AggregatorState) : Prop where
  all : ∀ loco, steps loco (told s.published ++ drained s ++ s.agg.changes) =
    Lib.changes (history loco s.filed)
  current : ∀ loco, (s.agg.fleet.get? loco).map LocoState.category =
    (history loco s.filed).getLast?

/-- Filing a category records the change to it. -/
theorem steps_store (agg : FleetAggregator) (r : FleetAggregator.Reading) (now : Datetime)
    (loco : String) :
    steps loco (agg.store r.locoId r.locomotiveType r.category r.score now).changes =
      steps loco agg.changes ++
        if r.locoId = loco then
          changeTo ((agg.fleet.get? loco).map LocoState.category) r.category
        else [] := by
  unfold FleetAggregator.store
  cases found : agg.fleet.get? r.locoId with
  | none =>
      by_cases same : r.locoId = loco
      · subst same
        simp [found, changeTo]
      · simp [same]
  | some old =>
      by_cases same : r.locoId = loco
      · subst same
        by_cases equal : old.category = r.category
        · simp [found, changeTo, equal]
        · simp [found, changeTo, equal, steps]
      · by_cases equal : old.category = r.category
        · simp [same, equal]
        · simp [same, equal, steps]

theorem get?_store (agg : FleetAggregator) (r : FleetAggregator.Reading) (now : Datetime)
    (loco : String) :
    ((agg.store r.locoId r.locomotiveType r.category r.score now).fleet.get? loco).map
        LocoState.category =
      if r.locoId = loco then some r.category
      else (agg.fleet.get? loco).map LocoState.category := by
  unfold FleetAggregator.store
  dsimp only
  rw [Dict.get?_set]
  by_cases same : r.locoId = loco
  · simp [same]
  · have other : loco ≠ r.locoId := fun h => same h.symm
    simp [same, other]

namespace Inv

variable {s s' : AggregatorState}

theorem message (inv : Inv s) (data : PyVal) (now : Datetime)
    (step : AggregatorStep conv s (.message data now) s') : Inv s' := by
  cases step with
  | message =>
      cases read : FleetAggregator.read conv data with
      | error e =>
          have same : s.agg.updateState conv data now = s.agg := by
            rw [FleetAggregator.updateState, read]
          simp only [same]
          exact ⟨inv.all, inv.current⟩
      | ok result =>
          cases result with
          | none =>
              have same : s.agg.updateState conv data now = s.agg := by
                rw [FleetAggregator.updateState, read]
              simp only [same]
              exact ⟨inv.all, inv.current⟩
          | some r =>
              have stored : s.agg.updateState conv data now =
                  s.agg.store r.locoId r.locomotiveType r.category r.score now := by
                rw [FleetAggregator.updateState, read]
              constructor
              · intro loco
                have before := inv.all loco
                show steps loco (told s.published ++ drained s ++
                  (s.agg.updateState conv data now).changes) =
                    Lib.changes (history loco (s.filed ++ [(r.locoId, r.category)]))
                rw [stored, steps_append, steps_store, ← List.append_assoc, ← steps_append,
                  before, history_append]
                by_cases same : r.locoId = loco
                · rw [if_pos same, if_pos same, changes_concat, inv.current]
                · rw [if_neg same, if_neg same, List.append_nil, List.append_nil]
              · intro loco
                show ((s.agg.updateState conv data now).fleet.get? loco).map _ =
                  (history loco (s.filed ++ [(r.locoId, r.category)])).getLast?
                rw [stored, get?_store, history_append]
                by_cases same : r.locoId = loco
                · rw [if_pos same, if_pos same, List.getLast?_concat]
                · rw [if_neg same, if_neg same, List.append_nil, inv.current]

theorem step {event : AggregatorEvent} (inv : Inv s) (step : AggregatorStep conv s event s')
    (harmless : Harmless s event) : Inv s' := by
  cases step with
  | message data now => exact inv.message data now (.message s data now)
  | round now idle nonempty =>
      refine ⟨?_, inv.current⟩
      intro loco
      have before := inv.all loco
      simp only [drained, idle, List.append_nil] at before
      show steps loco (told s.published ++ s.agg.changes ++ []) = _
      rw [List.append_nil]
      exact before
  | executed summary changes executing =>
      refine ⟨?_, inv.current⟩
      intro loco
      have before := inv.all loco
      simp only [drained, executing] at before
      show steps loco (told (s.published ++ pipeline summary changes) ++ [] ++ s.agg.changes) = _
      rw [told_append, told_pipeline, List.append_nil]
      exact before
  | raised summary changes applied executing =>
      refine ⟨?_, inv.current⟩
      intro loco
      have before := inv.all loco
      simp only [drained, executing] at before
      cases applied with
      | true =>
          show steps loco (told (s.published ++ pipeline summary changes) ++ [] ++
            s.agg.changes) = _
          rw [told_append, told_pipeline, List.append_nil]
          exact before
      | false =>
          -- nothing had been drained
          have none' : changes = [] := by
            rcases harmless with h | empty
            · cases h
            · exact empty _ executing
          rw [none', List.append_nil] at before
          show steps loco (told (s.published ++ []) ++ [] ++ s.agg.changes) = _
          rw [List.append_nil, List.append_nil]
          exact before

theorem exact_of_idle (inv : Inv s) (idle : s.executing = none) : Exact s := by
  have all (loco : String) : steps loco (told s.published ++ s.agg.changes) =
      Lib.changes (history loco s.filed) := by
    have := inv.all loco
    simpa only [drained, idle, List.append_nil] using this
  refine ⟨all, ?_, ?_⟩
  · intro loco
    rw [all]
    exact isChain_changes _
  · intro loco p last
    rw [all] at last
    have current := inv.current loco
    rw [getLast?_changes last] at current
    obtain ⟨state, found, category⟩ := Option.map_eq_some_iff.mp current
    exact ⟨state, found, category⟩

end Inv

/-- **No change of category is lost, repeated or invented**, between two rounds of any run
in which every round that raises has drained nothing or has been carried out. -/
theorem fleet_changes_exact {s : AggregatorState}
    (reach : ((fleetAggregator conv).where' Harmless).Reachable s)
    (idle : s.executing = none) : Exact s := by
  have inv : Inv s := by
    apply reach.invariant
    · intro s start
      obtain rfl := start
      exact ⟨fun _ => rfl, fun _ => rfl⟩
    · intro s event s' inv step
      exact inv.step step.2 step.1
  exact inv.exact_of_idle idle

/-- A health index as the processor publishes it. -/
def healthMessage (loco category : String) (score : PyFloat) : PyVal :=
  .dict [("locomotive_id", .str loco), ("locomotive_type", .str "TE33A"),
    ("overall_score", .float score), ("category", .str category)]

/-- The messages of these runs hold strings and floats only. -/
def plainConversions : Conversions := ⟨fun _ => "", fun _ => none⟩

/-- A change that is published, after a round that raises with nothing drained. -/
theorem fleet_changes_exact_published : ∃ s,
    ((fleetAggregator plainConversions).where' Harmless).Reachable s ∧
    steps "a" (told s.published) = [("Норма", "Внимание")] ∧ Exact s := by
  have initial : ((fleetAggregator plainConversions).where' Harmless).Reachable
      ⟨⟨Dict.empty, []⟩, none, [], []⟩ := .init rfl
  have filed := initial.guarded (.message _ (healthMessage "a" "Норма" 90) 0) trivial
  have round := filed.guarded (.round _ 1 rfl (by decide)) trivial
  have raised := round.guarded (.raised _ _ _ false rfl) (.inr fun _ h => by cases h; rfl)
  have filed := raised.guarded (.message _ (healthMessage "a" "Внимание" 70) 2) trivial
  have round := filed.guarded (.round _ 3 rfl (by decide)) trivial
  have executed := round.guarded (.executed _ _ _ rfl) trivial
  exact ⟨_, executed, by decide, fleet_changes_exact executed rfl⟩

/-- The pipeline that carries a change raises before Redis has it. -/
theorem lost_change : ∃ s, (fleetAggregator plainConversions).Reachable s ∧
    s.executing = none ∧ ¬ Exact s := by
  have initial : (fleetAggregator plainConversions).Reachable
      ⟨⟨Dict.empty, []⟩, none, [], []⟩ := .init rfl
  have filed := initial.step (.message _ (healthMessage "a" "Норма" 90) 0)
  have filed := filed.step (.message _ (healthMessage "a" "Внимание" 70) 1)
  have round := filed.step (.round _ 2 rfl (by decide))
  have raised := round.step (.raised _ _ _ false rfl)
  refine ⟨_, raised, rfl, fun told => ?_⟩
  have all := told.all "a"
  revert all
  decide

end LocoTwin.Analytics
