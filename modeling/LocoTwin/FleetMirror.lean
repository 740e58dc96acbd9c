/-
# FleetMirror -- the fleet page and the fleet

The aggregator publishes summaries and changes on two channels.  For each, the relay of the
WebSocket server has a listener, which may be away while something is published, and a queue
for the client, which drops its oldest frame for a new one (the feed of a client without a
filter, `queue_feeds_all`); the frames arrive at the page in order, unless the connection breaks.
Nothing orders the two channels.

* **`markers_follow`**: whatever fails, is missed, dropped or lost, the page has been told a
  subsequence of the changes of each locomotive, its marker is that of the last it was told,
  and the numbers are those of one summary, which add up;
* **`fleet_mirror`**: in a run that loses nothing, once all has arrived, each marker shows the
  category the locomotive has, a locomotive without one has kept its first category, and the
  numbers are those of the last summary.
-/
import LocoTwin.Analytics.FleetChanges
import LocoTwin.Dashboard.FleetSlice
import LocoTwin.Lib.Feed
import LocoTwin.WsServer.RelayFeed

namespace LocoTwin.FleetMirror

open LocoTwin.Lib LocoTwin.Shared LocoTwin.Analytics LocoTwin.Dashboard
open LocoTwin.Analytics.FleetAggregator (Summary)
open LocoTwin.WsServer (queueMax)

set_option autoImplicit false

/-! ## The system -/

/-- What `fleet:summary` carries, in order. -/
def summaries (published : List Publication) : List Summary :=
  published.filterMap fun publication =>
    match publication with
    | .summary summary => some summary
    | .changes _ => none

/-- What `fleet:changes` carries, in order. -/
def deltas (published : List Publication) : List (List Change) :=
  published.filterMap fun publication =>
    match publication with
    | .summary _ => none
    | .changes changes => some changes

structure State where
  server : AggregatorState
  summaryFeed : Feed Summary queueMax
  changeFeed : Feed (List Change) queueMax
  slice : FleetState

inductive Label where
  | server (event : AggregatorEvent)
  | summary (event : Feed.Event)
  | change (event : Feed.Event)
  /-- The page is opened; `useFleetDispatch` resets the slice. -/
  | mount

/-- What has arrived before the page was opened has not arrived at this page. -/
def forget {α : Type} (feed : Feed α queueMax) : Feed α queueMax := { feed with arrived := [] }

inductive Step (conv : Conversions) (getTime : Datetime → Int) : State → Label → State → Prop where
  | server (s : State) (event : AggregatorEvent) (server : AggregatorState) :
      AggregatorStep conv s.server event server →
      Step conv getTime s (.server event) { s with server }
  | summary (s : State) (event : Feed.Event) (feed : Feed Summary queueMax) :
      event ≠ .forget → Feed.Step (summaries s.server.published) s.summaryFeed event feed →
      Step conv getTime s (.summary event)
        { s with
          summaryFeed := feed
          slice := s.summaryFeed.handle (FleetState.fleetSummaryUpdated getTime) event s.slice }
  | change (s : State) (event : Feed.Event) (feed : Feed (List Change) queueMax) :
      event ≠ .forget → Feed.Step (deltas s.server.published) s.changeFeed event feed →
      Step conv getTime s (.change event)
        { s with
          changeFeed := feed
          slice := s.changeFeed.handle (FleetState.fleetChangesReceived getTime) event s.slice }
  | mount (s : State) :
      Step conv getTime s .mount
        { s with
          summaryFeed := forget s.summaryFeed
          changeFeed := forget s.changeFeed
          slice := FleetState.fleetReset }

def fleetPage (conv : Conversions) (getTime : Datetime → Int) : System State Label where
  init s := (fleetAggregator conv).init s.server ∧ s.summaryFeed = .start ∧
    s.changeFeed = .start ∧ s.slice = FleetState.initial
  step := Step conv getTime

variable {conv : Conversions} {getTime : Datetime → Int}

/-! ## What is published -/

/-- Every publication goes to its channel, and the channels carry the changes told. -/
theorem told_eq (published : List Publication) : told published = (deltas published).flatten := by
  induction published with
  | nil => rfl
  | cons publication published ih =>
      cases publication with
      | summary summary => exact ih
      | changes changes => exact congrArg (changes ++ ·) ih

theorem published_step {s s' : AggregatorState} {event : AggregatorEvent}
    (step : AggregatorStep conv s event s') : ∃ more, s'.published = s.published ++ more := by
  cases step with
  | message data now => exact ⟨[], (List.append_nil _).symm⟩
  | round now idle nonempty => exact ⟨[], (List.append_nil _).symm⟩
  | executed summary changes executing => exact ⟨_, rfl⟩
  | raised summary changes applied executing => exact ⟨_, rfl⟩

/-- What is told and recorded are changes of the category, in order, with gaps where a round
has failed. -/
structure Recorded (s : AggregatorState) : Prop where
  some' : ∀ loco, (steps loco (told s.published ++ drained s ++ s.agg.changes)).Sublist
    (Lib.changes (history loco s.filed))
  current : ∀ loco, (s.agg.fleet.get? loco).map LocoState.category =
    (history loco s.filed).getLast?

theorem Recorded.store {s : AggregatorState} (recorded : Recorded s)
    (r : FleetAggregator.Reading) (now : Datetime) :
    Recorded { s with
      agg := s.agg.store r.locoId r.locomotiveType r.category r.score now
      filed := s.filed ++ [(r.locoId, r.category)] } := by
  constructor
  · intro loco
    show (steps loco (told s.published ++ drained s ++ (s.agg.store r.locoId r.locomotiveType
      r.category r.score now).changes)).Sublist
        (Lib.changes (history loco (s.filed ++ [(r.locoId, r.category)])))
    rw [steps_append, steps_store, ← List.append_assoc, ← steps_append, history_append]
    by_cases same : r.locoId = loco
    · rw [if_pos same, if_pos same, changes_concat, recorded.current]
      exact (recorded.some' loco).append (List.Sublist.refl _)
    · rw [if_neg same, if_neg same, List.append_nil, List.append_nil]
      exact recorded.some' loco
  · intro loco
    show ((s.agg.store r.locoId r.locomotiveType r.category r.score now).fleet.get? loco).map _ =
      (history loco (s.filed ++ [(r.locoId, r.category)])).getLast?
    rw [get?_store, history_append]
    by_cases same : r.locoId = loco
    · rw [if_pos same, if_pos same, List.getLast?_concat]
    · rw [if_neg same, if_neg same, List.append_nil, recorded.current]

theorem Recorded.step {s s' : AggregatorState} {event : AggregatorEvent} (recorded : Recorded s)
    (step : AggregatorStep conv s event s') : Recorded s' := by
  cases step with
  | message data now =>
      unfold FleetAggregator.updateState
      split
      case h_1 r read => exact recorded.store r now
      case h_2 other => exact ⟨recorded.some', recorded.current⟩
  | round now idle nonempty =>
      refine ⟨?_, recorded.current⟩
      intro loco
      have before := recorded.some' loco
      simp only [drained, idle, List.append_nil] at before
      show (steps loco (told s.published ++ s.agg.changes ++ [])).Sublist _
      rw [List.append_nil]
      exact before
  | executed summary changes executing =>
      refine ⟨?_, recorded.current⟩
      intro loco
      have before := recorded.some' loco
      simp only [drained, executing] at before
      show (steps loco (told (s.published ++ pipeline summary changes) ++ [] ++
        s.agg.changes)).Sublist _
      rw [told_append, told_pipeline, List.append_nil]
      exact before
  | raised summary changes applied executing =>
      refine ⟨?_, recorded.current⟩
      intro loco
      have before := recorded.some' loco
      simp only [drained, executing] at before
      cases applied with
      | true =>
          show (steps loco (told (s.published ++ pipeline summary changes) ++ [] ++
            s.agg.changes)).Sublist _
          rw [told_append, told_pipeline, List.append_nil]
          exact before
      | false =>
          -- the changes that had been drained are gone
          refine List.Sublist.trans ?_ before
          show (steps loco (told (s.published ++ []) ++ [] ++ s.agg.changes)).Sublist _
          rw [List.append_nil, List.append_nil, steps_append, steps_append, steps_append]
          exact (List.sublist_append_left _ _).append (List.Sublist.refl _)

/-- A summary that the aggregator has computed. -/
def Computed (summary : Summary) : Prop :=
  ∃ (agg : FleetAggregator) (now : Datetime), summary = agg.computeSummary now

structure AllComputed (s : AggregatorState) : Prop where
  published : ∀ summary ∈ summaries s.published, Computed summary
  executing : ∀ round, s.executing = some round → Computed round.1

@[simp] theorem summaries_append (p q : List Publication) :
    summaries (p ++ q) = summaries p ++ summaries q :=
  List.filterMap_append

@[simp] theorem deltas_append (p q : List Publication) : deltas (p ++ q) = deltas p ++ deltas q :=
  List.filterMap_append

@[simp] theorem summaries_pipeline (summary : Summary) (changes : List Change) :
    summaries (pipeline summary changes) = [summary] := by
  unfold pipeline
  split <;> rfl

theorem AllComputed.step {s s' : AggregatorState} {event : AggregatorEvent}
    (computed : AllComputed s) (step : AggregatorStep conv s event s') : AllComputed s' := by
  have push (summary : Summary) (changes : List Change) (here : Computed summary) :
      ∀ summary' ∈ summaries (s.published ++ pipeline summary changes), Computed summary' := by
    intro summary' mem
    rw [summaries_append, summaries_pipeline, List.mem_append, List.mem_singleton] at mem
    rcases mem with before | rfl
    · exact computed.published summary' before
    · exact here
  cases step with
  | message data now => exact ⟨computed.published, computed.executing⟩
  | round now idle nonempty =>
      refine ⟨computed.published, ?_⟩
      intro round same
      obtain rfl := Option.some.inj same
      exact ⟨s.agg, now, rfl⟩
  | executed summary changes executing =>
      exact ⟨push summary changes (computed.executing _ executing), by simp⟩
  | raised summary changes applied executing =>
      refine ⟨?_, by simp⟩
      cases applied with
      | true => exact push summary changes (computed.executing _ executing)
      | false =>
          show ∀ summary ∈ summaries (s.published ++ []), Computed summary
          rw [List.append_nil]
          exact computed.published

/-! ## What the page shows -/

/-- The state of the page is that of what has arrived. -/
def Shown (getTime : Datetime → Int) (s : State) : Prop :=
  s.slice = FleetState.stateOf getTime s.summaryFeed.arrived.getLast?
    s.changeFeed.arrived.flatten

theorem Shown.step {s s' : State} {label : Label} (shown : Shown getTime s)
    (step : Step conv getTime s label s') : Shown getTime s' := by
  cases step with
  | server event server step => exact shown
  | summary event feed kept step =>
      rw [Shown]
      rcases Feed.handle_arrived (FleetState.fleetSummaryUpdated getTime) s.slice step kept with
        ⟨arrived, same⟩ | ⟨x, arrived, reduced⟩
      · rw [same, arrived]
        exact shown
      · rw [reduced, arrived, List.getLast?_concat, shown,
          FleetState.fleetSummaryUpdated_stateOf]
  | change event feed kept step =>
      rw [Shown]
      rcases Feed.handle_arrived (FleetState.fleetChangesReceived getTime) s.slice step kept with
        ⟨arrived, same⟩ | ⟨x, arrived, reduced⟩
      · rw [same, arrived]
        exact shown
      · rw [reduced, arrived, List.flatten_append, shown,
          FleetState.fleetChangesReceived_stateOf, List.flatten_singleton]
  | mount => rfl

structure Inv (getTime : Datetime → Int) (s : State) : Prop where
  shown : Shown getTime s
  recorded : Recorded s.server
  computed : AllComputed s.server
  summaries : s.summaryFeed.Reads (summaries s.server.published)
  changes : s.changeFeed.Reads (deltas s.server.published)

theorem Reads.forget {α : Type} {source : List α} {feed : Feed α queueMax}
    (reads : feed.Reads source) : (forget feed).Reads source :=
  reads.of_step (.forget feed)

theorem Inv.step {s s' : State} {label : Label} (inv : Inv getTime s)
    (step : Step conv getTime s label s') : Inv getTime s' where
  shown := inv.shown.step step
  recorded := by
    cases step with
    | server event server step => exact inv.recorded.step step
    | _ => exact inv.recorded
  computed := by
    cases step with
    | server event server step => exact inv.computed.step step
    | _ => exact inv.computed
  summaries := by
    cases step with
    | server event server step =>
        obtain ⟨more, said⟩ := published_step step
        rw [said, summaries_append]
        exact inv.summaries.said _
    | summary event feed kept step => exact inv.summaries.of_step step
    | change event feed kept step => exact inv.summaries
    | mount => exact Reads.forget inv.summaries
  changes := by
    cases step with
    | server event server step =>
        obtain ⟨more, said⟩ := published_step step
        rw [said, deltas_append]
        exact inv.changes.said _
    | summary event feed kept step => exact inv.changes
    | change event feed kept step => exact inv.changes.of_step step
    | mount => exact Reads.forget inv.changes

theorem reachable_inv {s : State} (reach : (fleetPage conv getTime).Reachable s) :
    Inv getTime s := by
  refine reach.invariant ?_ (fun s label s' inv step => inv.step step)
  rintro ⟨server, summaryFeed, changeFeed, slice⟩ ⟨server', rfl, rfl, rfl⟩
  obtain rfl := server'
  exact
    { shown := rfl
      recorded := ⟨fun _ => List.Sublist.refl _, fun _ => rfl⟩
      computed := ⟨by simp [summaries], by simp⟩
      summaries := .start
      changes := .start }

/-! ## In every run -/

theorem mem_changes {α : Type} [DecidableEq α] {l : List α} {p : α × α}
    (mem : p ∈ Lib.changes l) : p.2 ∈ l := by
  induction l using List.reverseRecOn with
  | nil => cases mem
  | append_singleton l b ih =>
      rw [changes_concat, List.mem_append] at mem
      rcases mem with before | last
      · exact List.mem_append_left _ (ih before)
      · unfold changeTo at last
        split at last
        case h_1 a found =>
          split at last
          case isTrue => cases last
          case isFalse =>
            obtain rfl := List.mem_singleton.mp last
            exact List.mem_append_right _ (List.mem_singleton_self b)
        case h_2 => cases last

theorem mem_history {loco category : String} {filed : List (String × String)}
    (mem : category ∈ history loco filed) : (loco, category) ∈ filed := by
  obtain ⟨⟨loco', category'⟩, e_mem, rfl⟩ := List.mem_map.mp mem
  obtain ⟨in_filed, own⟩ := List.mem_filter.mp e_mem
  obtain rfl : loco' = loco := by simpa using own
  exact in_filed

theorem mem_steps {loco : String} {changes : List Change} {c : Change} (mem : c ∈ changes)
    (own : c.locomotiveId = loco) : (c.oldCategory, c.newCategory) ∈ steps loco changes := by
  refine List.mem_map.mpr ⟨c, List.mem_filter.mpr ⟨mem, ?_⟩, rfl⟩
  simp [own]

/-- What the page has been told, and what it shows. -/
structure Follows (getTime : Datetime → Int) (s : State) : Prop where
  shown : s.slice = FleetState.stateOf getTime s.summaryFeed.arrived.getLast?
    s.changeFeed.arrived.flatten
  changes : ∀ loco, (steps loco s.changeFeed.arrived.flatten).Sublist
    (Lib.changes (history loco s.server.filed))
  marked : ∀ loco m, s.slice.locomotiveStates.get? loco = some m →
    (loco, m.category) ∈ s.server.filed
  summaries : s.summaryFeed.arrived.Sublist (summaries s.server.published)
  addsUp : s.slice.categories.norma + s.slice.categories.vnimanie +
    s.slice.categories.kritichno = s.slice.fleetSize
  worst : s.slice.worst10.length = min 10 s.slice.fleetSize

theorem length_worst10 (agg : FleetAggregator) (now : Datetime) :
    (agg.computeSummary now).worst10.length = min 10 (agg.computeSummary now).fleetSize := by
  simp [FleetAggregator.computeSummary]

theorem Inv.last_computed {s : State} (inv : Inv getTime s) {summary : Summary}
    (last : s.summaryFeed.arrived.getLast? = some summary) : Computed summary :=
  inv.computed.published summary (inv.summaries.arrived.subset (List.mem_of_getLast? last))

theorem Inv.follows {s : State} (inv : Inv getTime s) : Follows getTime s := by
  have changes (loco : String) : (steps loco s.changeFeed.arrived.flatten).Sublist
      (Lib.changes (history loco s.server.filed)) := by
    have told' : s.changeFeed.arrived.flatten.Sublist (told s.server.published) :=
      told_eq s.server.published ▸ inv.changes.arrived.flatten
    refine List.Sublist.trans ?_ (inv.recorded.some' loco)
    rw [steps_append, steps_append, List.append_assoc]
    exact ((told'.filter _).map _).trans (List.sublist_append_left _ _)
  refine ⟨inv.shown, changes, ?_, inv.summaries.arrived, ?_, ?_⟩
  · intro loco m found
    have shown : (FleetState.markers getTime s.changeFeed.arrived.flatten).get? loco = some m := by
      rw [← found, inv.shown]
      rfl
    rw [FleetState.get?_markers] at shown
    obtain ⟨c, last, rfl⟩ := Option.map_eq_some_iff.mp shown
    obtain ⟨mem, own⟩ := List.mem_filter.mp (List.mem_of_getLast? last)
    have step := (changes loco).subset (mem_steps mem (by simpa using own))
    exact mem_history (mem_changes step)
  · rw [inv.shown]
    cases last : s.summaryFeed.arrived.getLast? with
    | none => rfl
    | some summary =>
        obtain ⟨agg, now, rfl⟩ := inv.last_computed last
        exact agg.computeSummary_categories now
  · rw [inv.shown]
    cases last : s.summaryFeed.arrived.getLast? with
    | none => rfl
    | some summary =>
        obtain ⟨agg, now, rfl⟩ := inv.last_computed last
        exact length_worst10 agg now

theorem arrived_step {s s' : State} {label : Label} (step : Step conv getTime s label s')
    (open' : label ≠ .mount) : s.changeFeed.arrived <+: s'.changeFeed.arrived ∧
      s.summaryFeed.arrived <+: s'.summaryFeed.arrived := by
  cases step with
  | server event server step => exact ⟨List.prefix_refl _, List.prefix_refl _⟩
  | summary event feed kept step =>
      refine ⟨List.prefix_refl _, ?_⟩
      rcases Feed.handle_arrived (FleetState.fleetSummaryUpdated getTime) s.slice step kept with
        ⟨arrived, -⟩ | ⟨x, arrived, -⟩
      · exact arrived ▸ List.prefix_refl _
      · exact arrived ▸ List.prefix_append _ _
  | change event feed kept step =>
      refine ⟨?_, List.prefix_refl _⟩
      rcases Feed.handle_arrived (FleetState.fleetChangesReceived getTime) s.slice step kept with
        ⟨arrived, -⟩ | ⟨x, arrived, -⟩
      · exact arrived ▸ List.prefix_refl _
      · exact arrived ▸ List.prefix_append _ _
  | mount => exact absurd rfl open'

/-- **The page follows the fleet.**  In every run, whatever rounds fail, whatever the relay
misses or drops and whenever the connection breaks or the page is opened again: what the page
has been told of a locomotive is a subsequence of the changes of its category, its marker is
that of the last, and the numbers are those of a published summary and add up; while the page
stays open what it has been told only gets longer. -/
theorem markers_follow {s : State} (reach : (fleetPage conv getTime).Reachable s) :
    Follows getTime s ∧ ∀ t labels, (fleetPage conv getTime).Run s labels t →
      Label.mount ∉ labels → s.changeFeed.arrived <+: t.changeFeed.arrived ∧
        s.summaryFeed.arrived <+: t.summaryFeed.arrived := by
  refine ⟨(reachable_inv reach).follows, ?_⟩
  intro t labels run open'
  refine run.invariant (I := fun u => s.changeFeed.arrived <+: u.changeFeed.arrived ∧
    s.summaryFeed.arrived <+: u.summaryFeed.arrived)
    ⟨List.prefix_refl _, List.prefix_refl _⟩ ?_
  intro u label v mem before step
  have later := arrived_step step fun same => open' (same ▸ mem)
  exact ⟨before.1.trans later.1, before.2.trans later.2⟩

/-! ## Where nothing is lost -/

/-- No round loses what it has drained, no frame is missed, dropped or lost, and the page stays
open. -/
def Undisturbed (s : State) : Label → Prop
  | .server event => Harmless s.server event
  | .summary event => s.summaryFeed.Undisturbed event
  | .change event => s.changeFeed.Undisturbed event
  | .mount => False

structure Faithful (s : State) : Prop where
  server : Analytics.Inv s.server
  summaries : s.summaryFeed.Exact (summaries s.server.published)
  changes : s.changeFeed.Exact (deltas s.server.published)

theorem Faithful.step {s s' : State} {label : Label} (faithful : Faithful s)
    (step : Step conv getTime s label s') (undisturbed : Undisturbed s label) : Faithful s' := by
  cases step with
  | server event server step =>
      obtain ⟨more, said⟩ := published_step step
      refine ⟨faithful.server.step step undisturbed, ?_, ?_⟩
      · rw [said, summaries_append]
        exact faithful.summaries.said _
      · rw [said, deltas_append]
        exact faithful.changes.said _
  | summary event feed kept step =>
      exact ⟨faithful.server, faithful.summaries.of_step step undisturbed, faithful.changes⟩
  | change event feed kept step =>
      exact ⟨faithful.server, faithful.summaries, faithful.changes.of_step step undisturbed⟩
  | mount => exact undisturbed.elim

/-- Nothing is on its way. -/
structure CaughtUp (s : State) : Prop where
  idle : s.server.executing = none
  published : s.server.agg.changes = []
  summaries : s.summaryFeed.CaughtUp (summaries s.server.published)
  changes : s.changeFeed.CaughtUp (deltas s.server.published)

structure Mirrors (getTime : Datetime → Int) (s : State) : Prop where
  marked : ∀ loco m, s.slice.locomotiveStates.get? loco = some m →
    ∃ state, s.server.agg.fleet.get? loco = some state ∧ state.category = m.category
  unmarked : ∀ loco, s.slice.locomotiveStates.get? loco = none →
    Lib.changes (history loco s.server.filed) = []
  numbers : ∀ summary, (summaries s.server.published).getLast? = some summary →
    s.slice.fleetSummaryUpdated getTime summary = s.slice

theorem getLast?_steps (loco : String) (changes : List Change) :
    (steps loco changes).getLast?.map Prod.snd =
      (changes.filter fun c => c.locomotiveId == loco).getLast?.map Change.newCategory := by
  rw [steps, List.getLast?_map, Option.map_map]
  rfl

theorem Faithful.mirrors {s : State} (faithful : Faithful s) (shown : Shown getTime s)
    (caughtUp : CaughtUp s) : Mirrors getTime s := by
  have exact' := faithful.server.exact_of_idle caughtUp.idle
  have all (loco : String) : steps loco s.changeFeed.arrived.flatten =
      Lib.changes (history loco s.server.filed) := by
    rw [faithful.changes.caughtUp caughtUp.changes, ← told_eq, ← exact'.all,
      caughtUp.published, List.append_nil]
  have states : s.slice.locomotiveStates =
      FleetState.markers getTime s.changeFeed.arrived.flatten := congrArg _ shown
  refine ⟨?_, ?_, ?_⟩
  · intro loco m found
    rw [states, FleetState.get?_markers] at found
    obtain ⟨c, last, rfl⟩ := Option.map_eq_some_iff.mp found
    have category := getLast?_steps loco s.changeFeed.arrived.flatten
    rw [last, all] at category
    obtain ⟨p, last', same⟩ := Option.map_eq_some_iff.mp category
    rw [← exact'.all] at last'
    obtain ⟨state, here, current⟩ := exact'.current loco p last'
    exact ⟨state, here, current.trans same⟩
  · intro loco absent
    rw [states, FleetState.get?_markers, Option.map_eq_none_iff, List.getLast?_eq_none_iff]
      at absent
    rw [← all, steps, absent, List.map_nil]
  · intro summary last
    rw [← faithful.summaries.caughtUp caughtUp.summaries] at last
    rw [shown, last, FleetState.fleetSummaryUpdated_stateOf]

/-- **The page mirrors the fleet.**  In every run that loses nothing, once all that was
published has arrived: a marker shows the category its locomotive has, a locomotive without a
marker has never changed its category, and the numbers are those of the last summary. -/
theorem fleet_mirror {s : State}
    (reach : ((fleetPage conv getTime).where' Undisturbed).Reachable s) (caughtUp : CaughtUp s) :
    Mirrors getTime s := by
  have both : Faithful s ∧ Shown getTime s := by
    refine reach.invariant (I := fun s => Faithful s ∧ Shown getTime s) ?_ ?_
    · rintro ⟨server, summaryFeed, changeFeed, slice⟩ ⟨server', rfl, rfl, rfl⟩
      obtain rfl := server'
      exact ⟨⟨⟨fun _ => rfl, fun _ => rfl⟩, .start, .start⟩, rfl⟩
    · rintro s label s' ⟨faithful, shown⟩ ⟨undisturbed, step⟩
      exact ⟨faithful.step step undisturbed, shown.step step⟩
  exact both.1.mirrors both.2 caughtUp

/-! ## One change -/

/-- Milliseconds. -/
def millis (time : Datetime) : Int := time / 1000

abbrev sample : System State Label := fleetPage plainConversions millis

abbrev attentive : System State Label := sample.where' Undisturbed

/-- A locomotive gets worse, and the page is told. -/
theorem change_arrived : ∃ s, attentive.Reachable s ∧ CaughtUp s ∧
    s.slice.locomotiveStates.get? "a" = some ⟨70, "Внимание", "TE33A", 1⟩ := by
  have initial : attentive.Reachable
      ⟨⟨⟨Dict.empty, []⟩, none, [], []⟩, .start, .start, .initial⟩ := .init ⟨rfl, rfl, rfl, rfl⟩
  have filed := initial.guarded
    (.server _ _ _ (.message _ (healthMessage "a" "Норма" 90) 0)) trivial
  have filed := filed.guarded
    (.server _ _ _ (.message _ (healthMessage "a" "Внимание" 70) 1000)) trivial
  have round := filed.guarded (.server _ _ _ (.round _ 2000 rfl (by decide))) trivial
  have executed := round.guarded (.server _ _ _ (.executed _ _ _ rfl)) trivial
  have heard := executed.guarded (.summary _ _ _ (by decide) (.heard _ _ rfl))
    ⟨rfl, by decide⟩
  have sent := heard.guarded (.summary _ _ _ (by decide) (.send _ _ _ rfl)) trivial
  have shown := sent.guarded (.summary _ _ _ (by decide) (.arrive _ _ _ rfl)) trivial
  have heard := shown.guarded (.change _ _ _ (by decide) (.heard _ _ rfl)) ⟨rfl, by decide⟩
  have sent := heard.guarded (.change _ _ _ (by decide) (.send _ _ _ rfl)) trivial
  have marked := sent.guarded (.change _ _ _ (by decide) (.arrive _ _ _ rfl)) trivial
  exact ⟨_, marked, ⟨rfl, rfl, ⟨rfl, rfl, rfl⟩, ⟨rfl, rfl, rfl⟩⟩, by decide⟩

theorem fleet_mirror_change : ∃ s, attentive.Reachable s ∧
    s.slice.locomotiveStates.get? "a" = some ⟨70, "Внимание", "TE33A", 1⟩ ∧
    Mirrors millis s := by
  obtain ⟨s, reach, caughtUp, marked⟩ := change_arrived
  exact ⟨s, reach, marked, fleet_mirror reach caughtUp⟩

/-- The listener is away for the first change, and hears the second. -/
theorem markers_follow_missed : ∃ s, sample.Reachable s ∧
    s.slice.locomotiveStates.get? "a" = some ⟨40, "Критично", "TE33A", 3⟩ ∧
    told s.server.published ≠ s.changeFeed.arrived.flatten ∧
    Follows millis s ∧ ∀ t labels, sample.Run s labels t → Label.mount ∉ labels →
      s.changeFeed.arrived <+: t.changeFeed.arrived ∧
        s.summaryFeed.arrived <+: t.summaryFeed.arrived := by
  have initial : sample.Reachable
      ⟨⟨⟨Dict.empty, []⟩, none, [], []⟩, .start, .start, .initial⟩ := .init ⟨rfl, rfl, rfl, rfl⟩
  have filed := initial.step (.server _ _ _ (.message _ (healthMessage "a" "Норма" 90) 0))
  have filed := filed.step (.server _ _ _ (.message _ (healthMessage "a" "Внимание" 70) 1000))
  have round := filed.step (.server _ _ _ (.round _ 2000 rfl (by decide)))
  have executed := round.step (.server _ _ _ (.executed _ _ _ rfl))
  have missed := executed.step (.change _ _ _ (by decide) (.missed _ _ rfl))
  have filed := missed.step (.server _ _ _ (.message _ (healthMessage "a" "Критично" 40) 3000))
  have round := filed.step (.server _ _ _ (.round _ 4000 rfl (by decide)))
  have executed := round.step (.server _ _ _ (.executed _ _ _ rfl))
  have heard := executed.step (.change _ _ _ (by decide) (.heard _ _ rfl))
  have sent := heard.step (.change _ _ _ (by decide) (.send _ _ _ rfl))
  have marked := sent.step (.change _ _ _ (by decide) (.arrive _ _ _ rfl))
  exact ⟨_, marked, by decide, by decide, markers_follow marked⟩

end LocoTwin.FleetMirror
