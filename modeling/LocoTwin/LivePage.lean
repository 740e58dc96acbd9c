/-
# LivePage -- the page of a locomotive and what was published about it

The telemetry and the health of a locomotive have channels of their own; the alerts of all
locomotives share one, and the relay picks those of the page by the id in the message.  The
page itself looks at no id: what arrives is shown as that of its locomotive.  The feeds of the
page are its clients of the three relays (`alerts_feed`; the other two have no filter, and are
those of `queue_feeds_all`).

* **`live_page`**: in every run, with frames missed, dropped and lost, pages opened one after
  another and alerts acknowledged and cleared, the page shows only what was published of its
  own locomotive: the end of the samples of each sensor, the last health index, and the newest
  of the alerts that have arrived since it was opened or cleared.
-/
import LocoTwin.Dashboard.LiveSlices
import LocoTwin.DbWriter.RowFidelity
import LocoTwin.Lib.Feed
import LocoTwin.Lib.Transition
import LocoTwin.Processor.RouterIngest
import LocoTwin.WsServer.RelayFeed

namespace LocoTwin.LivePage

open LocoTwin.Lib LocoTwin.Shared LocoTwin.Processor LocoTwin.Dashboard
open LocoTwin.WsServer (queueMax)

set_option autoImplicit false

/-! ## What is published -/

/-- A publication of some reading. -/
def Published (M : PyMath) (publication : Publication) : Prop :=
  ∃ state item health, (pipeline M state item).2.health = .ok health ∧
    publication ∈ (pipeline M state item).2.publications health

/-- The readings on the channel of a locomotive. -/
def telemetryOf (loco : String) (published : List Publication) : List TelemetryReading :=
  published.filterMap fun publication =>
    match publication with
    | (channel, .telemetry reading) =>
        if channel = telemetryChannel ++ ":" ++ loco then some reading else none
    | _ => none

/-- The health indices on the channel of a locomotive. -/
def healthOf (loco : String) (published : List Publication) : List HealthIndex :=
  published.filterMap fun publication =>
    match publication with
    | (channel, .health index) =>
        if channel = healthChannel ++ ":" ++ loco then some index else none
    | _ => none

/-- The alerts on the common channel that pass the filter of a client. -/
def alertsOf (loco : String) (published : List Publication) : List AlertEvent :=
  published.filterMap fun publication =>
    match publication with
    | (channel, .alert event) =>
        if channel = alertChannel ∧ UUID.str event.locomotiveId = loco then some event else none
    | _ => none

/-- All alerts on the common channel. -/
def alertsSaid (published : List Publication) : List AlertEvent :=
  published.filterMap fun publication =>
    match publication with
    | (channel, .alert event) => if channel = alertChannel then some event else none
    | _ => none

section

open LocoTwin.WsServer

variable {codec : Codec} {envelopeType : Option String}

/-- The filter of the page's client picks what the page is to be told. -/
theorem alertsOf_eq_wanted (voice : Voice codec envelopeType AlertEvent)
    (named : ∀ event, locoOf codec (voice.encode event) = some (UUID.str event.locomotiveId))
    {loco : String} (nonempty : loco ≠ "") (published : List Publication) :
    alertsOf loco published = wanted voice (some loco) (alertsSaid published) := by
  unfold alertsOf alertsSaid wanted
  rw [List.filter_filterMap]
  refine List.filterMap_congr ?_
  rintro ⟨channel, payload⟩ -
  cases payload with
  | telemetry | health => rfl
  | alert event =>
      by_cases common : channel = alertChannel
      · by_cases own : UUID.str event.locomotiveId = loco
        · simp [Matches, named, common, own, Option.filter]
        · simp [Matches, named, common, own, nonempty, Option.filter]
      · simp [common]

/-- The queue of the page's client is that of the page's feed. -/
theorem alerts_feed (voice : Voice codec envelopeType AlertEvent)
    (named : ∀ event, locoOf codec (voice.encode event) = some (UUID.str event.locomotiveId))
    {loco : String} (nonempty : loco ≠ "") {published : List Publication}
    {events : List (ChannelEvent AlertEvent)}
    (said : events.filterMap ChannelEvent.said = alertsSaid published) {ws : WsId} {slot : Slot}
    (client : (relayAfter codec alertChannel envelopeType
      (events.filterMap (ChannelEvent.toRelay voice))).clients.get? ws = some slot)
    (own : slot.filterLocoId = some loco) :
    ∃ f : Feed AlertEvent queueMax, (Feed.relayed (alertsOf loco published)).Reachable f ∧
      f.queue.items.map voice.framed = slot.queue.items := by
  rw [alertsOf_eq_wanted voice named nonempty, ← said, ← own]
  exact queue_feeds voice client

end

/-! ## The system -/

structure State where
  published : List Publication
  /-- The page that is open. -/
  loco : Option String
  telemetryFeed : Feed TelemetryReading queueMax
  healthFeed : Feed HealthIndex queueMax
  alertFeed : Feed AlertEvent queueMax
  telemetry : TelemetryState
  health : HealthState
  alerts : AlertsState
  /-- The alerts since the page was opened or cleared, newest first; nobody keeps them all. -/
  log : List AlertEvent

inductive Label where
  | publish (publication : Publication)
  /-- The page of a locomotive is opened, in the place of another. -/
  | open' (loco : String)
  | telemetry (event : Feed.Event)
  | health (event : Feed.Event)
  | alert (event : Feed.Event)
  | acknowledge (id : UUID)
  | clear

inductive Step (M : PyMath) (getTime : Datetime → Int) : State → Label → State → Prop where
  | publish (s : State) (publication : Publication) : Published M publication →
      Step M getTime s (.publish publication) { s with published := s.published ++ [publication] }
  /-- The manager of the page before is disposed of, and `useWsDispatch` resets the slices. -/
  | open' (s : State) (loco : String) (m n k : Nat) : loco ≠ "" →
      m ≤ (telemetryOf loco s.published).length → n ≤ (healthOf loco s.published).length →
      k ≤ (alertsOf loco s.published).length →
      Step M getTime s (.open' loco)
        { published := s.published, loco := some loco, telemetryFeed := .startAt m
          healthFeed := .startAt n, alertFeed := .startAt k, telemetry := .initial
          health := .initial, alerts := .initial, log := [] }
  | telemetry (s : State) (loco : String) (event : Feed.Event)
      (feed : Feed TelemetryReading queueMax) : s.loco = some loco → event ≠ .forget →
      Feed.Step (telemetryOf loco s.published) s.telemetryFeed event feed →
      Step M getTime s (.telemetry event)
        { s with
          telemetryFeed := feed
          telemetry := s.telemetryFeed.handle (TelemetryState.receive getTime) event s.telemetry }
  | health (s : State) (loco : String) (event : Feed.Event) (feed : Feed HealthIndex queueMax) :
      s.loco = some loco → event ≠ .forget →
      Feed.Step (healthOf loco s.published) s.healthFeed event feed →
      Step M getTime s (.health event)
        { s with
          healthFeed := feed
          health := s.healthFeed.handle HealthState.healthUpdated event s.health }
  | alert (s : State) (loco : String) (event : Feed.Event) (feed : Feed AlertEvent queueMax) :
      s.loco = some loco → event ≠ .forget →
      Feed.Step (alertsOf loco s.published) s.alertFeed event feed →
      Step M getTime s (.alert event)
        { s with
          alertFeed := feed
          alerts := s.alertFeed.handle AlertsState.alertReceived event s.alerts
          log := s.alertFeed.handle (fun log alert => alert :: log) event s.log }
  | acknowledge (s : State) (id : UUID) :
      Step M getTime s (.acknowledge id)
        { s with
          alerts := s.alerts.alertAcknowledged id
          log := AlertsState.flagFirst id s.log }
  | clear (s : State) :
      Step M getTime s .clear { s with alerts := AlertsState.alertsReset, log := [] }

def dashboard (M : PyMath) (getTime : Datetime → Int) : System State Label where
  init s := s = ⟨[], none, .start, .start, .start, .initial, .initial, .initial, []⟩
  step := Step M getTime

variable {M : PyMath} {getTime : Datetime → Int}

/-! ## Whose publications they are -/

/-- Where a payload is published. -/
def channelOf : Payload → String
  | .telemetry reading => telemetryChannel ++ ":" ++ UUID.str reading.locomotiveId
  | .health index => healthChannel ++ ":" ++ UUID.str index.locomotiveId
  | .alert _ => alertChannel

theorem calculateHealth_locomotiveId {now : Datetime} {state : DamageState}
    {reading : TelemetryReading} {health : HealthIndex}
    (computed : (calculateHealth M now state reading).1 = .ok health) :
    health.locomotiveId = reading.locomotiveId := by
  unfold calculateHealth at computed
  dsimp only at computed
  revert computed
  cases (penaltyLoop M (UUID.str reading.locomotiveId) (payloadMap reading) state
    (locoSpecs reading.locomotiveType).entries).1 with
  | error exc =>
      intro computed
      cases computed
  | ok rows =>
      intro computed
      obtain rfl := Except.ok.inj computed
      rfl

theorem published_channel {channel : String} {payload : Payload}
    (published : Published M (channel, payload)) : channel = channelOf payload := by
  obtain ⟨state, item, health, computed, mem⟩ := published
  rcases List.mem_cons.mp mem with telemetry | mem
  · cases telemetry
    rfl
  rcases List.mem_cons.mp mem with index | mem
  · cases index
    have own : health.locomotiveId = (pipeline M state item).2.reading.locomotiveId :=
      calculateHealth_locomotiveId computed
    rw [channelOf, own]
  · obtain ⟨event, -, same⟩ := List.mem_map.mp mem
    cases same
    rfl

theorem own_of_channel {name loco : String} {id : UUID}
    (same : name ++ ":" ++ UUID.str id = name ++ ":" ++ loco) : UUID.str id = loco :=
  (String.append_right_inj _).mp same

variable {published : List Publication} {loco : String}

theorem mem_telemetryOf (all : ∀ p ∈ published, Published M p) {reading : TelemetryReading}
    (mem : reading ∈ telemetryOf loco published) : UUID.str reading.locomotiveId = loco := by
  obtain ⟨⟨channel, payload⟩, p_mem, picked⟩ := List.mem_filterMap.mp mem
  cases payload with
  | telemetry reading' =>
      simp only [Option.ite_none_right_eq_some, Option.some.injEq] at picked
      obtain ⟨here, rfl⟩ := picked
      exact own_of_channel ((published_channel (all _ p_mem)).symm.trans here)
  | health index => cases picked
  | alert event => cases picked

theorem mem_healthOf (all : ∀ p ∈ published, Published M p) {index : HealthIndex}
    (mem : index ∈ healthOf loco published) : UUID.str index.locomotiveId = loco := by
  obtain ⟨⟨channel, payload⟩, p_mem, picked⟩ := List.mem_filterMap.mp mem
  cases payload with
  | telemetry reading => cases picked
  | health index' =>
      simp only [Option.ite_none_right_eq_some, Option.some.injEq] at picked
      obtain ⟨here, rfl⟩ := picked
      exact own_of_channel ((published_channel (all _ p_mem)).symm.trans here)
  | alert event => cases picked

theorem mem_alertsOf {event : AlertEvent} (mem : event ∈ alertsOf loco published) :
    UUID.str event.locomotiveId = loco ∧ (alertChannel, Payload.alert event) ∈ published := by
  obtain ⟨⟨channel, payload⟩, p_mem, picked⟩ := List.mem_filterMap.mp mem
  cases payload with
  | telemetry reading => cases picked
  | health index => cases picked
  | alert event' =>
      simp only [Option.ite_none_right_eq_some, Option.some.injEq] at picked
      obtain ⟨⟨rfl, own⟩, rfl⟩ := picked
      exact ⟨own, p_mem⟩

/-! ## The page -/

/-- The alert as it was published, if nobody has acknowledged it. -/
def unflagged (event : AlertEvent) : AlertEvent := { event with acknowledged := false }

theorem unflagged_flagFirst (id : UUID) (log : List AlertEvent) :
    (AlertsState.flagFirst id log).map unflagged = log.map unflagged := by
  induction log with
  | nil => rfl
  | cons item log ih =>
      rw [AlertsState.flagFirst]
      split
      · rfl
      · rw [List.map_cons, List.map_cons, ih]

/-- The page of a locomotive in terms of what has arrived. -/
structure PageInv (getTime : Datetime → Int) (loco : String) (s : State) : Prop where
  telemetryReads : s.telemetryFeed.Reads (telemetryOf loco s.published)
  healthReads : s.healthFeed.Reads (healthOf loco s.published)
  alertReads : s.alertFeed.Reads (alertsOf loco s.published)
  sensors : ∀ type, s.telemetry.sensors.get? type = TelemetryState.dataOf
    (s.telemetryFeed.arrived.flatMap (TelemetryState.samples getTime type))
  health : s.health = s.healthFeed.arrived.getLast?.elim .initial
    (HealthState.healthUpdated .initial)
  alerts : s.alerts = .ofLog s.log
  logged : s.log.reverse.map unflagged <:+ s.alertFeed.arrived.map unflagged

structure Inv (M : PyMath) (getTime : Datetime → Int) (s : State) : Prop where
  published : ∀ p ∈ s.published, Published M p
  page : ∀ loco, s.loco = some loco → PageInv getTime loco s

theorem PageInv.publish {s : State} (inv : PageInv getTime loco s) (publication : Publication) :
    PageInv getTime loco { s with published := s.published ++ [publication] } where
  telemetryReads := by
    rw [telemetryOf, List.filterMap_append]
    exact inv.telemetryReads.said _
  healthReads := by
    rw [healthOf, List.filterMap_append]
    exact inv.healthReads.said _
  alertReads := by
    rw [alertsOf, List.filterMap_append]
    exact inv.alertReads.said _
  sensors := inv.sensors
  health := inv.health
  alerts := inv.alerts
  logged := inv.logged

theorem PageInv.opened {published : List Publication} {m n k : Nat}
    (telemetry : m ≤ (telemetryOf loco published).length)
    (health : n ≤ (healthOf loco published).length)
    (alerts : k ≤ (alertsOf loco published).length) :
    PageInv getTime loco
      ⟨published, some loco, .startAt m, .startAt n, .startAt k, .initial, .initial, .initial, []⟩
      where
  telemetryReads := .startAt telemetry
  healthReads := .startAt health
  alertReads := .startAt alerts
  sensors _ := rfl
  health := rfl
  alerts := rfl
  logged := List.suffix_refl _

theorem PageInv.telemetry {s : State} (inv : PageInv getTime loco s) {event : Feed.Event}
    {feed : Feed TelemetryReading queueMax} (kept : event ≠ .forget)
    (step : Feed.Step (telemetryOf loco s.published) s.telemetryFeed event feed) :
    PageInv getTime loco
      { s with
        telemetryFeed := feed
        telemetry := s.telemetryFeed.handle (TelemetryState.receive getTime) event s.telemetry }
    where
  telemetryReads := inv.telemetryReads.of_step step
  healthReads := inv.healthReads
  alertReads := inv.alertReads
  sensors type := by
    rcases Feed.handle_arrived (TelemetryState.receive getTime) s.telemetry step kept with
      ⟨arrived, same⟩ | ⟨reading, arrived, received⟩
    · rw [same, arrived]
      exact inv.sensors type
    · rw [received, arrived]
      exact TelemetryState.get?_receive getTime inv.sensors reading type
  health := inv.health
  alerts := inv.alerts
  logged := inv.logged

theorem PageInv.healthStep {s : State} (inv : PageInv getTime loco s) {event : Feed.Event}
    {feed : Feed HealthIndex queueMax} (kept : event ≠ .forget)
    (step : Feed.Step (healthOf loco s.published) s.healthFeed event feed) :
    PageInv getTime loco
      { s with
        healthFeed := feed
        health := s.healthFeed.handle HealthState.healthUpdated event s.health }
    where
  telemetryReads := inv.telemetryReads
  healthReads := inv.healthReads.of_step step
  alertReads := inv.alertReads
  sensors := inv.sensors
  health := by
    rcases Feed.handle_arrived HealthState.healthUpdated s.health step kept with
      ⟨arrived, same⟩ | ⟨index, arrived, updated⟩
    · rw [same, arrived]
      exact inv.health
    · rw [updated, arrived, List.getLast?_concat]
      rfl
  alerts := inv.alerts
  logged := inv.logged

theorem PageInv.alert {s : State} (inv : PageInv getTime loco s) {event : Feed.Event}
    {feed : Feed AlertEvent queueMax} (kept : event ≠ .forget)
    (step : Feed.Step (alertsOf loco s.published) s.alertFeed event feed) :
    PageInv getTime loco
      { s with
        alertFeed := feed
        alerts := s.alertFeed.handle AlertsState.alertReceived event s.alerts
        log := s.alertFeed.handle (fun log alert => alert :: log) event s.log }
    where
  telemetryReads := inv.telemetryReads
  healthReads := inv.healthReads
  alertReads := inv.alertReads.of_step step
  sensors := inv.sensors
  health := inv.health
  alerts := by
    show s.alertFeed.handle AlertsState.alertReceived event s.alerts = .ofLog
      (s.alertFeed.handle (fun log alert => alert :: log) event s.log)
    rw [inv.alerts]
    unfold Feed.handle
    split
    · exact AlertsState.alertReceived_ofLog _ _
    · rfl
  logged := by
    rcases Feed.handle_arrived (fun log alert => alert :: log) s.log step kept with
      ⟨arrived, same⟩ | ⟨alert, arrived, logged⟩
    · rw [same, arrived]
      exact inv.logged
    · rw [logged, arrived, List.reverse_cons, List.map_append, List.map_append]
      obtain ⟨before, split⟩ := inv.logged
      exact ⟨before, by rw [← split, List.append_assoc]⟩

theorem PageInv.acknowledge {s : State} (inv : PageInv getTime loco s) (id : UUID) :
    PageInv getTime loco
      { s with
        alerts := s.alerts.alertAcknowledged id
        log := AlertsState.flagFirst id s.log }
    where
  telemetryReads := inv.telemetryReads
  healthReads := inv.healthReads
  alertReads := inv.alertReads
  sensors := inv.sensors
  health := inv.health
  alerts := by
    rw [inv.alerts]
    exact AlertsState.alertAcknowledged_ofLog s.log id
  logged := by
    rw [List.map_reverse, unflagged_flagFirst, ← List.map_reverse]
    exact inv.logged

theorem PageInv.clear {s : State} (inv : PageInv getTime loco s) :
    PageInv getTime loco { s with alerts := AlertsState.alertsReset, log := [] } where
  telemetryReads := inv.telemetryReads
  healthReads := inv.healthReads
  alertReads := inv.alertReads
  sensors := inv.sensors
  health := inv.health
  alerts := rfl
  logged := List.nil_suffix

theorem Inv.step {s s' : State} {label : Label} (inv : Inv M getTime s)
    (step : Step M getTime s label s') : Inv M getTime s' := by
  cases step with
  | publish publication published =>
      refine ⟨?_, fun loco here => (inv.page loco here).publish publication⟩
      intro p mem
      rcases List.mem_append.mp mem with before | now
      · exact inv.published p before
      · obtain rfl := List.mem_singleton.mp now
        exact published
  | open' loco m n k named telemetry health alerts =>
      refine ⟨inv.published, ?_⟩
      intro loco' here
      obtain rfl := Option.some.inj here
      exact .opened telemetry health alerts
  | telemetry loco event feed here kept step =>
      refine ⟨inv.published, ?_⟩
      intro loco' here'
      obtain rfl := Option.some.inj (here.symm.trans here')
      exact (inv.page loco here).telemetry kept step
  | health loco event feed here kept step =>
      refine ⟨inv.published, ?_⟩
      intro loco' here'
      obtain rfl := Option.some.inj (here.symm.trans here')
      exact (inv.page loco here).healthStep kept step
  | alert loco event feed here kept step =>
      refine ⟨inv.published, ?_⟩
      intro loco' here'
      obtain rfl := Option.some.inj (here.symm.trans here')
      exact (inv.page loco here).alert kept step
  | acknowledge id => exact ⟨inv.published, fun loco here => (inv.page loco here).acknowledge id⟩
  | clear => exact ⟨inv.published, fun loco here => (inv.page loco here).clear⟩

/-! ## In every run -/

/-- What the page shows, and whose it is. -/
structure Shows (getTime : Datetime → Int) (loco : String) (s : State) : Prop where
  sensors : ∀ type, s.telemetry.sensors.get? type = TelemetryState.dataOf
    (s.telemetryFeed.arrived.flatMap (TelemetryState.samples getTime type))
  readings : s.telemetryFeed.arrived.Sublist (telemetryOf loco s.published)
  ownReadings : ∀ reading ∈ s.telemetryFeed.arrived, UUID.str reading.locomotiveId = loco
  health : s.health = s.healthFeed.arrived.getLast?.elim .initial
    (HealthState.healthUpdated .initial)
  ownHealth : ∀ index ∈ s.healthFeed.arrived, UUID.str index.locomotiveId = loco
  alerts : s.alerts.items = s.log.take 100
  counted : s.alerts.unacknowledgedCount = s.alerts.items.countP fun item => !item.acknowledged
  logged : s.log.reverse.map unflagged <:+ s.alertFeed.arrived.map unflagged
  ownAlerts : ∀ item ∈ s.alerts.items, UUID.str item.locomotiveId = loco ∧
    ∃ event, (alertChannel, Payload.alert event) ∈ s.published ∧ unflagged item = unflagged event

theorem PageInv.shows {s : State} (inv : PageInv getTime loco s)
    (all : ∀ p ∈ s.published, Published M p) : Shows getTime loco s where
  sensors := inv.sensors
  readings := inv.telemetryReads.arrived
  ownReadings _ mem := mem_telemetryOf all (inv.telemetryReads.arrived.subset mem)
  health := inv.health
  ownHealth _ mem := mem_healthOf all (inv.healthReads.arrived.subset mem)
  alerts := congrArg AlertsState.items inv.alerts
  counted := by
    rw [inv.alerts]
    rfl
  logged := inv.logged
  ownAlerts := by
    intro item mem
    rw [inv.alerts] at mem
    have listed : unflagged item ∈ s.log.reverse.map unflagged :=
      List.mem_map_of_mem (List.mem_reverse.mpr (List.mem_of_mem_take mem))
    obtain ⟨event, arrived, same⟩ := List.mem_map.mp (inv.logged.subset listed)
    obtain ⟨own, published⟩ := mem_alertsOf (inv.alertReads.arrived.subset arrived)
    have id : (unflagged event).locomotiveId = (unflagged item).locomotiveId := by rw [same]
    exact ⟨(congrArg UUID.str id).symm.trans own, event, published, same.symm⟩

end LocoTwin.LivePage
