/-
# WsServer.Registry -- relays and connections agree

What a relay is worth is not its clients but its `settled` clients: those it has once
the calls that wait for its lock have run.  `Inv` is about these.  A connection that
subscribed to a channel is settled in the channel's relay; a relay the manager has let
go of has no settled client; a relay it holds has one, or a waiting call, or a waiting
`disconnect` that will drop it.

Two steps of a `disconnect` can break this: it drops the relay that stands under a
channel although another client has come in the meantime, and it takes its client out of
a channel the client has subscribed to again.  `Orderly` excludes exactly these steps
(`State.Inv.step_iff`); `registry_consistent` is about the runs without them, and
`orphaned_relay` is a run with the first.
-/
import LocoTwin.WsServer.ConnectionManager

namespace LocoTwin.WsServer

open LocoTwin.Lib

set_option autoImplicit false

/-! ## Statement -/

/-- No call is in progress. -/
structure Quiescent (s : State) : Prop where
  refusing : s.refusing = none
  waiting : s.waiting = []
  accepting : s.accepting = []
  closing : s.closing = []
  relays : ∀ relay ∈ s.manager.heap, relay.waiting = []

structure Consistent (m : ConnectionManager) : Prop where
  /-- A connection is a client of the relays of its channels. -/
  connected : ∀ ws channels, m.connections.get? ws = some channels → ∀ channel ∈ channels,
    ∃ r relay, m.relays.get? channel = some r ∧ m.heap[r]? = some relay ∧ ws ∈ relay.clients.keys
  nonempty : ∀ channel r, m.relays.get? channel = some r →
    ∃ relay, m.heap[r]? = some relay ∧ relay.clients.keys ≠ []
  /-- A relay that is not registered has no client and no listener. -/
  orphans : ∀ r relay, m.heap[r]? = some relay → (∀ channel, m.relays.get? channel ≠ some r) →
    relay.clients.keys = [] ∧ relay.listenerTask = false

/-! ## Settled clients -/

/-- What a waiting call will do to the clients. -/
def RelayCall.apply (clients : Dict WsId ClientSlot) : RelayCall → Dict WsId ClientSlot
  | .addClient ws filterLocoId => clients.set ws { filterLocoId }
  | .removeClient ws _ _ => clients.pop ws

/-- The clients once every waiting call has run. -/
def ChannelRelay.settled (relay : ChannelRelay) : Dict WsId ClientSlot :=
  relay.waiting.foldl RelayCall.apply relay.clients

/-- No client of the channel's relay will be left, with the calls that wait run. -/
def Unused (m : ConnectionManager) (channel : Channel) : Prop :=
  ∀ r relay, m.relays.get? channel = some r → m.heap[r]? = some relay → relay.settled.keys = []

/-- The next channel to visit is not one the client has subscribed to again. -/
def NotBack (m : ConnectionManager) (ws : WsId) (channels : List Channel) : Prop :=
  ∀ channel r rest, nextRelay m.relays channels = some (channel, r, rest) →
    channel ∉ (m.connections.get? ws).getD []

/-- The steps of a `disconnect` that leave the other calls' work alone. -/
def Orderly (s : State) : Label → Prop
  | .lock (.popRelay ws channel rest) =>
      Unused s.manager channel ∧ NotBack (s.manager.popRelay channel) ws rest
  | .relay r (.removeClient ws _ rest) =>
      ∀ relay, s.manager.heap[r]? = some relay → (relay.removeClient ws).2 ≠ 0 →
        NotBack s.manager ws rest
  | _ => True

/-! ## The invariant -/

structure RelayOk (relay : ChannelRelay) : Prop where
  listener : relay.listenerTask = true ↔ relay.clients.keys ≠ []
  channel : ∀ ws channel rest, .removeClient ws channel rest ∈ relay.waiting →
    channel = relay.channel

/-- Why the manager still holds a relay. -/
def Held (waiting : List Waiter) (relay : ChannelRelay) : Prop :=
  relay.settled.keys ≠ [] ∨ relay.waiting ≠ [] ∨
    ∃ ws rest, .popRelay ws relay.channel rest ∈ waiting

structure Inv (m : ConnectionManager) (waiting : List Waiter) : Prop where
  connected : ∀ ws, ∀ channel ∈ (m.connections.get? ws).getD [],
    ∃ r relay, m.relays.get? channel = some r ∧ m.heap[r]? = some relay ∧
      ws ∈ relay.settled.keys
  registered : ∀ channel r, m.relays.get? channel = some r →
    ∃ relay, m.heap[r]? = some relay ∧ relay.channel = channel ∧ Held waiting relay
  orphans : ∀ r relay, m.heap[r]? = some relay → m.relays.get? relay.channel ≠ some r →
    relay.settled.keys = []
  relays : ∀ relay ∈ m.heap, RelayOk relay

/-! ## Relays -/

@[simp] theorem clients_addClient (relay : ChannelRelay) (ws : WsId)
    (filterLocoId : Option String) :
    (relay.addClient ws filterLocoId).clients = relay.clients.set ws { filterLocoId } := by
  unfold ChannelRelay.addClient
  split <;> rfl

@[simp] theorem channel_addClient (relay : ChannelRelay) (ws : WsId)
    (filterLocoId : Option String) :
    (relay.addClient ws filterLocoId).channel = relay.channel := by
  unfold ChannelRelay.addClient
  split <;> rfl

@[simp] theorem listener_addClient (relay : ChannelRelay) (ws : WsId)
    (filterLocoId : Option String) : (relay.addClient ws filterLocoId).listenerTask = true := by
  unfold ChannelRelay.addClient
  split
  · assumption
  · rfl

@[simp] theorem clients_removeClient (relay : ChannelRelay) (ws : WsId) :
    (relay.removeClient ws).1.clients = relay.clients.pop ws := by
  unfold ChannelRelay.removeClient
  dsimp only
  split <;> rfl

@[simp] theorem channel_removeClient (relay : ChannelRelay) (ws : WsId) :
    (relay.removeClient ws).1.channel = relay.channel := by
  unfold ChannelRelay.removeClient
  dsimp only
  split <;> rfl

@[simp] theorem remaining_removeClient (relay : ChannelRelay) (ws : WsId) :
    (relay.removeClient ws).2 = (relay.clients.pop ws).keys.length := by
  unfold ChannelRelay.removeClient
  dsimp only
  split <;> rfl

theorem listener_removeClient (relay : ChannelRelay) (ws : WsId) :
    (relay.removeClient ws).1.listenerTask =
      (relay.listenerTask && (relay.clients.pop ws).keys.length != 0) := by
  unfold ChannelRelay.removeClient
  dsimp only
  split
  case isTrue last => simp [last.1]
  case isFalse more => cases running : relay.listenerTask <;> simp_all

theorem settled_append (relay : ChannelRelay) (call : RelayCall) :
    ChannelRelay.settled { relay with waiting := relay.waiting ++ [call] } =
      call.apply relay.settled := by
  simp [ChannelRelay.settled, List.foldl_append]

/-- Running the first waiting call settles nothing anew. -/
theorem settled_run {relay relay' : ChannelRelay} {call : RelayCall} {later : List RelayCall}
    (first : relay.waiting = call :: later) (clients : relay'.clients = call.apply relay.clients)
    (rest : relay'.waiting = later) : relay'.settled = relay.settled := by
  simp [ChannelRelay.settled, first, clients, rest]

theorem get?_of_nextRelay {relays : Dict Channel RelayId} {channels : List Channel}
    {channel : Channel} {r : RelayId} {rest : List Channel}
    (next : nextRelay relays channels = some (channel, r, rest)) :
    relays.get? channel = some r := by
  induction channels with
  | nil => simp [nextRelay] at next
  | cons first more ih =>
      cases registered : relays.get? first with
      | none => exact ih (by simpa [nextRelay, registered] using next)
      | some r' =>
          simp only [nextRelay, registered, Option.some.injEq, Prod.mk.injEq] at next
          obtain ⟨rfl, rfl, -⟩ := next
          exact registered

/-! ## What a step can change -/

section Changes

variable {m : ConnectionManager} {w w' : List Waiter}

/-- No `disconnect` that is about to drop a relay leaves the queue. -/
def KeepsPops (w w' : List Waiter) : Prop :=
  ∀ ws channel rest, .popRelay ws channel rest ∈ w → .popRelay ws channel rest ∈ w'

theorem KeepsPops.append (w : List Waiter) (waiter : Waiter) : KeepsPops w (w ++ [waiter]) :=
  fun _ _ _ mem => List.mem_append_left _ mem

theorem KeepsPops.call {call : Call} {later : List Waiter} (first : w = .call call :: later) :
    KeepsPops w later := by
  intro ws channel rest mem
  simpa [first] using mem

theorem Held.mono (keeps : KeepsPops w w') {relay : ChannelRelay} (held : Held w relay) :
    Held w' relay := by
  rcases held with settled | waits | ⟨ws, rest, mem⟩
  · exact .inl settled
  · exact .inr (.inl waits)
  · exact .inr (.inr ⟨ws, rest, keeps _ _ _ mem⟩)

theorem Inv.mono (inv : Inv m w) (keeps : KeepsPops w w') : Inv m w' :=
  { inv with
    registered := fun channel r found => by
      obtain ⟨relay, at_r, same, held⟩ := inv.registered channel r found
      exact ⟨relay, at_r, same, held.mono keeps⟩ }

/-- One relay object changes. -/
theorem Inv.setRelay (inv : Inv m w) (keeps : KeepsPops w w') {r : RelayId}
    {relay relay' : ChannelRelay} (at_r : m.heap[r]? = some relay)
    (channel : relay'.channel = relay.channel) (ok : RelayOk relay')
    (settled : ∀ ws ∈ relay.settled.keys, relay.channel ∈ (m.connections.get? ws).getD [] →
      ws ∈ relay'.settled.keys)
    (held : m.relays.get? relay.channel = some r → Held w' relay')
    (orphan : m.relays.get? relay.channel ≠ some r → relay'.settled.keys = []) :
    Inv (m.setRelay r relay') w' := by
  have within : r < m.heap.length := (List.getElem?_eq_some_iff.mp at_r).1
  have here : (m.heap.set r relay')[r]? = some relay' := by simp [within]
  have elsewhere {r' : RelayId} (ne : r' ≠ r) : (m.heap.set r relay')[r']? = m.heap[r']? :=
    List.getElem?_set_ne (Ne.symm ne)
  refine ⟨?_, ?_, ?_, ?_⟩
  · intro ws channel' mem
    obtain ⟨r', other, found, at_r', ws_mem⟩ := inv.connected ws channel' mem
    by_cases same : r' = r
    · subst same
      obtain rfl : relay = other := Option.some.inj (at_r.symm.trans at_r')
      obtain ⟨other, at_r', rfl, -⟩ := inv.registered channel' r' found
      obtain rfl : relay = other := Option.some.inj (at_r.symm.trans at_r')
      exact ⟨r', relay', found, here, settled ws ws_mem mem⟩
    · exact ⟨r', other, found, (elsewhere same).trans at_r', ws_mem⟩
  · intro channel' r' found
    obtain ⟨other, at_r', rfl, other_held⟩ := inv.registered channel' r' found
    by_cases same : r' = r
    · subst same
      obtain rfl : relay = other := Option.some.inj (at_r.symm.trans at_r')
      exact ⟨relay', here, channel, held found⟩
    · exact ⟨other, (elsewhere same).trans at_r', rfl, other_held.mono keeps⟩
  · intro r' other at_r' stray
    by_cases same : r' = r
    · subst same
      obtain rfl : relay' = other := Option.some.inj (here.symm.trans at_r')
      exact orphan (channel ▸ stray)
    · exact inv.orphans r' other ((elsewhere same).symm.trans at_r') stray
  · intro other mem
    rcases List.mem_or_eq_of_mem_set mem with before | rfl
    · exact inv.relays other before
    · exact ok

/-- The connections change; what is new is settled already. -/
theorem Inv.connections (inv : Inv m w) {connections : Dict WsId (List Channel)}
    {wsRefs : Dict WsId WsId} {wsStates : Dict WsId WsState}
    (new : ∀ ws, ∀ channel ∈ (connections.get? ws).getD [],
      channel ∈ (m.connections.get? ws).getD [] ∨ ∃ r relay, m.relays.get? channel = some r ∧
        m.heap[r]? = some relay ∧ ws ∈ relay.settled.keys) :
    Inv { m with connections, wsRefs, wsStates } w :=
  { inv with
    connected := fun ws channel mem => (new ws channel mem).elim (inv.connected ws channel) id }

theorem Inv.accept (inv : Inv m w) (ws : WsId) : Inv (m.accept ws) w := by
  apply inv.connections
  intro ws' channel mem
  left
  by_cases same : ws' = ws
  · subst same; simp at mem
  · simpa [Dict.get?_set_ne _ same] using mem

theorem Inv.forget (inv : Inv m w) (ws : WsId) : Inv (m.forget ws) w := by
  apply inv.connections
  intro ws' channel mem
  left
  by_cases same : ws' = ws
  · subst same; simp at mem
  · simpa [Dict.get?_pop_ne _ same] using mem

theorem Inv.addChannel (inv : Inv m w) {ws : WsId} {channel : Channel}
    (settled : ∃ r relay, m.relays.get? channel = some r ∧ m.heap[r]? = some relay ∧
      ws ∈ relay.settled.keys) : Inv (m.addChannel ws channel) w := by
  apply inv.connections
  intro ws' channel' mem
  by_cases same : ws' = ws
  · subst same
    rw [Dict.get?_set_self, Option.getD_some, List.mem_insert_iff] at mem
    rcases mem with rfl | before
    · exact .inr settled
    · exact .inl before
  · exact .inl (by simpa [Dict.get?_set_ne _ same] using mem)

/-- A new relay is registered, with a call that waits. -/
theorem Inv.register (inv : Inv m w) {channel : Channel} (absent : m.relays.get? channel = none)
    {relay : ChannelRelay} (same : relay.channel = channel) (ok : RelayOk relay)
    (held : Held w relay) :
    Inv { m with
      relays := m.relays.set channel m.heap.length
      heap := m.heap ++ [relay] } w := by
  have old {r : RelayId} {other : ChannelRelay} (at_r : m.heap[r]? = some other) :
      (m.heap ++ [relay])[r]? = some other := by
    have within : r < m.heap.length := (List.getElem?_eq_some_iff.mp at_r).1
    rw [List.getElem?_append_left within, at_r]
  refine ⟨?_, ?_, ?_, ?_⟩
  · intro ws channel' mem
    obtain ⟨r, other, found, at_r, ws_mem⟩ := inv.connected ws channel' mem
    have ne : channel' ≠ channel := by
      intro eq
      simp [eq, absent] at found
    exact ⟨r, other, (Dict.get?_set_ne _ ne _).trans found, old at_r, ws_mem⟩
  · intro channel' r found
    rw [Dict.get?_set] at found
    split_ifs at found with eq
    · obtain rfl := Option.some.inj found
      exact ⟨relay, by simp, same.trans eq.symm, held⟩
    · obtain ⟨other, at_r, rest⟩ := inv.registered channel' r found
      exact ⟨other, old at_r, rest⟩
  · intro r other at_r stray
    rcases Nat.lt_trichotomy r m.heap.length with within | rfl | beyond
    · rw [List.getElem?_append_left within] at at_r
      by_cases eq : other.channel = channel
      · exact inv.orphans r other at_r (by simp [eq, absent])
      · exact inv.orphans r other at_r (by simpa [Dict.get?_set_ne _ eq] using stray)
    · obtain rfl : relay = other := by simpa using at_r
      simp [same] at stray
    · have out : (m.heap ++ [relay]).length ≤ r := by
        rw [List.length_append, List.length_singleton]
        omega
      simp [List.getElem?_eq_none out] at at_r
  · intro other mem
    rcases List.mem_append.mp mem with before | now
    · exact inv.relays other before
    · exact List.mem_singleton.mp now ▸ ok

/-- A relay that will have no client is dropped. -/
theorem Inv.popRelay {ws : WsId} {channel : Channel} {rest : List Channel} {later : List Waiter}
    (inv : Inv m (.popRelay ws channel rest :: later)) (unused : Unused m channel) :
    Inv (m.popRelay channel) later := by
  refine ⟨?_, ?_, ?_, inv.relays⟩
  · intro ws' channel' mem
    obtain ⟨r, relay, found, at_r, ws_mem⟩ := inv.connected ws' channel' mem
    by_cases same : channel' = channel
    · subst same
      simp [unused r relay found at_r] at ws_mem
    · exact ⟨r, relay, (Dict.get?_pop_ne _ same).trans found, at_r, ws_mem⟩
  · intro channel' r found
    have ne : channel' ≠ channel := by
      intro eq
      simp [ConnectionManager.popRelay, eq] at found
    obtain ⟨relay, at_r, rfl, held⟩ :=
      inv.registered channel' r ((Dict.get?_pop_ne _ ne).symm.trans found)
    refine ⟨relay, at_r, rfl, ?_⟩
    rcases held with settled | waits | ⟨ws', rest', mem⟩
    · exact .inl settled
    · exact .inr (.inl waits)
    · have other : Waiter.popRelay ws' relay.channel rest' ≠ .popRelay ws channel rest := by
        intro eq
        exact ne (Waiter.popRelay.inj eq).2.1
      exact .inr (.inr ⟨ws', rest', (List.mem_cons.mp mem).resolve_left other⟩)
  · intro r relay at_r stray
    by_cases registered : m.relays.get? relay.channel = some r
    · by_cases same : relay.channel = channel
      · exact unused r relay (same ▸ registered) at_r
      · exact absurd ((Dict.get?_pop_ne _ same).trans registered) stray
    · exact inv.orphans r relay at_r registered

theorem enqueue_eq {r : RelayId} {relay : ChannelRelay} (at_r : m.heap[r]? = some relay)
    (call : RelayCall) :
    m.enqueue r call = m.setRelay r { relay with waiting := relay.waiting ++ [call] } := by
  simp only [ConnectionManager.enqueue, at_r]

/-- A call starts to wait for a registered relay. -/
theorem Inv.enqueue (inv : Inv m w) {channel : Channel} {r : RelayId}
    (found : m.relays.get? channel = some r) {call : RelayCall}
    (settled : ∀ (clients : Dict WsId ClientSlot) ws, ws ∈ clients.keys →
      channel ∈ (m.connections.get? ws).getD [] → ws ∈ (call.apply clients).keys)
    (visits : ∀ ws channel' rest, call = .removeClient ws channel' rest → channel' = channel) :
    Inv (m.enqueue r call) w := by
  obtain ⟨relay, at_r, rfl, -⟩ := inv.registered channel r found
  have ok := inv.relays relay (List.mem_of_getElem? at_r)
  rw [enqueue_eq at_r]
  refine inv.setRelay (fun _ _ _ => id) at_r rfl ⟨ok.listener, ?_⟩ ?_ ?_ (absurd found)
  · intro ws channel rest mem
    rcases List.mem_append.mp mem with before | now
    · exact ok.channel ws channel rest before
    · exact visits ws channel rest (List.mem_singleton.mp now).symm
  · intro ws mem subscribed
    rw [settled_append]
    exact settled _ ws mem subscribed
  · intro _
    exact .inr (.inl (by simp))

theorem Inv.subscribe (inv : Inv m w) (ws : WsId) (channel : Channel)
    (filterLocoId envelopeType : Option String) :
    Inv (m.subscribe ws channel filterLocoId envelopeType) w := by
  cases found : m.relays.get? channel with
  | some r =>
      obtain ⟨relay, at_r, rfl, -⟩ := inv.registered channel r found
      have within : r < m.heap.length := (List.getElem?_eq_some_iff.mp at_r).1
      let relay' : ChannelRelay :=
        { relay with waiting := relay.waiting ++ [.addClient ws filterLocoId] }
      have waits : Inv (m.setRelay r relay') w :=
        enqueue_eq at_r _ ▸ inv.enqueue found (by simp +contextual [RelayCall.apply]) (by simp)
      have client : ws ∈ relay'.settled.keys := by simp [relay', settled_append, RelayCall.apply]
      have subscribed : Inv ((m.setRelay r relay').addChannel ws relay.channel) w :=
        waits.addChannel ⟨r, relay', found, by simp [ConnectionManager.setRelay, within], client⟩
      simpa [ConnectionManager.subscribe, ConnectionManager.ensureRelay, found,
        ConnectionManager.addChannel, ConnectionManager.enqueue, at_r,
        ConnectionManager.setRelay, relay'] using subscribed
  | none =>
      let relay : ChannelRelay :=
        { ChannelRelay.create channel envelopeType with waiting := [.addClient ws filterLocoId] }
      have ok : RelayOk relay := ⟨by simp [relay, ChannelRelay.create], by simp [relay]⟩
      have registered := inv.register found rfl ok (.inr (.inl (by simp [relay])))
      have client : ws ∈ relay.settled.keys := by
        simp [relay, ChannelRelay.settled, RelayCall.apply]
      have subscribed := registered.addChannel
        ⟨m.heap.length, relay, Dict.get?_set_self m.relays channel _, by simp, client⟩
      simpa [ConnectionManager.subscribe, ConnectionManager.ensureRelay, found,
        ConnectionManager.addChannel, ConnectionManager.enqueue, relay,
        ConnectionManager.setRelay, ChannelRelay.create] using subscribed

end Changes

/-! ## Every orderly run -/

def State.Inv (s : State) : Prop := WsServer.Inv s.manager s.waiting

theorem State.Inv.visit {s : State} (inv : s.Inv) {ws : WsId} {channels : List Channel}
    (notBack : NotBack s.manager ws channels) : (s.visit ws channels).Inv := by
  unfold State.visit
  cases next : nextRelay s.manager.relays channels with
  | none => exact inv
  | some e =>
      obtain ⟨channel, r, rest⟩ := e
      apply WsServer.Inv.enqueue inv (get?_of_nextRelay next)
      · intro clients ws' mem subscribed
        have ne : ws' ≠ ws := by
          intro eq
          exact notBack channel r rest next (eq ▸ subscribed)
        simpa [RelayCall.apply] using ⟨ne, mem⟩
      · simp

/-- A call runs under the lock of a relay. -/
theorem State.Inv.runRelay {s : State} (inv : s.Inv) {r : RelayId} {relay : ChannelRelay}
    {call : RelayCall} {later : List RelayCall} (at_r : s.manager.heap[r]? = some relay)
    (first : relay.waiting = call :: later) (orderly : Orderly s (.relay r call)) :
    (s.runRelay r relay later call).Inv := by
  have ok := inv.relays relay (List.mem_of_getElem? at_r)
  have channels : ∀ ws channel rest, .removeClient ws channel rest ∈ later →
      channel = relay.channel := by
    intro ws channel rest mem
    exact ok.channel ws channel rest (first ▸ List.mem_cons_of_mem _ mem)
  cases call with
  | addClient ws filterLocoId =>
      let relay' := { relay.addClient ws filterLocoId with waiting := later }
      have clients : relay'.clients = relay.clients.set ws { filterLocoId } :=
        clients_addClient relay ws filterLocoId
      have settled : relay'.settled = relay.settled := settled_run first clients rfl
      refine WsServer.Inv.setRelay inv (fun _ _ _ => id) at_r (channel_addClient ..)
        ⟨by simp, ?_⟩ ?_ ?_ ?_
      · simpa using channels
      · intro ws' mem _
        exact settled ▸ mem
      · intro _
        cases later with
        | nil => exact .inl (by simp [ChannelRelay.settled])
        | cons next rest => exact .inr (.inl (by simp))
      · intro stray
        exact settled ▸ inv.orphans r relay at_r stray
  | removeClient ws channel rest =>
      obtain rfl := ok.channel ws channel rest (first ▸ List.mem_cons_self)
      let relay' := { (relay.removeClient ws).1 with waiting := later }
      have clients : relay'.clients = relay.clients.pop ws := clients_removeClient relay ws
      have settled : relay'.settled = relay.settled := settled_run first clients rfl
      have ok' : RelayOk relay' := by
        refine ⟨?_, by simpa [relay'] using channels⟩
        rw [clients, show relay'.listenerTask = _ from listener_removeClient relay ws]
        constructor
        · intro running
          simpa using (Bool.and_eq_true_iff.mp running).2
        · intro more
          obtain ⟨other, mem⟩ := List.exists_mem_of_ne_nil _ more
          have running : relay.listenerTask = true :=
            ok.listener.mpr (List.ne_nil_of_mem ((Dict.mem_keys_pop ..).mp mem).2)
          simpa [running] using more
      simp only [State.runRelay]
      split
      case isTrue last =>
        refine WsServer.Inv.setRelay inv (.append _ _) at_r (channel_removeClient ..) ok'
          (fun ws' mem _ => settled ▸ mem) (fun _ => ?_)
          (fun stray => settled ▸ inv.orphans r relay at_r stray)
        exact .inr (.inr ⟨ws, rest, by simp⟩)
      case isFalse more =>
        refine State.Inv.visit ?_ (orderly relay at_r more)
        refine WsServer.Inv.setRelay inv (fun _ _ _ => id) at_r (channel_removeClient ..) ok'
          (fun ws' mem _ => settled ▸ mem) (fun _ => ?_)
          (fun stray => settled ▸ inv.orphans r relay at_r stray)
        cases later with
        | nil => exact .inl (by simpa [ChannelRelay.settled] using more)
        | cons next rest => exact .inr (.inl (by simp))

theorem State.Inv.step {s s' : State} {label : Label} (inv : s.Inv)
    (orderly : Orderly s label) (step : Step s label s') : s'.Inv := by
  cases step with
  | call call => exact WsServer.Inv.mono inv (.append _ _)
  | accept ws later free first room =>
      exact (WsServer.Inv.mono inv (.call first)).accept ws
  | refuse ws later free first full => exact WsServer.Inv.mono inv (.call first)
  | refused ws refusing => exact inv
  | accepted ws mem => exact inv
  | subscribe ws channel filterLocoId envelopeType later free first =>
      exact (WsServer.Inv.mono inv (.call first)).subscribe ws channel filterLocoId envelopeType
  | disconnect ws channels later free first order =>
      have forgotten : State.Inv { s with waiting := later, manager := s.manager.forget ws } :=
        (WsServer.Inv.mono inv (.call first)).forget ws
      apply forgotten.visit
      -- the entry of the client has just been removed
      intro channel r rest _
      simp [ConnectionManager.forget]
  | popRelay ws channel rest later free first =>
      have waiting : WsServer.Inv s.manager (.popRelay ws channel rest :: later) := by
        rw [← first]
        exact inv
      have dropped : State.Inv
          { s with waiting := later, manager := s.manager.popRelay channel } :=
        waiting.popRelay orderly.1
      exact dropped.visit orderly.2
  | relay r relay call later at_r first => exact inv.runRelay at_r first orderly
  | closed ws mem => exact inv

/-! ## The condition is exact -/

@[simp] theorem relays_enqueue (m : ConnectionManager) (r : RelayId) (call : RelayCall) :
    (m.enqueue r call).relays = m.relays := by
  unfold ConnectionManager.enqueue
  split <;> rfl

@[simp] theorem connections_enqueue (m : ConnectionManager) (r : RelayId) (call : RelayCall) :
    (m.enqueue r call).connections = m.connections := by
  unfold ConnectionManager.enqueue
  split <;> rfl

@[simp] theorem relays_visit (s : State) (ws : WsId) (channels : List Channel) :
    (s.visit ws channels).manager.relays = s.manager.relays := by
  unfold State.visit
  split
  · exact relays_enqueue ..
  · rfl

/-- The loop of `disconnect` leaves a relay alone that is not registered. -/
theorem heap_visit {s : State} {r : RelayId}
    (stray : ∀ channel, s.manager.relays.get? channel ≠ some r) (ws : WsId)
    (channels : List Channel) :
    (s.visit ws channels).manager.heap[r]? = s.manager.heap[r]? := by
  unfold State.visit
  cases next : nextRelay s.manager.relays channels with
  | none => rfl
  | some e =>
      obtain ⟨channel, r', rest⟩ := e
      have ne : r' ≠ r := by
        rintro rfl
        exact stray channel (get?_of_nextRelay next)
      dsimp only
      unfold ConnectionManager.enqueue
      split
      · exact List.getElem?_set_ne ne
      · rfl

/-- Taking a client out of a channel it is subscribed to breaks the invariant. -/
theorem State.Inv.notBack {s : State} {ws : WsId} {channels : List Channel}
    (inv : (s.visit ws channels).Inv) : NotBack s.manager ws channels := by
  intro channel r rest next subscribed
  simp only [State.visit, next] at inv
  obtain ⟨r', relay', found, at_r, mem⟩ := inv.connected ws channel (by simpa using subscribed)
  rw [relays_enqueue, get?_of_nextRelay next] at found
  obtain rfl := Option.some.inj found
  cases before : s.manager.heap[r]? with
  | none => simp [ConnectionManager.enqueue, before] at at_r
  | some relay =>
      have within : r < s.manager.heap.length := (List.getElem?_eq_some_iff.mp before).1
      rw [enqueue_eq before] at at_r
      obtain rfl : { relay with waiting := relay.waiting ++ [.removeClient ws channel rest] } =
          relay' := by simpa [ConnectionManager.setRelay, within] using at_r
      simp [settled_append, RelayCall.apply] at mem

/-- A step that keeps the invariant is orderly. -/
theorem State.Inv.orderly {s s' : State} {label : Label} (inv : s.Inv) (step : Step s label s')
    (inv' : s'.Inv) : Orderly s label := by
  cases step with
  | popRelay ws channel rest later free first =>
      refine ⟨?_, State.Inv.notBack inv'⟩
      intro r relay found at_r
      obtain ⟨relay', at_r', same, -⟩ := inv.registered channel r found
      obtain rfl : relay = relay' := Option.some.inj (at_r.symm.trans at_r')
      -- the relay was registered under this channel only
      have stray : ∀ other, (s.manager.popRelay channel).relays.get? other ≠ some r := by
        intro other found'
        by_cases eq : other = channel
        · subst eq
          simp [ConnectionManager.popRelay] at found'
        · have before : s.manager.relays.get? other = some r := by
            simpa [ConnectionManager.popRelay, Dict.get?_pop_ne _ eq] using found'
          obtain ⟨relay', at_r', same', -⟩ := inv.registered other r before
          obtain rfl : relay = relay' := Option.some.inj (at_r.symm.trans at_r')
          exact eq (same'.symm.trans same)
      apply inv'.orphans r relay
      · rw [heap_visit stray]
        exact at_r
      · rw [relays_visit]
        exact stray relay.channel
  | relay r relay call later at_r first =>
      cases call with
      | addClient ws filterLocoId => trivial
      | removeClient ws channel rest =>
          intro relay' at_r' more
          obtain rfl : relay = relay' := Option.some.inj (at_r.symm.trans at_r')
          simp only [State.runRelay, if_neg more] at inv'
          have visited := State.Inv.notBack inv'
          exact visited
  | _ => trivial

/-- **The condition is exact**: of the steps from a state with the invariant, the orderly
ones are those that keep it. -/
theorem State.Inv.step_iff {s s' : State} {label : Label} (inv : s.Inv)
    (step : Step s label s') : s'.Inv ↔ Orderly s label :=
  ⟨inv.orderly step, fun orderly => inv.step orderly step⟩

theorem State.Inv.init (maxConnections : Int) {s : State}
    (start : (connectionManager maxConnections).init s) : s.Inv := by
  obtain rfl := start
  refine ⟨?_, ?_, ?_, ?_⟩ <;> simp [ConnectionManager.create]

theorem settled_of_quiescent {relay : ChannelRelay} (quiet : relay.waiting = []) :
    relay.settled = relay.clients := by
  simp [ChannelRelay.settled, quiet]

theorem State.Inv.consistent {s : State} (inv : s.Inv) (quiet : Quiescent s) :
    Consistent s.manager := by
  have settled {r : RelayId} {relay : ChannelRelay} (at_r : s.manager.heap[r]? = some relay) :
      relay.settled = relay.clients :=
    settled_of_quiescent (quiet.relays relay (List.mem_of_getElem? at_r))
  refine ⟨?_, ?_, ?_⟩
  · intro ws channels found channel mem
    obtain ⟨r, relay, found, at_r, ws_mem⟩ := inv.connected ws channel (by simpa [found] using mem)
    exact ⟨r, relay, found, at_r, settled at_r ▸ ws_mem⟩
  · intro channel r found
    obtain ⟨relay, at_r, -, held⟩ := inv.registered channel r found
    refine ⟨relay, at_r, settled at_r ▸ ?_⟩
    rcases held with clients | waits | ⟨ws, rest, mem⟩
    · exact clients
    · exact absurd (quiet.relays relay (List.mem_of_getElem? at_r)) waits
    · simp [quiet.waiting] at mem
  · intro r relay at_r stray
    have empty : relay.clients.keys = [] :=
      settled at_r ▸ inv.orphans r relay at_r (stray relay.channel)
    have ok := inv.relays relay (List.mem_of_getElem? at_r)
    exact ⟨empty, by simpa [empty] using ok.listener⟩

/-- **The registry of relays is consistent** whenever no call is in progress, in every run
in which no `disconnect` drops a relay that is in use again or takes a client out of a
channel it has subscribed to again. -/
theorem registry_consistent {maxConnections : Int} {s : State}
    (reach : ((connectionManager maxConnections).where' Orderly).Reachable s)
    (quiet : Quiescent s) : Consistent s.manager := by
  have inv : s.Inv := by
    apply reach.invariant
    · intro s start
      exact .init maxConnections start
    · intro s label s' inv step
      exact inv.step step.1 step.2
  exact inv.consistent quiet

/-- Two clients subscribe to the alerts, one after the other, and the first leaves. -/
theorem registry_consistent_alerts : ∃ s,
    ((connectionManager 500).where' Orderly).Reachable s ∧
    s.manager.connections.get? 2 = some ["alerts:live"] ∧
    s.manager.connections.get? 1 = none ∧ Consistent s.manager := by
  have initial : ((connectionManager 500).where' Orderly).Reachable
      ⟨.create 500, none, [], [], []⟩ := .init rfl
  have called := initial.guarded (Step.call _ (.accept 1)) trivial
  have taken := called.guarded (Step.accept _ 1 [] rfl rfl (by decide)) trivial
  have accepted := taken.guarded (Step.accepted _ 1 (by decide)) trivial
  have called := accepted.guarded (Step.call _ (.subscribe 1 "alerts:live" none none)) trivial
  have added := called.guarded (Step.subscribe _ 1 "alerts:live" none none [] rfl rfl) trivial
  have subscribed := added.guarded (Step.relay _ 0 _ (.addClient 1 none) [] rfl rfl) trivial
  have called := subscribed.guarded (Step.call _ (.accept 2)) trivial
  have taken := called.guarded (Step.accept _ 2 [] rfl rfl (by decide)) trivial
  have accepted := taken.guarded (Step.accepted _ 2 (by decide)) trivial
  have called := accepted.guarded (Step.call _ (.subscribe 2 "alerts:live" none none)) trivial
  have added := called.guarded (Step.subscribe _ 2 "alerts:live" none none [] rfl rfl) trivial
  have subscribed := added.guarded (Step.relay _ 0 _ (.addClient 2 none) [] rfl rfl) trivial
  have called := subscribed.guarded (Step.call _ (.disconnect 1)) trivial
  have left := called.guarded
    (Step.disconnect _ 1 ["alerts:live"] [] rfl rfl (by decide)) trivial
  have removed := left.guarded (Step.relay _ 0 _ (.removeClient 1 "alerts:live" []) [] rfl rfl)
    fun _ _ _ _ _ _ next => nomatch next
  have closed := removed.guarded (Step.closed _ 1 (by decide)) trivial
  exact ⟨_, closed, rfl, rfl, registry_consistent closed ⟨rfl, rfl, rfl, rfl, by decide⟩⟩

/-- While a third client is refused, the first leaves and the second subscribes.  The
second joins the relay the first is about to drop: it ends in a relay that the manager no
longer knows, with a listener that no `disconnect` will ever stop. -/
theorem orphaned_relay : ∃ s, (connectionManager 2).Reachable s ∧ Quiescent s ∧
    s.manager.connections.get? 2 = some ["alerts:live"] ∧ s.manager.relays = Dict.empty ∧
    ¬ Consistent s.manager := by
  have initial : (connectionManager 2).Reachable ⟨.create 2, none, [], [], []⟩ := .init rfl
  have called := initial.step (Step.call _ (.accept 1))
  have taken := called.step (Step.accept _ 1 [] rfl rfl (by decide))
  have accepted := taken.step (Step.accepted _ 1 (by decide))
  have called := accepted.step (Step.call _ (.accept 2))
  have taken := called.step (Step.accept _ 2 [] rfl rfl (by decide))
  have accepted := taken.step (Step.accepted _ 2 (by decide))
  have called := accepted.step (Step.call _ (.subscribe 1 "alerts:live" none none))
  have added := called.step (Step.subscribe _ 1 "alerts:live" none none [] rfl rfl)
  have subscribed := added.step (Step.relay _ 0 _ (.addClient 1 none) [] rfl rfl)
  -- the refusal keeps the lock, and two calls queue up behind it
  have called := subscribed.step (Step.call _ (.accept 3))
  have refusing := called.step (Step.refuse _ 3 [] rfl rfl (by decide))
  have leaving := refusing.step (Step.call _ (.disconnect 1))
  have joining := leaving.step (Step.call _ (.subscribe 2 "alerts:live" none none))
  have refused := joining.step (Step.refused _ 3 rfl)
  have left := refused.step (Step.disconnect _ 1 ["alerts:live"] _ rfl rfl (by decide))
  have removed := left.step (Step.relay _ 0 _ (.removeClient 1 "alerts:live" []) [] rfl rfl)
  have joined := removed.step (Step.subscribe _ 2 "alerts:live" none none _ rfl rfl)
  have added := joined.step (Step.relay _ 0 _ (.addClient 2 none) [] rfl rfl)
  have dropped := added.step (Step.popRelay _ 1 "alerts:live" [] [] rfl rfl)
  have closed := dropped.step (Step.closed _ 1 (by decide))
  refine ⟨_, closed, ⟨rfl, rfl, rfl, rfl, by decide⟩, rfl, rfl, fun consistent => ?_⟩
  obtain ⟨r, relay, found, -⟩ :=
    consistent.connected 2 ["alerts:live"] rfl "alerts:live" (by decide)
  exact nomatch (show (none : Option RelayId) = some r from found)

end LocoTwin.WsServer
