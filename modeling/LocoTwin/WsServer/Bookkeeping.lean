/-
# WsServer.Bookkeeping -- the three dictionaries of the connections, and the heartbeat

`accept` files a connection in three dictionaries at once and `disconnect` takes it out of
all three; the heartbeat pings what it finds in `_ws_refs` and disconnects what does not
answer.  A ping may fail before `ws.accept()` has completed, so a client can be disconnected
between its `accept` and its subscriptions, and `subscribe` files whatever connection it is
given in `_connections` alone.

* `bookkeeping`: in every run in which each `subscribe` finds its connection registered, the
  three dictionaries have the same keys, at most `max_connections` of them;
* `Booked.subscribe_iff`: the condition is exact for each subscription;
* `ghost_connection`: a client whose first ping fails subscribes, and is counted for good.
-/
import LocoTwin.WsServer.Registry

namespace LocoTwin.WsServer

open LocoTwin.Lib

set_option autoImplicit false

/-! ## The heartbeat -/

/-- Where the round of the heartbeat is. -/
inductive Beat where
  | sleeping
  /-- The sockets still to be pinged, and those found stale. -/
  | pinging (left stale : List WsId)
  /-- At `ws.send_bytes(ping_data)`. -/
  | sending (ws : WsId) (left stale : List WsId)
  /-- The stale sockets still to be disconnected. -/
  | evicting (stale : List WsId)
  deriving DecidableEq, Repr

structure Server where
  state : State
  beat : Beat

namespace ConnectionManager

/-- `state.pong_received = pongReceived`, where there is a state. -/
def setPong (m : ConnectionManager) (ws : WsId) (pongReceived : Bool) : ConnectionManager :=
  match m.wsStates.get? ws with
  | some _ => { m with wsStates := m.wsStates.set ws { pongReceived } }
  | none => m

/-- The last ping has not been answered. -/
def unanswered (m : ConnectionManager) (ws : WsId) : Bool :=
  match m.wsStates.get? ws with
  | some st => !st.pongReceived
  | none => false

end ConnectionManager

def State.setPong (s : State) (ws : WsId) (pongReceived : Bool) : State :=
  { s with manager := s.manager.setPong ws pongReceived }

inductive ServerLabel where
  | manager (label : Label)
  | markPong (ws : WsId)
  | snapshot
  | ping (ws : WsId)
  | pinged (ws : WsId) (ok : Bool)
  | stale
  | evict (ws : WsId)
  | rest
  deriving DecidableEq, Repr

inductive ServerStep : Server → ServerLabel → Server → Prop where
  /-- The calls of the handlers, and of the heartbeat once it has made them. -/
  | manager (s : Server) (label : Label) (state : State) : Step s.state label state →
      ServerStep s (.manager label) { s with state }
  | markPong (s : Server) (ws : WsId) :
      ServerStep s (.markPong ws) { s with state := s.state.setPong ws true }
  /-- Under the lock. -/
  | snapshot (s : Server) : s.beat = .sleeping → s.state.refusing = none →
      ServerStep s .snapshot { s with beat := .pinging s.state.manager.wsRefs.keys [] }
  | unanswered (s : Server) (ws : WsId) (left stale : List WsId) :
      s.beat = .pinging (ws :: left) stale → s.state.manager.unanswered ws = true →
      ServerStep s (.ping ws) { s with beat := .pinging left (stale ++ [ws]) }
  | ping (s : Server) (ws : WsId) (left stale : List WsId) :
      s.beat = .pinging (ws :: left) stale → s.state.manager.unanswered ws = false →
      ServerStep s (.ping ws)
        { state := s.state.setPong ws false, beat := .sending ws left stale }
  | pinged (s : Server) (ws : WsId) (left stale : List WsId) (ok : Bool) :
      s.beat = .sending ws left stale →
      ServerStep s (.pinged ws ok)
        { s with beat := .pinging left (if ok then stale else stale ++ [ws]) }
  | stale (s : Server) (stale : List WsId) : s.beat = .pinging [] stale →
      ServerStep s .stale { s with beat := .evicting stale }
  /-- The heartbeat waits for the call to end, which is to go on at some later time. -/
  | evict (s : Server) (ws : WsId) (stale : List WsId) : s.beat = .evicting (ws :: stale) →
      ServerStep s (.evict ws)
        { state := s.state.wait (.call (.disconnect ws)), beat := .evicting stale }
  | rest (s : Server) : s.beat = .evicting [] → ServerStep s .rest { s with beat := .sleeping }

/-- Calls of any number of clients, and rounds of the heartbeat, on a new manager. -/
def wsServer (maxConnections : Int) : System Server ServerLabel where
  init s := s = ⟨⟨.create maxConnections, none, [], [], []⟩, .sleeping⟩
  step := ServerStep

/-! ## The books -/

/-- The key sets are equal and within the limit: every counted connection is pinged and can
be evicted. -/
structure Booked (m : ConnectionManager) : Prop where
  refs : ∀ ws, ws ∈ m.wsRefs.keys ↔ ws ∈ m.connections.keys
  states : ∀ ws, ws ∈ m.wsStates.keys ↔ ws ∈ m.connections.keys
  limit : (m.activeConnections : Int) ≤ m.maxConnections

/-- A subscription finds its connection registered. -/
def Registered (m : ConnectionManager) : Label → Prop
  | .lock (.call (.subscribe ws _ _ _)) => ws ∈ m.connections.keys
  | _ => True

def Server.Registered (s : Server) : ServerLabel → Prop
  | .manager label => WsServer.Registered s.state.manager label
  | _ => True

/-- The same connections under the same limit. -/
structure SameBooks (m m' : ConnectionManager) : Prop where
  connections : ∀ ws, ws ∈ m'.connections.keys ↔ ws ∈ m.connections.keys
  refs : m'.wsRefs = m.wsRefs
  states : ∀ ws, ws ∈ m'.wsStates.keys ↔ ws ∈ m.wsStates.keys
  limit : m'.maxConnections = m.maxConnections

namespace SameBooks

variable {m m' m'' : ConnectionManager}

theorem of_eq (connections : m'.connections = m.connections) (refs : m'.wsRefs = m.wsRefs)
    (states : m'.wsStates = m.wsStates) (limit : m'.maxConnections = m.maxConnections) :
    SameBooks m m' := by
  refine ⟨?_, refs, ?_, limit⟩
  · rw [connections]
    exact fun _ => Iff.rfl
  · rw [states]
    exact fun _ => Iff.rfl

theorem trans (first : SameBooks m m') (second : SameBooks m' m'') : SameBooks m m'' where
  connections ws := (second.connections ws).trans (first.connections ws)
  refs := second.refs.trans first.refs
  states ws := (second.states ws).trans (first.states ws)
  limit := second.limit.trans first.limit

theorem enqueue (m : ConnectionManager) (r : RelayId) (call : RelayCall) :
    SameBooks m (m.enqueue r call) := by
  unfold ConnectionManager.enqueue
  split <;> exact of_eq rfl rfl rfl rfl

theorem ensureRelay (m : ConnectionManager) (channel : Channel) (envelopeType : Option String) :
    SameBooks m (m.ensureRelay channel envelopeType) := by
  unfold ConnectionManager.ensureRelay
  split <;> exact of_eq rfl rfl rfl rfl

theorem setPong (m : ConnectionManager) (ws : WsId) (pongReceived : Bool) :
    SameBooks m (m.setPong ws pongReceived) := by
  unfold ConnectionManager.setPong
  split
  case h_1 st found =>
    refine ⟨fun _ => Iff.rfl, rfl, ?_, rfl⟩
    intro ws'
    rw [Dict.mem_keys_set, or_iff_right_of_imp]
    rintro rfl
    exact Dict.mem_keys.mpr ⟨st, found⟩
  case h_2 => exact of_eq rfl rfl rfl rfl

theorem visit (s : State) (ws : WsId) (channels : List Channel) :
    SameBooks s.manager (s.visit ws channels).manager := by
  unfold State.visit
  split
  · exact enqueue _ _ _
  · exact of_eq rfl rfl rfl rfl

theorem runRelay (s : State) (r : RelayId) (relay : ChannelRelay) (later : List RelayCall)
    (call : RelayCall) : SameBooks s.manager (s.runRelay r relay later call).manager := by
  have set' (relay : ChannelRelay) : SameBooks s.manager (s.manager.setRelay r relay) :=
    of_eq rfl rfl rfl rfl
  cases call with
  | addClient ws filterLocoId => exact set' _
  | removeClient ws channel rest =>
      unfold State.runRelay
      dsimp only
      split
      · exact set' _
      · let removed := { (relay.removeClient ws).1 with waiting := later }
        exact (set' removed).trans
          (visit { s with manager := s.manager.setRelay r removed } ws rest)

end SameBooks

namespace Booked

variable {m m' : ConnectionManager}

theorem congr (booked : Booked m) (same : SameBooks m m') : Booked m' where
  refs ws := by
    rw [same.refs, same.connections]
    exact booked.refs ws
  states ws := by
    rw [same.states, same.connections]
    exact booked.states ws
  limit := by
    have fewer : m'.activeConnections ≤ m.activeConnections :=
      Dict.length_keys_le fun ws mem => (same.connections ws).mp mem
    have limit := booked.limit
    rw [same.limit]
    omega

theorem accept (booked : Booked m) (ws : WsId) (room : ¬ m.full) : Booked (m.accept ws) where
  refs ws' := by
    simp only [ConnectionManager.accept, Dict.mem_keys_set, booked.refs ws']
  states ws' := by
    simp only [ConnectionManager.accept, Dict.mem_keys_set, booked.states ws']
  limit := by
    have grown : (m.accept ws).activeConnections ≤ m.activeConnections + 1 :=
      Dict.length_keys_set_le _ _ _
    have room' : ¬ m.maxConnections ≤ m.activeConnections := room
    show ((m.accept ws).activeConnections : Int) ≤ m.maxConnections
    omega

theorem forget (booked : Booked m) (ws : WsId) : Booked (m.forget ws) where
  refs ws' := by
    simp only [ConnectionManager.forget, Dict.mem_keys_pop, booked.refs ws']
  states ws' := by
    simp only [ConnectionManager.forget, Dict.mem_keys_pop, booked.states ws']
  limit := by
    have fewer : (m.forget ws).activeConnections ≤ m.activeConnections :=
      Dict.length_keys_le fun ws' mem => ((Dict.mem_keys_pop _ _ _).mp mem).2
    have limit := booked.limit
    show ((m.forget ws).activeConnections : Int) ≤ m.maxConnections
    omega

/-- What `subscribe` does to the books: the connection is filed among the connections. -/
theorem subscribe_books (m : ConnectionManager) (ws : WsId) (channel : Channel)
    (filterLocoId envelopeType : Option String) :
    SameBooks ((m.ensureRelay channel envelopeType).addChannel ws channel)
      (m.subscribe ws channel filterLocoId envelopeType) := by
  unfold ConnectionManager.subscribe
  dsimp only
  split
  · exact .enqueue _ _ _
  · exact .of_eq rfl rfl rfl rfl

theorem mem_keys_subscribe (m : ConnectionManager) (ws : WsId) (channel : Channel)
    (filterLocoId envelopeType : Option String) (ws' : WsId) :
    ws' ∈ (m.subscribe ws channel filterLocoId envelopeType).connections.keys ↔
      ws' = ws ∨ ws' ∈ m.connections.keys := by
  rw [(subscribe_books m ws channel filterLocoId envelopeType).connections,
    ← (SameBooks.ensureRelay m channel envelopeType).connections]
  exact Dict.mem_keys_set _ _ _ _

/-- **One subscription, exactly**: it keeps the books when its connection is in them. -/
theorem subscribe_iff (booked : Booked m) (ws : WsId) (channel : Channel)
    (filterLocoId envelopeType : Option String) :
    Booked (m.subscribe ws channel filterLocoId envelopeType) ↔ ws ∈ m.connections.keys := by
  have keys := mem_keys_subscribe m ws channel filterLocoId envelopeType
  have ensured := SameBooks.ensureRelay m channel envelopeType
  have books := subscribe_books m ws channel filterLocoId envelopeType
  have refs : (m.subscribe ws channel filterLocoId envelopeType).wsRefs = m.wsRefs :=
    books.refs.trans ensured.refs
  constructor
  · intro after
    have filed := (after.refs ws).mpr ((keys ws).mpr (.inl rfl))
    rw [refs] at filed
    exact (booked.refs ws).mp filed
  · intro mem
    apply booked.congr
    refine ⟨?_, refs, ?_, books.limit.trans ensured.limit⟩
    · intro ws'
      rw [keys, or_iff_right_of_imp]
      rintro rfl
      exact mem
    · intro ws'
      rw [books.states]
      exact ensured.states ws'

theorem step {s s' : State} {label : Label} (booked : Booked s.manager)
    (step : Step s label s') (registered : Registered s.manager label) : Booked s'.manager := by
  cases step with
  | call call => exact booked
  | accept ws later free first room => exact booked.accept ws room
  | refuse ws later free first full => exact booked
  | refused ws refusing => exact booked
  | accepted ws mem => exact booked
  | subscribe ws channel filterLocoId envelopeType later free first =>
      exact (booked.subscribe_iff ws channel filterLocoId envelopeType).mpr registered
  | disconnect ws channels later free first perm =>
      exact (booked.forget ws).congr
        (.visit { s with waiting := later, manager := s.manager.forget ws } ws channels)
  | popRelay ws channel rest later free first =>
      have popped : SameBooks s.manager (s.manager.popRelay channel) := .of_eq rfl rfl rfl rfl
      exact booked.congr (popped.trans
        (.visit { s with waiting := later, manager := s.manager.popRelay channel } ws rest))
  | relay r relay call later at_r first => exact booked.congr (.runRelay s r relay later call)
  | closed ws mem => exact booked

theorem serverStep {s s' : Server} {label : ServerLabel} (booked : Booked s.state.manager)
    (step : ServerStep s label s') (registered : s.Registered label) :
    Booked s'.state.manager := by
  cases step with
  | manager label state inner => exact booked.step inner registered
  | markPong ws => exact booked.congr (.setPong _ ws true)
  | ping ws left stale pinging answered => exact booked.congr (.setPong _ ws false)
  | _ => exact booked

end Booked

/-- **The dictionaries of the connections agree and stay within the limit**, in every run of
calls and heartbeats in which every subscription finds its connection registered. -/
theorem bookkeeping {maxConnections : Int} (limit : 0 ≤ maxConnections) {s : Server}
    (reach : ((wsServer maxConnections).where' Server.Registered).Reachable s) :
    Booked s.state.manager := by
  apply reach.invariant
  · intro s start
    obtain rfl : s = ⟨⟨.create maxConnections, none, [], [], []⟩, .sleeping⟩ := start
    exact ⟨fun _ => Iff.rfl, fun _ => Iff.rfl, limit⟩
  · intro s label s' booked step
    exact booked.serverStep step.2 step.1

/-- A client that subscribes, is pinged and answers. -/
theorem bookkeeping_pinged : ∃ s, ((wsServer 500).where' Server.Registered).Reachable s ∧
    s.state.manager.activeConnections = 1 ∧ Booked s.state.manager := by
  have initial : ((wsServer 500).where' Server.Registered).Reachable
      ⟨⟨.create 500, none, [], [], []⟩, .sleeping⟩ := .init rfl
  have called := initial.guarded (.manager _ _ _ (Step.call _ (.accept 1))) trivial
  have taken := called.guarded (.manager _ _ _ (Step.accept _ 1 [] rfl rfl (by decide))) trivial
  have accepted := taken.guarded (.manager _ _ _ (Step.accepted _ 1 (by decide))) trivial
  have called := accepted.guarded
    (.manager _ _ _ (Step.call _ (.subscribe 1 "alerts:live" none none))) trivial
  have added := called.guarded
    (.manager _ _ _ (Step.subscribe _ 1 "alerts:live" none none [] rfl rfl))
    (show (1 : WsId) ∈ _ by decide)
  have round := added.guarded (.snapshot _ rfl rfl) trivial
  have pinged := round.guarded (.ping _ 1 [] [] rfl rfl) trivial
  have sent := pinged.guarded (.pinged _ 1 [] [] true rfl) trivial
  have answered := sent.guarded (.markPong _ 1) trivial
  exact ⟨_, answered, rfl, bookkeeping (by decide) answered⟩

/-- The first ping of a client comes before `ws.accept()` has completed and fails.  The
client is evicted, and then its handler subscribes. -/
theorem ghost_connection : ∃ s, (wsServer 1).Reachable s ∧ s.state.refusing = none ∧
    s.state.manager.activeConnections = 1 ∧ s.state.manager.wsRefs.keys = [] ∧
    ¬ Booked s.state.manager := by
  have initial : (wsServer 1).Reachable
      ⟨⟨.create 1, none, [], [], []⟩, .sleeping⟩ := .init rfl
  have called := initial.step (.manager _ _ _ (Step.call _ (.accept 1)))
  have taken := called.step (.manager _ _ _ (Step.accept _ 1 [] rfl rfl (by decide)))
  -- the socket is filed but not accepted
  have round := taken.step (.snapshot _ rfl rfl)
  have pinged := round.step (.ping _ 1 [] [] rfl rfl)
  have failed := pinged.step (.pinged _ 1 [] [] false rfl)
  have stale := failed.step (.stale _ [1] rfl)
  have evicting := stale.step (.evict _ 1 [] rfl)
  have evicted := evicting.step
    (.manager _ _ _ (Step.disconnect _ 1 [] [] rfl rfl (by decide)))
  have accepted := evicted.step (.manager _ _ _ (Step.accepted _ 1 (by decide)))
  have called := accepted.step
    (.manager _ _ _ (Step.call _ (.subscribe 1 "alerts:live" none none)))
  have added := called.step
    (.manager _ _ _ (Step.subscribe _ 1 "alerts:live" none none [] rfl rfl))
  refine ⟨_, added, rfl, rfl, rfl, fun booked => ?_⟩
  have filed := (booked.refs 1).mpr (by decide)
  exact absurd filed (by decide)

end LocoTwin.WsServer
