/-
# WsServer.ConnectionManager -- connections, relays and two kinds of locks

A relay fans one channel out to its clients.  The manager maps channels to relays and
connections to the channels they subscribed to.  Relays are objects: the manager drops
its reference to one while calls that hold another may still be under way, so `heap`
keeps every relay ever created and a `RelayId` is its position.

A call that has to wait stands in the queue of the lock it waits for, with what it does
when it gets the lock.  What runs under a lock is one step, save the refusal of a
connection, which keeps the manager's lock while the socket is closed.  `disconnect`
goes from one channel to the next: `visit` is the part of its loop up to the next wait.

The frames a relay sends, and the tasks that send them, are not part of this module.
-/
import LocoTwin.Lib.Dict
import LocoTwin.Lib.Transition

namespace LocoTwin.WsServer

open LocoTwin.Lib

set_option autoImplicit false

/-- A socket is known by its `id`. -/
abbrev WsId := Nat

abbrev Channel := String

/-! ## One channel -/

structure ClientSlot where
  filterLocoId : Option String
  deriving DecidableEq, Repr

/-- A call that waits for the lock of a relay; `rest` are the channels its `disconnect`
has still to visit. -/
inductive RelayCall where
  | addClient (ws : WsId) (filterLocoId : Option String)
  | removeClient (ws : WsId) (channel : Channel) (rest : List Channel)
  deriving DecidableEq, Repr

structure ChannelRelay where
  channel : Channel
  envelopeType : Option String
  clients : Dict WsId ClientSlot
  /-- A listener task has been started and not been cancelled. -/
  listenerTask : Bool
  waiting : List RelayCall
  deriving DecidableEq

namespace ChannelRelay

def create (channel : Channel) (envelopeType : Option String) : ChannelRelay where
  channel
  envelopeType
  clients := Dict.empty
  listenerTask := false
  waiting := []

def addClient (relay : ChannelRelay) (ws : WsId) (filterLocoId : Option String) :
    ChannelRelay :=
  let clients := relay.clients.set ws { filterLocoId }
  if relay.listenerTask then { relay with clients }
  else { relay with clients, listenerTask := true }

/-- The relay without the client, and how many remain. -/
def removeClient (relay : ChannelRelay) (ws : WsId) : ChannelRelay × Nat :=
  let clients := relay.clients.pop ws
  let remaining := clients.keys.length
  if remaining = 0 ∧ relay.listenerTask then
    ({ relay with clients, listenerTask := false }, remaining)
  else ({ relay with clients }, remaining)

end ChannelRelay

/-! ## The manager -/

structure WsState where
  /-- Starts true, so that the first heartbeat does not evict the client. -/
  pongReceived : Bool := true
  deriving DecidableEq, Repr

abbrev RelayId := Nat

structure ConnectionManager where
  maxConnections : Int
  relays : Dict Channel RelayId
  connections : Dict WsId (List Channel)
  wsRefs : Dict WsId WsId
  wsStates : Dict WsId WsState
  heap : List ChannelRelay
  deriving DecidableEq

namespace ConnectionManager

def create (maxConnections : Int) : ConnectionManager where
  maxConnections
  relays := Dict.empty
  connections := Dict.empty
  wsRefs := Dict.empty
  wsStates := Dict.empty
  heap := []

def activeConnections (m : ConnectionManager) : Nat := m.connections.keys.length

/-- `accept` is over the connection limit. -/
def full (m : ConnectionManager) : Prop := m.maxConnections ≤ m.activeConnections

instance (m : ConnectionManager) : Decidable m.full := inferInstanceAs (Decidable (_ ≤ _))

def accept (m : ConnectionManager) (ws : WsId) : ConnectionManager :=
  { m with
    connections := m.connections.set ws []
    wsRefs := m.wsRefs.set ws ws
    wsStates := m.wsStates.set ws {} }

/-- The relay of a channel, created where there is none. -/
def ensureRelay (m : ConnectionManager) (channel : Channel) (envelopeType : Option String) :
    ConnectionManager :=
  match m.relays.get? channel with
  | some _ => m
  | none =>
      { m with
        relays := m.relays.set channel m.heap.length
        heap := m.heap ++ [.create channel envelopeType] }

/-- `self._connections.setdefault(ws_id, set()).add(channel)` -/
def addChannel (m : ConnectionManager) (ws : WsId) (channel : Channel) : ConnectionManager :=
  { m with connections :=
    m.connections.set ws (((m.connections.get? ws).getD []).insert channel) }

def setRelay (m : ConnectionManager) (r : RelayId) (relay : ChannelRelay) : ConnectionManager :=
  { m with heap := m.heap.set r relay }

/-- A call starts to wait for the lock of a relay. -/
def enqueue (m : ConnectionManager) (r : RelayId) (call : RelayCall) : ConnectionManager :=
  match m.heap[r]? with
  | some relay => m.setRelay r { relay with waiting := relay.waiting ++ [call] }
  | none => m

/-- The locked block of `subscribe`, and the call of `self._relays[channel]` after it. -/
def subscribe (m : ConnectionManager) (ws : WsId) (channel : Channel)
    (filterLocoId envelopeType : Option String) : ConnectionManager :=
  let m' := (m.ensureRelay channel envelopeType).addChannel ws channel
  match m'.relays.get? channel with
  | some r => m'.enqueue r (.addClient ws filterLocoId)
  | none => m'

/-- The first locked block of `disconnect`, but for the channels it returns. -/
def forget (m : ConnectionManager) (ws : WsId) : ConnectionManager :=
  { m with
    connections := m.connections.pop ws
    wsRefs := m.wsRefs.pop ws
    wsStates := m.wsStates.pop ws }

def popRelay (m : ConnectionManager) (channel : Channel) : ConnectionManager :=
  { m with relays := m.relays.pop channel }

end ConnectionManager

/-- The next channel with a relay, and the channels after it. -/
def nextRelay (relays : Dict Channel RelayId) :
    List Channel → Option (Channel × RelayId × List Channel)
  | [] => none
  | channel :: rest =>
      match relays.get? channel with
      | some r => some (channel, r, rest)
      | none => nextRelay relays rest

/-! ## Calls -/

inductive Call where
  | accept (ws : WsId)
  | subscribe (ws : WsId) (channel : Channel) (filterLocoId envelopeType : Option String)
  | disconnect (ws : WsId)
  deriving DecidableEq, Repr

/-- A call that waits for the lock of the manager. -/
inductive Waiter where
  | call (call : Call)
  /-- A `disconnect` that has removed the last client of a relay. -/
  | popRelay (ws : WsId) (channel : Channel) (rest : List Channel)
  deriving DecidableEq, Repr

structure State where
  manager : ConnectionManager
  /-- The refused socket that is being closed under the lock. -/
  refusing : Option WsId
  waiting : List Waiter
  /-- `accept` calls at `ws.accept()`. -/
  accepting : List WsId
  /-- `disconnect` calls at `ws.close()`. -/
  closing : List WsId

namespace State

def wait (s : State) (waiter : Waiter) : State := { s with waiting := s.waiting ++ [waiter] }

/-- The loop of `disconnect` up to its next wait. -/
def visit (s : State) (ws : WsId) (channels : List Channel) : State :=
  match nextRelay s.manager.relays channels with
  | some (channel, r, rest) =>
      { s with manager := s.manager.enqueue r (.removeClient ws channel rest) }
  | none => { s with closing := s.closing ++ [ws] }

/-- A call has the lock of relay `r`; the calls after it go on waiting. -/
def runRelay (s : State) (r : RelayId) (relay : ChannelRelay) (later : List RelayCall) :
    RelayCall → State
  | .addClient ws filterLocoId =>
      let added := relay.addClient ws filterLocoId
      { s with manager := s.manager.setRelay r { added with waiting := later } }
  | .removeClient ws channel rest =>
      let (removed, remaining) := relay.removeClient ws
      let s' := { s with manager := s.manager.setRelay r { removed with waiting := later } }
      if remaining = 0 then s'.wait (.popRelay ws channel rest) else s'.visit ws rest

end State

inductive Label where
  | call (call : Call)
  | lock (waiter : Waiter)
  | refused (ws : WsId)
  | accepted (ws : WsId)
  | relay (r : RelayId) (call : RelayCall)
  | closed (ws : WsId)
  deriving DecidableEq, Repr

inductive Step : State → Label → State → Prop where
  | call (s : State) (call : Call) : Step s (.call call) (s.wait (.call call))
  | accept (s : State) (ws : WsId) (later : List Waiter) :
      s.refusing = none → s.waiting = .call (.accept ws) :: later → ¬ s.manager.full →
      Step s (.lock (.call (.accept ws)))
        { s with
          waiting := later
          manager := s.manager.accept ws
          accepting := s.accepting ++ [ws] }
  /-- The lock is kept until the socket is closed. -/
  | refuse (s : State) (ws : WsId) (later : List Waiter) :
      s.refusing = none → s.waiting = .call (.accept ws) :: later → s.manager.full →
      Step s (.lock (.call (.accept ws))) { s with waiting := later, refusing := some ws }
  | refused (s : State) (ws : WsId) : s.refusing = some ws →
      Step s (.refused ws) { s with refusing := none }
  /-- `ws.accept()` has returned or raised. -/
  | accepted (s : State) (ws : WsId) : ws ∈ s.accepting →
      Step s (.accepted ws) { s with accepting := s.accepting.erase ws }
  | subscribe (s : State) (ws : WsId) (channel : Channel)
      (filterLocoId envelopeType : Option String) (later : List Waiter) : s.refusing = none →
      s.waiting = .call (.subscribe ws channel filterLocoId envelopeType) :: later →
      Step s (.lock (.call (.subscribe ws channel filterLocoId envelopeType)))
        { s with
          waiting := later
          manager := s.manager.subscribe ws channel filterLocoId envelopeType }
  /-- The set of channels is gone through in any order. -/
  | disconnect (s : State) (ws : WsId) (channels : List Channel) (later : List Waiter) :
      s.refusing = none → s.waiting = .call (.disconnect ws) :: later →
      channels.Perm ((s.manager.connections.get? ws).getD []) →
      Step s (.lock (.call (.disconnect ws)))
        ({ s with waiting := later, manager := s.manager.forget ws }.visit ws channels)
  | popRelay (s : State) (ws : WsId) (channel : Channel) (rest : List Channel)
      (later : List Waiter) : s.refusing = none →
      s.waiting = .popRelay ws channel rest :: later →
      Step s (.lock (.popRelay ws channel rest))
        ({ s with waiting := later, manager := s.manager.popRelay channel }.visit ws rest)
  | relay (s : State) (r : RelayId) (relay : ChannelRelay) (call : RelayCall)
      (later : List RelayCall) : s.manager.heap[r]? = some relay →
      relay.waiting = call :: later → Step s (.relay r call) (s.runRelay r relay later call)
  /-- `ws.close()` has returned or raised. -/
  | closed (s : State) (ws : WsId) : ws ∈ s.closing →
      Step s (.closed ws) { s with closing := s.closing.erase ws }

/-- Calls of any number of clients on a new manager. -/
def connectionManager (maxConnections : Int) : System State Label where
  init s := s = ⟨.create maxConnections, none, [], [], []⟩
  step := Step

end LocoTwin.WsServer
