/-
# Dashboard.WebSocketManager -- `shared/ws/manager.ts` and the ticket of `shared/ws/hooks.ts`

One manager and what the browser holds for it: the `connect()` calls that wait at their
`await`, every socket the manager has created, in the order of their creation, and the
timers still set.  A socket is named by its place in that order, a timer by its id.

The browser runs one callback at a time, and an event below is one of them.  The `error`
event of a socket comes with the `close` event right behind it, from one task of the browser,
when the socket is already closed; so `closed` carries whether there was an error.

`raised_of_step` inverts a step, event by event: every lemma about steps starts from it.
-/
import LocoTwin.Lib.Transition
import Mathlib.Algebra.Order.Ring.Nat

namespace LocoTwin.Dashboard

open LocoTwin.Lib

set_option autoImplicit false

inductive WsStatus where
  | connecting | connected | disconnected | reconnecting
  deriving DecidableEq, Repr

/-- `WebSocket.readyState`. -/
inductive ReadyState where
  | connecting | open | closing | closed
  deriving DecidableEq, Repr

namespace ReadyState

/-- Not closed, and no `close()` on it. -/
def live : ReadyState → Bool
  | .connecting | .open => true
  | .closing | .closed => false

/-- `WebSocket.close()`. -/
def close : ReadyState → ReadyState
  | .connecting | .open => .closing
  | .closing => .closing
  | .closed => .closed

@[simp] theorem live_close (r : ReadyState) : r.close.live = false := by
  cases r <;> rfl

end ReadyState

structure Timer where
  id : Nat
  delay : Nat
  deriving DecidableEq, Repr

/-- What `decodeMessage` makes of a frame. -/
inductive Message where
  | ping
  | data (payload : String)
  | malformed
  deriving DecidableEq, Repr

structure CloseEvent where
  code : Nat
  wasClean : Bool
  deriving DecidableEq, Repr

structure WebSocketManager where
  ws : Option Nat
  /-- The subscribers, in the order in which they came. -/
  handlers : List Nat
  status : WsStatus
  reconnectAttempts : Nat
  reconnectTimer : Option Nat
  disposed : Bool
  /-- The `connect()` calls at `await this.fetchTicket()`. -/
  fetching : Nat
  sockets : List ReadyState
  timers : List Timer
  /-- Ids handed out by `setTimeout`. -/
  timersSet : Nat
  /-- The sockets on which a pong was sent. -/
  pongs : List Nat
  /-- What each handler was called with. -/
  delivered : List (Nat × String)
  deriving DecidableEq, Repr

namespace WebSocketManager

/-- A manager as its constructor leaves it. -/
def new : WebSocketManager where
  ws := none
  handlers := []
  status := .disconnected
  reconnectAttempts := 0
  reconnectTimer := none
  disposed := false
  fetching := 0
  sockets := []
  timers := []
  timersSet := 0
  pongs := []
  delivered := []

/-- Some socket is CONNECTING or OPEN. -/
def live (m : WebSocketManager) : Bool := m.sockets.any ReadyState.live

/-- `connect` up to its `await`. -/
def connect (m : WebSocketManager) : WebSocketManager :=
  if m.disposed then m
  else { m with status := .connecting, fetching := m.fetching + 1 }

/-- JavaScript's truth of a ticket. -/
def truthy : Option String → Bool
  | none => false
  | some ticket => ticket != ""

/-- `connect` after its `await`: what it does with the ticket, the url being well formed. -/
def resume (m : WebSocketManager) (ticket : Option String) : WebSocketManager :=
  if truthy ticket then
    { m with
      fetching := m.fetching - 1
      ws := some m.sockets.length
      sockets := m.sockets ++ [.connecting] }
  else { m with fetching := m.fetching - 1, status := .disconnected }

/-- `fetchTicket` rejects, and `connect` with it. -/
def reject (m : WebSocketManager) : WebSocketManager := { m with fetching := m.fetching - 1 }

def setReadyState (m : WebSocketManager) (i : Nat) (r : ReadyState) : WebSocketManager :=
  { m with sockets := m.sockets.set i r }

/-- `this.ws?.close()`. -/
def closeCurrent (m : WebSocketManager) : WebSocketManager :=
  match m.ws with
  | none => m
  | some i => { m with sockets := m.sockets.modify i ReadyState.close }

def onopen (m : WebSocketManager) : WebSocketManager :=
  { m with reconnectAttempts := 0, status := .connected }

def sendPong (m : WebSocketManager) : WebSocketManager :=
  match m.ws with
  | none => m
  | some i =>
      if m.sockets[i]? = some .open then { m with pongs := m.pongs ++ [i] } else m

def onmessage (m : WebSocketManager) : Message → WebSocketManager
  | .ping => m.sendPong
  | .data payload =>
      { m with delivered := m.delivered ++ m.handlers.map fun handler => (handler, payload) }
  | .malformed => m

/-- `Math.min(1000 * 2 ** this.reconnectAttempts, 30000)`. -/
def delay (attempts : Nat) : Nat := min (1000 * 2 ^ attempts) 30000

def scheduleReconnect (max : Nat) (m : WebSocketManager) : WebSocketManager :=
  if max ≤ m.reconnectAttempts then m
  else
    { m with
      status := .reconnecting
      reconnectAttempts := m.reconnectAttempts + 1
      reconnectTimer := some m.timersSet
      timers := m.timers ++ [⟨m.timersSet, delay m.reconnectAttempts⟩]
      timersSet := m.timersSet + 1 }

def onclose (max : Nat) (m : WebSocketManager) (event : CloseEvent) : WebSocketManager :=
  if m.disposed then m
  else
    let m := { m with status := .disconnected }
    if event.code = 4401 ∨ event.code = 4400 then m
    else if !event.wasClean then m.scheduleReconnect max
    else m

/-- `clearTimeout`. -/
def clearTimeout (m : WebSocketManager) (id : Nat) : WebSocketManager :=
  { m with timers := m.timers.filter fun timer => timer.id != id }

/-- `if (this.reconnectTimer) { … }`. -/
def clearReconnect (m : WebSocketManager) : WebSocketManager :=
  match m.reconnectTimer with
  | none => m
  | some id => { m.clearTimeout id with reconnectTimer := none }

def dispose (m : WebSocketManager) : WebSocketManager :=
  { ({ m with disposed := true }).clearReconnect.closeCurrent with
    ws := none
    handlers := []
    status := .disconnected }

def subscribe (m : WebSocketManager) (handler : Nat) : WebSocketManager :=
  if handler ∈ m.handlers then m else { m with handlers := m.handlers ++ [handler] }

def unsubscribe (m : WebSocketManager) (handler : Nat) : WebSocketManager :=
  { m with handlers := m.handlers.erase handler }

/-! ## What the calls leave alone -/

theorem live_eq_false {m : WebSocketManager} :
    m.live = false ↔ ∀ (i : Nat) (r : ReadyState), m.sockets[i]? = some r → r.live = false := by
  rw [live, List.any_eq_false]
  constructor
  · intro all i r at'
    exact Bool.eq_false_iff.mpr (all r (List.mem_of_getElem? at'))
  · intro all r mem
    obtain ⟨i, at'⟩ := List.mem_iff_getElem?.mp mem
    simp [all i r at']

theorem live_eq_true {m : WebSocketManager} {i : Nat} {r : ReadyState}
    (at' : m.sockets[i]? = some r) (alive : r.live = true) : m.live = true :=
  List.any_eq_true.mpr ⟨r, List.mem_of_getElem? at', alive⟩

/-- Closing sockets, or finding them closed, leaves none alive where none was. -/
theorem live_of_sockets {m m' : WebSocketManager} (none' : m.live = false)
    (sockets : ∀ (i : Nat) (r : ReadyState), m'.sockets[i]? = some r → r.live = true →
      ∃ q : ReadyState, m.sockets[i]? = some q ∧ q.live = true) : m'.live = false := by
  refine live_eq_false.mpr fun i r at' => Bool.eq_false_iff.mpr fun alive => ?_
  obtain ⟨q, before, was⟩ := sockets i r at' alive
  rw [live_eq_true before was] at none'
  cases none'

@[simp] theorem closeCurrent_status (m : WebSocketManager) :
    m.closeCurrent.status = m.status := by
  unfold closeCurrent; split <;> rfl

@[simp] theorem closeCurrent_timers (m : WebSocketManager) :
    m.closeCurrent.timers = m.timers := by
  unfold closeCurrent; split <;> rfl

@[simp] theorem closeCurrent_disposed (m : WebSocketManager) :
    m.closeCurrent.disposed = m.disposed := by
  unfold closeCurrent; split <;> rfl

@[simp] theorem closeCurrent_reconnectAttempts (m : WebSocketManager) :
    m.closeCurrent.reconnectAttempts = m.reconnectAttempts := by
  unfold closeCurrent; split <;> rfl

@[simp] theorem closeCurrent_length (m : WebSocketManager) :
    m.closeCurrent.sockets.length = m.sockets.length := by
  unfold closeCurrent; split <;> simp

/-- What is alive after `this.ws?.close()` was alive, and is not `this.ws`. -/
theorem closeCurrent_alive {m : WebSocketManager} {i : Nat} {r : ReadyState}
    (alive : r.live = true) :
    m.closeCurrent.sockets[i]? = some r ↔ m.sockets[i]? = some r ∧ m.ws ≠ some i := by
  unfold closeCurrent
  split
  case h_1 ws => simp [ws]
  case h_2 j ws =>
    rw [ws, List.getElem?_modify]
    by_cases same : j = i
    · subst same
      simp only [if_true, ne_eq, not_true_eq_false, and_false, iff_false]
      intro after
      obtain ⟨q, -, closed⟩ := Option.map_eq_some_iff.mp after
      rw [← closed, ReadyState.live_close] at alive
      cases alive
    · simp [same]

@[simp] theorem clearReconnect_sockets (m : WebSocketManager) :
    m.clearReconnect.sockets = m.sockets := by
  unfold clearReconnect; split <;> rfl

@[simp] theorem clearReconnect_ws (m : WebSocketManager) : m.clearReconnect.ws = m.ws := by
  unfold clearReconnect; split <;> rfl

@[simp] theorem clearReconnect_disposed (m : WebSocketManager) :
    m.clearReconnect.disposed = m.disposed := by
  unfold clearReconnect; split <;> rfl

theorem onclose_disposed {max : Nat} {m : WebSocketManager} (disposed : m.disposed = true)
    (event : CloseEvent) : m.onclose max event = m := by
  simp [onclose, disposed]

@[simp] theorem onclose_keeps_disposed (max : Nat) (m : WebSocketManager) (event : CloseEvent) :
    (m.onclose max event).disposed = m.disposed := by
  unfold onclose scheduleReconnect
  dsimp only
  split
  · rfl
  · split
    · rfl
    · split
      · split <;> rfl
      · rfl

@[simp] theorem connect_disposed (m : WebSocketManager) : m.connect.disposed = m.disposed := by
  unfold connect; split <;> rfl

@[simp] theorem connect_reconnectAttempts (m : WebSocketManager) :
    m.connect.reconnectAttempts = m.reconnectAttempts := by
  unfold connect; split <;> rfl

@[simp] theorem resume_disposed (m : WebSocketManager) (answer : Option String) :
    (m.resume answer).disposed = m.disposed := by
  unfold resume; split <;> rfl

@[simp] theorem resume_reconnectAttempts (m : WebSocketManager) (answer : Option String) :
    (m.resume answer).reconnectAttempts = m.reconnectAttempts := by
  unfold resume; split <;> rfl

theorem resume_live {m : WebSocketManager} {ticket : Option String}
    (got : truthy ticket = true) : (m.resume ticket).live = true := by
  simp [resume, got, live, ReadyState.live]

end WebSocketManager

/-! ## The events -/

inductive Event where
  | connect
  /-- A call of `fetchTicket` resolves. -/
  | ticket (ticket : Option String)
  | ticketRejected
  | opened (socket : Nat)
  | message (socket : Nat) (message : Message)
  /-- With an `error` event right before it or not. -/
  | closed (socket : Nat) (event : CloseEvent) (error : Bool)
  | fired (timer : Nat)
  | dispose
  | subscribe (handler : Nat)
  | unsubscribe (handler : Nat)
  deriving DecidableEq, Repr

open WebSocketManager in
/-- The callback of an event, where the browser can raise it. -/
def step (max : Nat) (m : WebSocketManager) : Event → Option WebSocketManager
  | .connect => some m.connect
  | .ticket ticket => if 0 < m.fetching then some (m.resume ticket) else none
  | .ticketRejected => if 0 < m.fetching then some m.reject else none
  | .opened i =>
      if m.sockets[i]? = some .connecting then some (m.setReadyState i .open).onopen else none
  | .message i message =>
      if m.sockets[i]? = some .open then some (m.onmessage message) else none
  | .closed i event error =>
      if i < m.sockets.length ∧ m.sockets[i]? ≠ some .closed then
        let m := m.setReadyState i .closed
        some ((if error then m.closeCurrent else m).onclose max event)
      else none
  | .fired id =>
      if id ∈ m.timers.map Timer.id then some (m.clearTimeout id).connect else none
  | .dispose => some m.dispose
  | .subscribe handler => some (m.subscribe handler)
  | .unsubscribe handler => some (m.unsubscribe handler)

/-- The events in any order the browser can raise them, on a new manager with that
`maxReconnectAttempts`. -/
def dashboard (max : Nat) : System WebSocketManager Event where
  init m := m = .new
  step m event m' := step max m event = some m'

theorem dashboard_deterministic {max : Nat} (m : WebSocketManager) (event : Event)
    (m' m'' : WebSocketManager) (step : (dashboard max).step m event m')
    (step' : (dashboard max).step m event m'') : m' = m'' :=
  Option.some.inj (step.symm.trans step')

/-- What each event makes of the manager. -/
inductive Raised (max : Nat) (m : WebSocketManager) : Event → WebSocketManager → Prop where
  | connect : Raised max m .connect m.connect
  | ticket (answer : Option String) : 0 < m.fetching →
      Raised max m (.ticket answer) (m.resume answer)
  | ticketRejected : 0 < m.fetching → Raised max m .ticketRejected m.reject
  | opened (i : Nat) : m.sockets[i]? = some .connecting →
      Raised max m (.opened i) (m.setReadyState i .open).onopen
  | message (i : Nat) (message : Message) (pongs : List Nat) (delivered : List (Nat × String)) :
      Raised max m (.message i message) { m with pongs, delivered }
  | closed (i : Nat) (event : CloseEvent) (error : Bool) :
      Raised max m (.closed i event error)
        ((if error then (m.setReadyState i .closed).closeCurrent
          else m.setReadyState i .closed).onclose max event)
  | fired (id : Nat) : id ∈ m.timers.map Timer.id →
      Raised max m (.fired id) (m.clearTimeout id).connect
  | dispose : Raised max m .dispose m.dispose
  | subscribe (handler : Nat) (handlers : List Nat) :
      Raised max m (.subscribe handler) { m with handlers }
  | unsubscribe (handler : Nat) (handlers : List Nat) :
      Raised max m (.unsubscribe handler) { m with handlers }

theorem raised_message (max : Nat) (m : WebSocketManager) (i : Nat) (message : Message) :
    Raised max m (.message i message) (m.onmessage message) := by
  cases message with
  | ping =>
      unfold WebSocketManager.onmessage WebSocketManager.sendPong
      dsimp only
      split
      · exact .message i .ping m.pongs m.delivered
      · split
        · exact .message i .ping _ m.delivered
        · exact .message i .ping m.pongs m.delivered
  | data payload => exact .message i (.data payload) m.pongs _
  | malformed => exact .message i .malformed m.pongs m.delivered

/-- What a step can do, event by event. -/
theorem raised_of_step {max : Nat} {m m' : WebSocketManager} {event : Event}
    (next : step max m event = some m') : Raised max m event m' := by
  cases event with
  | connect =>
      cases next
      exact .connect
  | ticket answer =>
      simp only [step, Option.ite_none_right_eq_some, Option.some.injEq] at next
      obtain ⟨fetching, rfl⟩ := next
      exact .ticket answer fetching
  | ticketRejected =>
      simp only [step, Option.ite_none_right_eq_some, Option.some.injEq] at next
      obtain ⟨fetching, rfl⟩ := next
      exact .ticketRejected fetching
  | opened i =>
      simp only [step, Option.ite_none_right_eq_some, Option.some.injEq] at next
      obtain ⟨opening, rfl⟩ := next
      exact .opened i opening
  | message i message =>
      simp only [step, Option.ite_none_right_eq_some, Option.some.injEq] at next
      obtain ⟨-, rfl⟩ := next
      exact raised_message max m i message
  | closed i event error =>
      simp only [step, Option.ite_none_right_eq_some, Option.some.injEq] at next
      obtain ⟨-, rfl⟩ := next
      exact .closed i event error
  | fired id =>
      simp only [step, Option.ite_none_right_eq_some, Option.some.injEq] at next
      obtain ⟨pending, rfl⟩ := next
      exact .fired id pending
  | dispose =>
      cases next
      exact .dispose
  | subscribe handler =>
      cases next
      unfold WebSocketManager.subscribe
      split
      · exact .subscribe handler m.handlers
      · exact .subscribe handler _
  | unsubscribe handler =>
      cases next
      exact .unsubscribe handler _

/-- The `error` event touches neither the attempts nor `disposed`. -/
theorem errored_fields (m : WebSocketManager) (i : Nat) (error : Bool) :
    (if error then (m.setReadyState i .closed).closeCurrent
      else m.setReadyState i .closed).disposed = m.disposed ∧
    (if error then (m.setReadyState i .closed).closeCurrent
      else m.setReadyState i .closed).reconnectAttempts = m.reconnectAttempts := by
  cases error with
  | true => simp [WebSocketManager.setReadyState]
  | false => simp [WebSocketManager.setReadyState]

/-- Only `dispose` disposes. -/
theorem disposed_of_step {max : Nat} {m m' : WebSocketManager} {event : Event}
    (next : step max m event = some m') (other : event ≠ .dispose) :
    m'.disposed = m.disposed := by
  cases raised_of_step next with
  | dispose => exact absurd rfl other
  | connect => exact WebSocketManager.connect_disposed m
  | ticket answer fetching => exact WebSocketManager.resume_disposed m answer
  | closed i event error =>
      rw [WebSocketManager.onclose_keeps_disposed]
      exact (errored_fields m i error).1
  | fired id pending => exact WebSocketManager.connect_disposed (m.clearTimeout id)
  | _ => rfl

/-- The events of the list one after the other. -/
def play (max : Nat) (m : WebSocketManager) (events : List Event) : Option WebSocketManager :=
  events.foldlM (step max) m

theorem run_of_play {max : Nat} {m m' : WebSocketManager} {events : List Event}
    (played : play max m events = some m') : (dashboard max).Run m events m' := by
  induction events generalizing m with
  | nil =>
      cases played
      exact .nil _
  | cons event events ih =>
      obtain ⟨m₁, next, rest⟩ := Option.bind_eq_some_iff.mp played
      exact (System.Run.snoc (.nil m) next).append (ih rest)

/-! ## The ticket -/

/-- How the query behind `getWsTicket` settles: with the body of a 2xx answer, or with one
of the errors of `fetchBaseQuery`. -/
inductive TicketReply where
  | data (ticket : String)
  | status (code : Nat)
  | fetchError
  | parsingError
  | timeoutError
  deriving DecidableEq, Repr

/-- The user is not, or no longer, logged in. -/
def TicketReply.authRejection : TicketReply → Bool
  | .status code => code == 401 || code == 403
  | _ => false

/-- `fetchTicket` of the hooks. -/
def fetchTicket : TicketReply → Option String
  | .data ticket => some ticket
  | _ => none

end LocoTwin.Dashboard
