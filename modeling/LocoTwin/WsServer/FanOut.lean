/-
# WsServer.FanOut -- one message to the queues of many clients

The listener of a relay decodes a message, wraps it in the envelope of the relay and puts
the frame on the queue of every client that wants it, dropping the oldest frame of a full
queue; the sender of a client takes frames from its queue at any time.  Adding a client,
removing one and the loop over the clients run under the lock and have no await in them, so
each is one step.

A `Slot` also records the messages put on its queue and the frames dropped from it, which the
code does not keep.  What a client is to get is read off the messages since it was added, and
what its sender took off what the relay has put out: the `Stay` of the client.

* `erase_relayAfter`: the relay without the queues is the `ChannelRelay` of the manager;
* `fan_out_law`: where all messages are maps, a queue is the end of what its client was to
  get, what was taken and what was dropped lie before it, in order, and none of this depends
  on the other clients.
-/
import LocoTwin.Analytics.Aggregator
import LocoTwin.Lib.Deque
import LocoTwin.WsServer.ConnectionManager

namespace LocoTwin.WsServer

open LocoTwin.Lib LocoTwin.Shared
open LocoTwin.Analytics (Conversions getOr)

set_option autoImplicit false

abbrev Raw := List UInt8

/-- The wire format, and the texts of decoded values. -/
structure Codec where
  decode : Raw → Except PyError PyVal
  encode : PyVal → Except PyError Raw
  conv : Conversions

/-- `_QUEUE_MAX` -/
def queueMax : Nat := 64

/-! ## One message -/

/-- `parsed_msg`, with `none` for `None`. -/
def parse (codec : Codec) (raw : Raw) : Option PyVal :=
  match codec.decode raw with
  | .ok .none => none
  | .ok msg => some msg
  | .error _ => none

/-- The bytes the clients get. -/
def frame (codec : Codec) (envelopeType : Option String) (raw : Raw) : Except PyError Raw :=
  match envelopeType, parse codec raw with
  | some type, some msg =>
      if type = "" then .ok raw else codec.encode (.dict [("type", .str type), ("data", msg)])
  | _, _ => .ok raw

/-- `str(parsed_msg.get("locomotive_id", ""))` -/
def msgLoco (codec : Codec) (msg : PyVal) : Except PyError String :=
  (getOr msg "locomotive_id" (.str "")).map codec.conv.str

/-- The locomotive of a message, where it decodes to a map. -/
def locoOf (codec : Codec) (raw : Raw) : Option String :=
  match codec.decode raw with
  | .ok (.dict entries) =>
      some (codec.conv.str ((entries.lookup "locomotive_id").getD (.str "")))
  | _ => none

/-- A message matches the filter of a client; an empty filter is none. -/
def Matches (codec : Codec) (filterLocoId : Option String) (raw : Raw) : Prop :=
  filterLocoId = none ∨ filterLocoId = some "" ∨ locoOf codec raw = filterLocoId

instance (codec : Codec) (filterLocoId : Option String) (raw : Raw) :
    Decidable (Matches codec filterLocoId raw) :=
  inferInstanceAs (Decidable (_ ∨ _ ∨ _))

/-! ## One client -/

structure Slot where
  filterLocoId : Option String
  queue : Deque Raw queueMax
  /-- The messages whose frames were put on the queue. -/
  sources : List Raw
  dropped : List Raw

namespace Slot

def create (filterLocoId : Option String) : Slot where
  filterLocoId
  queue := Deque.empty
  sources := []
  dropped := []

/-- The loop does not `continue`. -/
def wants (codec : Codec) (slot : Slot) (parsed : Option PyVal) : Except PyError Bool :=
  match slot.filterLocoId, parsed with
  | some loco, some msg =>
      if loco = "" then .ok true else (msgLoco codec msg).map fun l => l == loco
  | _, _ => .ok true

/-- The oldest frame of a full queue is dropped. -/
def makeRoom (slot : Slot) : Slot :=
  if slot.queue.items.length < queueMax then slot
  else
    match slot.queue.getNowait with
    | some (oldest, queue) => { slot with queue, dropped := slot.dropped ++ [oldest] }
    | none => slot

def put (slot : Slot) (raw data : Raw) : Slot :=
  match slot.queue.putNowait data with
  | some queue => { slot with queue, sources := slot.sources ++ [raw] }
  | none => slot

/-- The frame is put on the queue, with room made for it. -/
def push (slot : Slot) (raw data : Raw) : Slot := slot.makeRoom.put raw data

/-- The body of the loop. -/
def handle (codec : Codec) (slot : Slot) (raw data : Raw) : Except PyError Slot :=
  (slot.wants codec (parse codec raw)).map fun wanted =>
    if wanted then slot.push raw data else slot

end Slot

/-- The loop over the clients, and what ends it early. -/
def fanOut (codec : Codec) (raw data : Raw) :
    List (WsId × Slot) → List (WsId × Slot) × Option PyError
  | [] => ([], none)
  | (ws, slot) :: rest =>
      match slot.handle codec raw data with
      | .error error => ((ws, slot) :: rest, some error)
      | .ok slot =>
          let later := fanOut codec raw data rest
          ((ws, slot) :: later.1, later.2)

theorem keys_fanOut (codec : Codec) (raw data : Raw) (clients : List (WsId × Slot)) :
    (fanOut codec raw data clients).1.map Prod.fst = clients.map Prod.fst := by
  induction clients with
  | nil => rfl
  | cons client rest ih =>
      obtain ⟨ws, slot⟩ := client
      rw [fanOut]
      cases slot.handle codec raw data with
      | error error => rfl
      | ok slot => exact congrArg (ws :: ·) ih

/-! ## The relay -/

structure Relay where
  channel : Channel
  envelopeType : Option String
  clients : Dict WsId Slot
  listenerTask : Bool

namespace Relay

def create (channel : Channel) (envelopeType : Option String) : Relay where
  channel
  envelopeType
  clients := Dict.empty
  listenerTask := false

/-- A client that is added again starts with a new queue. -/
def addClient (relay : Relay) (ws : WsId) (filterLocoId : Option String) : Relay :=
  { relay with clients := relay.clients.set ws (.create filterLocoId), listenerTask := true }

def removeClient (relay : Relay) (ws : WsId) : Relay :=
  let clients := relay.clients.pop ws
  if clients.keys.length = 0 ∧ relay.listenerTask then { relay with clients, listenerTask := false }
  else { relay with clients }

def shutdown (relay : Relay) : Relay :=
  { relay with clients := Dict.empty, listenerTask := false }

/-- The listener has a message; what it raises is logged, and it subscribes again. -/
def message (codec : Codec) (relay : Relay) (raw : Raw) : Relay :=
  match frame codec relay.envelopeType raw with
  | .error _ => relay
  | .ok data =>
      { relay with clients :=
        ⟨(fanOut codec raw data relay.clients.entries).1,
          (keys_fanOut codec raw data relay.clients.entries).symm ▸ relay.clients.nodup⟩ }

/-- The sender of a client goes on where its queue is not empty. -/
def senderGet (relay : Relay) (ws : WsId) : Relay × Option Raw :=
  match relay.clients.get? ws with
  | none => (relay, none)
  | some slot =>
      match slot.queue.getNowait with
      | none => (relay, none)
      | some (data, queue) =>
          ({ relay with clients := relay.clients.set ws { slot with queue } }, some data)

end Relay

inductive RelayEvent where
  | addClient (ws : WsId) (filterLocoId : Option String)
  | removeClient (ws : WsId)
  | shutdown
  | message (raw : Raw)
  | senderGet (ws : WsId)
  deriving DecidableEq, Repr

/-- Puts out what a sender takes. -/
def relayMachine (codec : Codec) : Machine Relay RelayEvent (Option Raw)
  | relay, .addClient ws filterLocoId => (relay.addClient ws filterLocoId, none)
  | relay, .removeClient ws => (relay.removeClient ws, none)
  | relay, .shutdown => (relay.shutdown, none)
  | relay, .message raw => (relay.message codec raw, none)
  | relay, .senderGet ws => relay.senderGet ws

/-- A new relay after the events. -/
def relayAfter (codec : Codec) (channel : Channel) (envelopeType : Option String)
    (events : List RelayEvent) : Relay :=
  ((relayMachine codec).run (.create channel envelopeType) events).1

/-! ## What becomes of the frames -/

/-- The decoded message is a map. -/
def IsMap (codec : Codec) (raw : Raw) : Prop := ∃ entries, codec.decode raw = .ok (.dict entries)

variable {codec : Codec} {raw data : Raw} {slot : Slot}

/-- A map is wanted where it matches. -/
theorem wants_of_isMap (map : IsMap codec raw) (slot : Slot) :
    ∃ wanted, slot.wants codec (parse codec raw) = .ok wanted ∧
      (wanted = true ↔ Matches codec slot.filterLocoId raw) := by
  obtain ⟨entries, decoded⟩ := map
  have parsed : parse codec raw = some (.dict entries) := by simp only [parse, decoded]
  have loco : locoOf codec raw =
      some (codec.conv.str ((entries.lookup "locomotive_id").getD (.str ""))) := by
    simp only [locoOf, decoded]
  unfold Slot.wants Matches
  rw [parsed, loco]
  cases slot.filterLocoId with
  | none => exact ⟨true, rfl, by simp⟩
  | some filter =>
      by_cases empty : filter = ""
      · exact ⟨true, if_pos empty, by simp [empty]⟩
      · exact ⟨_, if_neg empty, by simp [empty]⟩

/-- Room is made for a frame as a bounded queue makes it. -/
theorem push_eq (slot : Slot) (raw data : Raw) :
    slot.push raw data =
      { slot with
        queue := (slot.queue.append data).1
        sources := slot.sources ++ [raw]
        dropped := slot.dropped ++ (slot.queue.append data).2 } := by
  obtain ⟨filterLocoId, ⟨items, bound⟩, sources, dropped⟩ := slot
  unfold Slot.push Slot.makeRoom Deque.append
  by_cases room : items.length < queueMax
  · have fits : items.length + 1 ≤ queueMax := room
    simp [Slot.put, Deque.putNowait, room, fits]
  · cases items with
    | nil => exact absurd (by decide) room
    | cons oldest rest =>
        have room' : rest.length < queueMax := bound
        have full : ¬rest.length + 1 + 1 ≤ queueMax := room
        have room : ¬rest.length + 1 < queueMax := room
        simp [Slot.put, Deque.putNowait, Deque.getNowait, room', room, full]

theorem handle_of_wants (wants : slot.wants codec (parse codec raw) = .ok true) (data : Raw) :
    slot.handle codec raw data = .ok (slot.push raw data) := by
  unfold Slot.handle
  rw [wants]
  rfl

theorem handle_of_isMap (map : IsMap codec raw) (slot : Slot) (data : Raw) :
    slot.handle codec raw data =
      .ok (if Matches codec slot.filterLocoId raw then slot.push raw data else slot) := by
  obtain ⟨wanted, wants, iff⟩ := wants_of_isMap map slot
  by_cases matches' : Matches codec slot.filterLocoId raw
  · rw [iff.mpr matches'] at wants
    rw [if_pos matches']
    exact handle_of_wants wants data
  · have unwanted : wanted = false := by
      cases wanted with
      | true => exact absurd (iff.mp rfl) matches'
      | false => rfl
    unfold Slot.handle
    rw [wants, unwanted, if_neg matches']
    rfl

theorem handle_keeps {slot' : Slot} (handled : slot.handle codec raw data = .ok slot') :
    slot'.filterLocoId = slot.filterLocoId := by
  unfold Slot.handle at handled
  cases wants : slot.wants codec (parse codec raw) with
  | error error =>
      rw [wants] at handled
      cases handled
  | ok wanted =>
      rw [wants] at handled
      obtain rfl := Except.ok.inj handled
      cases wanted with
      | true =>
          show (slot.push raw data).filterLocoId = _
          rw [push_eq]
      | false => rfl

/-- Where no client raises, the loop goes through them all. -/
theorem fanOut_of_ok {f : Slot → Slot}
    (ok : ∀ slot : Slot, slot.handle codec raw data = .ok (f slot))
    (clients : List (WsId × Slot)) :
    (fanOut codec raw data clients).1 = clients.map fun e => (e.1, f e.2) := by
  induction clients with
  | nil => rfl
  | cons client rest ih =>
      obtain ⟨ws, slot⟩ := client
      simp only [fanOut, ok, List.map_cons]
      rw [ih]

/-- A map reaches every client whose filter it matches. -/
theorem get?_message (map : IsMap codec raw) (relay : Relay) (ws : WsId) :
    (relay.message codec raw).clients.get? ws =
      match frame codec relay.envelopeType raw with
      | .error _ => relay.clients.get? ws
      | .ok data => (relay.clients.get? ws).map fun slot =>
          if Matches codec slot.filterLocoId raw then slot.push raw data else slot := by
  unfold Relay.message
  cases frame codec relay.envelopeType raw with
  | error e => rfl
  | ok data =>
      let f (slot : Slot) : Slot :=
        if Matches codec slot.filterLocoId raw then slot.push raw data else slot
      have same : (⟨(fanOut codec raw data relay.clients.entries).1,
          (keys_fanOut codec raw data relay.clients.entries).symm ▸ relay.clients.nodup⟩ :
            Dict WsId Slot) = relay.clients.mapValues fun _ slot => f slot :=
        Dict.ext (fanOut_of_ok (handle_of_isMap map · data) relay.clients.entries)
      show Dict.get? ⟨(fanOut codec raw data relay.clients.entries).1, _⟩ ws = _
      rw [same, Dict.get?_mapValues]

/-! ## The manager's view -/

/-- The relay as the manager sees it. -/
def Relay.erase (relay : Relay) : ChannelRelay where
  channel := relay.channel
  envelopeType := relay.envelopeType
  clients := relay.clients.mapValues fun _ slot => { filterLocoId := slot.filterLocoId }
  listenerTask := relay.listenerTask
  waiting := []

/-- What the manager sees of an event. -/
def ChannelRelay.after (relay : ChannelRelay) : RelayEvent → ChannelRelay
  | .addClient ws filterLocoId => relay.addClient ws filterLocoId
  | .removeClient ws => (relay.removeClient ws).1
  | .shutdown => { relay with clients := Dict.empty, listenerTask := false }
  | .message _ | .senderGet _ => relay

theorem erase_addClient (relay : Relay) (ws : WsId) (filterLocoId : Option String) :
    (relay.addClient ws filterLocoId).erase = relay.erase.addClient ws filterLocoId := by
  unfold Relay.addClient ChannelRelay.addClient Relay.erase
  simp only [Dict.mapValues_set]
  split
  case isTrue on => rw [on]; rfl
  case isFalse => rfl

theorem erase_removeClient (relay : Relay) (ws : WsId) :
    (relay.removeClient ws).erase = (relay.erase.removeClient ws).1 := by
  unfold Relay.removeClient ChannelRelay.removeClient Relay.erase
  simp only [← Dict.mapValues_pop, Dict.keys_mapValues]
  split <;> rfl

theorem filters_fanOut (codec : Codec) (raw data : Raw) (clients : List (WsId × Slot)) :
    (fanOut codec raw data clients).1.map (fun e => (e.1, ClientSlot.mk e.2.filterLocoId)) =
      clients.map fun e => (e.1, ClientSlot.mk e.2.filterLocoId) := by
  induction clients with
  | nil => rfl
  | cons client rest ih =>
      obtain ⟨ws, slot⟩ := client
      rw [fanOut]
      cases handled : slot.handle codec raw data with
      | error error => rfl
      | ok slot' =>
          show (ws, ClientSlot.mk slot'.filterLocoId) :: _ = (ws, _) :: _
          rw [handle_keeps handled, ih]

theorem erase_message (codec : Codec) (relay : Relay) (raw : Raw) :
    (relay.message codec raw).erase = relay.erase := by
  unfold Relay.message
  split
  · rfl
  case h_2 data sent =>
    exact congrArg (ChannelRelay.mk relay.channel relay.envelopeType · relay.listenerTask [])
      (Dict.ext (filters_fanOut codec raw data relay.clients.entries))

theorem erase_senderGet (relay : Relay) (ws : WsId) :
    (relay.senderGet ws).1.erase = relay.erase := by
  unfold Relay.senderGet
  split
  · rfl
  case h_2 slot found =>
    split
    · rfl
    · unfold Relay.erase
      simp only [Dict.mapValues_set]
      congr 1
      refine Dict.set_of_get? ?_
      rw [Dict.get?_mapValues, found]
      rfl

/-- The relay without the queues is the relay of the manager, in every run. -/
theorem erase_relayAfter (codec : Codec) (channel : Channel) (envelopeType : Option String)
    (events : List RelayEvent) :
    (relayAfter codec channel envelopeType events).erase =
      events.foldl ChannelRelay.after (.create channel envelopeType) := by
  induction events using List.reverseRecOn with
  | nil => rfl
  | append_singleton events event ih =>
      rw [List.foldl_concat, ← ih, relayAfter, Machine.run_append]
      cases event with
      | addClient ws filterLocoId => exact erase_addClient _ ws filterLocoId
      | removeClient ws => exact erase_removeClient _ ws
      | shutdown => rfl
      | message raw => exact erase_message codec _ raw
      | senderGet ws => exact erase_senderGet _ ws

/-! ## What a client is to get -/

/-- The time a client has been there. -/
structure Stay where
  filterLocoId : Option String
  messages : List Raw
  /-- What its sender has taken. -/
  taken : List Raw
  deriving DecidableEq

/-- The frames of the messages that match the filter. -/
def Stay.due (codec : Codec) (envelopeType : Option String) (stay : Stay) : List Raw :=
  (stay.messages.filter fun raw => Matches codec stay.filterLocoId raw).filterMap fun raw =>
    (frame codec envelopeType raw).toOption

/-- By an event and what the relay puts out. -/
def stayNext (ws : WsId) (stay : Option Stay) : RelayEvent × Option Raw → Option Stay
  | (.addClient ws' filterLocoId, _) => if ws' = ws then some ⟨filterLocoId, [], []⟩ else stay
  | (.removeClient ws', _) => if ws' = ws then none else stay
  | (.shutdown, _) => none
  | (.message raw, _) => stay.map fun s => { s with messages := s.messages ++ [raw] }
  | (.senderGet ws', data) =>
      if ws' = ws then stay.map fun s => { s with taken := s.taken ++ data.toList } else stay

/-- The stay of a client that is there after the events. -/
def stayAfter (codec : Codec) (channel : Channel) (envelopeType : Option String)
    (events : List RelayEvent) (ws : WsId) : Option Stay :=
  (events.zip ((relayMachine codec).run (.create channel envelopeType) events).2).foldl
    (stayNext ws) none

/-- The queue is the end of what the client was to get; what was taken and what was dropped
lie before it, in order. -/
structure QueueLaw (codec : Codec) (envelopeType : Option String) (slot : Slot) (stay : Stay) :
    Prop where
  filter : slot.filterLocoId = stay.filterLocoId
  bounded : slot.queue.items.length ≤ 64
  gone : ∃ gone, stay.due codec envelopeType = gone ++ slot.queue.items ∧
    stay.taken.Sublist gone ∧ slot.dropped.Sublist gone ∧ (stay.taken ++ slot.dropped).Perm gone

namespace QueueLaw

variable {envelopeType : Option String} {stay : Stay}

theorem create (filterLocoId : Option String) :
    QueueLaw codec envelopeType (.create filterLocoId) ⟨filterLocoId, [], []⟩ where
  filter := rfl
  bounded := Nat.zero_le 64
  gone := ⟨[], rfl, .slnil, .slnil, .nil⟩

/-- One more message that the client is not to get. -/
theorem skip (law : QueueLaw codec envelopeType slot stay)
    (unsent : Matches codec stay.filterLocoId raw →
      (frame codec envelopeType raw).toOption = none) :
    QueueLaw codec envelopeType slot { stay with messages := stay.messages ++ [raw] } := by
  have same : Stay.due codec envelopeType { stay with messages := stay.messages ++ [raw] } =
      stay.due codec envelopeType := by
    unfold Stay.due
    rw [List.filter_append, List.filterMap_append]
    by_cases matches' : Matches codec stay.filterLocoId raw
    · simp [matches', unsent matches']
    · simp [matches']
  exact ⟨law.filter, law.bounded, same ▸ law.gone⟩

theorem push (law : QueueLaw codec envelopeType slot stay)
    (matches' : Matches codec stay.filterLocoId raw)
    (sent : frame codec envelopeType raw = .ok data) :
    QueueLaw codec envelopeType (slot.push raw data)
      { stay with messages := stay.messages ++ [raw] } := by
  obtain ⟨gone, due, taken, dropped, perm⟩ := law.gone
  have more : Stay.due codec envelopeType { stay with messages := stay.messages ++ [raw] } =
      stay.due codec envelopeType ++ [data] := by
    unfold Stay.due
    rw [List.filter_append, List.filterMap_append]
    simp [matches', sent, Except.toOption]
  have room := slot.queue.append_eq data
  rw [push_eq]
  generalize slot.queue.append data = made at room ⊢
  obtain ⟨queue, oldest⟩ := made
  refine ⟨law.filter, queue.length_le, gone ++ oldest, ?_, ?_, ?_, ?_⟩
  · rw [more, due, List.append_assoc, List.append_assoc, ← room]
  · exact taken.trans (List.sublist_append_left gone oldest)
  · exact dropped.append (List.Sublist.refl oldest)
  · rw [← List.append_assoc]
    exact perm.append_right oldest

theorem senderGet (law : QueueLaw codec envelopeType slot stay) {queue : Deque Raw queueMax}
    (got : slot.queue.getNowait = some (data, queue)) :
    QueueLaw codec envelopeType { slot with queue }
      { stay with taken := stay.taken ++ [data] } := by
  obtain ⟨gone, due, taken, dropped, perm⟩ := law.gone
  refine ⟨law.filter, queue.length_le, gone ++ [data], ?_, ?_, ?_, ?_⟩
  · show stay.due codec envelopeType = gone ++ [data] ++ queue.items
    rw [due, Deque.getNowait_eq_some got]
    simp
  · exact taken.append (List.Sublist.refl [data])
  · exact dropped.trans (List.sublist_append_left gone [data])
  · show ((stay.taken ++ [data]) ++ slot.dropped).Perm (gone ++ [data])
    rw [List.append_assoc]
    exact (List.perm_append_comm.append_left stay.taken).trans
      ((List.append_assoc stay.taken slot.dropped [data]).symm ▸ perm.append_right [data])

end QueueLaw

/-! ## Runs -/

/-- The event concerns the client. -/
def Concerns (ws : WsId) : RelayEvent → Bool
  | .addClient ws' _ | .removeClient ws' | .senderGet ws' => ws' == ws
  | .shutdown | .message _ => true

/-- All messages among the events are maps. -/
def AllMaps (codec : Codec) (events : List RelayEvent) : Prop :=
  ∀ raw, .message raw ∈ events → IsMap codec raw

theorem Relay.removeClient_clients (relay : Relay) (ws : WsId) :
    (relay.removeClient ws).clients = relay.clients.pop ws := by
  unfold Relay.removeClient
  dsimp only
  split <;> rfl

theorem envelopeType_const (codec : Codec) (relay : Relay) (event : RelayEvent) :
    (relayMachine codec relay event).1.envelopeType = relay.envelopeType := by
  cases event with
  | addClient | shutdown => rfl
  | removeClient ws =>
      show (relay.removeClient ws).envelopeType = _
      unfold Relay.removeClient
      dsimp only
      split <;> rfl
  | message raw =>
      show (relay.message codec raw).envelopeType = _
      unfold Relay.message
      split <;> rfl
  | senderGet ws =>
      show (relay.senderGet ws).1.envelopeType = _
      unfold Relay.senderGet
      split
      · rfl
      · split <;> rfl

/-- What an event makes of the slot of a client. -/
def slotAfter (codec : Codec) (envelopeType : Option String) (ws : WsId) (slot : Option Slot) :
    RelayEvent → Option Slot
  | .addClient ws' filterLocoId => if ws' = ws then some (.create filterLocoId) else slot
  | .removeClient ws' => if ws' = ws then none else slot
  | .shutdown => none
  | .message raw =>
      match frame codec envelopeType raw with
      | .error _ => slot
      | .ok data => slot.map fun slot =>
          if Matches codec slot.filterLocoId raw then slot.push raw data else slot
  | .senderGet ws' =>
      if ws' = ws then
        slot.map fun slot =>
          match slot.queue.getNowait with
          | none => slot
          | some (_, queue) => { slot with queue }
      else slot

/-- What the sender of a client takes. -/
def takes (ws : WsId) (slot : Option Slot) : RelayEvent → Option Raw
  | .senderGet ws' =>
      if ws' = ws then slot.bind fun slot => slot.queue.getNowait.map Prod.fst else none
  | _ => none

/-- **Each client has its own fan-out**: an event makes of its slot what it would make of it
without the other clients. -/
theorem get?_relayMachine {event : RelayEvent} (maps : AllMaps codec [event]) (relay : Relay)
    (ws : WsId) :
    (relayMachine codec relay event).1.clients.get? ws =
      slotAfter codec relay.envelopeType ws (relay.clients.get? ws) event := by
  cases event with
  | addClient ws' filterLocoId =>
      show (relay.clients.set ws' _).get? ws = _
      rw [Dict.get?_set]
      by_cases same : ws' = ws
      · rw [if_pos same.symm]
        exact (if_pos same).symm
      · rw [if_neg (Ne.symm same)]
        exact (if_neg same).symm
  | removeClient ws' =>
      show (relay.removeClient ws').clients.get? ws = _
      rw [Relay.removeClient_clients]
      by_cases same : ws' = ws
      · subst same
        rw [Dict.get?_pop_self]
        exact (if_pos rfl).symm
      · rw [Dict.get?_pop_ne _ (Ne.symm same)]
        exact (if_neg same).symm
  | shutdown => rfl
  | message raw => exact get?_message (maps raw List.mem_cons_self) relay ws
  | senderGet ws' =>
      show (relay.senderGet ws').1.clients.get? ws =
        if ws' = ws then (relay.clients.get? ws).map _ else relay.clients.get? ws
      unfold Relay.senderGet
      by_cases same : ws' = ws
      · subst same
        rw [if_pos rfl]
        cases found : relay.clients.get? ws' with
        | none => exact found
        | some slot =>
            cases got : slot.queue.getNowait with
            | none => simp [found, got]
            | some popped => simp [got]
      · rw [if_neg same]
        split
        · rfl
        · split
          · rfl
          · exact Dict.get?_set_ne _ (Ne.symm same) _

/-- What a client is told apart, the output of an event is of its own slot. -/
theorem stayNext_relayMachine (codec : Codec) (relay : Relay) (ws : WsId) (stay : Option Stay)
    (event : RelayEvent) :
    stayNext ws stay (event, (relayMachine codec relay event).2) =
      stayNext ws stay (event, takes ws (relay.clients.get? ws) event) := by
  cases event with
  | addClient | removeClient | shutdown | message => rfl
  | senderGet ws' =>
      unfold stayNext takes
      by_cases same : ws' = ws
      · subst same
        have taken : (relay.senderGet ws').2 =
            (relay.clients.get? ws').bind fun slot => slot.queue.getNowait.map Prod.fst := by
          unfold Relay.senderGet
          cases relay.clients.get? ws' with
          | none => rfl
          | some slot =>
              cases got : slot.queue.getNowait <;> simp [got]
        simp only [if_pos, relayMachine, taken]
      · simp only [if_neg same]

/-- **One event**: the law goes on to hold between the slot of a client and its stay. -/
theorem slotAfter_law {envelopeType : Option String} {ws : WsId} {slot : Option Slot}
    {stay : Option Stay} (law : Option.Rel (QueueLaw codec envelopeType) slot stay)
    (event : RelayEvent) :
    Option.Rel (QueueLaw codec envelopeType) (slotAfter codec envelopeType ws slot event)
      (stayNext ws stay (event, takes ws slot event)) := by
  cases event with
  | addClient ws' filterLocoId =>
      simp only [slotAfter, stayNext]
      split
      · exact .some (.create filterLocoId)
      · exact law
  | removeClient ws' =>
      simp only [slotAfter, stayNext]
      split
      · exact .none
      · exact law
  | shutdown => exact .none
  | message raw =>
      simp only [slotAfter, stayNext]
      cases law with
      | none => cases frame codec envelopeType raw <;> exact .none
      | @some slot stay law =>
          cases sent : frame codec envelopeType raw with
          | error error => exact .some (law.skip fun _ => by rw [sent]; rfl)
          | ok data =>
              refine .some ?_
              dsimp only
              rw [law.filter]
              split
              case isTrue matches' => exact law.push matches' sent
              case isFalse other => exact law.skip fun matches' => absurd matches' other
  | senderGet ws' =>
      simp only [slotAfter, stayNext, takes]
      split
      case isTrue =>
        cases law with
        | none => exact .none
        | @some slot stay law =>
            cases got : slot.queue.getNowait with
            | none =>
                refine .some ?_
                simpa [got] using law
            | some popped =>
                refine .some ?_
                simpa [got] using law.senderGet got
      case isFalse => exact law

theorem slotAfter_of_other {envelopeType : Option String} {ws : WsId} {slot : Option Slot}
    {event : RelayEvent} (other : Concerns ws event = false) :
    slotAfter codec envelopeType ws slot event = slot := by
  cases event with
  | addClient ws' | removeClient ws' | senderGet ws' =>
      have ne : ws' ≠ ws := by simpa [Concerns] using other
      exact if_neg ne
  | shutdown | message => cases other

theorem stayNext_of_other {ws : WsId} {stay : Option Stay} {event : RelayEvent}
    {data : Option Raw} (other : Concerns ws event = false) :
    stayNext ws stay (event, data) = stay := by
  cases event with
  | addClient ws' | removeClient ws' | senderGet ws' =>
      have ne : ws' ≠ ws := by simpa [Concerns] using other
      exact if_neg ne
  | shutdown | message => cases other

theorem relayAfter_envelopeType (codec : Codec) (channel : Channel)
    (envelopeType : Option String) (events : List RelayEvent) :
    (relayAfter codec channel envelopeType events).envelopeType = envelopeType := by
  refine Machine.run_invariant (I := fun relay : Relay => relay.envelopeType = envelopeType) ?_
    rfl events
  intro relay event same
  exact (envelopeType_const codec relay event).trans same

/-- One more event, for the slot of a client and its stay. -/
theorem after_concat (channel : Channel) (envelopeType : Option String)
    (events : List RelayEvent) {event : RelayEvent} (maps : AllMaps codec [event]) (ws : WsId) :
    (relayAfter codec channel envelopeType (events ++ [event])).clients.get? ws =
        slotAfter codec envelopeType ws
          ((relayAfter codec channel envelopeType events).clients.get? ws) event ∧
      stayAfter codec channel envelopeType (events ++ [event]) ws =
        stayNext ws (stayAfter codec channel envelopeType events ws) (event, takes ws
          ((relayAfter codec channel envelopeType events).clients.get? ws) event) := by
  have envelope := relayAfter_envelopeType codec channel envelopeType events
  have slot := get?_relayMachine maps (relayAfter codec channel envelopeType events) ws
  rw [envelope] at slot
  unfold stayAfter
  unfold relayAfter at slot ⊢
  rw [Machine.run_append]
  constructor
  · exact slot
  · rw [List.zip_append (Machine.length_run _ _ events).symm, List.foldl_append]
    exact stayNext_relayMachine codec _ ws _ event

theorem AllMaps.of_concat {events : List RelayEvent} {event : RelayEvent}
    (maps : AllMaps codec (events ++ [event])) : AllMaps codec events ∧ AllMaps codec [event] :=
  ⟨fun raw mem => maps raw (List.mem_append_left _ mem),
    fun raw mem => maps raw (List.mem_append_right _ mem)⟩

/-- **The fan-out law**: for every relay and every run of clients that come and go, messages
that are maps, and senders. -/
theorem fan_out_law (codec : Codec) (channel : Channel) (envelopeType : Option String)
    {events : List RelayEvent} (maps : AllMaps codec events) (ws : WsId) :
    Option.Rel (QueueLaw codec envelopeType)
        ((relayAfter codec channel envelopeType events).clients.get? ws)
        (stayAfter codec channel envelopeType events ws) ∧
      (relayAfter codec channel envelopeType events).clients.get? ws =
        (relayAfter codec channel envelopeType (events.filter (Concerns ws))).clients.get? ws ∧
      stayAfter codec channel envelopeType events ws =
        stayAfter codec channel envelopeType (events.filter (Concerns ws)) ws := by
  induction events using List.reverseRecOn with
  | nil => exact ⟨.none, rfl, rfl⟩
  | append_singleton events event ih =>
      obtain ⟨before, one⟩ := maps.of_concat
      obtain ⟨law, slot, stay⟩ := ih before
      obtain ⟨slot', stay'⟩ := after_concat channel envelopeType events one ws
      rw [slot', stay', List.filter_append]
      refine ⟨slotAfter_law law event, ?_⟩
      cases own : Concerns ws event with
      | true =>
          rw [List.filter_cons_of_pos own, List.filter_nil]
          obtain ⟨slot'', stay''⟩ := after_concat channel envelopeType _ one ws
          rw [slot'', stay'', slot, stay]
          exact ⟨rfl, rfl⟩
      | false =>
          rw [List.filter_cons_of_neg (Bool.not_eq_true _ ▸ own), List.filter_nil,
            List.append_nil, slotAfter_of_other own, stayNext_of_other own]
          exact ⟨slot, stay⟩

/-! ## Alerts of one locomotive -/

/-- The msgpack encoding of `{"locomotive_id": "A"}`. -/
def alertPayload : Raw :=
  [0x81, 0xad] ++ ("locomotive_id".toList.map fun c => UInt8.ofNat c.toNat) ++ [0xa1, 0x41]

def alertMessage : PyVal := .dict [("locomotive_id", .str "A")]

/-- That of `{"type": "alert", "data": {"locomotive_id": "A"}}`. -/
def alertFrame : Raw :=
  [0x82, 0xa4] ++ ("type".toList.map fun c => UInt8.ofNat c.toNat) ++
    [0xa5] ++ ("alert".toList.map fun c => UInt8.ofNat c.toNat) ++
    [0xa4] ++ ("data".toList.map fun c => UInt8.ofNat c.toNat) ++ alertPayload

/-- A wire format that knows one alert, and `None`. -/
def alertCodec : Codec where
  decode raw :=
    if raw = alertPayload then .ok alertMessage
    else if raw = [0xc0] then .ok .none
    else .error { kind := "MsgpackDecodeError", text := "invalid" }
  encode msg :=
    if msg = .dict [("type", .str "alert"), ("data", alertMessage)] then .ok alertFrame
    else .error { kind := "MsgpackEncodeError", text := "unsupported" }
  conv := { repr := fun _ => "", parse := fun _ => none }

def alertRun : List RelayEvent :=
  [.addClient 2 (some "B"), .message alertPayload, .addClient 1 (some "A"),
    .message alertPayload, .senderGet 1, .removeClient 2, .message alertPayload]

/-- Two clients and three alerts, of which the first comes before the client; it has taken one
frame and has one to go. -/
theorem fan_out_law_alerts : ∃ slot stay,
    (relayAfter alertCodec "alerts:live" (some "alert") alertRun).clients.get? 1 = some slot ∧
      stayAfter alertCodec "alerts:live" (some "alert") alertRun 1 = some stay ∧
      slot.queue.items = [alertFrame] ∧ stay.taken = [alertFrame] ∧
      stay.due alertCodec (some "alert") = [alertFrame, alertFrame] ∧
      QueueLaw alertCodec (some "alert") slot stay := by
  have maps : AllMaps alertCodec alertRun := by
    intro raw mem
    obtain rfl : raw = alertPayload := by simpa [alertRun] using mem
    exact ⟨_, rfl⟩
  have law := (fan_out_law alertCodec "alerts:live" (some "alert") maps 1).1
  refine ⟨_, _, rfl, rfl, rfl, rfl, by decide, ?_⟩
  cases law with
  | some law => exact law

end LocoTwin.WsServer
