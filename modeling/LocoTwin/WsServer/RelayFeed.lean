/-
# WsServer.RelayFeed -- the relay as the feed of a client

What is said on a channel goes by its relay, whose listener hears it or is away.  To one
client the relay is a `Feed` of what matches its filter: the queue of the feed is that of its
slot, and what the feed has sent is what its sender has taken.

* `relay_feeds`: in every run, the slot of a client is that of a feed which its listener and
  its sender can reach (`queue_feeds` for its queue, `queue_feeds_all` where it has no filter).
-/
import LocoTwin.Lib.Feed
import LocoTwin.WsServer.FanOut

namespace LocoTwin.WsServer

open LocoTwin.Lib

set_option autoImplicit false

/-- The things said on a channel: their bytes, and the frames of these. -/
structure Voice (codec : Codec) (envelopeType : Option String) (α : Type) where
  encode : α → Raw
  framed : α → Raw
  isMap : ∀ x, IsMap codec (encode x)
  frame_eq : ∀ x, frame codec envelopeType (encode x) = .ok (framed x)

inductive ChannelEvent (α : Type) where
  | addClient (ws : WsId) (filterLocoId : Option String)
  | removeClient (ws : WsId)
  | shutdown
  | senderGet (ws : WsId)
  | heard (x : α)
  /-- Said while the listener is away. -/
  | missed (x : α)

variable {codec : Codec} {envelopeType : Option String} {α : Type}

namespace ChannelEvent

def said : ChannelEvent α → Option α
  | .heard x | .missed x => some x
  | _ => none

def toRelay (voice : Voice codec envelopeType α) : ChannelEvent α → Option RelayEvent
  | .addClient ws filterLocoId => some (.addClient ws filterLocoId)
  | .removeClient ws => some (.removeClient ws)
  | .shutdown => some .shutdown
  | .senderGet ws => some (.senderGet ws)
  | .heard x => some (.message (voice.encode x))
  | .missed _ => none

end ChannelEvent

/-- What a client with the filter is told. -/
def wanted (voice : Voice codec envelopeType α) (filterLocoId : Option String) (said : List α) :
    List α :=
  said.filter fun x => Matches codec filterLocoId (voice.encode x)

/-- The slot and the stay of a client are those of a feed. -/
def Fed (voice : Voice codec envelopeType α) (said : List α) (slot : Slot) (stay : Stay) : Prop :=
  ∃ f : Feed α queueMax, (Feed.relayed (wanted voice slot.filterLocoId said)).Reachable f ∧
    f.passed = (wanted voice slot.filterLocoId said).length ∧
    f.queue.items.map voice.framed = slot.queue.items ∧ f.sent.map voice.framed = stay.taken

namespace Fed

variable {voice : Voice codec envelopeType α} {said : List α} {slot : Slot} {stay : Stay} {x : α}

theorem create (voice : Voice codec envelopeType α) (said : List α)
    (filterLocoId : Option String) :
    Fed voice said (.create filterLocoId) ⟨filterLocoId, [], []⟩ :=
  ⟨.startAt (wanted voice filterLocoId said).length, .init ⟨_, le_refl _, rfl⟩, rfl, rfl, rfl⟩

theorem other (fed : Fed voice said slot stay)
    (unmatched : ¬Matches codec slot.filterLocoId (voice.encode x)) (messages : List Raw) :
    Fed voice (said ++ [x]) slot { stay with messages } := by
  have same : wanted voice slot.filterLocoId (said ++ [x]) =
      wanted voice slot.filterLocoId said := by
    simp [wanted, unmatched]
  unfold Fed
  rw [same]
  exact fed

theorem wanted_concat (matches' : Matches codec slot.filterLocoId (voice.encode x)) :
    wanted voice slot.filterLocoId (said ++ [x]) =
      wanted voice slot.filterLocoId said ++ [x] := by
  simp [wanted, matches']

theorem missed (fed : Fed voice said slot stay) (x : α) : Fed voice (said ++ [x]) slot stay := by
  by_cases matches' : Matches codec slot.filterLocoId (voice.encode x)
  · obtain ⟨f, reach, passed, queue, sent⟩ := fed
    refine ⟨{ f with passed := f.passed + 1 }, ?_, ?_, queue, sent⟩
    · rw [wanted_concat matches']
      exact (Feed.relayed_pass reach passed x).1
    · rw [wanted_concat matches', List.length_append, ← passed]
      rfl
  · exact fed.other matches' stay.messages

theorem heard (fed : Fed voice said slot stay)
    (matches' : Matches codec slot.filterLocoId (voice.encode x)) (messages : List Raw) :
    Fed voice (said ++ [x]) (slot.push (voice.encode x) (voice.framed x))
      { stay with messages } := by
  obtain ⟨f, reach, passed, queue, sent⟩ := fed
  rw [push_eq]
  refine ⟨{ f with passed := f.passed + 1, queue := (f.queue.append x).1 }, ?_, ?_, ?_, sent⟩
  · dsimp only
    rw [wanted_concat matches']
    exact (Feed.relayed_pass reach passed x).2
  · dsimp only
    rw [wanted_concat matches', List.length_append, ← passed]
    rfl
  · exact Deque.append_map voice.framed queue x

theorem senderGet (fed : Fed voice said slot stay) {queue : Deque Raw queueMax} {data : Raw}
    (got : slot.queue.getNowait = some (data, queue)) :
    Fed voice said { slot with queue } { stay with taken := stay.taken ++ [data] } := by
  obtain ⟨f, reach, passed, waiting, sent⟩ := fed
  rcases Deque.getNowait_map voice.framed waiting with
    ⟨-, none'⟩ | ⟨x, rest, rest', took, took', same⟩
  · cases got.symm.trans none'
  · cases got.symm.trans took'
    refine ⟨{ f with queue := rest, sent := f.sent ++ [x] }, ?_, passed, same, ?_⟩
    · exact reach.step ⟨.inl rfl, .send f x rest took⟩
    · show (f.sent ++ [x]).map voice.framed = stay.taken ++ [voice.framed x]
      rw [List.map_append, sent]
      rfl

end Fed

/-! ## Runs -/

section

variable (voice : Voice codec envelopeType α)

theorem allMaps_toRelay (events : List (ChannelEvent α)) :
    AllMaps codec (events.filterMap (ChannelEvent.toRelay voice)) := by
  intro raw mem
  obtain ⟨event, -, same⟩ := List.mem_filterMap.mp mem
  cases event with
  | heard x =>
      cases same
      exact voice.isMap x
  | addClient | removeClient | shutdown | senderGet | missed => cases same

variable {voice} in
theorem fed_missed {said : List α} {slot : Option Slot} {stay : Option Stay}
    (fed : Option.Rel (Fed voice said) slot stay) (x : α) :
    Option.Rel (Fed voice (said ++ [x])) slot stay := by
  cases fed with
  | none => exact .none
  | some fed => exact .some (fed.missed x)

/-- **One event of the channel.** -/
theorem fed_step {said : List α} {ws : WsId} {slot : Option Slot} {stay : Option Stay}
    (fed : Option.Rel (Fed voice said) slot stay) {event : ChannelEvent α} {own : RelayEvent}
    (relayed : event.toRelay voice = some own) :
    Option.Rel (Fed voice (said ++ event.said.toList))
      (slotAfter codec envelopeType ws slot own) (stayNext ws stay (own, takes ws slot own)) := by
  cases event with
  | addClient ws' filterLocoId =>
      cases relayed
      simp only [slotAfter, stayNext, ChannelEvent.said, Option.toList_none, List.append_nil]
      split
      · exact .some (.create voice said filterLocoId)
      · exact fed
  | removeClient ws' =>
      cases relayed
      simp only [slotAfter, stayNext, ChannelEvent.said, Option.toList_none, List.append_nil]
      split
      · exact .none
      · exact fed
  | shutdown =>
      cases relayed
      exact .none
  | senderGet ws' =>
      cases relayed
      simp only [slotAfter, stayNext, takes, ChannelEvent.said, Option.toList_none,
        List.append_nil]
      split
      case isTrue =>
        cases fed with
        | none => exact .none
        | @some slot stay fed =>
            refine .some ?_
            cases got : slot.queue.getNowait with
            | none => simpa [got] using fed
            | some popped => simpa [got] using fed.senderGet got
      case isFalse => exact fed
  | heard x =>
      cases relayed
      simp only [slotAfter, stayNext, voice.frame_eq]
      cases fed with
      | none => exact .none
      | @some slot stay fed =>
          refine .some ?_
          dsimp only
          split
          case isTrue matches' => exact fed.heard matches' _
          case isFalse unmatched => exact fed.other unmatched _
  | missed x => cases relayed

/-- **The relay is the feed of each client**: in every run of what is said, heard or missed,
and of clients and senders. -/
theorem relay_feeds (channel : Channel) (events : List (ChannelEvent α)) (ws : WsId) :
    Option.Rel (Fed voice (events.filterMap ChannelEvent.said))
      ((relayAfter codec channel envelopeType
        (events.filterMap (ChannelEvent.toRelay voice))).clients.get? ws)
      (stayAfter codec channel envelopeType
        (events.filterMap (ChannelEvent.toRelay voice)) ws) := by
  induction events using List.reverseRecOn with
  | nil => exact .none
  | append_singleton events event ih =>
      rw [List.filterMap_append, List.filterMap_append]
      cases relayed : event.toRelay voice with
      | none =>
          cases event with
          | missed x =>
              rw [List.filterMap_cons_none relayed, List.filterMap_nil, List.append_nil]
              exact fed_missed ih x
          | addClient | removeClient | shutdown | senderGet | heard => cases relayed
      | some own =>
          rw [List.filterMap_cons_some relayed, List.filterMap_nil]
          have maps : AllMaps codec [own] := by
            have all := allMaps_toRelay voice [event]
            rwa [List.filterMap_cons_some relayed] at all
          obtain ⟨slot, stay⟩ := after_concat channel envelopeType _ maps ws
          rw [slot, stay]
          have step : Option.Rel _ (slotAfter codec envelopeType ws _ own) _ :=
            fed_step voice ih relayed
          cases heard : event.said with
          | none => simpa [heard] using step
          | some x => simpa [heard] using step

/-- The queue of a client, which it has of a feed. -/
theorem queue_feeds {channel : Channel} {events : List (ChannelEvent α)} {ws : WsId} {slot : Slot}
    (client : (relayAfter codec channel envelopeType
      (events.filterMap (ChannelEvent.toRelay voice))).clients.get? ws = some slot) :
    ∃ f : Feed α queueMax, (Feed.relayed (wanted voice slot.filterLocoId
      (events.filterMap ChannelEvent.said))).Reachable f ∧
        f.queue.items.map voice.framed = slot.queue.items := by
  have feeds := relay_feeds voice channel events ws
  rw [client] at feeds
  generalize stayAfter codec channel envelopeType _ ws = stay at feeds
  cases feeds with
  | some fed =>
      obtain ⟨f, reach, -, queue, -⟩ := fed
      exact ⟨f, reach, queue⟩

theorem queue_feeds_all {channel : Channel} {events : List (ChannelEvent α)} {ws : WsId}
    {slot : Slot} (client : (relayAfter codec channel envelopeType
      (events.filterMap (ChannelEvent.toRelay voice))).clients.get? ws = some slot)
    (unfiltered : slot.filterLocoId = none) :
    ∃ f : Feed α queueMax, (Feed.relayed (events.filterMap ChannelEvent.said)).Reachable f ∧
      f.queue.items.map voice.framed = slot.queue.items := by
  have all : wanted voice slot.filterLocoId (events.filterMap ChannelEvent.said) =
      events.filterMap ChannelEvent.said := by
    simp [wanted, Matches, unfiltered]
  exact all ▸ queue_feeds voice client

end

end LocoTwin.WsServer
