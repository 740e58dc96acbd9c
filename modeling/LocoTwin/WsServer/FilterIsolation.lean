/-
# WsServer.FilterIsolation -- whose alerts a filtered client gets

A client that has subscribed with a locomotive is to get the messages of that locomotive.
The loop of `fanOut` looks at the filter only when the message has been decoded: what does
not decode, or decodes to `None`, is passed on to every client as it came.

* `filters_isolated_iff`: over a run, every frame on the queue of a filtered client is of a
  message of its locomotive exactly when each message found clients it is `HarmlessFor`;
* `garbled_alert`: bytes that do not decode reach a client that asked for one locomotive.
-/
import LocoTwin.WsServer.FanOut

namespace LocoTwin.WsServer

open LocoTwin.Lib LocoTwin.Shared
open LocoTwin.Analytics (getOr)

set_option autoImplicit false

variable {codec : Codec} {raw data : Raw} {slot : Slot}

/-! ## Isolation -/

/-- The frames of a filtered client are of messages of its locomotive. -/
def Isolated (codec : Codec) (slot : Slot) : Prop :=
  ∀ loco, slot.filterLocoId = some loco → ∀ raw ∈ slot.sources, locoOf codec raw = some loco

def AllIsolated (codec : Codec) (relay : Relay) : Prop :=
  ∀ ws slot, relay.clients.get? ws = some slot → Isolated codec slot

/-- The client has a filter that the loop looks at. -/
def Slot.filtered (slot : Slot) : Bool :=
  match slot.filterLocoId with
  | none => false
  | some loco => loco != ""

/-- A message and the clients it finds, in their order.  What is not decoded goes to all of
them; what is not a map, to those before the first with a filter, where it raises; and an
empty filter is passed by every map. -/
def HarmlessFor (codec : Codec) (raw : Raw) (clients : List Slot) : Prop :=
  match codec.decode raw with
  | .error _ | .ok .none => ∀ slot ∈ clients, slot.filterLocoId = none
  | .ok (.dict _) =>
      ∀ slot ∈ clients, slot.filterLocoId = some "" → locoOf codec raw = some ""
  | .ok _ => ∀ slot ∈ clients.takeWhile fun slot => !slot.filtered, slot.filterLocoId = none

/-- A message that is not sent for want of an envelope harms nobody. -/
def Harmless (codec : Codec) (relay : Relay) : RelayEvent → Prop
  | .message raw => ∀ data, frame codec relay.envelopeType raw = .ok data →
      HarmlessFor codec raw (relay.clients.entries.map Prod.snd)
  | _ => True

/-! ## One client -/

theorem Isolated.create (codec : Codec) (filterLocoId : Option String) :
    Isolated codec (.create filterLocoId) :=
  fun _ _ _ mem => nomatch mem

theorem allIsolated_iff {relay : Relay} :
    AllIsolated codec relay ↔ ∀ e ∈ relay.clients.entries, Isolated codec e.2 := by
  constructor
  · rintro all ⟨ws, slot⟩ mem
    exact all ws slot (Dict.get?_eq_some.mpr mem)
  · intro all ws slot found
    exact all (ws, slot) (Dict.get?_eq_some.mp found)

/-- A frame that is put on the queue is to be of the locomotive of the filter. -/
theorem isolated_push_iff (isolated : Isolated codec slot) (raw data : Raw) :
    Isolated codec (slot.push raw data) ↔
      slot.filterLocoId = none ∨ locoOf codec raw = slot.filterLocoId := by
  have filter := congrArg Slot.filterLocoId (push_eq slot raw data)
  have sources := congrArg Slot.sources (push_eq slot raw data)
  constructor
  · intro after
    cases set : slot.filterLocoId with
    | none => exact .inl rfl
    | some loco =>
        refine .inr (after loco (filter.trans set) raw ?_)
        rw [sources]
        exact List.mem_append_right _ List.mem_cons_self
  · intro own loco set source mem
    rw [filter] at set
    rw [sources] at mem
    rcases List.mem_append.mp mem with before | now
    · exact isolated loco set source before
    · rw [List.mem_singleton.mp now]
      rcases own with none' | own
      · rw [none'] at set
        cases set
      · exact own.trans set

/-! ## All clients -/

section

variable {clients : List (WsId × Slot)}

theorem fanOut_undecoded (parsed : parse codec raw = none)
    (isolated : ∀ e ∈ clients, Isolated codec e.2) :
    (∀ e ∈ (fanOut codec raw data clients).1, Isolated codec e.2) ↔
      ∀ slot ∈ clients.map Prod.snd, slot.filterLocoId = none := by
  have unknown : locoOf codec raw = none := by
    unfold parse at parsed
    unfold locoOf
    split at parsed
    case h_1 decoded => rw [decoded]
    case h_2 => cases parsed
    case h_3 error failed => rw [failed]
  have all (slot : Slot) : slot.handle codec raw data = .ok (slot.push raw data) := by
    have wants : slot.wants codec (parse codec raw) = .ok true := by
      rw [parsed]
      unfold Slot.wants
      cases slot.filterLocoId <;> rfl
    exact handle_of_wants wants data
  rw [fanOut_of_ok all, List.forall_mem_map, List.forall_mem_map]
  refine forall₂_congr fun e mem => ?_
  show Isolated codec (e.2.push raw data) ↔ _
  rw [isolated_push_iff (isolated e mem), unknown, eq_comm (a := none), or_self]

theorem fanOut_map (map : IsMap codec raw) (isolated : ∀ e ∈ clients, Isolated codec e.2) :
    (∀ e ∈ (fanOut codec raw data clients).1, Isolated codec e.2) ↔
      ∀ slot ∈ clients.map Prod.snd,
        slot.filterLocoId = some "" → locoOf codec raw = some "" := by
  rw [fanOut_of_ok (handle_of_isMap map · data), List.forall_mem_map, List.forall_mem_map]
  refine forall₂_congr fun e mem => ?_
  dsimp only
  split
  case isTrue matches' =>
    rw [isolated_push_iff (isolated e mem)]
    constructor
    · intro own empty
      rw [empty] at own
      exact own.resolve_left nofun
    · intro own
      rcases matches' with none' | empty | same
      · exact .inl none'
      · exact .inr ((own empty).trans empty.symm)
      · exact .inr same
  case isFalse other =>
    refine iff_of_true (isolated e mem) fun empty => ?_
    exact absurd (.inr (.inl empty)) other

variable (data) in
/-- The first client with a filter ends the loop. -/
theorem fanOut_not_map {msg : PyVal} {error : PyError} (parsed : parse codec raw = some msg)
    (unknown : locoOf codec raw = none) (notMap : msgLoco codec msg = .error error)
    (isolated : ∀ e ∈ clients, Isolated codec e.2) :
    (∀ e ∈ (fanOut codec raw data clients).1, Isolated codec e.2) ↔
      ∀ slot ∈ (clients.map Prod.snd).takeWhile fun slot => !slot.filtered,
        slot.filterLocoId = none := by
  induction clients with
  | nil => exact iff_of_true (List.forall_mem_nil _) (List.forall_mem_nil _)
  | cons client rest ih =>
      obtain ⟨ws, slot⟩ := client
      obtain ⟨first, later⟩ := List.forall_mem_cons.mp isolated
      rw [List.map_cons, List.takeWhile_cons]
      cases filtered : slot.filtered with
      | true =>
          have raises : slot.handle codec raw data = .error error := by
            unfold Slot.filtered at filtered
            unfold Slot.handle Slot.wants
            rw [parsed]
            cases set : slot.filterLocoId with
            | none => simp [set] at filtered
            | some loco =>
                have nonempty : loco ≠ "" := by simpa [set] using filtered
                simp [nonempty, notMap, Except.map]
          rw [fanOut, raises]
          exact iff_of_true isolated (List.forall_mem_nil _)
      | false =>
          have served : slot.handle codec raw data = .ok (slot.push raw data) := by
            unfold Slot.filtered at filtered
            have wants : slot.wants codec (parse codec raw) = .ok true := by
              unfold Slot.wants
              rw [parsed]
              cases set : slot.filterLocoId with
              | none => rfl
              | some loco =>
                  have empty : loco = "" := by simpa [set] using filtered
                  exact if_pos empty
            exact handle_of_wants wants data
          have here : Isolated codec (slot.push raw data) ↔ slot.filterLocoId = none := by
            rw [isolated_push_iff first, unknown, eq_comm (a := none), or_self]
          rw [fanOut, served]
          show (∀ e ∈ (ws, slot.push raw data) :: (fanOut codec raw data rest).1, _) ↔
            ∀ s ∈ slot :: _, _
          rw [List.forall_mem_cons, List.forall_mem_cons, ih later]
          exact and_congr_left fun _ => here

/-- A message keeps the clients isolated exactly where it is harmless. -/
theorem isolated_fanOut_iff (isolated : ∀ e ∈ clients, Isolated codec e.2) :
    (∀ e ∈ (fanOut codec raw data clients).1, Isolated codec e.2) ↔
      HarmlessFor codec raw (clients.map Prod.snd) := by
  cases decoded : codec.decode raw with
  | error error =>
      have parsed : parse codec raw = none := by simp only [parse, decoded]
      rw [fanOut_undecoded parsed isolated]
      simp only [HarmlessFor, decoded]
  | ok msg =>
      have notMap (parsed : parse codec raw = some msg) (unknown : locoOf codec raw = none)
          (raises : ∃ error, msgLoco codec msg = .error error) :=
        fanOut_not_map data parsed unknown raises.choose_spec isolated
      cases msg with
      | none =>
          have parsed : parse codec raw = none := by simp only [parse, decoded]
          rw [fanOut_undecoded parsed isolated]
          simp only [HarmlessFor, decoded]
      | dict entries =>
          rw [fanOut_map ⟨entries, decoded⟩ isolated]
          simp only [HarmlessFor, decoded]
      | bool | int | float | str | bytes | list =>
          rw [notMap (by simp only [parse, decoded]) (by simp only [locoOf, decoded]) ⟨_, rfl⟩]
          simp only [HarmlessFor, decoded]

end

/-! ## Runs -/

theorem isolated_step_iff {relay : Relay} (isolated : AllIsolated codec relay)
    (event : RelayEvent) :
    AllIsolated codec (relayMachine codec relay event).1 ↔ Harmless codec relay event := by
  cases event with
  | addClient ws filterLocoId =>
      refine iff_of_true ?_ trivial
      exact (Dict.forall_set_iff isolated ws _).mpr (.create codec filterLocoId)
  | removeClient ws =>
      refine iff_of_true ?_ trivial
      show ∀ ws' slot, (relay.removeClient ws).clients.get? ws' = some slot → _
      rw [Relay.removeClient_clients]
      exact Dict.forall_pop isolated ws
  | shutdown =>
      refine iff_of_true (allIsolated_iff.mpr ?_) trivial
      intro e mem
      cases mem
  | message raw =>
      show AllIsolated codec (relay.message codec raw) ↔ _
      unfold Relay.message Harmless
      cases sent : frame codec relay.envelopeType raw with
      | error error =>
          refine iff_of_true isolated ?_
          intro data other
          cases sent.symm.trans other
      | ok data =>
          rw [allIsolated_iff]
          show (∀ e ∈ (fanOut codec raw data relay.clients.entries).1, _) ↔ _
          rw [isolated_fanOut_iff (allIsolated_iff.mp isolated)]
          exact ⟨fun harmless _ _ => harmless, fun harmless => harmless data sent⟩
  | senderGet ws =>
      refine iff_of_true ?_ trivial
      show AllIsolated codec (relay.senderGet ws).1
      unfold Relay.senderGet
      split
      · exact isolated
      case h_2 slot found =>
        split
        · exact isolated
        · exact (Dict.forall_set_iff isolated ws _).mpr (isolated ws slot found)

/-- **A filtered client gets the messages of its locomotive**: after every prefix of a run,
if and only if every message of the run is harmless for the clients it finds. -/
theorem filters_isolated_iff (codec : Codec) (channel : Channel) (envelopeType : Option String)
    (events : List RelayEvent) :
    (∀ pre, pre <+: events → AllIsolated codec (relayAfter codec channel envelopeType pre)) ↔
      ∀ pre event post, events = pre ++ event :: post →
        Harmless codec (relayAfter codec channel envelopeType pre) event := by
  have start : AllIsolated codec (.create channel envelopeType) := allIsolated_iff.mpr nofun
  exact Machine.run_iff (M := relayMachine codec) (P := AllIsolated codec)
    (C := Harmless codec) (fun _ event isolated => isolated_step_iff isolated event) start events

/-- Bytes that are no message: the client of locomotive A gets them as they are. -/
theorem garbled_alert : ∃ slot,
    (relayAfter alertCodec "alerts:live" (some "alert")
      [.addClient 1 (some "A"), .message [0xc1]]).clients.get? 1 = some slot ∧
      slot.filterLocoId = some "A" ∧ slot.queue.items = [[0xc1]] ∧ slot.sources = [[0xc1]] ∧
      locoOf alertCodec [0xc1] = none ∧ ¬Isolated alertCodec slot := by
  refine ⟨_, rfl, rfl, rfl, rfl, rfl, ?_⟩
  intro isolated
  have own := isolated "A" rfl [0xc1] List.mem_cons_self
  cases own

end LocoTwin.WsServer
