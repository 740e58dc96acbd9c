/-
# WsServer.Heartbeat -- whom the heartbeat evicts

A round pings every connection it found in `_ws_refs` under the lock, and disconnects those
whose ping failed or whose last ping was not answered.  Between the snapshot and its turn a
client may answer, leave or be evicted, other clients come and go, and the disconnects wait
for the lock like any other call.

The state is watched from one client (`Monitored`): `owes` says whether it has been pinged
since it last answered or was accepted, which no part of the code keeps.

* `Exact.step`: the flag in `_ws_states` is the negation of that;
* **`answering_stays`**: a client that answers each ping before its next turn is never evicted;
* **`silent_evicted`**: of a client that does not answer nothing is left after a round.
-/
import LocoTwin.WsServer.Bookkeeping

namespace LocoTwin.WsServer

open LocoTwin.Lib

set_option autoImplicit false

/-! ## One client -/

structure Monitored where
  server : Server
  owes : Bool

namespace Monitored

def manager (m : Monitored) : ConnectionManager := m.server.state.manager

/-- A `disconnect` of the client waits for the lock. -/
def Called (ws : WsId) (m : Monitored) : Prop :=
  .call (.disconnect ws) ∈ m.server.state.waiting

end Monitored

/-- Whether the client owes an answer after a step. -/
def owesAfter (ws : WsId) (m : Monitored) : ServerLabel → Bool
  | .ping ws' => if ws' = ws then true else m.owes
  | .markPong ws' => if ws' = ws then false else m.owes
  | .manager (.lock (.call (.accept ws'))) =>
      if ws' = ws ∧ ¬ m.manager.full then false else m.owes
  | _ => m.owes

/-- The server, watched from one client. -/
def monitored (maxConnections : Int) (ws : WsId) : System Monitored ServerLabel where
  init m := (wsServer maxConnections).init m.server ∧ m.owes = false
  step m label m' := ServerStep m.server label m'.server ∧ m'.owes = owesAfter ws m label

/-- The sockets that the round may still evict. -/
def Beat.pending : Beat → List WsId
  | .sleeping => []
  | .pinging left stale => left ++ stale
  | .sending _ left stale => left ++ stale
  | .evicting stale => stale

/-- The sockets that the round will evict. -/
def Beat.stale : Beat → List WsId
  | .sleeping => []
  | .pinging _ stale => stale
  | .sending _ _ stale => stale
  | .evicting stale => stale

/-- The subscriptions of all clients find their connections, and the client neither answers nor
connects again. -/
def Silent (ws : WsId) (m : Monitored) (label : ServerLabel) : Prop :=
  m.server.Registered label ∧
    match label with
    | .markPong ws' => ws' ≠ ws
    | .manager (.lock (.call (.accept ws'))) => ws' ≠ ws
    | _ => True

/-- The subscriptions of all clients find their connections, and the client owes nothing when
its turn comes, receives its pings, and is not disconnected by its handler. -/
def Answering (ws : WsId) (m : Monitored) (label : ServerLabel) : Prop :=
  m.server.Registered label ∧
    match label with
    | .ping ws' => ws' = ws → m.owes = false
    | .pinged ws' ok => ws' = ws → ok = true
    | .manager (.call (.disconnect ws')) => ws' ≠ ws
    | _ => True

/-! ## One step, seen from the client -/

section

variable {s s' : State} {label : Label}

@[simp] theorem wsStates_enqueue (m : ConnectionManager) (r : RelayId) (call : RelayCall) :
    (m.enqueue r call).wsStates = m.wsStates := by
  unfold ConnectionManager.enqueue
  split <;> rfl

@[simp] theorem wsStates_visit (s : State) (ws : WsId) (channels : List Channel) :
    (s.visit ws channels).manager.wsStates = s.manager.wsStates := by
  unfold State.visit
  split
  · exact wsStates_enqueue _ _ _
  · rfl

@[simp] theorem waiting_visit (s : State) (ws : WsId) (channels : List Channel) :
    (s.visit ws channels).waiting = s.waiting := by
  unfold State.visit
  split <;> rfl

theorem wsStates_subscribe (m : ConnectionManager) (ws : WsId) (channel : Channel)
    (filterLocoId envelopeType : Option String) :
    (m.subscribe ws channel filterLocoId envelopeType).wsStates = m.wsStates := by
  have ensured : (m.ensureRelay channel envelopeType).wsStates = m.wsStates := by
    unfold ConnectionManager.ensureRelay
    split <;> rfl
  unfold ConnectionManager.subscribe
  dsimp only
  split
  · rw [wsStates_enqueue]
    exact ensured
  · exact ensured

/-- A relay call leaves the states alone, and adds at most the dropping of a relay to the
calls that wait. -/
theorem runRelay_rest (s : State) (r : RelayId) (relay : ChannelRelay) (later : List RelayCall)
    (call : RelayCall) :
    (s.runRelay r relay later call).manager.wsStates = s.manager.wsStates ∧
      ((s.runRelay r relay later call).waiting = s.waiting ∨ ∃ ws channel rest,
        (s.runRelay r relay later call).waiting = s.waiting ++ [.popRelay ws channel rest]) := by
  cases call with
  | addClient ws filterLocoId => exact ⟨rfl, .inl rfl⟩
  | removeClient ws channel rest =>
      unfold State.runRelay
      dsimp only
      split
      · exact ⟨rfl, .inr ⟨ws, channel, rest, rfl⟩⟩
      · exact ⟨wsStates_visit _ _ _, .inl (waiting_visit _ _ _)⟩

/-- What a call of the manager does to the state of a connection. -/
theorem step_states (step : Step s label s') (ws : WsId) :
    (label = .lock (.call (.accept ws)) ∧ ¬ s.manager.full ∧
        s'.manager.wsStates.get? ws = some {}) ∨
      (label = .lock (.call (.disconnect ws)) ∧ s'.manager.wsStates.get? ws = none) ∨
      ((label = .lock (.call (.accept ws)) → s.manager.full) ∧
        s'.manager.wsStates.get? ws = s.manager.wsStates.get? ws) := by
  cases step with
  | accept ws' later free first room =>
      by_cases own : ws = ws'
      · subst own
        exact .inl ⟨rfl, room, Dict.get?_set_self _ _ _⟩
      · refine .inr (.inr ⟨?_, Dict.get?_set_ne _ own _⟩)
        intro same
        cases same
        exact absurd rfl own
  | refuse ws' later free first full => exact .inr (.inr ⟨fun _ => full, rfl⟩)
  | disconnect ws' channels later free first perm =>
      rw [wsStates_visit]
      by_cases own : ws = ws'
      · subst own
        exact .inr (.inl ⟨rfl, Dict.get?_pop_self _ _⟩)
      · exact .inr (.inr ⟨fun same => (nomatch same), Dict.get?_pop_ne _ own⟩)
  | subscribe ws' channel filterLocoId envelopeType later free first =>
      exact .inr (.inr ⟨fun same => (nomatch same),
        congrArg (·.get? ws) (wsStates_subscribe _ _ _ _ _)⟩)
  | popRelay ws' channel rest later free first =>
      exact .inr (.inr ⟨fun same => (nomatch same), congrArg (·.get? ws) (wsStates_visit _ _ _)⟩)
  | relay r relay call later at_r first =>
      exact .inr (.inr ⟨fun same => (nomatch same),
        congrArg (·.get? ws) (runRelay_rest s r relay later call).1⟩)
  | _ => exact .inr (.inr ⟨fun same => (nomatch same), rfl⟩)

/-- A `disconnect` waits until it has the lock. -/
theorem step_waits (step : Step s label s') {ws : WsId}
    (called : .call (.disconnect ws) ∈ s.waiting) :
    .call (.disconnect ws) ∈ s'.waiting ∨ label = .lock (.call (.disconnect ws)) := by
  cases step with
  | call call => exact .inl (List.mem_append_left _ called)
  | accept ws' later free first room => exact .inl (by simpa [first] using called)
  | refuse ws' later free first full => exact .inl (by simpa [first] using called)
  | subscribe ws' channel filterLocoId envelopeType later free first =>
      exact .inl (by simpa [first] using called)
  | disconnect ws' channels later free first perm =>
      rw [first, List.mem_cons] at called
      rcases called with own | later
      · cases own
        exact .inr rfl
      · exact .inl (by simpa using later)
  | popRelay ws' channel rest later free first =>
      exact .inl (by simpa [first] using called)
  | relay r relay call later at_r first =>
      left
      obtain ⟨-, same | ⟨ws', channel, rest, more⟩⟩ := runRelay_rest s r relay later call
      · rw [same]
        exact called
      · rw [more]
        exact List.mem_append_left _ called
  | _ => exact .inl called

/-- Nobody else calls it. -/
theorem step_calls (step : Step s label s') {ws : WsId}
    (called : .call (.disconnect ws) ∈ s'.waiting) :
    .call (.disconnect ws) ∈ s.waiting ∨ label = .call (.disconnect ws) := by
  cases step with
  | call call =>
      rcases List.mem_append.mp called with before | new
      · exact .inl before
      · right
        rw [List.mem_singleton, Waiter.call.injEq] at new
        rw [new]
  | accept ws' later free first room => exact .inl (by simpa [first] using called)
  | refuse ws' later free first full => exact .inl (by simpa [first] using called)
  | subscribe ws' channel filterLocoId envelopeType later free first =>
      exact .inl (by simpa [first] using called)
  | disconnect ws' channels later free first perm =>
      left
      rw [waiting_visit] at called
      rw [first]
      exact List.mem_cons_of_mem _ called
  | popRelay ws' channel rest later free first =>
      rw [waiting_visit] at called
      exact .inl (by simpa [first] using called)
  | relay r relay call later at_r first =>
      left
      obtain ⟨-, same | ⟨ws', channel, rest, more⟩⟩ := runRelay_rest s r relay later call
      · rwa [same] at called
      · rw [more] at called
        simpa using called
  | _ => exact .inl called

end

/-! ## What the flag means -/

/-- The flag says that the client owes nothing. -/
def Exact (ws : WsId) (m : Monitored) : Prop :=
  ∀ st, m.manager.wsStates.get? ws = some st → st.pongReceived = !m.owes

section

variable {maxConnections : Int} {ws : WsId} {m m' : Monitored} {label : ServerLabel}

theorem get?_setPong (m : ConnectionManager) (ws ws' : WsId) (pongReceived : Bool) :
    (m.setPong ws' pongReceived).wsStates.get? ws =
      if ws' = ws then (m.wsStates.get? ws).map fun _ => { pongReceived }
      else m.wsStates.get? ws := by
  unfold ConnectionManager.setPong
  by_cases own : ws' = ws
  · subst own
    rw [if_pos rfl]
    cases found : m.wsStates.get? ws' with
    | none => exact found
    | some st => exact Dict.get?_set_self _ _ _
  · rw [if_neg own]
    split
    · exact Dict.get?_set_ne _ (Ne.symm own) _
    · rfl

/-- A client that owes an answer counts as unanswered as long as it is registered. -/
theorem Exact.unanswered (h : Exact ws m) (owes : m.owes = true) :
    m.manager.unanswered ws = true ∨ m.manager.wsStates.get? ws = none := by
  unfold ConnectionManager.unanswered
  cases found : m.manager.wsStates.get? ws with
  | none => exact .inr rfl
  | some st =>
      left
      dsimp only
      rw [h st found, owes]
      rfl

theorem Exact.answered (h : Exact ws m) (owes : m.owes = false) :
    m.manager.unanswered ws = false := by
  unfold ConnectionManager.unanswered
  cases found : m.manager.wsStates.get? ws with
  | none => rfl
  | some st =>
      dsimp only
      rw [h st found, owes]
      rfl

theorem Exact.step (h : Exact ws m) (step : (monitored maxConnections ws).step m label m') :
    Exact ws m' := by
  obtain ⟨server, owes⟩ := m
  obtain ⟨server', owes'⟩ := m'
  obtain ⟨step, rfl⟩ := step
  intro st found
  cases step with
  | manager label state inner =>
      rcases step_states inner ws with ⟨rfl, room, fresh⟩ | ⟨-, gone⟩ | ⟨full, same⟩
      · cases fresh.symm.trans found
        have taken : owesAfter ws ⟨server, owes⟩ (.manager (.lock (.call (.accept ws)))) = false :=
          if_pos ⟨rfl, room⟩
        rw [taken]
        rfl
      · cases gone.symm.trans found
      · have kept : owesAfter ws ⟨server, owes⟩ (.manager label) = owes := by
          unfold owesAfter
          split
          case h_1 => contradiction
          case h_2 => contradiction
          case h_3 ws' at_accept =>
            cases at_accept
            apply if_neg
            rintro ⟨rfl, room⟩
            exact room (full rfl)
          case h_4 => rfl
        rw [kept]
        exact h st (same.symm.trans found)
  | markPong ws' =>
      have after := get?_setPong server.state.manager ws ws' true
      replace found := after.symm.trans found
      by_cases own : ws' = ws
      · rw [if_pos own, Option.map_eq_some_iff] at found
        obtain ⟨-, -, rfl⟩ := found
        simp [owesAfter, own]
      · rw [if_neg own] at found
        simpa [owesAfter, own] using h st found
  | ping ws' left stale pinging answered =>
      have after := get?_setPong server.state.manager ws ws' false
      replace found := after.symm.trans found
      by_cases own : ws' = ws
      · rw [if_pos own, Option.map_eq_some_iff] at found
        obtain ⟨-, -, rfl⟩ := found
        simp [owesAfter, own]
      · rw [if_neg own] at found
        simpa [owesAfter, own] using h st found
  | unanswered ws' left stale pinging unanswered =>
      have before := h st found
      by_cases own : ws' = ws
      · subst own
        have failed : st.pongReceived = false := by
          have found' : server.state.manager.wsStates.get? ws' = some st := found
          simpa [ConnectionManager.unanswered, found'] using unanswered
        simp [owesAfter, failed]
      · simpa [owesAfter, own] using before
  | snapshot beat free => exact h st found
  | pinged ws' left stale ok sending => exact h st found
  | stale stale pinging => exact h st found
  | evict ws' stale evicting => exact h st found
  | rest evicting => exact h st found

/-! ## A client that does not answer -/

/-- It owes an answer, among the books in order. -/
structure Deaf (ws : WsId) (m : Monitored) : Prop where
  exact : Exact ws m
  owes : m.owes = true
  booked : Booked m.manager

theorem Deaf.step (h : Deaf ws m) (silent : Silent ws m label)
    (step : (monitored maxConnections ws).step m label m') : Deaf ws m' := by
  refine ⟨h.exact.step step, ?_, h.booked.serverStep step.1 silent.1⟩
  rw [step.2]
  have owes := h.owes
  obtain ⟨-, silent⟩ := silent
  unfold owesAfter
  split
  · rw [owes, ite_self]
  · exact (if_neg silent).trans owes
  · exact (if_neg fun both => silent both.1).trans owes
  · exact owes

/-- It is out of the books, or will be once the calls that wait have run. -/
def Leaving (ws : WsId) (m : Monitored) : Prop :=
  m.Called ws ∨ m.manager.wsStates.get? ws = none

theorem Leaving.step (h : Leaving ws m) (silent : Silent ws m label)
    (step : (monitored maxConnections ws).step m label m') : Leaving ws m' := by
  obtain ⟨server, owes⟩ := m
  obtain ⟨server', owes'⟩ := m'
  obtain ⟨step, -⟩ := step
  cases step with
  | manager label state inner =>
      rcases step_states inner ws with ⟨rfl, -, -⟩ | ⟨-, gone⟩ | ⟨-, same⟩
      · exact absurd rfl silent.2
      · exact .inr gone
      · rcases h with called | gone
        · rcases step_waits inner called with waits | rfl
          · exact .inl waits
          · -- it has the lock
            rcases step_states inner ws with ⟨same, -, -⟩ | ⟨-, gone⟩ | ⟨-, -⟩
            · cases same
            · exact .inr gone
            · cases inner with
              | disconnect ws channels later free first perm =>
                  right
                  show ((State.visit _ ws channels).manager.wsStates).get? ws = none
                  rw [wsStates_visit]
                  exact Dict.get?_pop_self _ _
        · exact .inr (same.trans gone)
  | markPong ws' =>
      rcases h with called | gone
      · exact .inl called
      · right
        show (server.state.manager.setPong ws' true).wsStates.get? ws = none
        rw [get?_setPong, if_neg silent.2]
        exact gone
  | ping ws' left stale pinging answered =>
      rcases h with called | gone
      · exact .inl called
      · right
        show (server.state.manager.setPong ws' false).wsStates.get? ws = none
        rw [get?_setPong, show server.state.manager.wsStates.get? ws = none from gone]
        exact ite_self _
  | evict ws' stale evicting =>
      rcases h with called | gone
      · exact .inl (List.mem_append_left _ called)
      · exact .inr gone
  | unanswered ws' left stale pinging unanswered => exact h
  | snapshot beat free => exact h
  | pinged ws' left stale ok sending => exact h
  | stale stale pinging => exact h
  | rest evicting => exact h

/-- It is leaving, or the round that is under way will evict it. -/
def Caught (ws : WsId) (m : Monitored) : Prop :=
  Leaving ws m ∨ ws ∈ m.server.beat.pending

/-- The snapshot catches every client that owes an answer. -/
theorem Deaf.caught (h : Deaf ws m)
    (step : (monitored maxConnections ws).step m .snapshot m') : Caught ws m' := by
  obtain ⟨server, owes⟩ := m
  obtain ⟨server', owes'⟩ := m'
  obtain ⟨step, -⟩ := step
  cases step with
  | snapshot beat free =>
      cases found : server.state.manager.wsStates.get? ws with
      | none => exact .inl (.inr found)
      | some st =>
          right
          have registered : ws ∈ server.state.manager.wsStates.keys :=
            Dict.mem_keys.mpr ⟨st, found⟩
          show ws ∈ server.state.manager.wsRefs.keys ++ []
          rw [List.append_nil]
          exact (h.booked.refs ws).mpr ((h.booked.states ws).mp registered)

theorem Caught.step (h : Caught ws m) (deaf : Deaf ws m) (silent : Silent ws m label)
    (step : (monitored maxConnections ws).step m label m') : Caught ws m' := by
  rcases h with leaving | pending
  · exact .inl (leaving.step silent step)
  obtain ⟨server, owes⟩ := m
  obtain ⟨server', owes'⟩ := m'
  have whole := step
  obtain ⟨step, -⟩ := step
  cases step with
  | manager label state inner => exact .inr pending
  | markPong ws' => exact .inr pending
  | snapshot beat free =>
      rw [show (Monitored.server ⟨server, owes⟩).beat = _ from beat] at pending
      cases pending
  | unanswered ws' left stale pinging unanswered =>
      right
      rw [show (Monitored.server ⟨server, owes⟩).beat = _ from pinging] at pending
      simp only [Beat.pending, List.mem_append, List.mem_cons] at pending ⊢
      tauto
  | ping ws' left stale pinging answered =>
      rw [show (Monitored.server ⟨server, owes⟩).beat = _ from pinging] at pending
      by_cases own : ws' = ws
      · -- it owes an answer, so that it is pinged only when it has gone
        subst own
        rcases deaf.exact.unanswered deaf.owes with unanswered | gone
        · cases answered.symm.trans unanswered
        · exact .inl (Leaving.step (.inr gone) silent whole)
      · right
        simp only [Beat.pending, List.mem_append, List.mem_cons] at pending ⊢
        have other : ws ≠ ws' := Ne.symm own
        tauto
  | pinged ws' left stale ok sending =>
      right
      rw [show (Monitored.server ⟨server, owes⟩).beat = _ from sending] at pending
      cases ok <;> simp only [Beat.pending, List.mem_append] at pending ⊢
      · exact pending.imp_right fun mem => List.mem_append_left _ mem
      · exact pending
  | stale stale pinging =>
      right
      rw [show (Monitored.server ⟨server, owes⟩).beat = _ from pinging] at pending
      simpa [Beat.pending] using pending
  | evict ws' stale evicting =>
      rw [show (Monitored.server ⟨server, owes⟩).beat = _ from evicting] at pending
      rcases List.mem_cons.mp pending with rfl | later
      · exact .inl (.inl (List.mem_append_right _ List.mem_cons_self))
      · exact .inr later
  | rest evicting =>
      rw [show (Monitored.server ⟨server, owes⟩).beat = _ from evicting] at pending
      cases pending

/-- Nobody is caught for a later round. -/
theorem Caught.leaving (h : Caught ws m)
    (step : (monitored maxConnections ws).step m .rest m') : Leaving ws m' := by
  obtain ⟨server, owes⟩ := m
  obtain ⟨server', owes'⟩ := m'
  obtain ⟨step, -⟩ := step
  cases step with
  | rest evicting =>
      rcases h with leaving | pending
      · exact leaving
      · rw [show (Monitored.server ⟨server, owes⟩).beat = _ from evicting] at pending
        cases pending

/-! ## A client that answers -/

/-- It is registered, and nothing is under way that would disconnect it. -/
structure Staying (ws : WsId) (m : Monitored) : Prop where
  registered : ws ∈ m.manager.wsStates.keys
  uncalled : ¬ m.Called ws
  spared : ws ∉ m.server.beat.stale

/-- An invariant of its runs. -/
structure Sound (ws : WsId) (m : Monitored) : Prop where
  exact : Exact ws m
  booked : Booked m.manager
  staying : Staying ws m

theorem Staying.step (h : Staying ws m) (exact' : Exact ws m) (answering : Answering ws m label)
    (step : (monitored maxConnections ws).step m label m') : Staying ws m' := by
  obtain ⟨registered, uncalled, spared⟩ := h
  obtain ⟨server, owes⟩ := m
  obtain ⟨server', owes'⟩ := m'
  obtain ⟨step, -⟩ := step
  obtain ⟨-, answering⟩ := answering
  cases step with
  | manager label state inner =>
      refine ⟨?_, ?_, spared⟩
      · obtain ⟨st, found⟩ := Dict.mem_keys.mp registered
        apply Dict.mem_keys.mpr
        rcases step_states inner ws with ⟨-, -, fresh⟩ | ⟨rfl, -⟩ | ⟨-, same⟩
        · exact ⟨_, fresh⟩
        · -- a `disconnect` has the lock that was never called
          cases inner with
          | disconnect ws channels later free first perm =>
              refine absurd ?_ uncalled
              show Waiter.call (.disconnect ws) ∈ server.state.waiting
              rw [show server.state.waiting = _ from first]
              exact List.mem_cons_self
        · exact ⟨st, same.trans found⟩
      · intro called
        rcases step_calls inner called with before | rfl
        · exact uncalled before
        · exact answering rfl
  | markPong ws' =>
      refine ⟨?_, uncalled, spared⟩
      exact ((SameBooks.setPong server.state.manager ws' true).states ws).mpr registered
  | snapshot beat free => exact ⟨registered, uncalled, List.not_mem_nil⟩
  | unanswered ws' left stale pinging unanswered =>
      refine ⟨registered, uncalled, ?_⟩
      rw [show (Monitored.server ⟨server, owes⟩).beat = _ from pinging] at spared
      intro mem
      rcases List.mem_append.mp mem with before | new
      · exact spared before
      · -- its turn has come, and it owes nothing
        obtain rfl := List.mem_singleton.mp new
        cases unanswered.symm.trans (exact'.answered (answering rfl))
  | ping ws' left stale pinging answered =>
      rw [show (Monitored.server ⟨server, owes⟩).beat = _ from pinging] at spared
      refine ⟨?_, uncalled, spared⟩
      exact ((SameBooks.setPong server.state.manager ws' false).states ws).mpr registered
  | pinged ws' left stale ok sending =>
      refine ⟨registered, uncalled, ?_⟩
      rw [show (Monitored.server ⟨server, owes⟩).beat = _ from sending] at spared
      cases ok with
      | true => exact spared
      | false =>
          intro mem
          rcases List.mem_append.mp mem with before | new
          · exact spared before
          · cases answering (List.mem_singleton.mp new).symm
  | stale stale pinging =>
      rw [show (Monitored.server ⟨server, owes⟩).beat = _ from pinging] at spared
      exact ⟨registered, uncalled, spared⟩
  | evict ws' stale evicting =>
      rw [show (Monitored.server ⟨server, owes⟩).beat = _ from evicting] at spared
      refine ⟨registered, ?_, fun mem => spared (List.mem_cons_of_mem _ mem)⟩
      intro called
      rcases List.mem_append.mp called with before | new
      · exact uncalled before
      · cases List.mem_singleton.mp new
        exact spared List.mem_cons_self
  | rest evicting => exact ⟨registered, uncalled, List.not_mem_nil⟩

theorem Sound.step (h : Sound ws m) (answering : Answering ws m label)
    (step : (monitored maxConnections ws).step m label m') : Sound ws m' where
  exact := h.exact.step step
  booked := h.booked.serverStep step.1 answering.1
  staying := h.staying.step h.exact answering step

/-- The socket that is evicted is a stale one. -/
theorem stale_of_evict {server server' : Server} (step : ServerStep server (.evict ws) server') :
    ws ∈ server.beat.stale := by
  cases step with
  | evict ws stale evicting =>
      rw [evicting]
      exact List.mem_cons_self

/-! ## Whole runs -/

/-- The subscriptions of all clients find their connections. -/
def AllRegistered (m : Monitored) (label : ServerLabel) : Prop := m.server.Registered label

theorem reachable_exact (limit : 0 ≤ maxConnections)
    (reach : ((monitored maxConnections ws).where' AllRegistered).Reachable m) :
    Exact ws m ∧ Booked m.manager := by
  apply reach.invariant (I := fun m => Exact ws m ∧ Booked m.manager)
  · rintro ⟨server, owes⟩ ⟨start, -⟩
    obtain rfl : server = ⟨⟨.create maxConnections, none, [], [], []⟩, .sleeping⟩ := start
    exact ⟨fun _ found => (nomatch found), fun _ => Iff.rfl, fun _ => Iff.rfl, limit⟩
  · rintro m label m' ⟨exact', booked⟩ ⟨registered, step⟩
    exact ⟨exact'.step step, booked.serverStep step.1 registered⟩

/-- **A client that answers is never evicted.**  From any reachable state in which it is
registered and not on its way out, through any run of clients, rounds and locks in which it
answers each ping before its next turn, its pings arrive and its handler goes on, no round
evicts it, and it is in all three dictionaries at the end. -/
theorem answering_stays (limit : 0 ≤ maxConnections)
    (reach : ((monitored maxConnections ws).where' AllRegistered).Reachable m)
    (start : Staying ws m) {labels : List ServerLabel}
    (run : ((monitored maxConnections ws).where' (Answering ws)).Run m labels m') :
    .evict ws ∉ labels ∧ ws ∈ m'.manager.connections.keys ∧ ws ∈ m'.manager.wsRefs.keys ∧
      ws ∈ m'.manager.wsStates.keys := by
  obtain ⟨exact', booked⟩ := reachable_exact limit reach
  have sound {labels : List ServerLabel} {m' : Monitored}
      (run : ((monitored maxConnections ws).where' (Answering ws)).Run m labels m') :
      Sound ws m' :=
    run.guarded_invariant ⟨exact', booked, start⟩
      fun m label m' _ inv answering step => inv.step answering step
  have last := sound run
  have filed := (last.booked.states ws).mp last.staying.registered
  refine ⟨?_, filed, (last.booked.refs ws).mpr filed, last.staying.registered⟩
  intro mem
  obtain ⟨pre, post, rfl⟩ := List.append_of_mem mem
  obtain ⟨before, first, rest⟩ := run.split
  rw [← List.singleton_append] at rest
  obtain ⟨after, evict, -⟩ := rest.split
  exact (sound first).staying.spared (stale_of_evict evict.single_inv.2.1)

/-- **Of a client that does not answer nothing is left.**  Once it owes an answer, and for as
long as it gives none and does not connect again, then after one complete round of the
heartbeat, and whatever else is going on, it is in none of the three dictionaries as soon as
no call waits for the lock: it holds no place under the connection limit. -/
theorem silent_evicted (limit : 0 ≤ maxConnections)
    (reach : ((monitored maxConnections ws).where' AllRegistered).Reachable m)
    (owes : m.owes = true) {pre mid post : List ServerLabel}
    (run : ((monitored maxConnections ws).where' (Silent ws)).Run m
      (pre ++ .snapshot :: (mid ++ .rest :: post)) m')
    (free : m'.server.state.waiting = []) :
    ws ∉ m'.manager.connections.keys ∧ ws ∉ m'.manager.wsRefs.keys ∧
      ws ∉ m'.manager.wsStates.keys := by
  obtain ⟨exact', booked⟩ := reachable_exact limit reach
  have kept {m m' : Monitored} {labels : List ServerLabel} (start : Deaf ws m)
      (run : ((monitored maxConnections ws).where' (Silent ws)).Run m labels m') :
      Deaf ws m' :=
    run.guarded_invariant start fun m label m' _ inv silent step => inv.step silent step
  have deaf : Deaf ws m := ⟨exact', owes, booked⟩
  -- before the round, the round, and after it
  obtain ⟨before, first, later⟩ := run.split
  rw [← List.singleton_append] at later
  obtain ⟨begun, snapshot, later⟩ := later.split
  obtain ⟨round, during, later⟩ := later.split
  rw [← List.singleton_append] at later
  obtain ⟨ended, rest, later⟩ := later.split
  have starts := snapshot.single_inv
  have ends := rest.single_inv
  have caught : Caught ws begun := (kept deaf first).caught starts.2
  have deafRound : Deaf ws begun := (kept deaf first).step starts.1 starts.2
  have still : Deaf ws round ∧ Caught ws round :=
    during.guarded_invariant (I := fun m => Deaf ws m ∧ Caught ws m) ⟨deafRound, caught⟩
      fun m label m' _ inv silent step =>
        ⟨inv.1.step silent step, inv.2.step inv.1 silent step⟩
  have left : Leaving ws m' :=
    later.guarded_invariant (I := Leaving ws) (still.2.leaving ends.2)
      fun m label m' _ inv silent step => inv.step silent step
  have last : Deaf ws m' := kept deaf run
  have gone : ws ∉ m'.manager.wsStates.keys := by
    rcases left with called | none
    · rw [Monitored.Called, free] at called
      cases called
    · exact Dict.get?_eq_none.mp none
  have unfiled : ws ∉ m'.manager.connections.keys :=
    fun mem => gone ((last.booked.states ws).mpr mem)
  exact ⟨unfiled, fun mem => unfiled ((last.booked.refs ws).mp mem), gone⟩

end

/-! ## Two clients -/

section

variable {C : Monitored → ServerLabel → Prop} {m m' : Monitored} {labels : List ServerLabel}

/-- One more step of a run. -/
theorem run_watch (run : ((monitored 500 1).where' C).Run m labels m') (label : ServerLabel)
    {server : Server} (step : ServerStep m'.server label server) (allowed : C m' label) :
    ((monitored 500 1).where' C).Run m (labels ++ [label]) ⟨server, owesAfter 1 m' label⟩ :=
  .snoc run ⟨allowed, step, rfl⟩

/-- A client whose `accept` has run. -/
def acceptedOne : Monitored :=
  ⟨⟨⟨(ConnectionManager.create 500).accept 1, none, [], [], []⟩, .sleeping⟩, false⟩

theorem reachable_acceptedOne : ((monitored 500 1).where' AllRegistered).Reachable acceptedOne := by
  have run := run_watch (C := AllRegistered)
    (.nil ⟨⟨⟨.create 500, none, [], [], []⟩, .sleeping⟩, false⟩) (.manager (.call (.accept 1)))
    (.manager _ _ _ (Step.call _ (.accept 1))) trivial
  have run := run_watch run (.manager (.lock (.call (.accept 1))))
    (.manager _ _ _ (Step.accept _ 1 [] rfl rfl (by decide))) trivial
  have run := run_watch run (.manager (.accepted 1))
    (.manager _ _ _ (Step.accepted _ 1 (by decide))) trivial
  exact run.reachable (.init ⟨rfl, rfl⟩)

/-- The same client, pinged. -/
def pingedOne : Monitored :=
  ⟨⟨⟨((ConnectionManager.create 500).accept 1).setPong 1 false, none, [], [], []⟩,
    .pinging [] []⟩, true⟩

theorem reachable_pingedOne : ((monitored 500 1).where' AllRegistered).Reachable pingedOne := by
  have run := run_watch (C := AllRegistered) (.nil acceptedOne) .snapshot
    (.snapshot _ rfl rfl) trivial
  have run := run_watch run (.ping 1) (.ping _ 1 [] [] rfl rfl) trivial
  have run := run_watch run (.pinged 1 true) (.pinged _ 1 [] [] true rfl) trivial
  exact run.reachable reachable_acceptedOne

/-- It answers in one round and is there in the next. -/
theorem answering_stays_twoRounds : ∃ m labels m',
    ((monitored 500 1).where' (Answering 1)).Run m labels m' ∧
      labels.count .snapshot = 2 ∧ .evict 1 ∉ labels ∧ 1 ∈ m'.manager.connections.keys := by
  have run := run_watch (C := Answering 1) (.nil acceptedOne) .snapshot (.snapshot _ rfl rfl)
    ⟨trivial, trivial⟩
  have run := run_watch run (.ping 1) (.ping _ 1 [] [] rfl rfl) ⟨trivial, fun _ => rfl⟩
  have run := run_watch run (.pinged 1 true) (.pinged _ 1 [] [] true rfl)
    ⟨trivial, fun _ => rfl⟩
  have run := run_watch run (.markPong 1) (.markPong _ 1) ⟨trivial, trivial⟩
  have run := run_watch run .stale (.stale _ [] rfl) ⟨trivial, trivial⟩
  have run := run_watch run .rest (.rest _ rfl) ⟨trivial, trivial⟩
  have run := run_watch run .snapshot (.snapshot _ rfl rfl) ⟨trivial, trivial⟩
  have run := run_watch run (.ping 1) (.ping _ 1 [] [] rfl rfl) ⟨trivial, fun _ => rfl⟩
  have stays := answering_stays (by decide) reachable_acceptedOne
    ⟨by decide, List.not_mem_nil, by decide⟩ run
  exact ⟨_, _, _, run, by decide, stays.1, stays.2.1⟩

/-- It does not answer, and the next round evicts it. -/
theorem silent_evicted_nextRound : ∃ m labels m',
    ((monitored 500 1).where' (Silent 1)).Run m labels m' ∧
      1 ∈ m.manager.connections.keys ∧ 1 ∉ m'.manager.connections.keys := by
  have run := run_watch (C := Silent 1) (.nil pingedOne) .stale (.stale _ [] rfl) ⟨trivial, trivial⟩
  have run := run_watch run .rest (.rest _ rfl) ⟨trivial, trivial⟩
  have run := run_watch run .snapshot (.snapshot _ rfl rfl) ⟨trivial, trivial⟩
  have run := run_watch run (.ping 1) (.unanswered _ 1 [] [] rfl rfl) ⟨trivial, trivial⟩
  have run := run_watch run .stale (.stale _ [1] rfl) ⟨trivial, trivial⟩
  have run := run_watch run (.evict 1) (.evict _ 1 [] rfl) ⟨trivial, trivial⟩
  have run := run_watch run .rest (.rest _ rfl) ⟨trivial, trivial⟩
  have run := run_watch run (.manager (.lock (.call (.disconnect 1))))
    (.manager _ _ _ (Step.disconnect _ 1 [] [] rfl rfl (by decide))) ⟨trivial, trivial⟩
  have whole : ((monitored 500 1).where' (Silent 1)).Run _ ([.stale, .rest] ++ .snapshot ::
      ([.ping 1, .stale, .evict 1] ++ .rest :: [.manager (.lock (.call (.disconnect 1)))])) _ :=
    run
  have gone := silent_evicted (by decide) reachable_pingedOne rfl whole rfl
  exact ⟨_, _, _, run, by decide, gone.1⟩

end

end LocoTwin.WsServer
