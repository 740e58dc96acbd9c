/-
# Dashboard.Reconnect -- how long a manager keeps trying

A socket that closes uncleanly schedules the next attempt, until `maxReconnectAttempts` of
them have been used up without an open.  An attempt whose ticket query fails schedules
nothing: `fetchTicket` answers null to every error of the query, and `connect` takes null for
an authentication failure.

* `keeps_trying_iff`: a manager that nobody disposes and no code turns away gives up early in
  no state of a run exactly when each failed ticket query of the run finds something else
  that goes on, or the attempts used up; and its attempts are the closes since the last open;
* `gives_up_early`: one 503 for the first ticket, and the manager never tries again.
-/
import LocoTwin.Dashboard.WebSocketManager

namespace LocoTwin.Dashboard

open LocoTwin.Lib WebSocketManager

set_option autoImplicit false

variable {max : Nat}

/-- What can happen to a manager of the hooks that is neither disposed nor turned away: no
clean close, none of the codes that mean a bad ticket, and no ticket query rejected for its
authentication. -/
def Event.Allowed : Event → Prop
  | .ticket answer => ∃ reply : TicketReply, reply.authRejection = false ∧
      answer = fetchTicket reply
  | .ticketRejected => False
  | .closed _ event _ => event.wasClean = false ∧ event.code ≠ 4400 ∧ event.code ≠ 4401
  | .dispose => False
  | _ => True

/-- Not at rest, or about to try again, or entitled to give up. -/
def KeepsTrying (max : Nat) (m : WebSocketManager) : Prop :=
  m.fetching = 0 → m.live = false → m.timers ≠ [] ∨ m.reconnectAttempts = max

/-- Where the ticket query fails, something else goes on, or the attempts are used up. -/
def Backed (max : Nat) (m : WebSocketManager) : Event → Prop
  | .ticket answer => truthy answer = true ∨ 1 < m.fetching ∨ m.live = true ∨
      m.timers ≠ [] ∨ m.reconnectAttempts = max
  | _ => True

/-- One event's part in the number of closes since the last open. -/
def failed (closes : Nat) : Event → Nat
  | .opened _ => 0
  | .closed _ _ _ => closes + 1
  | _ => closes

/-- The closes since the last open. -/
def failures (events : List Event) : Nat := events.foldl failed 0

/-! ## One close -/

/-- In use, with attempts within the limit. -/
structure Active (max : Nat) (m : WebSocketManager) : Prop where
  disposed : m.disposed = false
  attempts : m.reconnectAttempts ≤ max

theorem onclose_unclean {m : WebSocketManager} {event : CloseEvent} (active : m.disposed = false)
    (allowed : event.wasClean = false ∧ event.code ≠ 4400 ∧ event.code ≠ 4401) :
    m.onclose max event = ({ m with status := .disconnected }).scheduleReconnect max := by
  simp [onclose, active, allowed]

theorem scheduleReconnect_keeps {m : WebSocketManager} (within : m.reconnectAttempts ≤ max) :
    KeepsTrying max (m.scheduleReconnect max) := by
  intro _ _
  unfold scheduleReconnect
  split
  case isTrue reached => exact .inr (by omega)
  case isFalse more => exact .inl (by simp)

theorem scheduleReconnect_attempts {m : WebSocketManager} {closes : Nat}
    (counted : m.reconnectAttempts = min max closes) :
    (m.scheduleReconnect max).reconnectAttempts = min max (closes + 1) := by
  unfold scheduleReconnect
  split
  case isTrue reached => omega
  case isFalse more =>
    show m.reconnectAttempts + 1 = min max (closes + 1)
    omega

/-! ## One event -/

@[simp] theorem failures_append (events : List Event) (event : Event) :
    failures (events ++ [event]) = failed (failures events) event := by
  rw [failures, List.foldl_append]
  rfl

/-- The attempts follow the closes, through any event. -/
theorem step_attempts {m m' : WebSocketManager} {event : Event} {closes : Nat}
    (active : m.disposed = false) (counted : m.reconnectAttempts = min max closes)
    (allowed : event.Allowed) (next : step max m event = some m') :
    m'.reconnectAttempts = min max (failed closes event) := by
  cases raised_of_step next with
  | dispose => cases allowed
  | ticketRejected fetching => cases allowed
  | connect => exact (connect_reconnectAttempts m).trans counted
  | ticket answer fetching => exact (resume_reconnectAttempts m answer).trans counted
  | opened i opening => exact (Nat.min_zero max).symm
  | closed i event error =>
      obtain ⟨disposed, attempts⟩ := errored_fields m i error
      rw [onclose_unclean (disposed.trans active) allowed]
      exact scheduleReconnect_attempts (attempts.trans counted)
  | fired id pending => exact (connect_reconnectAttempts (m.clearTimeout id)).trans counted
  | message i message pongs delivered => exact counted
  | subscribe handler handlers => exact counted
  | unsubscribe handler handlers => exact counted

theorem Event.Allowed.ne_dispose {event : Event} (allowed : event.Allowed) :
    event ≠ .dispose := by
  rintro rfl
  exact allowed

theorem keepsTrying_of_fetching {m : WebSocketManager} (fetching : 0 < m.fetching) :
    KeepsTrying max m := by
  intro idle
  omega

theorem keepsTrying_of_live {m : WebSocketManager} (live : m.live = true) :
    KeepsTrying max m := by
  intro _ none'
  rw [live] at none'
  cases none'

/-- What a null ticket leaves. -/
theorem keepsTrying_resume_iff {m : WebSocketManager} {answer : Option String}
    (fetching : 0 < m.fetching) (missing : truthy answer = false) :
    KeepsTrying max (m.resume answer) ↔
      1 < m.fetching ∨ m.live = true ∨ m.timers ≠ [] ∨ m.reconnectAttempts = max := by
  simp only [KeepsTrying, resume, missing, Bool.false_eq_true, if_false]
  show (m.fetching - 1 = 0 → m.live = false → m.timers ≠ [] ∨ m.reconnectAttempts = max) ↔ _
  constructor
  · intro keeps
    by_cases other : 1 < m.fetching
    · exact .inl other
    · cases live : m.live with
      | true => exact .inr (.inl rfl)
      | false => exact .inr (.inr (keeps (by omega) live))
  · rintro (other | live | rest) idle dead
    · omega
    · rw [live] at dead
      cases dead
    · exact rest

/-- The condition is exact at each event. -/
theorem backed_iff {m m' : WebSocketManager} {event : Event} (active : Active max m)
    (allowed : event.Allowed) (before : KeepsTrying max m) (next : step max m event = some m') :
    KeepsTrying max m' ↔ Backed max m event := by
  cases raised_of_step next with
  | ticket answer fetching =>
      cases got : truthy answer with
      | true => exact iff_of_true (keepsTrying_of_live (resume_live got)) (.inl got)
      | false =>
          rw [keepsTrying_resume_iff fetching got]
          simp [Backed, got]
  | dispose => cases allowed
  | ticketRejected fetching => cases allowed
  | connect =>
      refine iff_of_true (keepsTrying_of_fetching ?_) trivial
      simp [connect, active.disposed]
  | opened i opening =>
      refine iff_of_true (keepsTrying_of_live (live_eq_true (i := i) (r := .open) ?_ rfl)) trivial
      exact List.getElem?_set_self (List.getElem?_eq_some_iff.mp opening).1
  | closed i event error =>
      obtain ⟨disposed, attempts⟩ := errored_fields m i error
      rw [onclose_unclean (disposed.trans active.disposed) allowed]
      refine iff_of_true (scheduleReconnect_keeps ?_) trivial
      exact Nat.le_trans (Nat.le_of_eq attempts) active.attempts
  | fired id pending =>
      refine iff_of_true (keepsTrying_of_fetching ?_) trivial
      simp [connect, clearTimeout, active.disposed]
  | message i message pongs delivered => exact iff_of_true before trivial
  | subscribe handler handlers => exact iff_of_true before trivial
  | unsubscribe handler handlers => exact iff_of_true before trivial

theorem Active.of_counted {m : WebSocketManager} {closes : Nat} (disposed : m.disposed = false)
    (counted : m.reconnectAttempts = min max closes) : Active max m :=
  ⟨disposed, Nat.le_trans (Nat.le_of_eq counted) (Nat.min_le_left _ _)⟩

theorem active_step {m m' : WebSocketManager} {event : Event} (active : Active max m)
    (allowed : event.Allowed) (next : step max m event = some m') : Active max m' := by
  have counted : m.reconnectAttempts = min max m.reconnectAttempts :=
    (Nat.min_eq_right active.attempts).symm
  have counted' := step_attempts active.disposed counted allowed next
  have disposed' := disposed_of_step next allowed.ne_dispose
  exact .of_counted (disposed'.trans active.disposed) counted'

/-! ## Runs -/

/-- In use, and with an attempt for each close since the last open, up to the limit. -/
theorem run_attempts {m : WebSocketManager} {events : List Event}
    (run : (dashboard max).Run .new events m) (allowed : ∀ event ∈ events, event.Allowed) :
    m.disposed = false ∧ m.reconnectAttempts = min max (failures events) := by
  generalize start : WebSocketManager.new = first at run
  induction run with
  | nil =>
      subst start
      exact ⟨rfl, (Nat.min_zero max).symm⟩
  | snoc run next ih =>
      have sooner := fun event mem => allowed event (List.mem_append_left _ mem)
      obtain ⟨active, counted⟩ := ih sooner
      have now := allowed _ (List.mem_append_right _ List.mem_cons_self)
      rw [failures_append]
      exact ⟨(disposed_of_step next now.ne_dispose).trans active,
        step_attempts active counted now next⟩

/-- From `connect()` on, no state of the run has given up early. -/
def NeverGivesUp (max : Nat) (m : WebSocketManager) (events : List Event) : Prop :=
  ∀ before m', before <+: events → (dashboard max).Run m before m' → KeepsTrying max m'

/-- The runs in which every failed ticket query is backed. -/
def backed (max : Nat) : System WebSocketManager Event :=
  (dashboard max).where' (Backed max)

theorem backed_snoc {m m' m'' : WebSocketManager} {events : List Event} {e : Event}
    (run : (backed max).Run m events m') (back : Backed max m' e)
    (next : step max m' e = some m'') : (backed max).Run m (events ++ [e]) m'' :=
  .snoc run ⟨back, next⟩

/-- **When a manager keeps trying.**  Take a run in which `connect()` has been called, with no
disposal, no clean close or close code 4400 or 4401, and no ticket query rejected for its
authentication.  From that call on, every state at rest has a timer pending or the attempts
used up, exactly when every ticket query that fails does so while another `connect()` is in
progress, a socket is connecting or open, a timer is pending or the attempts are used up.
The attempts are the closes since the last open, up to the limit. -/
theorem keeps_trying_iff {before events : List Event} {m m' : WebSocketManager}
    (called : (dashboard max).Run .new (before ++ [.connect]) m)
    (run : (dashboard max).Run m events m')
    (allowed : ∀ event ∈ before ++ [.connect] ++ events, event.Allowed) :
    (NeverGivesUp max m events ↔ (backed max).Run m events m') ∧
      m'.reconnectAttempts = min max (failures (before ++ [.connect] ++ events)) := by
  have sooner : ∀ event ∈ before ++ [.connect], event.Allowed := fun event mem =>
    allowed event (List.mem_append_left _ mem)
  have later : ∀ event ∈ events, event.Allowed := fun event mem =>
    allowed event (List.mem_append_right _ mem)
  refine ⟨?_, (run_attempts (called.append run) allowed).2⟩
  obtain ⟨disposed, counted⟩ := run_attempts called sooner
  have active : Active max m := .of_counted disposed counted
  have trying : KeepsTrying max m := by
    obtain ⟨m₀, -, next⟩ := called.snoc_inv
    obtain rfl := Option.some.inj next
    unfold connect at disposed ⊢
    split at disposed
    case isTrue was => rw [was] at disposed; cases disposed
    case isFalse was => exact keepsTrying_of_fetching (by simp [was])
  refine run.where'_iff dashboard_deterministic active trying ?_ ?_
  · exact fun m₁ event m₂ mem active₁ next => active_step active₁ (later event mem) next
  · exact fun m₁ event m₂ mem active₁ trying₁ next =>
      backed_iff active₁ (later event mem) trying₁ next

/-- A refused connection uses up the one attempt there is, and a 503 for the ticket of the
attempt is the end. -/
theorem keeps_trying_iff_used_up :
    NeverGivesUp 1 new.connect [.ticket (fetchTicket (.data "ticket")),
      .closed 0 ⟨1006, false⟩ true, .fired 0, .ticket (fetchTicket (.status 503))] := by
  have called : (dashboard 1).Run .new ([] ++ [.connect]) new.connect := run_of_play rfl
  have start : (backed 1).Run new.connect [] new.connect := .nil _
  have created := backed_snoc (e := .ticket (fetchTicket (.data "ticket"))) start
    (.inl (by decide)) rfl
  have refused := backed_snoc (e := .closed 0 ⟨1006, false⟩ true) created trivial rfl
  have again := backed_snoc (e := .fired 0) refused trivial rfl
  have failed := backed_snoc (e := .ticket (fetchTicket (.status 503))) again
    (.inr (.inr (.inr (.inr rfl)))) rfl
  refine (keeps_trying_iff called failed.unguarded ?_).1.mpr failed
  intro event mem
  simp only [List.nil_append, List.cons_append, List.mem_cons, List.not_mem_nil, or_false] at mem
  rcases mem with rfl | rfl | rfl | rfl | rfl
  · trivial
  · exact ⟨.data "ticket", rfl, rfl⟩
  · exact ⟨rfl, by decide, by decide⟩
  · trivial
  · exact ⟨.status 503, rfl, rfl⟩

/-- The server answers 503 to the query for the first ticket: `connect` ends as if the user
were logged out, with no attempt made and none to come. -/
theorem gives_up_early :
    ∃ m, (dashboard 10).Run new.connect [.ticket (fetchTicket (.status 503))] m ∧
      (Event.ticket (fetchTicket (.status 503))).Allowed ∧
      m.fetching = 0 ∧ m.live = false ∧ m.timers = [] ∧ m.reconnectAttempts = 0 ∧
      ¬ NeverGivesUp 10 new.connect [.ticket (fetchTicket (.status 503))] := by
  have failed : (dashboard 10).Run new.connect [.ticket (fetchTicket (.status 503))]
      (new.connect.resume none) := run_of_play rfl
  refine ⟨_, failed, ⟨.status 503, rfl, rfl⟩, rfl, rfl, rfl, rfl, fun trying => ?_⟩
  rcases trying _ _ (List.prefix_refl _) failed rfl rfl with timers | attempts
  · exact timers rfl
  · cases attempts

end LocoTwin.Dashboard
