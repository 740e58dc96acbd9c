/-
# Dashboard.Disposal -- what is left after `dispose()`

`dispose` closes the socket the manager knows as `this.ws` and clears the timer it knows as
`this.reconnectTimer`.  A `connect()` that waits for its ticket is neither: when the ticket
arrives the socket is created, and nothing closes it.

* `disposal_final_iff`: disposal is final exactly in the runs in which no ticket arrives
  after it, and in which at each `dispose` every socket not closed is `this.ws` and every
  timer set is `this.reconnectTimer`;
* `socket_after_dispose`: the consumer unmounts before the ticket arrives, and the socket is
  opened all the same.
-/
import LocoTwin.Dashboard.WebSocketManager

namespace LocoTwin.Dashboard

open LocoTwin.Lib

set_option autoImplicit false

variable {max : Nat}

namespace WebSocketManager

/-- Nothing is left to happen: what a disposed manager should be. -/
structure Final (m : WebSocketManager) : Prop where
  sockets : m.live = false
  timers : m.timers = []
  status : m.status = .disconnected

/-- The manager knows each socket that is not closed, and each timer that is set. -/
structure Known (m : WebSocketManager) : Prop where
  sockets : ∀ (i : Nat) (r : ReadyState), m.sockets[i]? = some r → r.live = true → m.ws = some i
  timers : ∀ timer ∈ m.timers, m.reconnectTimer = some timer.id

/-- A `dispose` finds what it has to close, and a ticket does not come after it. -/
def Covered (m : WebSocketManager) : Event → Prop
  | .dispose => m.Known
  | .ticket ticket => truthy ticket = true → m.disposed = false
  | _ => True

/-! ## `dispose` -/

@[simp] theorem dispose_disposed (m : WebSocketManager) : m.dispose.disposed = true := by
  simp [dispose]

@[simp] theorem dispose_length (m : WebSocketManager) :
    m.dispose.sockets.length = m.sockets.length := by
  simp [dispose]

theorem dispose_alive {m : WebSocketManager} {i : Nat} {r : ReadyState} (alive : r.live = true) :
    m.dispose.sockets[i]? = some r ↔ m.sockets[i]? = some r ∧ m.ws ≠ some i := by
  have closed :=
    closeCurrent_alive (m := ({ m with disposed := true }).clearReconnect) (i := i) alive
  rw [clearReconnect_sockets, clearReconnect_ws] at closed
  exact closed

theorem clearReconnect_timers {m : WebSocketManager} :
    m.clearReconnect.timers = [] ↔ ∀ timer ∈ m.timers, m.reconnectTimer = some timer.id := by
  unfold clearReconnect
  split
  case h_1 timer =>
    rw [timer, List.eq_nil_iff_forall_not_mem]
    exact forall_congr' fun other => ⟨fun out mem => absurd mem out, fun all mem => by
      cases all mem⟩
  case h_2 id timer =>
    simp only [clearTimeout, timer, List.filter_eq_nil_iff, bne_iff_ne, ne_eq, not_not,
      Option.some.injEq]
    exact forall_congr' fun other => imp_congr_right fun _ => eq_comm

/-- `dispose` leaves nothing exactly when the manager knows everything. -/
theorem dispose_final {m : WebSocketManager} : m.dispose.Final ↔ m.Known := by
  have timers : m.dispose.timers = [] ↔
      ∀ timer ∈ m.timers, m.reconnectTimer = some timer.id := by
    simpa [dispose] using clearReconnect_timers (m := { m with disposed := true })
  constructor
  · intro final
    refine ⟨fun i r at' alive => ?_, timers.mp final.timers⟩
    by_contra other
    have left := (dispose_alive alive).mpr ⟨at', other⟩
    have dead := live_eq_false.mp final.sockets i r left
    rw [dead] at alive
    cases alive
  · intro known
    refine ⟨live_eq_false.mpr fun i r at' => ?_, timers.mpr known.timers, rfl⟩
    refine Bool.eq_false_iff.mpr fun alive => ?_
    obtain ⟨before, other⟩ := (dispose_alive alive).mp at'
    exact other (known.sockets i r before alive)

/-! ## After `dispose` -/

/-- Nothing is left, and no socket has been created. -/
def Stays (m m' : WebSocketManager) : Prop :=
  m'.disposed = true ∧ m'.Final ∧ m'.sockets.length = m.sockets.length

theorem final_setReadyState {m : WebSocketManager} (final : m.Final) (i : Nat) :
    (m.setReadyState i .closed).Final := by
  refine ⟨live_of_sockets final.sockets fun j r at' alive => ?_, final.timers, final.status⟩
  rw [setReadyState, List.getElem?_set] at at'
  split at at'
  · split at at' <;> cases at'
    cases alive
  · exact ⟨r, at', alive⟩

theorem final_closeCurrent {m : WebSocketManager} (final : m.Final) : m.closeCurrent.Final := by
  refine ⟨live_of_sockets final.sockets fun j r at' alive => ?_, ?_, ?_⟩
  · exact ⟨r, ((closeCurrent_alive alive).mp at').1, alive⟩
  · rw [closeCurrent_timers]
    exact final.timers
  · rw [closeCurrent_status]
    exact final.status

theorem final_dispose {m : WebSocketManager} (final : m.Final) : m.dispose.Final := by
  refine dispose_final.mpr ⟨fun i r at' alive => ?_, fun timer mem => ?_⟩
  · rw [live_eq_false.mp final.sockets i r at'] at alive
    cases alive
  · rw [final.timers] at mem
    cases mem

/-- Where nothing is left, a covered event finds nothing to do. -/
theorem step_stays {m m' : WebSocketManager} {event : Event} (disposed : m.disposed = true)
    (final : m.Final) (covered : m.Covered event) (next : step max m event = some m') :
    m.Stays m' := by
  have idle : m.connect = m := by simp [connect, disposed]
  cases raised_of_step next with
  | connect =>
      rw [idle]
      exact ⟨disposed, final, rfl⟩
  | ticket answer fetching =>
      cases got : truthy answer with
      | true =>
          rw [covered got] at disposed
          cases disposed
      | false =>
          simp only [resume, got, Bool.false_eq_true, if_false]
          exact ⟨disposed, ⟨final.sockets, final.timers, rfl⟩, rfl⟩
  | ticketRejected fetching =>
      exact ⟨disposed, ⟨final.sockets, final.timers, final.status⟩, rfl⟩
  | opened i opening =>
      have none' := live_eq_false.mp final.sockets _ _ opening
      cases none'
  | message i message pongs delivered =>
      exact ⟨disposed, ⟨final.sockets, final.timers, final.status⟩, rfl⟩
  | closed i event error =>
      have closed := final_setReadyState final i
      have length : (m.setReadyState i .closed).sockets.length = m.sockets.length :=
        List.length_set
      cases error with
      | false =>
          simp only [Bool.false_eq_true, if_false]
          rw [onclose_disposed (m := m.setReadyState i .closed) disposed]
          exact ⟨disposed, closed, length⟩
      | true =>
          have still : (m.setReadyState i .closed).closeCurrent.disposed = true :=
            (closeCurrent_disposed _).trans disposed
          simp only [if_true]
          rw [onclose_disposed still]
          exact ⟨still, final_closeCurrent closed, (closeCurrent_length _).trans length⟩
  | fired id pending =>
      rw [final.timers] at pending
      cases pending
  | dispose => exact ⟨dispose_disposed m, final_dispose final, dispose_length m⟩
  | subscribe handler handlers =>
      exact ⟨disposed, ⟨final.sockets, final.timers, final.status⟩, rfl⟩
  | unsubscribe handler handlers =>
      exact ⟨disposed, ⟨final.sockets, final.timers, final.status⟩, rfl⟩

/-- A disposed manager has nothing left. -/
def FinalIfDisposed (m : WebSocketManager) : Prop := m.disposed = true → m.Final

/-- The condition is exact at each event. -/
theorem covered_iff {m m' : WebSocketManager} {event : Event} (before : m.FinalIfDisposed)
    (next : step max m event = some m') : m'.FinalIfDisposed ↔ m.Covered event := by
  constructor
  · intro after
    cases event with
    | dispose =>
        cases raised_of_step next
        exact dispose_final.mp (after (dispose_disposed m))
    | ticket ticket =>
        intro got
        refine Bool.eq_false_iff.mpr fun disposed => ?_
        have still := (disposed_of_step next (by simp)).trans disposed
        cases raised_of_step next
        have none' := (after still).sockets
        rw [resume_live got] at none'
        cases none'
    | _ => trivial
  · intro covered disposed'
    by_cases disposing : event = .dispose
    · subst disposing
      cases raised_of_step next
      exact dispose_final.mpr covered
    · rw [disposed_of_step next disposing] at disposed'
      exact (step_stays disposed' (before disposed') covered next).2.1

end WebSocketManager
/-! ## Runs -/

open WebSocketManager

/-- In every state of the run after a `dispose` nothing is left, and no socket has been
created since. -/
def DisposalFinal (max : Nat) (events : List Event) : Prop :=
  ∀ before after m m', before ++ after <+: events → (dashboard max).Run .new before m →
    m.disposed = true → (dashboard max).Run m after m' →
    m'.Final ∧ m'.sockets.length = m.sockets.length

/-- The runs in which every event is covered. -/
def covered (max : Nat) : System WebSocketManager Event :=
  (dashboard max).where' fun m event => m.Covered event

theorem covered_snoc {m m' m'' : WebSocketManager} {events : List Event} {e : Event}
    (run : (covered max).Run m events m') (cover : m'.Covered e)
    (next : step max m' e = some m'') : (covered max).Run m (events ++ [e]) m'' :=
  .snoc run ⟨cover, next⟩

/-- A covered run from a disposed manager with nothing left. -/
theorem stays_of_run {m m' : WebSocketManager} {events : List Event}
    (disposed : m.disposed = true) (final : m.Final) (run : (covered max).Run m events m') :
    m.Stays m' := by
  refine run.invariant (I := m.Stays) ⟨disposed, final, rfl⟩ ?_
  rintro m₁ event m₂ - ⟨disposed₁, final₁, length₁⟩ ⟨cover, next⟩
  obtain ⟨disposed₂, final₂, length₂⟩ := step_stays disposed₁ final₁ cover next
  exact ⟨disposed₂, final₂, length₂.trans length₁⟩

/-- **When disposal is final.**  In a run, whatever the order of its events, nothing is left
and nothing is created after `dispose` exactly when every `dispose` of the run finds each
socket that is not closed as `this.ws` and each timer that is set as `this.reconnectTimer`,
and no ticket arrives on a disposed manager. -/
theorem disposal_final_iff {m : WebSocketManager} {events : List Event}
    (run : (dashboard max).Run .new events m) :
    DisposalFinal max events ↔ (covered max).Run .new events m := by
  have exact' := run.where'_iff (I := fun _ => True) (P := FinalIfDisposed)
    (C := fun m event => m.Covered event) dashboard_deterministic trivial
    (fun disposed => by cases disposed) (fun _ _ _ _ _ _ => trivial)
    (fun _ _ _ _ _ before next => covered_iff before next)
  constructor
  · intro final
    refine exact'.mp fun before m' here reach disposed => ?_
    have here : before ++ [] <+: events := by rwa [List.append_nil]
    exact (final before [] m' m' here reach disposed (.nil m')).1
  · intro guarded before after m₁ m₂ here reach disposed rest
    have first : before <+: events := (List.prefix_append _ _).trans here
    have final : m₁.Final := exact'.mpr guarded before m₁ first reach disposed
    obtain ⟨post, rfl⟩ := here
    obtain ⟨m₃, guarded, -⟩ := guarded.split
    obtain ⟨m₄, start, middle⟩ := guarded.split
    obtain rfl := reach.unique dashboard_deterministic start.unguarded
    obtain rfl := rest.unique dashboard_deterministic middle.unguarded
    exact (stays_of_run disposed final middle).2

/-- Mounted, opened, and unmounted: every event is covered. -/
theorem disposal_final_iff_opened :
    DisposalFinal 10 [.connect, .ticket (some "ticket"), .opened 0, .dispose] := by
  have connected : (covered 10).Run .new [.connect] new.connect :=
    covered_snoc (e := .connect) (.nil .new) trivial rfl
  have created := covered_snoc (e := .ticket (some "ticket")) connected (fun _ => rfl) rfl
  have opened := covered_snoc (e := .opened 0) created trivial rfl
  have disposed := covered_snoc (e := .dispose) opened ⟨?_, ?_⟩ rfl
  · exact (disposal_final_iff disposed.unguarded).mpr disposed
  · rintro (_ | i) r at' -
    · rfl
    · cases at'
  · intro timer mem
    cases mem

/-- The consumer unmounts before the ticket arrives: the ticket of the disposed manager
makes a socket, which is opened, and nothing closes it. -/
theorem socket_after_dispose :
    ∃ m, (dashboard 10).Run .new [.connect, .dispose, .ticket (some "ticket"), .opened 0] m ∧
      m.disposed = true ∧ m.sockets = [.open] ∧ m.status = .connected ∧
      ¬ DisposalFinal 10 [.connect, .dispose, .ticket (some "ticket"), .opened 0] := by
  have unmounted : (dashboard 10).Run .new [.connect, .dispose] new.connect.dispose :=
    run_of_play rfl
  have later : (dashboard 10).Run new.connect.dispose [.ticket (some "ticket"), .opened 0]
      ((new.connect.dispose.resume (some "ticket")).setReadyState 0 .open).onopen :=
    run_of_play rfl
  refine ⟨_, unmounted.append later, rfl, rfl, rfl, fun final => ?_⟩
  have none' := (final _ _ _ _ (List.prefix_refl _) unmounted rfl later).1.sockets
  cases none'

end LocoTwin.Dashboard
