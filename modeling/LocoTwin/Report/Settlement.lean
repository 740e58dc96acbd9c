/-
# Report.Settlement -- when a settled job has a settled report

The row of a job is inserted in processing and leaves it by an update.  The insert is not
in the `try` that records failures: a second delivery that meets the row of a first one
cannot insert it, is rejected, and leaves it as it is.

* `report_settles`: when no awaited delivery meets a row in processing, the columns fit,
  and every applied update meets a row in processing, a settled job has a settled report,
  and a settled report stays as it is;
* `stuck_in_processing`: a worker that crashes between its two commits leaves a row in
  processing, which the redelivery cannot settle.
-/
import LocoTwin.Report.ReportWorker

namespace LocoTwin.Report

open LocoTwin.Lib LocoTwin.Shared

set_option autoImplicit false

variable {pg : Postgres} {job : ReportJobMessage}

/-- The report has been completed or has failed. -/
def Settled (job : ReportJobMessage) (s : State) : Prop :=
  ∃ row, s.row job = some row ∧ row.status.terminal = true

/-- Settled reports keep their status. -/
def Keeps (job : ReportJobMessage) (s s' : State) : Prop :=
  ∀ row, s.row job = some row → row.status.terminal = true →
    ∃ row', s'.row job = some row' ∧ row'.status = row.status

/-- No row in processing meets a refused insert of the delivery the broker waits for, and
every update that is applied meets one. -/
def Orderly (pg : Postgres) (job : ReportJobMessage) (s : State) : Event → Prop
  | .insertRefused i =>
      s.message = .unacked i → (columns pg job).isSome = true ∧
        ∀ row, s.row job = some row → row.status ≠ .processing
  | .commit _ reply =>
      reply.applies = true → ∀ row, s.row job = some row → row.status = .processing
  | _ => True

/-! ## Where a task has the row -/

namespace Point

/-- The task has inserted the row and may still update it. -/
def owns : Point → Prop
  | .inserting | .settling => False
  | _ => True

/-- The task has inserted the row and updated it in no way. -/
def untouched : Point → Prop
  | .generating | .executing (.completed _) | .committing (.completed _) => True
  | _ => False

theorem owns_of_untouched {p : Point} (h : p.untouched) : p.owns := by
  cases p <;> first | exact trivial | exact h.elim

end Point

theorem Update.untouched_raised (u : Update) (error : String) : ¬ (u.raised error).untouched := by
  cases u <;> exact id

/-- Only the update in the handler can end in a task that settles. -/
theorem Update.raised_settling {u : Update} {error : String} (h : u.raised error = .settling) :
    ∃ text, u = .failed text := by
  cases u with
  | completed formatted => cases h
  | failed text => exact ⟨text, rfl⟩

theorem untouched_afterExecute {u : Update} {reply : Reply}
    (h : (afterExecute pg u reply).untouched) : (Point.executing u).untouched := by
  cases u with
  | completed formatted => exact trivial
  | failed error =>
      cases reply with
      | lost applied text => exact h.elim
      | answered =>
          simp only [afterExecute, Update.data, pg.refuses_error] at h
          exact h

/-- A statement of `update_status` that ends the task has lost the database. -/
theorem afterExecute_settling {u : Update} {reply : Reply}
    (h : afterExecute pg u reply = .settling) : reply.reachable = false := by
  cases reply with
  | lost applied text => rfl
  | answered =>
      cases refused : pg.refuses u.data with
      | none => simp [afterExecute, refused] at h
      | some text =>
          simp only [afterExecute, refused] at h
          obtain ⟨error, rfl⟩ := Update.raised_settling h
          rw [Update.data, pg.refuses_error] at refused
          cases refused

/-- What is left when a task has finished. -/
theorem of_finished {tasks : Nat → Option Task} {i j : Nat} {t : Task}
    (h : Function.update tasks i none j = some t) : tasks j = some t := by
  by_cases same : j = i
  · subst same
    rw [Function.update_self] at h
    cases h
  · rwa [Function.update_of_ne same] at h

theorem Message.requeued_ne_unacked {m : Message} (i : Nat) : m.requeued ≠ .unacked i := by
  intro h
  cases m <;> cases h

theorem Message.requeued_settled {m : Message} {db : Bool} (h : m.requeued = .settled db) :
    m = .settled db := by
  cases m with
  | settled db' => exact h
  | _ => cases h

/-- The tasks after one of them has moved. -/
theorem of_moved {s : State} {i j : Nat} {q : Point} {db : Bool} {t : Task}
    (h : (s.move i q db).tasks j = some t) :
    (j = i ∧ t = ⟨q, db⟩) ∨ (j ≠ i ∧ s.tasks j = some t) := by
  by_cases same : j = i
  · subst same
    simp only [State.move, Function.update_self, Option.some.injEq] at h
    exact .inl ⟨rfl, h.symm⟩
  · simp only [State.move, Function.update_of_ne same] at h
    exact .inr ⟨same, h⟩

/-! ## The invariant -/

structure Inv (job : ReportJobMessage) (s : State) : Prop where
  fresh : ∀ i, s.tag ≤ i → s.tasks i = none
  started : ∀ row, s.row job = some row → row.status ≠ .pending
  owner : ∀ i t, s.tasks i = some t → t.point.owns → ∃ row, s.row job = some row
  untouched : ∀ i t, s.tasks i = some t → t.point.untouched →
    ∀ row, s.row job = some row → row.status = .processing
  unique : ∀ i j t u, s.tasks i = some t → s.tasks j = some u →
    t.point.owns → u.point.owns → i = j
  outcome : ∀ i db, s.message = .unacked i → s.tasks i = some ⟨.settling, db⟩ → db = true →
    Settled job s
  settled : s.message = .settled true → Settled job s

namespace Inv

variable {s : State}

/-- A row that is not in processing is settled. -/
theorem settled_of_row (inv : Inv job s) {row : Report} (found : s.row job = some row)
    (h : row.status ≠ .processing) : Settled job s := by
  refine ⟨row, found, ?_⟩
  have started := inv.started row found
  cases status : row.status with
  | pending => exact absurd status started
  | processing => exact absurd status h
  | completed => rfl
  | failed => rfl

/-- Tags yet to come stay free when a task moves. -/
theorem fresh_move (inv : Inv job s) {i : Nat} {t : Task} (here : s.tasks i = some t) {q : Point}
    {db : Bool} (j : Nat) (le : s.tag ≤ j) : (s.move i q db).tasks j = none := by
  have ne : j ≠ i := by
    intro same
    subst same
    rw [inv.fresh _ le] at here
    cases here
  simp only [State.move, Function.update_of_ne ne]
  exact inv.fresh j le

/-- A task that leaves the row alone moves on. -/
theorem move (inv : Inv job s) {i : Nat} {p q : Point} {db db' : Bool}
    (here : s.tasks i = some ⟨p, db⟩) (owns : q.owns → p.owns)
    (untouched : q.untouched → p.untouched)
    (outcome : s.message = .unacked i → q = .settling → db' = true → Settled job s) :
    Inv job (s.move i q db') := by
  have ownsOf (j : Nat) (t : Task) (h : (s.move i q db').tasks j = some t) (o : t.point.owns) :
      ∃ t', s.tasks j = some t' ∧ t'.point.owns := by
    rcases of_moved h with ⟨rfl, rfl⟩ | ⟨-, h⟩
    · exact ⟨_, here, owns o⟩
    · exact ⟨t, h, o⟩
  refine ⟨inv.fresh_move here, inv.started, ?_, ?_, ?_, ?_, inv.settled⟩
  · intro j t h o
    obtain ⟨t', h', o'⟩ := ownsOf j t h o
    exact inv.owner j t' h' o'
  · intro j t h o
    rcases of_moved h with ⟨rfl, rfl⟩ | ⟨-, h⟩
    · exact inv.untouched _ _ here (untouched o)
    · exact inv.untouched j t h o
  · intro j k t u ht hu ot ou
    obtain ⟨t', ht', ot'⟩ := ownsOf j t ht ot
    obtain ⟨u', hu', ou'⟩ := ownsOf k u hu ou
    exact inv.unique j k t' u' ht' hu' ot' ou'
  · intro j d waits h reach
    rcases of_moved h with ⟨rfl, same⟩ | ⟨-, h⟩
    · cases same
      exact outcome waits rfl reach
    · exact inv.outcome j d waits h reach

/-- Tasks are dropped, and the broker waits for no other delivery. -/
theorem drop (inv : Inv job s) {s' : State} (tag : s'.tag = s.tag)
    (reports : s'.reports = s.reports)
    (sub : ∀ i t, s'.tasks i = some t → s.tasks i = some t)
    (waits : ∀ i, s'.message = .unacked i → s.message = .unacked i)
    (settled : s'.message = .settled true → Settled job s) : Inv job s' := by
  have row : s'.row job = s.row job := congrArg (findById · job.reportId) reports
  have done (h : Settled job s) : Settled job s' := by
    rwa [Settled, row]
  refine ⟨?_, ?_, ?_, ?_, ?_, ?_, fun h => done (settled h)⟩
  · intro i le
    cases h : s'.tasks i with
    | none => rfl
    | some t =>
        have old := sub i t h
        rw [inv.fresh i (tag ▸ le)] at old
        cases old
  · rw [row]
    exact inv.started
  · rw [row]
    exact fun i t h => inv.owner i t (sub i t h)
  · rw [row]
    exact fun i t h => inv.untouched i t (sub i t h)
  · exact fun i j t u ht hu => inv.unique i j t u (sub i t ht) (sub j u hu)
  · exact fun i db h here reach => done (inv.outcome i db (waits i h) (sub i _ here) reach)

/-- The table changes and the row of the job does not. -/
theorem congr (inv : Inv job s) {reports : Reports}
    (same : findById reports job.reportId = s.row job) : Inv job { s with reports } where
  fresh := inv.fresh
  started row found := inv.started row (same ▸ found)
  owner i t h o := by
    obtain ⟨row, found⟩ := inv.owner i t h o
    exact ⟨row, same.trans found⟩
  untouched i t h o row found := inv.untouched i t h o row (same ▸ found)
  unique := inv.unique
  outcome i db h here reach := by
    obtain ⟨row, found, terminal⟩ := inv.outcome i db h here reach
    exact ⟨row, same.trans found, terminal⟩
  settled h := by
    obtain ⟨row, found, terminal⟩ := inv.settled h
    exact ⟨row, same.trans found, terminal⟩

/-- The row appears, in processing: no task had it, and nothing was settled. -/
theorem appear (inv : Inv job s) {reports : Reports} {i : Nat} {db db' : Bool} {q : Point}
    {row : Report} (here : s.tasks i = some ⟨.inserting, db⟩) (absent : s.row job = none)
    (found : findById reports job.reportId = some row) (status : row.status = .processing)
    (outcome : q = .settling → db' = false) :
    Inv job { s.move i q db' with reports } := by
  have nobody (j : Nat) (t : Task) (h : s.tasks j = some t) : ¬ t.point.owns := by
    intro o
    obtain ⟨row, there⟩ := inv.owner j t h o
    rw [absent] at there
    cases there
  have unsettled : ¬ Settled job s := by
    rintro ⟨row, there, -⟩
    rw [absent] at there
    cases there
  have only {j : Nat} {t : Task} (h : (s.move i q db').tasks j = some t) (o : t.point.owns) :
      j = i := by
    by_contra ne
    exact nobody j t ((of_moved h).resolve_left fun here => ne here.1).2 o
  have the {found' : Report} (h : findById reports job.reportId = some found') :
      found'.status = .processing := by
    cases found.symm.trans h
    exact status
  refine ⟨inv.fresh_move here, ?_, ?_, ?_, ?_, ?_, ?_⟩
  · intro row h pending
    rw [the h] at pending
    cases pending
  · intro j t h o
    exact ⟨row, found⟩
  · intro j t h o row h
    exact the h
  · intro j k t u ht hu ot ou
    rw [only ht ot, only hu ou]
  · intro j d waits h reach
    rcases of_moved h with ⟨rfl, same⟩ | ⟨-, h⟩
    · cases same
      rw [outcome rfl] at reach
      cases reach
    · exact absurd (inv.outcome j d waits h reach) unsettled
  · intro h
    exact absurd (inv.settled h) unsettled

/-- The task that has the row settles the report and leaves the row alone from then on. -/
theorem settle (inv : Inv job s) {reports : Reports} {i : Nat} {p q : Point} {db db' : Bool}
    {row : Report} (here : s.tasks i = some ⟨p, db⟩) (owns : p.owns)
    (found : findById reports job.reportId = some row) (terminal : row.status.terminal = true)
    (untouched : ¬ q.untouched) : Inv job { s.move i q db' with reports } := by
  have done : Settled job { s.move i q db' with reports } := ⟨row, found, terminal⟩
  have others {j : Nat} {t : Task} (ne : j ≠ i) (h : s.tasks j = some t) : ¬ t.point.owns :=
    fun o => ne (inv.unique j i t _ h here o owns)
  have only {j : Nat} {t : Task} (h : (s.move i q db').tasks j = some t) (o : t.point.owns) :
      j = i := by
    by_contra ne
    exact others ne ((of_moved h).resolve_left fun here => ne here.1).2 o
  refine ⟨inv.fresh_move here, ?_, ?_, ?_, ?_, ?_, ?_⟩
  · intro row' h pending
    cases found.symm.trans h
    rw [pending] at terminal
    cases terminal
  · intro j t h o
    exact ⟨row, found⟩
  · intro j t h o
    have same := only h (Point.owns_of_untouched o)
    subst same
    simp only [State.move, Function.update_self, Option.some.injEq] at h
    subst h
    exact absurd o untouched
  · intro j k t u ht hu ot ou
    rw [only ht ot, only hu ou]
  · intro j d waits h reach
    exact done
  · intro h
    exact done

/-! ## Steps -/

theorem init (pg : Postgres) {s : State} (start : (reportJob pg job).init s) : Inv job s := by
  obtain ⟨reports, absent, rfl⟩ := start
  have none' {row : Report} (h : findById reports job.reportId = some row) : False := by
    rw [absent] at h
    cases h
  refine ⟨?_, ?_, ?_, ?_, ?_, ?_, ?_⟩
  · intro i _
    rfl
  · intro row h
    exact (none' h).elim
  · intro i t h
    cases h
  · intro i t h
    cases h
  · intro i j t u h
    cases h
  · intro i db h
    cases h
  · intro h
    cases h

/-- A delivery starts a task under a free tag; it has not come to an end. -/
theorem deliver (inv : Inv job s) :
    Inv job { s.move s.tag .inserting true with message := .unacked s.tag, tag := s.tag + 1 } := by
  have free := inv.fresh s.tag le_rfl
  have ofOld {j : Nat} {t : Task} (h : (s.move s.tag .inserting true).tasks j = some t)
      (ne : t.point ≠ .inserting) : s.tasks j = some t := by
    rcases of_moved h with ⟨-, rfl⟩ | ⟨-, h⟩
    · exact absurd rfl ne
    · exact h
  have neOf {t : Task} (o : t.point.owns) : t.point ≠ .inserting := by
    intro h
    rw [h] at o
    exact o
  refine ⟨?_, inv.started, ?_, ?_, ?_, ?_, fun h => nomatch h⟩
  · intro j le
    have ne : j ≠ s.tag := by
      rintro rfl
      exact absurd le (Nat.not_succ_le_self _)
    show Function.update s.tasks s.tag _ j = none
    rw [Function.update_of_ne ne]
    exact inv.fresh j (Nat.le_of_succ_le le)
  · intro j t h o
    exact inv.owner j t (ofOld h (neOf o)) o
  · intro j t h o
    exact inv.untouched j t (ofOld h (neOf (Point.owns_of_untouched o))) o
  · intro j k t u ht hu ot ou
    exact inv.unique j k t u (ofOld ht (neOf ot)) (ofOld hu (neOf ou)) ot ou
  · intro j db waits h
    obtain rfl : s.tag = j := by
      injection waits
    have old := ofOld h (by simp)
    rw [free] at old
    cases old

/-- A step keeps the invariant and the status of a settled report. -/
theorem step {s s' : State} {event : Event} (inv : Inv job s) (step : Step pg job s event s')
    (orderly : Orderly pg job s event) : Inv job s' ∧ Keeps job s s' := by
  have same : Keeps job s s := fun row found _ => ⟨row, found, rfl⟩
  cases step with
  | published pending =>
      refine ⟨inv.drop rfl rfl (fun _ _ h => h) ?_ ?_, same⟩
      · intro i h
        cases h
      · intro h
        cases h
  | publishFailed enqueued pending =>
      refine ⟨?_, same⟩
      cases enqueued with
      | true =>
          refine inv.drop rfl rfl (fun _ _ h => h) ?_ ?_
          · intro i h
            cases h
          · intro h
            cases h
      | false => exact inv.drop rfl rfl (fun _ _ h => h) (fun _ h => h) inv.settled
  | deliver ready => exact ⟨inv.deliver, same⟩
  | crash =>
      refine ⟨inv.drop rfl rfl (fun _ _ h => nomatch h) ?_ ?_, same⟩
      · exact fun i h => absurd h (Message.requeued_ne_unacked i)
      · exact fun h => inv.settled (Message.requeued_settled h)
  | channelLost =>
      refine ⟨inv.drop rfl rfl (fun _ _ h => h) ?_ ?_, same⟩
      · exact fun i h => absurd h (Message.requeued_ne_unacked i)
      · exact fun h => inv.settled (Message.requeued_settled h)
  | inserted i reply db reports here applies inserted =>
      obtain ⟨absent, row, found, status⟩ := insert_eq_some inserted
      constructor
      · apply inv.appear here absent found status
        intro settling
        cases reply with
        | answered => cases settling
        | lost applied error => exact Bool.and_false _
      · intro row' there
        rw [show s.row job = none from absent] at there
        cases there
  | insertRefused i db here refused =>
      refine ⟨inv.move here id id ?_, same⟩
      intro waits _ _
      obtain ⟨fits, idle⟩ := orderly waits
      obtain ⟨row, found⟩ := insert_eq_none refused fits
      exact inv.settled_of_row found (idle row found)
  | insertLost i db error here =>
      refine ⟨inv.move here id id ?_, same⟩
      intro _ _ reach
      cases reach
  | generate i db result here =>
      refine ⟨inv.move here (fun _ => trivial) (fun _ => trivial) ?_, same⟩
      intro _ settling
      cases result <;> cases settling
  | execute i update db reply here =>
      refine ⟨inv.move here (fun _ => trivial) untouched_afterExecute ?_, same⟩
      intro _ settling reach
      rw [afterExecute_settling settling, Bool.and_false] at reach
      cases reach
  | commit i update db reply here =>
      obtain ⟨row, found⟩ := inv.owner i _ here trivial
      have updated := findById_updateStatus found update.status update.data
      have left : ¬ (afterCommit update reply).untouched := by
        cases reply with
        | answered => exact id
        | lost applied error => exact update.untouched_raised error
      by_cases applies : reply.applies = true
      · rw [if_pos applies]
        refine ⟨inv.settle here trivial updated update.terminal left, ?_⟩
        intro row' there terminal
        -- a settled row would not be in processing
        rw [orderly applies row' there] at terminal
        cases terminal
      · rw [if_neg applies]
        refine ⟨inv.move here (fun _ => trivial) (fun h => absurd h left) ?_, same⟩
        intro _ _ reach
        cases reply with
        | answered => exact absurd rfl applies
        | lost applied error =>
            rw [Reply.reachable, Bool.and_false] at reach
            cases reach
  | rollback i error db reply here =>
      refine ⟨inv.move here (fun _ => trivial) ?_ ?_, same⟩
      · intro h
        cases reply <;> exact h.elim
      · intro _ settling reach
        cases reply with
        | answered => cases settling
        | lost applied text =>
            rw [Reply.reachable, Bool.and_false] at reach
            cases reach
  | settle i db here waits =>
      refine ⟨inv.drop rfl rfl (fun _ _ => of_finished) ?_ ?_, same⟩
      · intro j h
        cases h
      · intro h
        injection h with reach
        exact inv.outcome i db waits here reach
  | unsettled i db here waits =>
      exact ⟨inv.drop rfl rfl (fun _ _ => of_finished) (fun _ h => h) inv.settled, same⟩
  | other reports unchanged =>
      refine ⟨inv.congr unchanged, ?_⟩
      intro row there _
      exact ⟨row, Eq.trans unchanged there, rfl⟩
  | poll => exact ⟨inv.drop rfl rfl (fun _ _ h => h) (fun _ h => h) inv.settled, same⟩
  | pollFailed => exact ⟨inv.drop rfl rfl (fun _ _ h => h) (fun _ h => h) inv.settled, same⟩

theorem reachable {s : State}
    (reach : ((reportJob pg job).where' (Orderly pg job)).Reachable s) : Inv job s := by
  apply reach.invariant
  · intro s start
    exact .init pg start
  · intro s event s' inv step
    exact (inv.step step.2 step.1).1

end Inv

theorem Keeps.trans {s t u : State} (first : Keeps job s t) (second : Keeps job t u) :
    Keeps job s u := by
  intro row found terminal
  obtain ⟨row', found', same⟩ := first row found terminal
  obtain ⟨row'', found'', same'⟩ := second row' found' (same ▸ terminal)
  exact ⟨row'', found'', same'.trans same⟩

/-- **A settled job has a settled report, for good**, in every run in which no awaited
delivery is refused its insert for columns that do not fit or by a row in processing, and
every update that is applied finds a row in processing. -/
theorem report_settles {s : State}
    (reach : ((reportJob pg job).where' (Orderly pg job)).Reachable s) :
    (s.message = .settled true → Settled job s) ∧
      ∀ events s', ((reportJob pg job).where' (Orderly pg job)).Run s events s' →
        Keeps job s s' := by
  refine ⟨(Inv.reachable reach).settled, ?_⟩
  intro events s' run
  apply run.respects (R := Keeps job) (fun _ row found _ => ⟨row, found, rfl⟩)
    (fun _ _ _ => Keeps.trans) reach
  intro s event t reach step
  exact ((Inv.reachable reach).step step.2 step.1).2

/-- A database that takes every document; no text reaches a uuid column here. -/
def plain : Postgres := ⟨fun _ => none, fun _ => none, fun _ => rfl⟩

def fleetJob : ReportJobMessage := ⟨1, none, "health_summary", .json⟩

/-- A delivery that ends in a completed report. -/
theorem report_settles_completed : ∃ s,
    ((reportJob plain fleetJob).where' (Orderly plain fleetJob)).Reachable s ∧
    s.message = .settled true ∧ Settled fleetJob s := by
  have initial : ((reportJob plain fleetJob).where' (Orderly plain fleetJob)).Reachable
      ⟨true, .unsent, 0, fun _ => none, Dict.empty, []⟩ := .init ⟨Dict.empty, rfl, rfl⟩
  have published := initial.guarded (Step.published _ rfl) trivial
  have delivered := published.guarded (Step.deliver _ rfl) trivial
  have inserted := delivered.guarded (Step.inserted _ 0 .answered true _ rfl rfl rfl) trivial
  have generated := inserted.guarded (Step.generate _ 0 true (.ok (.dict [])) rfl) trivial
  have executed := generated.guarded (Step.execute _ 0 _ true .answered rfl) trivial
  have committed := executed.guarded (Step.commit _ 0 _ true .answered rfl) (by
    intro _ row found
    cases found
    rfl)
  have settled := committed.guarded (Step.settle _ 0 true rfl rfl) trivial
  exact ⟨_, settled, rfl, (report_settles settled).1 rfl⟩

/-- The worker crashes after it has inserted the row.  The redelivery cannot insert it
again, is rejected, and the report stays in processing. -/
theorem stuck_in_processing : ∃ s, (reportJob plain fleetJob).Reachable s ∧
    s.message = .settled true ∧ ¬ Settled fleetJob s := by
  have initial : (reportJob plain fleetJob).Reachable
      ⟨true, .unsent, 0, fun _ => none, Dict.empty, []⟩ := .init ⟨Dict.empty, rfl, rfl⟩
  have published := initial.step (Step.published _ rfl)
  have delivered := published.step (Step.deliver _ rfl)
  have inserted := delivered.step (Step.inserted _ 0 .answered true _ rfl rfl rfl)
  have crashed := inserted.step (Step.crash _)
  have redelivered := crashed.step (Step.deliver _ rfl)
  have refused := redelivered.step (Step.insertRefused _ 1 true rfl rfl)
  have settled := refused.step (Step.settle _ 1 true rfl rfl)
  refine ⟨_, settled, rfl, ?_⟩
  rintro ⟨row, found, terminal⟩
  cases found
  cases terminal

end LocoTwin.Report
