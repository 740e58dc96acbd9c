/-
# Report.Polling -- what successive polls of a report see

`create_report_job` answers PENDING and stores nothing: the row a poll reads is the one
the worker inserts.  From then on its status only goes forward.

* `polls_forward_iff`: no poll answers NOT_FOUND, and the statuses never go backwards,
  exactly in the runs in which every answered poll comes after the insert of the worker;
* `pending_not_found`: the publication fails, and the report that was answered PENDING is
  never found.
-/
import LocoTwin.Report.Settlement

namespace LocoTwin.Report

open LocoTwin.Lib LocoTwin.Shared

set_option autoImplicit false

variable {pg : Postgres} {job : ReportJobMessage}

/-- The statuses among the answers. -/
def statuses (answers : List Answer) : List ReportStatus :=
  answers.filterMap fun answer =>
    match answer with
    | .found status _ => some status
    | _ => none

@[simp] theorem statuses_append (answers answers' : List Answer) :
    statuses (answers ++ answers') = statuses answers ++ statuses answers' :=
  List.filterMap_append

/-- No poll has answered NOT_FOUND, and the statuses since PENDING go forward. -/
def PollsForward (s : State) : Prop :=
  .notFound ∉ s.answers ∧
    (.pending :: statuses s.answers).Pairwise fun st st' : ReportStatus => st.rank ≤ st'.rank

/-- The worker has inserted the row. -/
def Inserted (events : List Event) : Prop := ∃ i reply, .inserted i reply ∈ events

/-- Every answered poll comes after the insert. -/
def PolledLate (events : List Event) : Prop :=
  ∀ before after, events = before ++ .poll :: after → Inserted before

/-! ## What a step does to the row and to the answers -/

theorem Step.row_cases {s s' : State} {event : Event} (step : Step pg job s event s') :
    (s'.row job = s.row job ∧ ∀ i reply, event ≠ .inserted i reply) ∨
    (s.row job = none ∧ (∃ row, s'.row job = some row) ∧
      ∃ i reply, event = .inserted i reply) ∨
    (∃ row row', s.row job = some row ∧ s'.row job = some row' ∧
      row'.status.terminal = true ∧ ∀ i reply, event ≠ .inserted i reply) := by
  cases step with
  | inserted i reply db reports here applies inserted =>
      obtain ⟨absent, row, found, -⟩ := insert_eq_some inserted
      exact .inr (.inl ⟨absent, ⟨row, found⟩, i, reply, rfl⟩)
  | commit i update db reply here =>
      cases found : s.row job with
      | none =>
          -- no row, so nothing to update
          have absent : s.reports.get? job.reportId = none := found
          refine .inl ⟨?_, fun i reply h => by cases h⟩
          by_cases applies : reply.applies = true
          · simp [State.row, applies, updateStatus, absent, findById]
          · simpa [State.row, applies] using found
      | some row =>
          by_cases applies : reply.applies = true
          · refine .inr (.inr ⟨row, { row with status := update.status, data := update.data },
              rfl, ?_, update.terminal, fun i reply h => by cases h⟩)
            simp only [State.row, applies, if_true]
            exact findById_updateStatus found _ _
          · refine .inl ⟨?_, fun i reply h => by cases h⟩
            simpa [State.row, applies] using found
  | other reports same => exact .inl ⟨same, fun i reply h => by cases h⟩
  | _ => exact .inl ⟨rfl, fun i reply h => by cases h⟩

theorem Step.answers_cases {s s' : State} {event : Event} (step : Step pg job s event s') :
    (s'.answers = s.answers ∧ event ≠ .poll) ∨
    (s'.answers = s.answers ++ [.unavailable] ∧ event ≠ .poll) ∨
    (s'.answers = s.answers ++ [getReport s.reports job.reportId] ∧ event = .poll) := by
  cases step with
  | poll => exact .inr (.inr ⟨rfl, rfl⟩)
  | pollFailed => exact .inr (.inl ⟨rfl, fun h => by cases h⟩)
  | _ => exact .inl ⟨rfl, fun h => by cases h⟩

/-- The row stays, and its status goes forward. -/
theorem Step.forward {s s' : State} {event : Event} (step : Step pg job s event s')
    {row : Report} (found : s.row job = some row) :
    ∃ row', s'.row job = some row' ∧ row.status.rank ≤ row'.status.rank := by
  rcases step.row_cases with ⟨same, -⟩ | ⟨absent, -⟩ | ⟨old, new, there, stored, terminal, -⟩
  · exact ⟨row, same.trans found, le_rfl⟩
  · rw [found] at absent
    cases absent
  · refine ⟨new, stored, ?_⟩
    cases status : new.status with
    | pending => rw [status] at terminal; cases terminal
    | processing => rw [status] at terminal; cases terminal
    | completed => cases row.status <;> decide
    | failed => cases row.status <;> decide

/-! ## Runs -/

theorem inserted_append {events : List Event} {event : Event} :
    Inserted (events ++ [event]) ↔ Inserted events ∨ ∃ i reply, event = .inserted i reply := by
  constructor
  · rintro ⟨i, reply, mem⟩
    rcases List.mem_append.mp mem with mem | mem
    · exact .inl ⟨i, reply, mem⟩
    · exact .inr ⟨i, reply, (List.mem_singleton.mp mem).symm⟩
  · rintro (⟨i, reply, mem⟩ | ⟨i, reply, rfl⟩)
    · exact ⟨i, reply, List.mem_append_left _ mem⟩
    · exact ⟨i, reply, by simp⟩

theorem polledLate_append {events : List Event} {event : Event} :
    PolledLate (events ++ [event]) ↔
      PolledLate events ∧ (event = .poll → Inserted events) := by
  constructor
  · intro late
    refine ⟨?_, ?_⟩
    · intro before after same
      exact late before (after ++ [event]) (by simp [same])
    · rintro rfl
      exact late events [] rfl
  · rintro ⟨late, last⟩ before after same
    rcases List.eq_nil_or_concat after with rfl | ⟨after, last', rfl⟩
    · obtain ⟨rfl, tail⟩ := List.append_inj' same rfl
      exact last (List.cons.inj tail).1
    · have split : events ++ [event] = (before ++ .poll :: after) ++ [last'] := by simp [same]
      exact late before after (List.append_inj' split rfl).1

/-- What holds after every run from the PENDING answer. -/
structure Seen (job : ReportJobMessage) (events : List Event) (s : State) : Prop where
  row : Inserted events ↔ ∃ row, s.row job = some row
  late : .notFound ∉ s.answers ↔ PolledLate events
  forward : (statuses s.answers).Pairwise fun st st' => st.rank ≤ st'.rank
  behind : ∀ st ∈ statuses s.answers, ∃ row, s.row job = some row ∧ st.rank ≤ row.status.rank

namespace Seen

variable {s s' : State} {events : List Event} {event : Event}

theorem row_step (seen : Seen job events s) (step : Step pg job s event s') :
    Inserted (events ++ [event]) ↔ ∃ row, s'.row job = some row := by
  rw [inserted_append, seen.row]
  rcases step.row_cases with ⟨same, other⟩ | ⟨absent, created, inserted⟩ |
    ⟨row, row', found, found', -, other⟩
  · rw [same, or_iff_left]
    rintro ⟨i, reply, rfl⟩
    exact other i reply rfl
  · exact ⟨fun _ => created, fun _ => .inr inserted⟩
  · exact ⟨fun _ => ⟨row', found'⟩, fun _ => .inl ⟨row, found⟩⟩

theorem behind_step (seen : Seen job events s) (step : Step pg job s event s') :
    ∀ st ∈ statuses s.answers, ∃ row, s'.row job = some row ∧ st.rank ≤ row.status.rank := by
  intro st mem
  obtain ⟨row, found, le⟩ := seen.behind st mem
  obtain ⟨row', found', le'⟩ := step.forward found
  exact ⟨row', found', le.trans le'⟩

/-- A step that is no answered poll. -/
theorem quiet (seen : Seen job events s) (step : Step pg job s event s')
    (extra : List Answer) (answers : s'.answers = s.answers ++ extra)
    (none' : statuses extra = []) (found : .notFound ∉ extra) (other : event ≠ .poll) :
    Seen job (events ++ [event]) s' := by
  have same : statuses s'.answers = statuses s.answers := by
    rw [answers, statuses_append, none', List.append_nil]
  refine ⟨seen.row_step step, ?_, ?_, ?_⟩
  · rw [polledLate_append, ← seen.late, answers, List.mem_append, not_or]
    exact ⟨fun h => ⟨h.1, fun h => absurd h other⟩, fun h => ⟨h.1, found⟩⟩
  · rw [same]
    exact seen.forward
  · rw [same]
    exact seen.behind_step step

theorem polled (seen : Seen job events s) (step : Step pg job s .poll s')
    (answers : s'.answers = s.answers ++ [getReport s.reports job.reportId]) :
    Seen job (events ++ [.poll]) s' := by
  have rowStep := seen.row_step step
  cases found : s.row job with
  | none =>
      -- the poll finds no row, and none has been inserted
      have answer : getReport s.reports job.reportId = .notFound := by
        rw [getReport, show findById s.reports job.reportId = none from found]
      have missing : ¬ Inserted events := by
        rw [seen.row, found]
        rintro ⟨row, h⟩
        cases h
      have same : statuses s'.answers = statuses s.answers := by
        rw [answers, statuses_append, answer]
        exact List.append_nil _
      refine ⟨rowStep, ?_, ?_, ?_⟩
      · rw [polledLate_append, answers, answer]
        constructor
        · intro h
          simp at h
        · intro h
          exact absurd (h.2 rfl) missing
      · rw [same]
        exact seen.forward
      · rw [same]
        exact seen.behind_step step
  | some row =>
      obtain ⟨data, answer⟩ : ∃ data, getReport s.reports job.reportId =
          .found row.status data := by
        rw [getReport, show findById s.reports job.reportId = some row from found]
        exact ⟨_, rfl⟩
      have inserted : Inserted events := seen.row.mpr ⟨row, found⟩
      have grown : statuses s'.answers = statuses s.answers ++ [row.status] := by
        rw [answers, statuses_append, answer]
        rfl
      refine ⟨rowStep, ?_, ?_, ?_⟩
      · rw [polledLate_append, ← seen.late, answers, answer]
        simp [inserted]
      · rw [grown, List.pairwise_append]
        refine ⟨seen.forward, List.pairwise_singleton _ _, ?_⟩
        intro st mem st' mem'
        obtain ⟨row', found', le⟩ := seen.behind st mem
        cases found.symm.trans found'
        rwa [List.mem_singleton.mp mem']
      · rw [grown]
        intro st mem
        rcases List.mem_append.mp mem with mem | mem
        · exact seen.behind_step step st mem
        · obtain ⟨row', found', le⟩ := step.forward found
          exact ⟨row', found', List.mem_singleton.mp mem ▸ le⟩

theorem run {s₀ s : State} {events : List Event} (start : (reportJob pg job).init s₀)
    (run : (reportJob pg job).Run s₀ events s) : Seen job events s := by
  induction run with
  | nil =>
      obtain ⟨reports, absent, rfl⟩ := start
      refine ⟨?_, ?_, List.Pairwise.nil, ?_⟩
      · have none' : State.row ⟨true, .unsent, 0, fun _ => none, reports, []⟩ job = none := absent
        rw [none']
        constructor
        · rintro ⟨i, reply, mem⟩
          cases mem
        · rintro ⟨row, h⟩
          cases h
      · constructor
        · intro _ before after h
          simp at h
        · intro _ h
          cases h
      · intro st mem
        cases mem
  | snoc _ step seen =>
      rcases step.answers_cases with ⟨same, other⟩ | ⟨same, other⟩ | ⟨same, rfl⟩
      · exact seen.quiet step [] (by simpa using same) rfl (by simp) other
      · exact seen.quiet step _ same rfl (by simp) other
      · exact seen.polled step same

end Seen

/-- **Polls go forward from PENDING and find the report exactly when each comes after the
insert of the worker**, in every run of the gateway, the broker, the worker and the polls. -/
theorem polls_forward_iff {s₀ s : State} {events : List Event}
    (start : (reportJob pg job).init s₀) (run : (reportJob pg job).Run s₀ events s) :
    PollsForward s ↔ PolledLate events := by
  have seen := Seen.run start run
  rw [PollsForward, seen.late, List.pairwise_cons]
  refine and_iff_left ⟨?_, seen.forward⟩
  intro st _
  exact Nat.zero_le _

/-- The row is polled while the worker has it, and again when the report is completed. -/
theorem polls_forward_completed : ∃ s₀ s events,
    (reportJob plain fleetJob).init s₀ ∧ (reportJob plain fleetJob).Run s₀ events s ∧
    statuses s.answers = [.processing, .completed] ∧ PollsForward s := by
  have start : (reportJob plain fleetJob).init
      ⟨true, .unsent, 0, fun _ => none, Dict.empty, []⟩ := ⟨Dict.empty, rfl, rfl⟩
  have none' : (reportJob plain fleetJob).Run
      ⟨true, .unsent, 0, fun _ => none, Dict.empty, []⟩ [] _ := .nil _
  have published := none'.snoc (Step.published _ rfl)
  have delivered := published.snoc (Step.deliver _ rfl)
  have inserted := delivered.snoc (Step.inserted _ 0 .answered true _ rfl rfl rfl)
  have polled := inserted.snoc (Step.poll _)
  have generated := polled.snoc (Step.generate _ 0 true (.ok (.dict [])) rfl)
  have executed := generated.snoc (Step.execute _ 0 _ true .answered rfl)
  have committed := executed.snoc (Step.commit _ 0 _ true .answered rfl)
  have again := committed.snoc (Step.poll _)
  refine ⟨_, _, _, start, again, rfl, (polls_forward_iff start again).mpr ?_⟩
  rw [polledLate_append]
  refine ⟨?_, fun _ => ⟨0, .answered, by simp⟩⟩
  iterate 3 rw [polledLate_append, and_iff_left (by simp)]
  rw [polledLate_append]
  refine ⟨?_, fun _ => ⟨0, .answered, by simp⟩⟩
  iterate 3 rw [polledLate_append, and_iff_left (by simp)]
  intro before after h
  simp at h

/-- The publication fails, which is only logged: the report that was answered PENDING is
polled and not found. -/
theorem pending_not_found : ∃ s₀ s events,
    (reportJob plain fleetJob).init s₀ ∧ (reportJob plain fleetJob).Run s₀ events s ∧
    ¬ PollsForward s := by
  have start : (reportJob plain fleetJob).init
      ⟨true, .unsent, 0, fun _ => none, Dict.empty, []⟩ := ⟨Dict.empty, rfl, rfl⟩
  have none' : (reportJob plain fleetJob).Run
      ⟨true, .unsent, 0, fun _ => none, Dict.empty, []⟩ [] _ := .nil _
  have failed := none'.snoc (Step.publishFailed _ false rfl)
  have polled := failed.snoc (Step.poll _)
  exact ⟨_, _, _, start, polled, fun forward => forward.1 (List.mem_singleton.mpr rfl)⟩

end LocoTwin.Report
