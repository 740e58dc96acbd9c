/-
# Report.ReportWorker -- one report job, from the gateway to the database

The gateway answers with a new report id and leaves the job to a background task that
publishes it.  The broker delivers the message until a delivery is settled; each delivery
runs `process_report_job`, which inserts the row, generates the report, and records what
came of it.  Polls read the row.

A task of the worker is known by the tag of its delivery and stands at one of its awaits
(`Point`).  A task whose delivery the broker has given up goes on running, and a crash
ends every task.  Statements on the database either get an answer or lose their
connection; a commit that loses it may have been applied.

What the database makes of a text bound to a uuid column and of a JSON document is the
parameter `Postgres`.  Rows of other reports change in any way (`Step.other`): every
statement here selects by the id of the job.
-/
import LocoTwin.Lib.Dict
import LocoTwin.Lib.Transition
import LocoTwin.Shared.Wire
import Mathlib.Logic.Function.Basic

namespace LocoTwin.Report

open LocoTwin.Lib LocoTwin.Shared

set_option autoImplicit false
set_option linter.dupNamespace false

/-! ## Schemas -/

inductive ReportFormat where
  | json | csv | pdf
  deriving DecidableEq, Repr

def ReportFormat.str : ReportFormat → String
  | .json => "json"
  | .csv => "csv"
  | .pdf => "pdf"

inductive ReportStatus where
  | pending | processing | completed | failed
  deriving DecidableEq, Repr

namespace ReportStatus

/-- A report in this status is never worked on again. -/
def terminal : ReportStatus → Bool
  | .completed | .failed => true
  | .pending | .processing => false

/-- `pending < processing < {completed, failed}` -/
def rank : ReportStatus → Nat
  | .pending => 0
  | .processing => 1
  | .completed | .failed => 2

end ReportStatus

/-- The fields of the job that reach the row; its date range only reaches
`generate_report_data`. -/
structure ReportJobMessage where
  reportId : UUID
  locomotiveId : Option String
  reportType : String
  format : ReportFormat
  deriving DecidableEq, Repr

/-! ## The table `generated_reports` -/

structure Report where
  id : UUID
  locomotiveId : Option UUID
  reportType : String
  format : String
  status : ReportStatus
  data : PyVal
  deriving DecidableEq

abbrev Reports := Dict UUID Report

/-- `{"error": str(exc)}` -/
def errorData (error : String) : PyVal := .dict [("error", .str error)]

structure Postgres where
  /-- The uuid a text denotes, where it denotes one. -/
  uuid : String → Option UUID
  /-- Refused as JSON, with the text of the exception. -/
  refuses : PyVal → Option String
  refuses_error : ∀ error, refuses (errorData error) = none

def uuidColumn (pg : Postgres) : Option String → Option (Option UUID)
  | none => some none
  | some text => (pg.uuid text).map some

/-- `String(limit)`: that many characters at most, and no NUL. -/
def stringColumn (limit : Nat) (text : String) : Option String :=
  if text.length ≤ limit ∧ Char.ofNat 0 ∉ text.toList then some text else none

/-- The new row, `none` where a column refuses its value. -/
def columns (pg : Postgres) (job : ReportJobMessage) : Option Report := do
  let locomotiveId ← uuidColumn pg job.locomotiveId
  let reportType ← stringColumn 50 job.reportType
  let format ← stringColumn 20 job.format.str
  return {
    id := job.reportId, locomotiveId, reportType, format, status := .processing,
    data := .dict [] }

/-- `session.add(entity)` and its commit, `none` for the exceptions of a column or of the
primary key. -/
def insert (pg : Postgres) (job : ReportJobMessage) (reports : Reports) : Option Reports :=
  match columns pg job, reports.get? job.reportId with
  | some row, none => some (reports.set job.reportId row)
  | _, _ => none

def findById (reports : Reports) (reportId : UUID) : Option Report := reports.get? reportId

def updateStatus (reports : Reports) (reportId : UUID) (status : ReportStatus) (data : PyVal) :
    Reports :=
  match reports.get? reportId with
  | some row => reports.set reportId { row with status, data }
  | none => reports

theorem columns_status {pg : Postgres} {job : ReportJobMessage} {row : Report}
    (h : columns pg job = some row) : row.status = .processing := by
  simp only [columns, Option.bind_eq_bind, Option.bind_eq_some_iff, Option.pure_def,
    Option.some.injEq] at h
  obtain ⟨_, _, _, _, _, _, rfl⟩ := h
  rfl

/-- An insert that succeeds finds no row and leaves one in processing. -/
theorem insert_eq_some {pg : Postgres} {job : ReportJobMessage} {reports reports' : Reports}
    (h : insert pg job reports = some reports') :
    findById reports job.reportId = none ∧
      ∃ row, findById reports' job.reportId = some row ∧ row.status = .processing := by
  unfold insert at h
  split at h
  case h_1 row found absent =>
    cases h
    exact ⟨absent, row, Dict.get?_set_self .., columns_status found⟩
  case h_2 => cases h

/-- An insert that fails on a job whose columns fit has found a row. -/
theorem insert_eq_none {pg : Postgres} {job : ReportJobMessage} {reports : Reports}
    (h : insert pg job reports = none) (fits : (columns pg job).isSome) :
    ∃ row, findById reports job.reportId = some row := by
  obtain ⟨row, found⟩ := Option.isSome_iff_exists.mp fits
  unfold insert at h
  cases present : reports.get? job.reportId with
  | none => simp [found, present] at h
  | some old => exact ⟨old, present⟩

theorem findById_updateStatus {reports : Reports} {reportId : UUID} {row : Report}
    (found : findById reports reportId = some row) (status : ReportStatus) (data : PyVal) :
    findById (updateStatus reports reportId status data) reportId =
      some { row with status, data } := by
  have stored : reports.get? reportId = some row := found
  simp [findById, updateStatus, stored]

/-! ## The worker -/

/-- What `update_status` is called with: in the body of the `try`, or in its handler. -/
inductive Update where
  | completed (formatted : PyVal)
  | failed (error : String)
  deriving DecidableEq

namespace Update

def status : Update → ReportStatus
  | .completed _ => .completed
  | .failed _ => .failed

def data : Update → PyVal
  | .completed formatted => formatted
  | .failed error => errorData error

theorem terminal (u : Update) : u.status.terminal = true := by cases u <;> rfl

end Update

/-- The await a task is at. -/
inductive Point where
  /-- The commit of the new row. -/
  | inserting
  /-- `generate_report_data`; `format_report` follows without an await. -/
  | generating
  /-- The statement of `update_status`. -/
  | executing (update : Update)
  /-- The commit of `update_status`. -/
  | committing (update : Update)
  /-- `session.rollback()` in the handler. -/
  | rollingBack (error : String)
  /-- The message is acked on a normal exit, and rejected on an exception. -/
  | settling
  deriving DecidableEq

/-- An exception leaves the `try` for its handler, and the handler for the message. -/
def Update.raised (error : String) : Update → Point
  | .completed _ => .rollingBack error
  | .failed _ => .settling

structure Task where
  point : Point
  /-- The database has answered every statement of this delivery. -/
  reachable : Bool
  deriving DecidableEq

/-- What an await on the database brings. -/
inductive Reply where
  | answered
  | lost (applied : Bool) (error : String)
  deriving DecidableEq

namespace Reply

def applies : Reply → Bool
  | .answered => true
  | .lost applied _ => applied

def reachable : Reply → Bool
  | .answered => true
  | .lost _ _ => false

end Reply

/-- Where an update goes after its statement. -/
def afterExecute (pg : Postgres) (update : Update) : Reply → Point
  | .answered =>
      match pg.refuses update.data with
      | some error => update.raised error
      | none => .committing update
  | .lost _ error => update.raised error

def afterCommit (update : Update) : Reply → Point
  | .answered => .settling
  | .lost _ error => update.raised error

def afterRollback (error : String) : Reply → Point
  | .answered => .executing (.failed error)
  | .lost _ _ => .settling

/-- `generate_report_data`, then `format_report`. -/
def afterGenerate : Except String PyVal → Point
  | .ok formatted => .executing (.completed formatted)
  | .error error => .rollingBack error

/-! ## The servicer -/

/-- What `get_report` of the gateway answers. -/
inductive Answer where
  | notFound
  /-- The database or the service did not answer. -/
  | unavailable
  | found (status : ReportStatus) (data : Option PyVal)
  deriving DecidableEq

/-- `GetReport`, and `get_report` of the gateway over it: data only with a completed
report. -/
def getReport (reports : Reports) (reportId : UUID) : Answer :=
  match findById reports reportId with
  | none => .notFound
  | some row =>
      .found row.status
        (if row.status = .completed ∧ row.data.truthy then some row.data else none)

/-! ## The parties together -/

inductive Message where
  | unsent
  | ready
  | unacked (tag : Nat)
  /-- `reachable`: the database answered throughout the delivery that was settled. -/
  | settled (reachable : Bool)
  deriving DecidableEq

/-- The broker gives up the delivery it waits for. -/
def Message.requeued : Message → Message
  | .unacked _ => .ready
  | m => m

structure State where
  /-- The background task of the gateway has not finished. -/
  publishing : Bool
  message : Message
  /-- The tag of the next delivery. -/
  tag : Nat
  tasks : Nat → Option Task
  reports : Reports
  /-- The answers to the polls so far. -/
  answers : List Answer

namespace State

def row (s : State) (job : ReportJobMessage) : Option Report := findById s.reports job.reportId

/-- Task `i` goes to `point`, after a reply of the database. -/
def move (s : State) (i : Nat) (point : Point) (reachable : Bool) : State :=
  { s with tasks := Function.update s.tasks i (some ⟨point, reachable⟩) }

end State

inductive Event where
  | published
  | publishFailed (enqueued : Bool)
  | deliver
  | crash
  /-- The broker loses the channel of the worker, the worker lives on. -/
  | channelLost
  /-- The commit of the new row is applied. -/
  | inserted (i : Nat) (reply : Reply)
  | insertRefused (i : Nat)
  | insertLost (i : Nat) (error : String)
  | generate (i : Nat) (result : Except String PyVal)
  | execute (i : Nat) (reply : Reply)
  | commit (i : Nat) (reply : Reply)
  | rollback (i : Nat) (reply : Reply)
  | settle (i : Nat)
  /-- The channel of the delivery is gone, so the task cannot settle it. -/
  | unsettled (i : Nat)
  | other
  | poll
  | pollFailed

inductive Step (pg : Postgres) (job : ReportJobMessage) : State → Event → State → Prop where
  | published (s : State) : s.publishing = true →
      Step pg job s .published { s with publishing := false, message := .ready }
  /-- The exception is logged and swallowed. -/
  | publishFailed (s : State) (enqueued : Bool) : s.publishing = true →
      Step pg job s (.publishFailed enqueued)
        { s with publishing := false, message := if enqueued then .ready else s.message }
  | deliver (s : State) : s.message = .ready →
      Step pg job s .deliver
        { s.move s.tag .inserting true with message := .unacked s.tag, tag := s.tag + 1 }
  | crash (s : State) :
      Step pg job s .crash { s with tasks := fun _ => none, message := s.message.requeued }
  | channelLost (s : State) :
      Step pg job s .channelLost { s with message := s.message.requeued }
  | inserted (s : State) (i : Nat) (reply : Reply) (db : Bool) (reports : Reports) :
      s.tasks i = some ⟨.inserting, db⟩ → reply.applies = true →
      insert pg job s.reports = some reports →
      Step pg job s (.inserted i reply)
        { s.move i (if reply.reachable then .generating else .settling) (db && reply.reachable) with
          reports }
  /-- Not in the `try`: the exception reaches the message. -/
  | insertRefused (s : State) (i : Nat) (db : Bool) :
      s.tasks i = some ⟨.inserting, db⟩ → insert pg job s.reports = none →
      Step pg job s (.insertRefused i) (s.move i .settling db)
  | insertLost (s : State) (i : Nat) (db : Bool) (error : String) :
      s.tasks i = some ⟨.inserting, db⟩ →
      Step pg job s (.insertLost i error) (s.move i .settling false)
  | generate (s : State) (i : Nat) (db : Bool) (result : Except String PyVal) :
      s.tasks i = some ⟨.generating, db⟩ →
      Step pg job s (.generate i result) (s.move i (afterGenerate result) db)
  | execute (s : State) (i : Nat) (update : Update) (db : Bool) (reply : Reply) :
      s.tasks i = some ⟨.executing update, db⟩ →
      Step pg job s (.execute i reply)
        (s.move i (afterExecute pg update reply) (db && reply.reachable))
  | commit (s : State) (i : Nat) (update : Update) (db : Bool) (reply : Reply) :
      s.tasks i = some ⟨.committing update, db⟩ →
      Step pg job s (.commit i reply)
        { s.move i (afterCommit update reply) (db && reply.reachable) with
          reports :=
            if reply.applies then updateStatus s.reports job.reportId update.status update.data
            else s.reports }
  | rollback (s : State) (i : Nat) (error : String) (db : Bool) (reply : Reply) :
      s.tasks i = some ⟨.rollingBack error, db⟩ →
      Step pg job s (.rollback i reply)
        (s.move i (afterRollback error reply) (db && reply.reachable))
  | settle (s : State) (i : Nat) (db : Bool) :
      s.tasks i = some ⟨.settling, db⟩ → s.message = .unacked i →
      Step pg job s (.settle i)
        { s with tasks := Function.update s.tasks i none, message := .settled db }
  | unsettled (s : State) (i : Nat) (db : Bool) :
      s.tasks i = some ⟨.settling, db⟩ → s.message ≠ .unacked i →
      Step pg job s (.unsettled i) { s with tasks := Function.update s.tasks i none }
  | other (s : State) (reports : Reports) :
      findById reports job.reportId = s.row job → Step pg job s .other { s with reports }
  | poll (s : State) :
      Step pg job s .poll { s with answers := s.answers ++ [getReport s.reports job.reportId] }
  | pollFailed (s : State) :
      Step pg job s .pollFailed { s with answers := s.answers ++ [.unavailable] }

/-- After `create_report_job` has answered with a fresh id. -/
def reportJob (pg : Postgres) (job : ReportJobMessage) : System State Event where
  init s := ∃ reports : Reports, findById reports job.reportId = none ∧
    s = ⟨true, .unsent, 0, fun _ => none, reports, []⟩
  step := Step pg job

end LocoTwin.Report
