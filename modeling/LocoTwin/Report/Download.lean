/-
# Report.Download -- the file a user gets

The worker formats a report once and stores what it formatted; `DownloadReport` makes a file
of the row.  A CSV report is stored as a list of rows with one set of columns, which the
servicer writes through `csv.DictWriter`.

* `formattedJob`: the job, in which what `generate_report_data` returns goes through
  `format_report`;
* `Produced`: a run generates the report once at most, and a completed row holds what that
  generation formatted;
* **`csv_download`**: the report is generated once at most, and in every reachable state a
  download is refused, or its file, read as comma-separated text, is the columns and one line
  for each sensor, alert and locomotive of the report: whatever texts its messages have, and
  the same at every download.

The formatters of the other two formats, `str` of a number, `json.dumps` and
`base64.b64decode` are parameters.
-/
import LocoTwin.Lib.Csv
import LocoTwin.Report.FleetReport
import LocoTwin.Report.Settlement

namespace LocoTwin.Report

open LocoTwin.Lib LocoTwin.Shared
open Fleet (SensorStat WorstLocomotive FleetStats)

set_option autoImplicit false

/-! ## Formatting -/

/-- An alert of a report, in the fields that reach the file. -/
structure ReportAlert where
  sensorType : String
  severity : String
  message : String
  timestamp : String
  deriving DecidableEq

/-- What `generate_report_data` returns. -/
structure ReportData where
  sensorStats : List SensorStat
  alerts : List ReportAlert
  /-- `health_overview`, of which the next two are entries. -/
  overview : List (String × PyVal)
  worstLocomotives : List WorstLocomotive
  fleetStats : Option FleetStats
  /-- The entries that `_format_csv` does not read. -/
  rest : List (String × PyVal)

def csvColumns : List String :=
  ["section", "sensor_type", "unit", "avg", "min", "max", "stddev", "samples", "severity",
    "message", "timestamp", "locomotive_id", "avg_score"]

def statCells (stat : SensorStat) : List PyVal :=
  [.str "sensor_stats", .str stat.sensorType, .str stat.unit, .float stat.avg, .float stat.min,
    .float stat.max, .float stat.stddev, .int stat.samples, .str "", .str "", .str "", .str "",
    .str ""]

def alertCells (alert : ReportAlert) : List PyVal :=
  [.str "alert", .str alert.sensorType, .str "", .str "", .str "", .str "", .str "", .str "",
    .str alert.severity, .str alert.message, .str alert.timestamp, .str "", .str ""]

def worstCells (loco : WorstLocomotive) : List PyVal :=
  [.str "worst_locomotive", .str "", .str "", .str "", .float loco.minScore,
    .float loco.maxScore, .str "", .str "", .str "", .str loco.locomotiveType, .str "",
    .str loco.locomotiveId, .float loco.avgScore]

/-- The cells of the rows. -/
def cells (data : ReportData) : List (List PyVal) :=
  data.sensorStats.map statCells ++ data.alerts.map alertCells ++
    data.worstLocomotives.map worstCells

/-- `dict(overview)` with the counts of the fleet. -/
def csvSummary (data : ReportData) : List (String × PyVal) :=
  match data.fleetStats with
  | none => data.overview
  | some stats =>
      [("fleet_total", PyVal.int stats.totalLocomotives),
        ("fleet_healthy", .int stats.healthyCount), ("fleet_warning", .int stats.warningCount),
        ("fleet_critical", .int stats.criticalCount)].foldl
          (fun summary e => Entries.put e.1 e.2 summary) data.overview

/-- `_format_csv` of the worker -/
def formatCsv (data : ReportData) : PyVal :=
  .dict [("rows", .list ((cells data).map fun row => .dict (csvColumns.zip row))),
    ("summary", .dict (csvSummary data))]

/-- The formatters of the other formats; an exception is known by its text. -/
structure Formatters where
  json : ReportData → Except String PyVal
  pdf : ReportData → ReportJobMessage → Except String PyVal

/-- `format_report`; its last `return` is for what is no `ReportFormat`. -/
def formatReport (formatters : Formatters) (data : ReportData) (fmt : ReportFormat)
    (job : ReportJobMessage) : Except String PyVal :=
  match fmt with
  | .json => formatters.json data
  | .csv => .ok (formatCsv data)
  | .pdf => formatters.pdf data job

/-- The body of the `try` up to `update_status`, by what `generate_report_data` brings. -/
def formatted (formatters : Formatters) (job : ReportJobMessage)
    (data : Except String ReportData) : Except String PyVal :=
  data.bind fun data => formatReport formatters data job.format job

/-- The result of the body is that of `format_report` on some data, or an exception. -/
def Formats (formatters : Formatters) (job : ReportJobMessage) (_ : State) : Event → Prop
  | .generate _ result => ∃ data, result = formatted formatters job data
  | _ => True

/-- The job of `reportJob`, with the `format_report` of the worker. -/
def formattedJob (pg : Postgres) (formatters : Formatters) (job : ReportJobMessage) :
    System State Event :=
  (reportJob pg job).where' (Formats formatters job)

/-! ## The servicer -/

structure Texts where
  /-- `str(value)`, of what is neither a text nor None. -/
  str : PyVal → String
  /-- `json.dumps(data, indent=2, default=str)` -/
  dumps : PyVal → String
  b64decode : String → Option (List UInt8)

/-- What the csv writer makes of a value. -/
def Texts.cell (texts : Texts) : PyVal → List Char
  | .str s => s.toList
  | .none => []
  | v => (texts.str v).toList

/-- A dictionary of the rows; `keys` of anything else raises. -/
def entriesOf : PyVal → Option (List (String × PyVal))
  | .dict entries => some entries
  | _ => none

/-- `DictWriter.writerow`, `none` for the ValueError of a key that is no field name. -/
def dictRow (fieldnames : List String) (row : List (String × PyVal)) : Option (List PyVal) :=
  if row.all fun e => fieldnames.contains e.1 then
    some (fieldnames.map fun name => (row.lookup name).getD (.str ""))
  else none

/-- `DictWriter`, with the keys of the first row: its header and its rows. -/
def dictWriter (texts : Texts) (rows : List PyVal) : Option String := do
  let entries ← rows.mapM entriesOf
  match entries with
  | [] => some ""
  | first :: _ =>
      let fieldnames := first.map Prod.fst
      let written ← entries.mapM (dictRow fieldnames)
      some (String.ofList (Csv.write
        (fieldnames.map String.toList :: written.map fun row => row.map texts.cell)))

/-- `_format_csv` of the servicer, before the text is encoded. -/
def formatCsvText (texts : Texts) (data : PyVal) : Option String :=
  match data with
  | .dict entries =>
      match entries.lookup "rows" with
      | some (.list rows) => dictWriter texts rows
      | some rows => if rows.truthy then none else some ""
      | none => some (texts.dumps data)
  | _ => some (texts.dumps data)

inductive Content where
  /-- `encode("utf-8")` of a text. -/
  | utf8 (text : String)
  | bytes (content : List UInt8)
  deriving DecidableEq

inductive Download where
  | notFound (details : String)
  | failedPrecondition (details : String)
  | invalidArgument (details : String)
  | raised
  | sent (format filename contentType : String) (content : Content)
  deriving DecidableEq

def ReportStatus.str : ReportStatus → String
  | .pending => "pending"
  | .processing => "processing"
  | .completed => "completed"
  | .failed => "failed"

/-- The file of a completed report. -/
def fileOf (texts : Texts) (row : Report) : Download :=
  let reportId := row.id.str
  if row.format = "csv" then
    match formatCsvText texts row.data with
    | some text => .sent row.format ("report_" ++ reportId ++ ".csv") "text/csv" (.utf8 text)
    | none => .raised
  else if row.format = "json" then
    .sent row.format ("report_" ++ reportId ++ ".json") "application/json"
      (.utf8 (texts.dumps row.data))
  else if row.format = "pdf" then
    match row.data.get "pdf_base64" with
    | .ok (.str encoded) =>
        if encoded = "" then .notFound "PDF data not available"
        else
          match texts.b64decode encoded with
          | some content =>
              .sent row.format ("report_" ++ reportId ++ ".pdf") "application/pdf" (.bytes content)
          | none => .raised
    | .ok value => if value.truthy then .raised else .notFound "PDF data not available"
    | .error _ => .raised
  else .invalidArgument ("Unsupported format: " ++ row.format)

/-- `DownloadReport` -/
def downloadReport (texts : Texts) (reports : Reports) (reportId : UUID) : Download :=
  match findById reports reportId with
  | none => .notFound ("Report " ++ reportId.str ++ " not found")
  | some row =>
      if row.status ≠ .completed then
        .failedPrecondition ("Report is not ready yet (status: " ++ row.status.str ++ ")")
      else if row.data.truthy then fileOf texts row
      else .notFound "Report has no data"

/-! ## A run generates once -/

variable {pg : Postgres} {job : ReportJobMessage}

/-- The results of `generate_report_data` and `format_report` in a run. -/
def generated (events : List Event) : List (Except String PyVal) :=
  events.filterMap fun event =>
    match event with
    | .generate _ result => some result
    | _ => none

@[simp] theorem generated_append (events events' : List Event) :
    generated (events ++ events') = generated events ++ generated events' :=
  List.filterMap_append

/-- What a task knows of the results. -/
def Point.Holds (results : List (Except String PyVal)) : Point → Prop
  | .generating => results = []
  | .executing (.completed formatted) | .committing (.completed formatted) =>
      results = [.ok formatted]
  | _ => True

theorem Point.holds_of_idle {results : List (Except String PyVal)} {p : Point}
    (idle : ¬ p.owns) : p.Holds results := by
  cases p <;> first | exact trivial | exact absurd trivial idle

theorem holds_raised {results : List (Except String PyVal)} (u : Update) (error : String) :
    (u.raised error).Holds results := by
  cases u <;> exact trivial

/-- What a row of the job says of the run. -/
structure RowOf (job : ReportJobMessage) (results : List (Except String PyVal)) (row : Report) :
    Prop where
  id : row.id = job.reportId
  format : row.format = job.format.str
  completed : row.status = .completed → results = [.ok row.data]

/-- A run up to a state: the report is generated once at most, by the one task that has
inserted the row, and a completed row holds what came of it. -/
structure Produced (job : ReportJobMessage) (events : List Event) (s : State) : Prop where
  once : (generated events).length ≤ 1
  row : s.row job = none → generated events = []
  stored : ∀ row, s.row job = some row → RowOf job (generated events) row
  holds : ∀ i t, s.tasks i = some t → t.point.Holds (generated events)
  owner : ∀ i t, s.tasks i = some t → t.point.owns → ∃ row, s.row job = some row
  alone : ∀ i j t u, s.tasks i = some t → s.tasks j = some u → t.point.owns → u.point.owns → i = j

theorem columns_eq_some {row : Report} (h : columns pg job = some row) :
    row.id = job.reportId ∧ row.format = job.format.str ∧ row.status = .processing := by
  simp only [columns, Option.bind_eq_bind, Option.bind_eq_some_iff, Option.pure_def,
    Option.some.injEq] at h
  obtain ⟨_, _, _, _, format, written, rfl⟩ := h
  unfold stringColumn at written
  split at written
  · exact ⟨rfl, (Option.some.inj written).symm, rfl⟩
  · cases written

theorem insert_columns {reports reports' : Reports} (h : insert pg job reports = some reports') :
    ∃ row, columns pg job = some row ∧ findById reports' job.reportId = some row := by
  unfold insert at h
  split at h
  case h_1 row found absent =>
    cases h
    exact ⟨row, found, Dict.get?_set_self ..⟩
  case h_2 => cases h

namespace Produced

variable {s s' : State} {events : List Event} {event : Event}

theorem init (start : (reportJob pg job).init s) : Produced job [] s := by
  obtain ⟨reports, absent, rfl⟩ := start
  have none' : State.row ⟨true, .unsent, 0, fun _ => none, reports, []⟩ job = none := absent
  refine ⟨Nat.zero_le _, fun _ => rfl, ?_, ?_, ?_, ?_⟩
  · intro row found
    rw [none'] at found
    cases found
  · exact fun i t h => nomatch h
  · exact fun i t h => nomatch h
  · exact fun i j t u h => nomatch h

/-- A step after which there is no more than before, but for tasks that do not own the
row. -/
theorem quiet (produced : Produced job events s) (same : generated [event] = [])
    (row : s'.row job = s.row job)
    (tasks : ∀ i t, s'.tasks i = some t → t.point.owns → s.tasks i = some t) :
    Produced job (events ++ [event]) s' := by
  have results : generated (events ++ [event]) = generated events := by
    rw [generated_append, same, List.append_nil]
  refine ⟨?_, ?_, ?_, ?_, ?_, ?_⟩
  · rw [results]
    exact produced.once
  · rw [results, row]
    exact produced.row
  · rw [results, row]
    exact produced.stored
  · intro i t here
    rw [results]
    by_cases owns : t.point.owns
    · exact produced.holds i t (tasks i t here owns)
    · exact Point.holds_of_idle owns
  · intro i t here owns
    rw [row]
    exact produced.owner i t (tasks i t here owns) owns
  · intro i j t u ht hu ot ou
    exact produced.alone i j t u (tasks i t ht ot) (tasks j u hu ou) ot ou

/-- The task that owns the row moves on. -/
theorem moved (produced : Produced job events s) {i : Nat} {p q : Point} {db db' : Bool}
    (here : s.tasks i = some ⟨p, db⟩) (owns : p.owns)
    (tasks : s'.tasks = (s.move i q db').tasks)
    (once : (generated (events ++ [event])).length ≤ 1)
    (holds : q.Holds (generated (events ++ [event]))) (row : Report)
    (stored : s'.row job = some row) (rowOf : RowOf job (generated (events ++ [event])) row) :
    Produced job (events ++ [event]) s' := by
  have only (j : Nat) (t : Task) (h : s'.tasks j = some t) :
      j = i ∧ t = ⟨q, db'⟩ ∨ ¬ t.point.owns := by
    rw [tasks] at h
    rcases of_moved h with moved | ⟨ne, h⟩
    · exact .inl moved
    · exact .inr fun owns' => ne (produced.alone j i t _ h here owns' owns)
  refine ⟨once, ?_, ?_, ?_, ?_, ?_⟩
  · intro none'
    rw [stored] at none'
    cases none'
  · intro row' found
    cases stored.symm.trans found
    exact rowOf
  · intro j t h
    rcases only j t h with ⟨-, rfl⟩ | idle
    · exact holds
    · exact Point.holds_of_idle idle
  · exact fun _ _ _ _ => ⟨row, stored⟩
  · intro j k t u ht hu ot ou
    rw [((only j t ht).resolve_right fun idle => idle ot).1,
      ((only k u hu).resolve_right fun idle => idle ou).1]

/-- The row appears, with a task that owns it or none. -/
theorem appear (produced : Produced job events s) (same : generated [event] = []) {i : Nat}
    {q : Point} {db : Bool} (absent : s.row job = none) (tasks : s'.tasks = (s.move i q db).tasks)
    (holds : q.Holds []) (row : Report) (stored : s'.row job = some row)
    (rowOf : RowOf job [] row) : Produced job (events ++ [event]) s' := by
  have results : generated (events ++ [event]) = [] := by
    rw [generated_append, same, produced.row absent, List.append_nil]
  have only (j : Nat) (t : Task) (h : s'.tasks j = some t) :
      j = i ∧ t = ⟨q, db⟩ ∨ ¬ t.point.owns := by
    rw [tasks] at h
    rcases of_moved h with moved | ⟨-, h⟩
    · exact .inl moved
    · refine .inr fun owns => ?_
      obtain ⟨row, found⟩ := produced.owner j t h owns
      rw [absent] at found
      cases found
  refine ⟨?_, fun _ => results, ?_, ?_, ?_, ?_⟩
  · rw [results]
    exact Nat.zero_le _
  · intro row' found
    cases stored.symm.trans found
    rw [results]
    exact rowOf
  · intro j t h
    rw [results]
    rcases only j t h with ⟨-, rfl⟩ | idle
    · exact holds
    · exact Point.holds_of_idle idle
  · exact fun _ _ _ _ => ⟨row, stored⟩
  · intro j k t u ht hu ot ou
    rw [((only j t ht).resolve_right fun idle => idle ot).1,
      ((only k u hu).resolve_right fun idle => idle ou).1]

/-- A task that starts or ends owns nothing. -/
theorem idle_moved {i j : Nat} {q : Point} {db : Bool} {t : Task} (idle : ¬ q.owns)
    (here : (s.move i q db).tasks j = some t) (owns : t.point.owns) : s.tasks j = some t := by
  rcases of_moved here with ⟨-, rfl⟩ | ⟨-, here⟩
  · exact absurd owns idle
  · exact here

/-- The task that owns the row goes on without a result of its own. -/
theorem goesOn (produced : Produced job events s) {i : Nat} {p q : Point} {db db' : Bool}
    (here : s.tasks i = some ⟨p, db⟩) (owns : p.owns) (same : generated [event] = [])
    (holds : q.Holds (generated events)) : Produced job (events ++ [event]) (s.move i q db') := by
  obtain ⟨row, found⟩ := produced.owner i _ here owns
  have results : generated (events ++ [event]) = generated events := by
    rw [generated_append, same, List.append_nil]
  refine produced.moved here owns rfl ?_ ?_ row found ?_
  · rw [results]
    exact produced.once
  · rw [results]
    exact holds
  · rw [results]
    exact produced.stored row found

theorem inserted_step (produced : Produced job events s) {i : Nat} {reply : Reply} {db : Bool}
    {reports : Reports} (inserted : insert pg job s.reports = some reports) :
    Produced job (events ++ [.inserted i reply])
      { s.move i (if reply.reachable then .generating else .settling) (db && reply.reachable) with
        reports } := by
  obtain ⟨absent, -⟩ := insert_eq_some inserted
  obtain ⟨row, fits, found⟩ := insert_columns inserted
  obtain ⟨id, format, status⟩ := columns_eq_some fits
  refine produced.appear (i := i) rfl absent rfl ?_ row found ⟨id, format, ?_⟩
  · split
    · rfl
    · exact trivial
  · intro completed
    rw [status] at completed
    cases completed

/-- The one task that generates has no result before it, and holds the one it gets. -/
theorem generate_step (produced : Produced job events s) {i : Nat} {db : Bool}
    (result : Except String PyVal) (here : s.tasks i = some ⟨.generating, db⟩) :
    Produced job (events ++ [.generate i result]) (s.move i (afterGenerate result) db) := by
  obtain ⟨row, found⟩ := produced.owner i _ here trivial
  have before : generated events = [] := produced.holds i _ here
  have results : generated (events ++ [.generate i result]) = [result] := by
    rw [generated_append, before]
    rfl
  refine produced.moved here trivial rfl ?_ ?_ row found ?_
  · rw [results]
    exact le_rfl
  · rw [results]
    cases result with
    | ok formatted => rfl
    | error error => exact trivial
  · have old := produced.stored row found
    refine ⟨old.id, old.format, fun completed => ?_⟩
    have done := old.completed completed
    rw [before] at done
    cases done

/-- A commit that is applied writes what its task holds. -/
theorem commit_step (produced : Produced job events s) {i : Nat} {update : Update} {db : Bool}
    {reply : Reply} (here : s.tasks i = some ⟨.committing update, db⟩) :
    Produced job (events ++ [.commit i reply])
      { s.move i (afterCommit update reply) (db && reply.reachable) with
        reports :=
          if reply.applies then updateStatus s.reports job.reportId update.status update.data
          else s.reports } := by
  obtain ⟨row, found⟩ := produced.owner i _ here trivial
  have results : generated (events ++ [.commit i reply]) = generated events := by
    rw [generated_append]
    exact List.append_nil _
  have holds : (afterCommit update reply).Holds (generated (events ++ [.commit i reply])) := by
    cases reply with
    | answered => exact trivial
    | lost applied error => exact holds_raised update error
  have once : (generated (events ++ [.commit i reply])).length ≤ 1 := by
    rw [results]
    exact produced.once
  have old := produced.stored row found
  by_cases applies : reply.applies = true
  · refine produced.moved here trivial rfl once holds
      { row with status := update.status, data := update.data } ?_ ?_
    · rw [State.row, if_pos applies]
      exact findById_updateStatus found _ _
    · rw [results]
      refine ⟨old.id, old.format, fun completed => ?_⟩
      have known := produced.holds i _ here
      cases update with
      | completed formatted => exact known
      | failed error => cases completed
  · refine produced.moved here trivial rfl once holds row ?_ ?_
    · rw [State.row, if_neg applies]
      exact found
    · rw [results]
      exact old

theorem step (produced : Produced job events s) (step : Step pg job s event s') :
    Produced job (events ++ [event]) s' := by
  cases step with
  | published => exact produced.quiet rfl rfl fun _ _ h _ => h
  | publishFailed => exact produced.quiet rfl rfl fun _ _ h _ => h
  | deliver => exact produced.quiet rfl rfl fun _ _ h owns => idle_moved id h owns
  | crash => exact produced.quiet rfl rfl fun _ _ h => nomatch h
  | channelLost => exact produced.quiet rfl rfl fun _ _ h _ => h
  | inserted i reply db reports here applies inserted => exact produced.inserted_step inserted
  | insertRefused => exact produced.quiet rfl rfl fun _ _ h owns => idle_moved id h owns
  | insertLost => exact produced.quiet rfl rfl fun _ _ h owns => idle_moved id h owns
  | generate i db result here => exact produced.generate_step result here
  | execute i update db reply here =>
      refine produced.goesOn here trivial rfl ?_
      cases reply with
      | answered =>
          unfold afterExecute
          dsimp only
          split
          · exact holds_raised update _
          · have known := produced.holds i _ here
            cases update with
            | completed formatted => exact known
            | failed error => exact trivial
      | lost applied error => exact holds_raised update error
  | commit i update db reply here => exact produced.commit_step here
  | rollback i error db reply here =>
      refine produced.goesOn here trivial rfl ?_
      cases reply with
      | answered => exact trivial
      | lost applied error' => exact trivial
  | settle => exact produced.quiet rfl rfl fun _ _ h _ => of_finished h
  | unsettled => exact produced.quiet rfl rfl fun _ _ h _ => of_finished h
  | other reports same => exact produced.quiet rfl same fun _ _ h _ => h
  | poll => exact produced.quiet rfl rfl fun _ _ h _ => h
  | pollFailed => exact produced.quiet rfl rfl fun _ _ h _ => h

theorem run {s₀ : State} (start : (reportJob pg job).init s₀)
    (run : (reportJob pg job).Run s₀ events s) : Produced job events s := by
  induction run with
  | nil => exact init start
  | snoc _ step produced => exact produced.step step

end Produced

/-- What a run of a csv job generates is formatted by `_format_csv`. -/
theorem generated_formatCsv {formatters : Formatters} {s₀ s : State} {events : List Event}
    (run : (formattedJob pg formatters job).Run s₀ events s) (csv : job.format = .csv) :
    ∀ v, .ok v ∈ generated events → ∃ data, v = formatCsv data := by
  induction run with
  | nil => exact fun v mem => nomatch mem
  | @snoc t u events event run step ih =>
      intro v mem
      rw [generated_append, List.mem_append] at mem
      rcases mem with earlier | now
      · exact ih v earlier
      · cases event with
        | generate i result =>
            obtain ⟨data, same⟩ := step.1
            obtain rfl := List.mem_singleton.mp now
            cases data with
            | error error => cases same
            | ok data =>
                rw [formatted, csv] at same
                exact ⟨data, Except.ok.inj same⟩
        | _ => cases now

/-! ## The file -/

/-- The lines of a report: its columns and its rows, and nothing where it has no rows. -/
def table (texts : Texts) (data : ReportData) : List (List (List Char)) :=
  if cells data = [] then []
  else csvColumns.map String.toList :: (cells data).map fun row => row.map texts.cell

theorem length_of_mem_cells {data : ReportData} {row : List PyVal} (mem : row ∈ cells data) :
    row.length = csvColumns.length := by
  simp only [cells, List.mem_append, List.mem_map] at mem
  rcases mem with (⟨stat, -, rfl⟩ | ⟨alert, -, rfl⟩) | ⟨loco, -, rfl⟩ <;> rfl

/-- The fields of a row, looked up by the names it was made with. -/
theorem map_lookup_zip {names : List String} (distinct : names.Nodup) {row : List PyVal}
    (length : row.length = names.length) :
    names.map (fun name => ((names.zip row).lookup name).getD (.str "")) = row := by
  induction names generalizing row with
  | nil => exact (List.eq_nil_of_length_eq_zero length).symm
  | cons name names ih =>
      cases row with
      | nil => cases length
      | cons v row =>
          obtain ⟨new, distinct⟩ := List.nodup_cons.mp distinct
          have later : names.map (fun name' =>
              (((name, v) :: names.zip row).lookup name').getD (.str "")) =
              names.map fun name' => ((names.zip row).lookup name').getD (.str "") := by
            refine List.map_congr_left fun name' mem => ?_
            have other : (name' == name) = false := by
              rw [beq_eq_false_iff_ne]
              rintro rfl
              exact new mem
            rw [List.lookup_cons, other]
          rw [List.zip_cons_cons, List.map_cons, later, ih distinct (Nat.succ.inj length),
            List.lookup_cons, beq_self_eq_true]
          rfl

theorem dictRow_zip {row : List PyVal} (length : row.length = csvColumns.length) :
    dictRow csvColumns (csvColumns.zip row) = some row := by
  have fields : ((csvColumns.zip row).all fun e => csvColumns.contains e.1) = true := by
    rw [List.all_eq_true]
    rintro ⟨name, v⟩ mem
    rw [List.contains_iff_mem]
    exact (List.of_mem_zip mem).1
  rw [dictRow, if_pos fields, map_lookup_zip (by decide) length]

theorem mapM_entriesOf (rows : List (List (String × PyVal))) :
    (rows.map PyVal.dict).mapM entriesOf = some rows := by
  induction rows with
  | nil => rfl
  | cons row rows ih =>
      rw [List.map_cons, List.mapM_cons, ih]
      rfl

theorem mapM_dictRow {rows : List (List PyVal)}
    (lengths : ∀ row ∈ rows, row.length = csvColumns.length) :
    (rows.map fun row => csvColumns.zip row).mapM (dictRow csvColumns) = some rows := by
  induction rows with
  | nil => rfl
  | cons row rows ih =>
      obtain ⟨here, later⟩ := List.forall_mem_cons.mp lengths
      rw [List.map_cons, List.mapM_cons, ih later, dictRow_zip here]
      rfl

theorem formatCsvText_formatCsv (texts : Texts) (data : ReportData) :
    formatCsvText texts (formatCsv data) =
      some (String.ofList (Csv.write (table texts data))) := by
  have lengths (row : List PyVal) (mem : row ∈ cells data) := length_of_mem_cells mem
  have rows : ((cells data).map fun row => PyVal.dict (csvColumns.zip row)) =
      ((cells data).map fun row => csvColumns.zip row).map PyVal.dict := by
    rw [List.map_map]
    rfl
  have text : formatCsvText texts (formatCsv data) =
      dictWriter texts ((cells data).map fun row => .dict (csvColumns.zip row)) := rfl
  rw [text, table, dictWriter, rows, mapM_entriesOf]
  generalize cells data = all at lengths
  cases all with
  | nil => rfl
  | cons row all =>
      have names : (csvColumns.zip row).map Prod.fst = csvColumns :=
        List.map_fst_zip (lengths row List.mem_cons_self).ge
      rw [if_neg (List.cons_ne_nil row all)]
      simp only [List.map_cons, Option.bind_eq_bind, Option.bind_some, names]
      rw [← List.map_cons (f := fun row => csvColumns.zip row), mapM_dictRow lengths]
      rfl

theorem read_table (texts : Texts) (data : ReportData) :
    Csv.read (Csv.write (table texts data)) = table texts data := by
  refine Csv.read_write fun row mem => ?_
  unfold table at mem
  split at mem
  · cases mem
  · rcases List.mem_cons.mp mem with rfl | mem
    · exact List.cons_ne_nil _ _
    · obtain ⟨values, values_mem, rfl⟩ := List.mem_map.mp mem
      have length := length_of_mem_cells values_mem
      rw [Ne, List.map_eq_nil_iff]
      rintro rfl
      cases length

/-- **A download is refused, or it is the report**: the one that was generated, once, line by
line. -/
theorem csv_download (texts : Texts) (formatters : Formatters) {s₀ s : State}
    {events : List Event} (start : (formattedJob pg formatters job).init s₀)
    (run : (formattedJob pg formatters job).Run s₀ events s) (csv : job.format = .csv) :
    (generated events).length ≤ 1 ∧
    ((s.row job = none ∧ downloadReport texts s.reports job.reportId =
      .notFound ("Report " ++ job.reportId.str ++ " not found")) ∨
    (∃ row, s.row job = some row ∧ row.status ≠ .completed ∧
      downloadReport texts s.reports job.reportId =
        .failedPrecondition ("Report is not ready yet (status: " ++ row.status.str ++ ")")) ∨
    ∃ data text, generated events = [.ok (formatCsv data)] ∧
      downloadReport texts s.reports job.reportId =
        .sent "csv" ("report_" ++ job.reportId.str ++ ".csv") "text/csv" (.utf8 text) ∧
      Csv.read text.toList = table texts data) := by
  have produced := Produced.run start run.unguarded
  have formatted := generated_formatCsv run csv
  refine ⟨produced.once, ?_⟩
  cases found : s.row job with
  | none =>
      refine .inl ⟨rfl, ?_⟩
      rw [downloadReport, show findById s.reports job.reportId = none from found]
  | some row =>
      have download : downloadReport texts s.reports job.reportId =
          if row.status ≠ .completed then
            .failedPrecondition ("Report is not ready yet (status: " ++ row.status.str ++ ")")
          else if row.data.truthy then fileOf texts row
          else .notFound "Report has no data" := by
        rw [downloadReport, show findById s.reports job.reportId = some row from found]
      by_cases completed : row.status = .completed
      · have rowOf := produced.stored row found
        have results := rowOf.completed completed
        obtain ⟨data, same⟩ := formatted row.data (results ▸ List.mem_cons_self)
        refine .inr (.inr ⟨data, String.ofList (Csv.write (table texts data)), ?_, ?_, ?_⟩)
        · rw [results, same]
        · have isCsv : row.format = "csv" := by
            rw [rowOf.format, csv]
            rfl
          have truthy : row.data.truthy = true := by
            rw [same]
            rfl
          rw [download, if_neg (not_not.mpr completed), if_pos truthy, fileOf, if_pos isCsv, same,
            formatCsvText_formatCsv, isCsv, rowOf.id]
        · rw [String.toList_ofList, read_table]
      · exact .inr (.inl ⟨row, rfl, completed, download.trans (if_pos completed)⟩)

def alertJob : ReportJobMessage := ⟨1, none, "health_summary", .csv⟩

/-- One alert, with a message that has to be quoted. -/
def oneAlert : ReportData where
  sensorStats := []
  alerts := [⟨"oil_pressure", "critical", "below 1.5, falling", "2026-01-01 00:00:00"⟩]
  overview := []
  worstLocomotives := []
  fleetStats := none
  rest := []

/-- A csv file of texts alone needs none of them. -/
def noTexts : Texts := ⟨fun _ => "", fun _ => "", fun _ => none⟩

def noFormatters : Formatters := ⟨fun _ => .ok (.dict []), fun _ _ => .ok (.dict [])⟩

theorem csv_download_oneAlert : ∃ s₀ s events,
    (formattedJob plain noFormatters alertJob).Run s₀ events s ∧
    (generated events).length ≤ 1 ∧
    ((s.row alertJob = none ∧ downloadReport noTexts s.reports alertJob.reportId =
        .notFound ("Report " ++ alertJob.reportId.str ++ " not found")) ∨
    (∃ row, s.row alertJob = some row ∧ row.status ≠ .completed ∧
      downloadReport noTexts s.reports alertJob.reportId =
        .failedPrecondition ("Report is not ready yet (status: " ++ row.status.str ++ ")")) ∨
    ∃ data text, generated events = [.ok (formatCsv data)] ∧
      downloadReport noTexts s.reports alertJob.reportId =
        .sent "csv" ("report_" ++ alertJob.reportId.str ++ ".csv") "text/csv" (.utf8 text) ∧
      Csv.read text.toList = table noTexts data) := by
  have start : (formattedJob plain noFormatters alertJob).init
      ⟨true, .unsent, 0, fun _ => none, Dict.empty, []⟩ := ⟨Dict.empty, rfl, rfl⟩
  have none' : (formattedJob plain noFormatters alertJob).Run
      ⟨true, .unsent, 0, fun _ => none, Dict.empty, []⟩ [] _ := .nil _
  have published := none'.guarded (Step.published _ rfl) trivial
  have delivered := published.guarded (Step.deliver _ rfl) trivial
  have inserted := delivered.guarded (Step.inserted _ 0 .answered true _ rfl rfl rfl) trivial
  have generated' := inserted.guarded (Step.generate _ 0 true (.ok (formatCsv oneAlert)) rfl)
    ⟨.ok oneAlert, rfl⟩
  have executed := generated'.guarded (Step.execute _ 0 _ true .answered rfl) trivial
  have committed := executed.guarded (Step.commit _ 0 _ true .answered rfl) trivial
  exact ⟨_, _, _, committed, csv_download noTexts noFormatters start committed rfl⟩

end LocoTwin.Report
