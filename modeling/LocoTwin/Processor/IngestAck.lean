/-
# Processor.IngestAck -- what an accepted answer is worth

Both endpoints gather their three `xadd` calls with `return_exceptions=True` and
answer `accepted` without looking at the results.  `Delivered` is what the answer
promises for one reading: its rows, alert records and health record have been
appended to their streams.

An accepted answer keeps the promise exactly when every call that carries data of
an accepted reading lands (`ingest_honest_iff`).  A telemetry call that is lost is
answered all the same (`lost_rows_accepted`).
-/
import LocoTwin.Processor.RouterIngest

namespace LocoTwin.Processor

open LocoTwin.Lib LocoTwin.Shared

set_option autoImplicit false

/-- The request appended the rows, in their order, to the stream. -/
def Appended {α : Type} (before after : List (List α)) (rows : List α) : Prop :=
  ∃ messages, after = before ++ messages ∧ rows.Sublist messages.flatten

/-- The summary counts the reading's data, and all of it is in the streams. -/
structure Delivered (before after : Streams) (result : ResultSummary) (p : Processed)
    (health : HealthIndex) : Prop where
  result : result = p.summary health
  telemetry : Appended before.telemetry after.telemetry p.rows
  alerts : Appended before.alerts after.alerts p.alertRecords
  health : Appended before.health after.health [p.healthRecord health]

/-- Every call with data of the reading lands.  A health record is always written. -/
structure Lands (outcomes : Outcomes) (p : Processed) : Prop where
  telemetry : p.rows ≠ [] → outcomes.telemetry.lands = true
  alerts : p.alerts ≠ [] → outcomes.alerts.lands = true
  health : outcomes.health.lands = true

/-! ## One stream -/

theorem xaddRows_stream {α : Type} (outcome : XaddOutcome) (stream : List (List α))
    (rows : List α) :
    (xaddRows outcome stream rows).2 =
      if rows ≠ [] ∧ outcome.lands = true then stream ++ [rows] else stream := by
  cases rows with
  | nil => simp [xaddRows]
  | cons row rest => cases outcome <;> simp [xaddRows, XaddOutcome.lands]

/-- Rows carried by a call are appended exactly when the call lands. -/
theorem appended_iff {α : Type} (outcome : XaddOutcome) (stream : List (List α))
    {rows carried : List α} (sub : rows.Sublist carried) :
    Appended stream (xaddRows outcome stream carried).2 rows ↔
      (rows ≠ [] → outcome.lands = true) := by
  rw [xaddRows_stream]
  by_cases lands : outcome.lands = true
  · simp only [lands, and_true, implies_true, iff_true]
    split_ifs with some'
    · exact ⟨[carried], rfl, by simpa using sub⟩
    · have none : carried = [] := not_not.mp some'
      exact ⟨[], by simp, by simpa [none] using sub⟩
  · have dropped : outcome.lands = false := by simpa using lands
    simp only [dropped, Bool.false_eq_true, and_false, if_false, imp_false, not_not]
    constructor
    · rintro ⟨messages, same, inside⟩
      have none : messages = [] := by simpa using same.symm
      simpa [none] using inside
    · rintro rfl
      exact ⟨[], by simp, by simp⟩

/-- The data of one reading, carried with that of others. -/
theorem delivered_iff (outcomes : Outcomes) (streams : Streams) {p : Processed}
    {health : HealthIndex} {telemetryRows : List TelemetryRow} {alertRecords : List AlertRecord}
    {healthRecords : List HealthRecord} (rows : p.rows.Sublist telemetryRows)
    (alerts : p.alertRecords.Sublist alertRecords)
    (record : [p.healthRecord health].Sublist healthRecords) (result : ResultSummary) :
    Delivered streams (gatherXadds outcomes streams telemetryRows alertRecords healthRecords)
        result p health ↔ result = p.summary health ∧ Lands outcomes p := by
  have tel := appended_iff outcomes.telemetry streams.telemetry rows
  have al := appended_iff outcomes.alerts streams.alerts alerts
  have hl := appended_iff outcomes.health streams.health record
  have noAlerts : p.alertRecords ≠ [] ↔ p.alerts ≠ [] := by simp [Processed.alertRecords]
  rw [noAlerts] at al
  constructor
  · rintro ⟨summary, t, a, h⟩
    exact ⟨summary, tel.mp t, al.mp a, hl.mp h (by simp)⟩
  · rintro ⟨summary, t, a, h⟩
    exact ⟨summary, tel.mpr t, al.mpr a, hl.mpr fun _ => h⟩

/-! ## The two endpoints -/

/-- An accepted answer of the single endpoint reports data that was delivered. -/
def HonestSingle (M : PyMath) (state : ProcessorState) (streams : Streams)
    (reading : TelemetryReading) (stamps : Stamps) (outcomes : Outcomes) : Prop :=
  ∀ result, (ingestTelemetry M state streams reading stamps outcomes).2.2 = .ok result →
    ∃ health, (pipeline M state (reading, stamps)).2.health = .ok health ∧
      Delivered streams (ingestTelemetry M state streams reading stamps outcomes).2.1 result
        (pipeline M state (reading, stamps)).2 health

/-- The readings of a batch whose health index was computed, with it. -/
def acceptedOf (ps : List Processed) : List (Processed × HealthIndex) :=
  ps.filterMap fun p => p.health.toOption.map fun health => (p, health)

/-- An accepted answer of the batch endpoint reports, result by result, data that was
delivered. -/
def HonestBatch (M : PyMath) (state : ProcessorState) (streams : Streams)
    (readings : List (TelemetryReading × Stamps)) (outcomes : Outcomes)
    (execute : Option PyError) : Prop :=
  ∀ answer, (ingestBatch M state streams readings outcomes execute).2.2 = .ok answer →
    List.Forall₂ (fun result e => Delivered streams
        (ingestBatch M state streams readings outcomes execute).2.1 result e.1 e.2)
      answer.results (acceptedOf ((pipeline M).run state readings).2)

theorem single_honest_iff (M : PyMath) (state : ProcessorState) (streams : Streams)
    (reading : TelemetryReading) (stamps : Stamps) (outcomes : Outcomes) :
    HonestSingle M state streams reading stamps outcomes ↔
      ∀ health, (pipeline M state (reading, stamps)).2.health = .ok health →
        Lands outcomes (pipeline M state (reading, stamps)).2 := by
  unfold HonestSingle ingestTelemetry
  rw [processSingle_eq]
  generalize pipeline M state (reading, stamps) = out
  obtain ⟨after, p⟩ := out
  cases found : p.health with
  | error exc => simp [Except.map]
  | ok health =>
      have exactly := delivered_iff outcomes streams (List.Sublist.refl p.rows)
        (List.Sublist.refl p.alertRecords) (List.Sublist.refl [p.healthRecord health])
        (p.summary health)
      simp only [Except.map, Except.ok.injEq, forall_eq', exists_eq_left', Processed.ingested,
        exactly, true_and]

/-- What a batch collects contains what each of its readings contributed. -/
theorem collect_contains {ps : List Processed} {p : Processed} (mem : p ∈ ps) :
    p.rows.Sublist (Batch.collect ps).allTelemetryRows ∧
      p.alertRecords.Sublist (Batch.collect ps).allAlertRecords ∧
      ∀ health, p.health = .ok health →
        [p.healthRecord health].Sublist (Batch.collect ps).allHealthRecords := by
  induction ps with
  | nil => cases mem
  | cons q rest ih =>
      have own : q.toBatch.allTelemetryRows = q.rows ∧
          q.toBatch.allAlertRecords = q.alertRecords := by
        unfold Processed.toBatch
        cases q.health <;> exact ⟨rfl, rfl⟩
      simp only [Batch.collect_cons, Batch.append, own]
      rcases List.mem_cons.mp mem with rfl | later
      · refine ⟨List.sublist_append_left _ _, List.sublist_append_left _ _, ?_⟩
        intro health found
        simp [Processed.toBatch, found]
      · obtain ⟨rows, alerts, record⟩ := ih later
        refine ⟨rows.trans (List.sublist_append_right _ _),
          alerts.trans (List.sublist_append_right _ _), ?_⟩
        intro health found
        exact (record health found).trans (List.sublist_append_right _ _)

/-- The results of a batch are the summaries of its accepted readings. -/
theorem collect_results (ps : List Processed) :
    (Batch.collect ps).results = (acceptedOf ps).map fun e => e.1.summary e.2 := by
  induction ps with
  | nil => rfl
  | cons p rest ih =>
      simp only [Batch.collect_cons, Batch.append, ih, acceptedOf, List.filterMap_cons,
        Processed.toBatch]
      cases p.health <;> simp [Except.toOption, Batch.empty]

theorem mem_acceptedOf {ps : List Processed} {e : Processed × HealthIndex} :
    e ∈ acceptedOf ps ↔ e.1 ∈ ps ∧ e.1.health = .ok e.2 := by
  obtain ⟨p, health⟩ := e
  simp only [acceptedOf, List.mem_filterMap, Option.map_eq_some_iff, Prod.mk.injEq]
  constructor
  · rintro ⟨q, mem, h, found, rfl, rfl⟩
    cases same : q.health with
    | error exc => simp [same, Except.toOption] at found
    | ok health => simp [same, Except.toOption] at found; simp [mem, found]
  · rintro ⟨mem, found⟩
    exact ⟨p, mem, health, by simp [found, Except.toOption], rfl, rfl⟩

/-- A batch publishes something exactly for its accepted readings. -/
theorem collect_publishItems (ps : List Processed) :
    (Batch.collect ps).publishItems = (acceptedOf ps).flatMap fun e => e.1.publications e.2 := by
  induction ps with
  | nil => rfl
  | cons p rest ih =>
      simp only [Batch.collect_cons, Batch.append, ih, acceptedOf, List.filterMap_cons,
        Processed.toBatch]
      cases p.health <;> simp [Except.toOption, Batch.empty]

theorem batch_honest_iff (M : PyMath) (state : ProcessorState) (streams : Streams)
    (readings : List (TelemetryReading × Stamps)) (outcomes : Outcomes)
    (execute : Option PyError) :
    HonestBatch M state streams readings outcomes execute ↔
      (execute = none → ∀ p ∈ ((pipeline M).run state readings).2,
        ∀ health, p.health = .ok health → Lands outcomes p) := by
  unfold HonestBatch ingestBatch
  rw [processReadingsSync_eq]
  generalize ((pipeline M).run state readings).2 = ps
  have exactly : ∀ e ∈ acceptedOf ps,
      (Delivered streams (gatherXadds outcomes streams (Batch.collect ps).allTelemetryRows
        (Batch.collect ps).allAlertRecords (Batch.collect ps).allHealthRecords)
        (e.1.summary e.2) e.1 e.2 ↔ Lands outcomes e.1) := by
    intro e mem
    obtain ⟨inside, found⟩ := mem_acceptedOf.mp mem
    obtain ⟨rows, alerts, record⟩ := collect_contains inside
    rw [delivered_iff outcomes streams rows alerts (record _ found)]
    exact and_iff_right rfl
  have paired : List.Forall₂ (fun result e => Delivered streams
      (gatherXadds outcomes streams (Batch.collect ps).allTelemetryRows
        (Batch.collect ps).allAlertRecords (Batch.collect ps).allHealthRecords) result e.1 e.2)
      (Batch.collect ps).results (acceptedOf ps) ↔
      ∀ p ∈ ps, ∀ health, p.health = .ok health → Lands outcomes p := by
    rw [collect_results, List.forall₂_map_left_iff, List.forall₂_same]
    constructor
    · intro all p mem health found
      have inside : (p, health) ∈ acceptedOf ps := mem_acceptedOf.mpr ⟨mem, found⟩
      exact (exactly _ inside).mp (all _ inside)
    · intro all e mem
      obtain ⟨inside, found⟩ := mem_acceptedOf.mp mem
      exact (exactly e mem).mpr (all e.1 inside e.2 found)
  cases execute with
  | none =>
      simp only [forall_const]
      rw [← paired]
      cases (Batch.collect ps).publishItems <;> simp
  | some exc =>
      -- a raised pipeline answers nothing, unless there was nothing to publish
      simp only [reduceCtorEq, false_imp_iff, iff_true]
      cases published : (Batch.collect ps).publishItems with
      | cons item rest => simp
      | nil =>
          have nobody : acceptedOf ps = [] := by
            rw [collect_publishItems, List.flatMap_eq_nil_iff] at published
            apply List.eq_nil_iff_forall_not_mem.mpr
            intro e mem
            exact absurd (published e mem) (by simp [Processed.publications])
          simp [nobody, collect_results]

/-- **What an accepted answer is worth.**  It reports delivered data exactly when every
`xadd` call that carries data of an accepted reading lands; the batch endpoint only
answers `accepted` when its publishing pipeline does not raise. -/
theorem ingest_honest_iff (M : PyMath) (state : ProcessorState) (streams : Streams)
    (outcomes : Outcomes) :
    (∀ reading stamps, HonestSingle M state streams reading stamps outcomes ↔
      ∀ health, (pipeline M state (reading, stamps)).2.health = .ok health →
        Lands outcomes (pipeline M state (reading, stamps)).2) ∧
    (∀ readings execute, HonestBatch M state streams readings outcomes execute ↔
      (execute = none → ∀ p ∈ ((pipeline M).run state readings).2,
        ∀ health, p.health = .ok health → Lands outcomes p)) :=
  ⟨fun reading stamps => single_honest_iff M state streams reading stamps outcomes,
    fun readings execute => batch_honest_iff M state streams readings outcomes execute⟩

/-- One reading, and a Redis that refuses the telemetry stream only. -/
def coolantReading : TelemetryReading where
  locomotiveId := 7
  locomotiveType := .te33a
  timestamp := 0
  sensors := [⟨.coolantTemp, 82, "°C"⟩]

def telemetryLost : Outcomes := ⟨.lost ⟨"ConnectionError", ""⟩, .appended, .appended⟩

def anyStamps : Stamps := ⟨⟨fun _ => 0, 0⟩, 0, 0⟩

/-- The row is lost and the answer still reports it as written, on both endpoints. -/
theorem lost_rows_accepted :
    ¬ HonestSingle .onIntegers .empty ⟨[], [], []⟩ coolantReading anyStamps telemetryLost ∧
      ¬ HonestBatch .onIntegers .empty ⟨[], [], []⟩ [(coolantReading, anyStamps)]
        telemetryLost none := by
  have written : (pipeline .onIntegers .empty (coolantReading, anyStamps)).2.rows ≠ [] := by
    decide +kernel
  have computed :
      (pipeline .onIntegers .empty (coolantReading, anyStamps)).2.health.isOk = true := by
    decide +kernel
  rw [single_honest_iff, batch_honest_iff]
  simp only [Machine.run_cons, Machine.run_nil, List.mem_singleton, forall_eq]
  cases found : (pipeline .onIntegers .empty (coolantReading, anyStamps)).2.health with
  | error exc => simp [found, Except.isOk, Except.toBool] at computed
  | ok health =>
      have lost :
          ¬ Lands telemetryLost (pipeline .onIntegers .empty (coolantReading, anyStamps)).2 := by
        intro lands
        exact absurd (lands.telemetry written) (by decide)
      exact ⟨fun honest => lost (honest health rfl), fun honest => lost (honest trivial health rfl)⟩

end LocoTwin.Processor
