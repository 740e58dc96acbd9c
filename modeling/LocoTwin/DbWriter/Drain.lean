/-
# DbWriter.Drain -- whether the replay of the pending list ends

After a restart the reader runs `_drain_pending` before it reads anything new.  The
replay terminates when every run reaches the live loop in which calls work and every
task that can go on does so at some time (`DrainTerminates`).

* Where all pending messages are writable or malformed, every batch is acknowledged in
  the end: `DrainInv` is what holds of a replay, and `Helps` names the task that brings
  the next acknowledgement closer.
* A pending message with a row that cannot be written is never acknowledged, neither as
  malformed nor with its batch (`StuckInv`), and each read returns it again.
-/
import LocoTwin.DbWriter.PoisonIsolation
import LocoTwin.DbWriter.DrainMeasure

namespace LocoTwin.DbWriter

open LocoTwin.Lib LocoTwin.Shared

set_option autoImplicit false

/-! ## Termination -/

/-- The reader and the workers. -/
def tasks (cfg : Config) : List Label :=
  .reader :: (List.range cfg.workerCount).map .worker

/-- `_drain_pending` has returned. -/
def Live (s : State) : Prop := s.proc.reader = .reading .live

/-- Every run that is fair to the tasks comes to the live loop. -/
def DrainTerminates (cfg : Config) (stores : Tuple → Bool) (s₀ : State) : Prop :=
  ∀ run : (healthy cfg stores s₀).FairRun (· ∈ tasks cfg), run.state 0 = s₀ →
    ∃ n, Live (run.state n)

/-- What a crash leaves: any pending list over the entries of the stream.  An entry that was
trimmed from the stream reads as one without fields. -/
structure Restarted (cfg : Config) (s : State) : Prop where
  fresh : s.proc = .fresh cfg
  known : ∀ id ∈ s.redis.pel, id < s.redis.stream.length

variable {cfg : Config} {stores : Tuple → Bool} {s t : State} {l : Label}

theorem worker_mem_tasks {i : Nat} : .worker i ∈ tasks cfg ↔ i < cfg.workerCount := by
  simp [tasks]

/-! ## A replay of writable messages -/

def BatchWritable (cfg : Config) (stores : Tuple → Bool) (batch : Batch) : Prop :=
  ∀ row ∈ batch.rows, rowWritable cfg stores row = true

def ReaderDrains (cfg : Config) (stores : Tuple → Bool) : Reader → Prop
  | .reading mode => mode = .draining
  | .ackingPoison mode _ batch => mode = .draining ∧ BatchWritable cfg stores batch
  | .putting mode batch => mode = .draining ∧ BatchWritable cfg stores batch
  | .closing _ => False

def WorkerDrains (stores : Tuple → Bool) : Worker → Prop
  | .idle => True
  | .writing _ todo => todo ≠ [] ∧ ∀ chunk ∈ todo, ∀ record ∈ chunk, stores record = true
  | .acking _ => True
  | .done => False

/-- The reader drains, every batch is writable, and so is every pending message unless
it is malformed. -/
structure DrainInv (cfg : Config) (stores : Tuple → Bool) (s : State) : Prop where
  reader : ReaderDrains cfg stores s.proc.reader
  queue : ∀ item ∈ s.proc.queue, ∃ batch, item = some batch ∧ BatchWritable cfg stores batch
  workers : ∀ w ∈ s.proc.workers, WorkerDrains stores w
  count : s.proc.workers.length = cfg.workerCount
  pending : ∀ id ∈ s.redis.pel, ∃ fields, s.redis.stream[id]? = some fields ∧
    ¬Unwritable cfg stores fields

theorem afterPoison_drains {batch : Batch} (writable : BatchWritable cfg stores batch) :
    ReaderDrains cfg stores (afterPoison .draining batch) := by
  unfold afterPoison
  split_ifs
  · rfl
  · exact ⟨rfl, writable⟩

theorem afterDecode_drains {decoded : Decoded}
    (writable : BatchWritable cfg stores decoded.batch) :
    ReaderDrains cfg stores (afterDecode .draining decoded) := by
  unfold afterDecode
  split_ifs
  · exact afterPoison_drains writable
  · exact ⟨rfl, writable⟩

theorem afterChunk_drains {batch : Batch} {todo : List (List Tuple)}
    (accepted : ∀ chunk ∈ todo, ∀ record ∈ chunk, stores record = true) :
    WorkerDrains stores (afterChunk batch todo) := by
  cases todo with
  | nil => trivial
  | cons chunk rest => exact ⟨by simp, accepted⟩

/-- What a replay reads is writable. -/
theorem DrainInv.read (inv : DrainInv cfg stores s) (n : Nat) :
    BatchWritable cfg stores (decodeEntries cfg (s.redis.entries (s.redis.pel.take n))).batch := by
  intro row mem
  rw [decodeEntries_eq] at mem
  obtain ⟨id, fields, rows, entry, decodes, within⟩ := mem_decodedRows.mp mem
  obtain ⟨here, found⟩ := mem_entries.mp entry
  obtain ⟨fields', found', writable⟩ := inv.pending id (List.mem_of_mem_take here)
  obtain rfl : fields = fields' := Option.some.inj (found.symm.trans found')
  by_contra bad
  exact writable ⟨rows, decodes, row, within, by simpa using bad⟩

theorem DrainInv.setWorker (inv : DrainInv cfg stores s) (i : Nat) {w : Worker}
    (drains : WorkerDrains stores w) : DrainInv cfg stores (s.setWorker i w) where
  reader := inv.reader
  queue := inv.queue
  workers := State.forall_setWorker inv.workers drains
  count := (List.length_set ..).trans inv.count
  pending := inv.pending

theorem DrainInv.xack (inv : DrainInv cfg stores s) (ids : List MsgId) :
    DrainInv cfg stores { s with redis := s.redis.xack ids } :=
  { inv with pending := fun id mem => inv.pending id (mem_pel_xack.mp mem).1 }

/-- A step of a replay goes on with it or ends it. -/
theorem DrainInv.step (flush : 0 < cfg.rowsPerFlush) (inv : DrainInv cfg stores s)
    (step : Healthy cfg stores s l t) : Live t ∨ DrainInv cfg stores t := by
  cases step with
  | produce fields =>
      refine .inr { inv with pending := fun id mem => ?_ }
      obtain ⟨fields', found, writable⟩ := inv.pending id mem
      exact ⟨fields', List.getElem?_append_left (List.getElem?_eq_some_iff.mp found).1 ▸ found,
        writable⟩
  | drained reading empty => exact .inl rfl
  | readPending reading pending =>
      exact .inr { inv with reader := afterDecode_drains (inv.read _) }
  | readNew n reading count available =>
      have drains := inv.reader
      rw [reading] at drains
      cases drains
  | ackPoison mode poisonIds batch acking =>
      have drains := inv.reader
      rw [acking] at drains
      obtain ⟨rfl, writable⟩ := drains
      exact .inr { inv.xack poisonIds with reader := afterPoison_drains writable }
  | put mode batch putting room =>
      have drains := inv.reader
      rw [putting] at drains
      obtain ⟨rfl, writable⟩ := drains
      refine .inr { inv with reader := rfl, queue := fun item mem => ?_ }
      rcases List.mem_append.mp mem with before | now
      · exact inv.queue item before
      · exact ⟨batch, List.mem_singleton.mp now, writable⟩
  | get i batch rest idle queue =>
      obtain ⟨batch', same, writable⟩ := inv.queue (some batch) (queue ▸ List.mem_cons_self)
      obtain rfl : batch = batch' := Option.some.inj same
      obtain ⟨todo, eq, accepted⟩ := startBatch_writable flush writable
      have drains : WorkerDrains stores (startBatch cfg batch) :=
        eq ▸ afterChunk_drains accepted
      have shorter : DrainInv cfg stores { s with proc := { s.proc with queue := rest } } :=
        { inv with queue := fun item mem => inv.queue item (queue ▸ List.mem_cons_of_mem _ mem) }
      exact .inr (shorter.setWorker i drains)
  | commit i batch chunk todo writing accepted =>
      have drains := inv.workers _ (List.mem_of_getElem? writing)
      have same : DrainInv cfg stores { s with db := s.db.flush cfg i chunk } := { inv with }
      exact .inr (same.setWorker i (afterChunk_drains fun c mem =>
        drains.2 c (List.mem_cons_of_mem _ mem)))
  | rollback i batch chunk todo writing rejected =>
      exact .inr (inv.setWorker i trivial)
  | ack i batch acking => exact .inr ((inv.xack _).setWorker i trivial)

/-! ## Who helps -/

/-- The reader waits for room in the queue. -/
def Blocked (cfg : Config) (s : State) : Prop :=
  ∃ mode batch, s.proc.reader = .putting mode batch ∧ ¬hasRoom cfg s.proc.queue

/-- The tasks that bring the next acknowledgement closer: the workers with a pending
message; where there is none, all workers as long as one waits in the queue or the queue is
full; and the reader otherwise. -/
def Helps (cfg : Config) (s : State) (l : Label) : Prop :=
  (∃ i w, l = .worker i ∧ s.proc.workers[i]? = some w ∧ w.holds s.redis.pel = true) ∨
  (taken s = false ∧ (queued s = true ∨ Blocked cfg s) ∧ ∃ i < cfg.workerCount, l = .worker i) ∨
  (taken s = false ∧ queued s = false ∧ ¬Blocked cfg s ∧ l = .reader)

theorem exists_taken (held : taken s = true) :
    ∃ (i : Nat) (w : Worker), s.proc.workers[i]? = some w ∧ w.holds s.redis.pel = true := by
  obtain ⟨w, mem, holds⟩ := List.any_eq_true.mp held
  obtain ⟨i, lt, eq⟩ := List.getElem_of_mem mem
  exact ⟨i, w, eq ▸ List.getElem?_eq_getElem lt, holds⟩

theorem DrainInv.helped (workers : 0 < cfg.workerCount) (inv : DrainInv cfg stores s) :
    ∃ l, l ∈ tasks cfg ∧ Helps cfg s l := by
  by_cases held : taken s = true
  · obtain ⟨i, w, found, holds⟩ := exists_taken held
    have lt := (List.getElem?_eq_some_iff.mp found).1
    exact ⟨.worker i, worker_mem_tasks.mpr (inv.count ▸ lt), .inl ⟨i, w, rfl, found, holds⟩⟩
  · have none : taken s = false := by simpa using held
    by_cases waits : queued s = true ∨ Blocked cfg s
    · exact ⟨.worker 0, worker_mem_tasks.mpr workers, .inr (.inl ⟨none, waits, 0, workers, rfl⟩)⟩
    · push Not at waits
      exact ⟨.reader, List.mem_cons_self,
        .inr (.inr ⟨none, by simpa using waits.1, waits.2, rfl⟩)⟩

/-- A worker that is not idle can go on. -/
theorem DrainInv.worker_enabled (inv : DrainInv cfg stores s) {s₀ : State} {i : Nat} {w : Worker}
    (found : s.proc.workers[i]? = some w) (busy : w = .idle → s.proc.queue ≠ []) :
    (healthy cfg stores s₀).Enabled s (.worker i) := by
  have drains := inv.workers w (List.mem_of_getElem? found)
  cases w with
  | idle =>
      obtain ⟨item, rest, queue⟩ := List.exists_cons_of_ne_nil (busy rfl)
      obtain ⟨batch, rfl, -⟩ := inv.queue item (queue ▸ List.mem_cons_self)
      exact ⟨_, .get s i batch rest found queue⟩
  | writing batch todo =>
      cases todo with
      | nil => exact absurd rfl drains.1
      | cons chunk rest =>
          exact ⟨_, .commit s i batch chunk rest found (drains.2 chunk List.mem_cons_self)⟩
  | acking batch => exact ⟨_, .ack s i batch found⟩
  | done => cases drains

theorem DrainInv.reader_enabled (inv : DrainInv cfg stores s) {s₀ : State}
    (free : ¬Blocked cfg s) : (healthy cfg stores s₀).Enabled s .reader := by
  have drains := inv.reader
  cases reader : s.proc.reader with
  | reading mode =>
      rw [reader] at drains
      cases drains
      by_cases empty : s.redis.pel.take cfg.readerBatchSize = []
      · exact ⟨_, .drained s reader empty⟩
      · exact ⟨_, .readPending s reader empty⟩
  | ackingPoison mode poisonIds batch => exact ⟨_, .ackPoison s mode poisonIds batch reader⟩
  | putting mode batch =>
      by_cases room : hasRoom cfg s.proc.queue
      · exact ⟨_, .put s mode batch reader room⟩
      · exact absurd ⟨mode, batch, reader, room⟩ free
  | closing sentinels =>
      rw [reader] at drains
      cases drains

theorem DrainInv.helper_enabled (inv : DrainInv cfg stores s) {s₀ : State}
    (helps : Helps cfg s l) : (healthy cfg stores s₀).Enabled s l := by
  rcases helps with ⟨i, w, rfl, found, holds⟩ | ⟨-, waits, i, lt, rfl⟩ | ⟨-, -, free, rfl⟩
  · refine inv.worker_enabled found ?_
    rintro rfl
    cases holds
  · have found := List.getElem?_eq_getElem (inv.count ▸ lt)
    refine inv.worker_enabled found fun _ empty => ?_
    rcases waits with waits | ⟨mode, batch, -, full⟩
    · simp [queued, empty] at waits
    · have room : hasRoom cfg s.proc.queue := by
        rw [empty, hasRoom]
        simp only [List.length_nil]
        omega
      exact full room
  · exact inv.reader_enabled free

/-! ## Every step comes closer or keeps the helpers -/

/-- The step does not raise the measure, and where it does not lower it, it is no
helper's and the helpers stay. -/
def Progress (cfg : Config) (s : State) (l : Label) (t : State) : Prop :=
  drainMeasure cfg t < drainMeasure cfg s ∨
    drainMeasure cfg t = drainMeasure cfg s ∧ ¬Helps cfg s l ∧
      ∀ k, Helps cfg s k → Helps cfg t k

/-- A worker without a pending message does not disturb those with one. -/
theorem helps_worker {i : Nat} {w w' : Worker} (found : s.proc.workers[i]? = some w)
    (held : taken s = true) (own : w.holds s.redis.pel = false)
    (pel : t.redis.pel = s.redis.pel) (workers : t.proc.workers = s.proc.workers.set i w') :
    ¬Helps cfg s (.worker i) ∧ ∀ k, Helps cfg s k → Helps cfg t k := by
  constructor
  · rintro (⟨j, v, same, found', holds⟩ | ⟨none, -⟩ | ⟨none, -⟩)
    · obtain rfl := Label.worker.inj same
      obtain rfl : w = v := Option.some.inj (found.symm.trans found')
      simp [own] at holds
    · simp [held] at none
    · simp [held] at none
  · rintro k (⟨j, v, rfl, found', holds⟩ | ⟨none, -⟩ | ⟨none, -⟩)
    · have other : i ≠ j := by
        rintro rfl
        obtain rfl : w = v := Option.some.inj (found.symm.trans found')
        simp [own] at holds
      exact .inl ⟨j, v, rfl, by rw [workers, List.getElem?_set_ne other, found'], pel ▸ holds⟩
    · simp [held] at none
    · simp [held] at none

/-- While a pending message is in flight the reader does not disturb the helpers. -/
theorem helps_reader (flight : (taken s || queued s) = true) (pel : t.redis.pel = s.redis.pel)
    (workers : t.proc.workers = s.proc.workers) (queue : queued s = true → queued t = true) :
    ¬Helps cfg s .reader ∧ ∀ k, Helps cfg s k → Helps cfg t k := by
  have taken_eq := taken_congr pel workers
  constructor
  · rintro (⟨i, w, same, -⟩ | ⟨-, -, i, -, same⟩ | ⟨none, none', -⟩)
    · cases same
    · cases same
    · simp [none, none'] at flight
  · rintro k (⟨i, w, rfl, found, holds⟩ | ⟨none, -, rest⟩ | ⟨none, none', -⟩)
    · exact .inl ⟨i, w, rfl, by rw [workers, found], pel ▸ holds⟩
    · have waits : queued s = true := by simpa [none] using flight
      exact .inr (.inl ⟨taken_eq.trans none, .inl (queue waits), rest⟩)
    · simp [none, none'] at flight

/-- A read of pending messages brings the reader a malformed one, or a batch. -/
theorem stage_afterDecode {pel ids poisonIds : List MsgId} {rows : List PyVal} {mode : Mode}
    (pending : (∃ id ∈ poisonIds, id ∈ pel) ∨ poisonIds = [] ∧ ∃ id ∈ ids, id ∈ pel) :
    (afterDecode mode ⟨⟨ids, rows⟩, poisonIds⟩).stage pel < 3 := by
  rcases pending with ⟨id, mem, here⟩ | ⟨rfl, id, mem, here⟩
  · have some' : (poisonIds.any fun id => pel.contains id) = true :=
      List.any_eq_true.mpr ⟨id, mem, by simpa using here⟩
    have nonempty : ¬poisonIds.isEmpty = true := by
      rw [List.isEmpty_iff]
      exact List.ne_nil_of_mem mem
    rw [afterDecode, if_neg nonempty]
    simp only [Reader.stage, if_pos some']
    decide
  · have holds : Batch.holds pel ⟨ids, rows⟩ = true :=
      List.any_eq_true.mpr ⟨id, mem, by simpa using here⟩
    have nonempty : ¬ids.isEmpty = true := by
      rw [List.isEmpty_iff]
      exact List.ne_nil_of_mem mem
    have batch : afterDecode mode ⟨⟨ids, rows⟩, []⟩ = .putting mode ⟨ids, rows⟩ :=
      (if_pos rfl).trans (if_neg nonempty)
    simp only [batch, Reader.stage, if_pos holds]
    decide

theorem DrainInv.stage_read (inv : DrainInv cfg stores s) {n : Nat}
    (some' : s.redis.pel.take n ≠ []) :
    (afterDecode .draining
      (decodeEntries cfg (s.redis.entries (s.redis.pel.take n)))).stage s.redis.pel < 3 := by
  obtain ⟨id, mem⟩ := List.exists_mem_of_ne_nil _ some'
  obtain ⟨fields, found, -⟩ := inv.pending id (List.mem_of_mem_take mem)
  have entry : (id, fields) ∈ s.redis.entries (s.redis.pel.take n) := mem_entries.mpr ⟨mem, found⟩
  rw [decodeEntries_eq]
  apply stage_afterDecode
  rcases none : malformedIds cfg (s.redis.entries (s.redis.pel.take n)) with _ | ⟨id', rest⟩
  · refine .inr ⟨rfl, id, ?_, List.mem_of_mem_take mem⟩
    cases decodes : entryRows cfg fields with
    | some rows => exact mem_decodedIds.mpr ⟨fields, rows, entry, decodes⟩
    | none =>
        have malformed := mem_malformedIds.mpr ⟨fields, entry, decodes⟩
        simp [none] at malformed
  · have mem' : id' ∈ malformedIds cfg (s.redis.entries (s.redis.pel.take n)) :=
      none ▸ List.mem_cons_self
    obtain ⟨fields', entry', -⟩ := mem_malformedIds.mp mem'
    exact .inl ⟨id', List.mem_cons_self, List.mem_of_mem_take (mem_entries.mp entry').1⟩

theorem stage_afterPoison (pel : List MsgId) (mode : Mode) (batch : Batch) :
    (afterPoison mode batch).stage pel < 5 := by
  unfold afterPoison
  split_ifs
  · exact (by decide : 3 < 5)
  · simp only [Reader.stage]
    split_ifs <;> decide

theorem DrainInv.ackPoison_progress {mode : Mode} {poisonIds : List MsgId} {batch : Batch}
    (acking : s.proc.reader = .ackingPoison mode poisonIds batch) :
    Progress cfg s .reader
      ({ s with redis := s.redis.xack poisonIds }.setReader (afterPoison mode batch)) := by
  cases pending : poisonIds.any fun id => s.redis.pel.contains id with
  | true => exact .inl (measure_lt_of_pel (xack_shorter pending))
  | false =>
      have pel := xack_same pending
      cases flight : taken s || queued s with
      | true =>
          refine .inr ⟨measure_reader flight pel rfl rfl, helps_reader flight pel rfl ?_⟩
          intro waits
          simpa [queued, State.setReader, pel] using waits
      | false =>
          refine .inl (measure_reader_stage flight pel rfl rfl ?_)
          rw [acking]
          simp only [Reader.stage, pending]
          exact stage_afterPoison _ _ _

/-- What a worker does with its own message. -/
theorem worker_progress {i : Nat} {w w' : Worker} (found : s.proc.workers[i]? = some w)
    (pel : t.redis.pel = s.redis.pel) (workers : t.proc.workers = s.proc.workers.set i w')
    (reader : t.proc.reader = s.proc.reader) (queue : t.proc.queue = s.proc.queue)
    (holds : w'.holds s.redis.pel = w.holds s.redis.pel) (less : w'.work < w.work) :
    Progress cfg s (.worker i) t := by
  rcases measure_worker found pel workers reader queue holds less with lower | ⟨same, held, own⟩
  · exact .inl lower
  · exact .inr ⟨same, helps_worker found held own pel workers⟩

theorem afterChunk_holds (pel : List MsgId) (batch : Batch) (todo : List (List Tuple)) :
    (afterChunk batch todo).holds pel = batch.holds pel := by
  cases todo <;> rfl

theorem afterChunk_work (batch : Batch) (todo : List (List Tuple)) :
    (afterChunk batch todo).work = todo.length + 1 := by
  cases todo <;> rfl

theorem DrainInv.progress (flush : 0 < cfg.rowsPerFlush) (inv : DrainInv cfg stores s)
    (step : Healthy cfg stores s l t) : Live t ∨ Progress cfg s l t := by
  cases step with
  | produce fields =>
      refine .inr (.inr ⟨rfl, ?_, fun k helps => helps⟩)
      rintro (⟨i, w, same, -⟩ | ⟨-, -, i, -, same⟩ | ⟨-, -, -, same⟩) <;> cases same
  | drained reading empty => exact .inl rfl
  | readPending reading some' =>
      right
      cases flight : taken s || queued s with
      | true =>
          exact .inr ⟨measure_reader flight rfl rfl rfl, helps_reader flight rfl rfl id⟩
      | false =>
          refine .inl (measure_reader_stage flight rfl rfl rfl ?_)
          rw [reading]
          exact inv.stage_read some'
  | readNew n reading count available =>
      have drains := inv.reader
      rw [reading] at drains
      cases drains
  | ackPoison mode poisonIds batch acking => exact .inr (ackPoison_progress acking)
  | put mode batch putting room =>
      right
      cases flight : taken s || queued s with
      | true =>
          refine .inr ⟨measure_put flight rfl rfl rfl, helps_reader flight rfl rfl ?_⟩
          intro waits
          obtain ⟨item, mem, holds⟩ := List.any_eq_true.mp waits
          exact List.any_eq_true.mpr ⟨item, List.mem_append_left _ mem, holds⟩
      | false => exact .inl (measure_put_stage flight putting rfl rfl rfl rfl)
  | get i batch rest idle queue =>
      right
      obtain ⟨batch', same, writable⟩ := inv.queue (some batch) (queue ▸ List.mem_cons_self)
      obtain rfl : batch = batch' := Option.some.inj same
      obtain ⟨todo, eq, -⟩ := startBatch_writable flush writable
      have holds : (startBatch cfg batch).holds s.redis.pel = batch.holds s.redis.pel := by
        rw [eq, afterChunk_holds]
      let after : State :=
        { s with proc := { s.proc with queue := rest } }.setWorker i (startBatch cfg batch)
      have next : drainMeasure cfg after < drainMeasure cfg s ∨
          drainMeasure cfg after = drainMeasure cfg s ∧ taken s = true :=
        measure_get idle queue rfl rfl rfl rfl holds
      rcases next with lower | ⟨equal, held⟩
      · exact .inl lower
      · exact .inr ⟨equal, helps_worker idle held rfl rfl rfl⟩
  | commit i batch chunk todo writing accepted =>
      refine .inr (worker_progress writing rfl rfl rfl rfl (afterChunk_holds _ _ _) ?_)
      rw [afterChunk_work]
      simp [Worker.work]
  | rollback i batch chunk todo writing rejected =>
      obtain ⟨record, mem, no⟩ := rejected
      have drains := inv.workers _ (List.mem_of_getElem? writing)
      have yes := drains.2 chunk List.mem_cons_self record mem
      rw [no] at yes
      cases yes
  | ack i batch acking =>
      right
      cases pending : batch.messageIds.any fun id => s.redis.pel.contains id with
      | true => exact .inl (measure_lt_of_pel (xack_shorter pending))
      | false =>
          exact worker_progress acking (xack_same pending) rfl rfl rfl pending.symm Nat.one_pos

/-- The replay is ranked. -/
def drainRanking (workers : 0 < cfg.workerCount) (flush : 0 < cfg.rowsPerFlush) (s₀ : State) :
    (healthy cfg stores s₀).Ranking (· ∈ tasks cfg) (DrainInv cfg stores) Live
      (Nat ×ₗ Nat ×ₗ Nat ×ₗ Nat) where
  measure := drainMeasure cfg
  helps := Helps cfg
  helped _ inv _ := inv.helped workers
  enabled _ _ inv _ helps := inv.helper_enabled helps
  kept _ _ _ inv _ step := inv.step flush step
  lowers _ _ _ inv _ helps step := by
    rcases inv.progress flush step with live | lower | ⟨-, no, -⟩
    · exact .inl live
    · exact .inr lower
    · exact absurd helps no
  steady _ _ _ inv _ step := by
    rcases inv.progress flush step with live | lower | ⟨same, -, keeps⟩
    · exact .inl live
    · exact .inr (.inl lower)
    · exact .inr (.inr ⟨same, keeps⟩)

/-- A restart with writable or malformed messages only. -/
theorem Restarted.drainInv (restarted : Restarted cfg s)
    (writable : ∀ id ∈ s.redis.pel, ∀ fields, s.redis.stream[id]? = some fields →
      ¬Unwritable cfg stores fields) : DrainInv cfg stores s where
  reader := by
    rw [restarted.fresh]
    rfl
  queue := by simp [restarted.fresh, Process.fresh]
  workers := by
    rw [restarted.fresh]
    exact Process.forall_fresh trivial
  count := by simp [restarted.fresh, Process.fresh]
  pending id mem := by
    have found := List.getElem?_eq_getElem (restarted.known id mem)
    exact ⟨_, found, writable id mem _ found⟩

theorem drainTerminates_of_writable (workers : 0 < cfg.workerCount) (flush : 0 < cfg.rowsPerFlush)
    {s₀ : State} (restarted : Restarted cfg s₀)
    (writable : ∀ id ∈ s₀.redis.pel, ∀ fields, s₀.redis.stream[id]? = some fields →
      ¬Unwritable cfg stores fields) : DrainTerminates cfg stores s₀ := by
  intro run start
  refine run.reaches (drainRanking workers flush s₀) ?_
  rw [start]
  exact restarted.drainInv writable

/-! ## A message that cannot be written -/

/-- A batch with the message has its row. -/
def Covers (id : MsgId) (row : PyVal) (batch : Batch) : Prop :=
  id ∈ batch.messageIds → row ∈ batch.rows

def ReaderStuck (id : MsgId) (row : PyVal) : Reader → Prop
  | .reading mode => mode = .draining
  | .ackingPoison mode poisonIds batch => mode = .draining ∧ id ∉ poisonIds ∧ Covers id row batch
  | .putting mode batch => mode = .draining ∧ Covers id row batch
  | .closing _ => False

/-- A worker that writes the message has a rejected chunk before it. -/
def WorkerStuck (stores : Tuple → Bool) (id : MsgId) : Worker → Prop
  | .idle => True
  | .writing batch todo => id ∈ batch.messageIds →
      ∃ chunk ∈ todo, ∃ record ∈ chunk, stores record = false
  | .acking batch => id ∉ batch.messageIds
  | .done => True

/-- The message is pending, decodes to rows with the given one, and is with nobody who
could acknowledge it. -/
structure StuckInv (cfg : Config) (stores : Tuple → Bool) (id : MsgId) (row : PyVal)
    (s : State) : Prop where
  pending : id ∈ s.redis.pel
  decodes : ∃ fields rows, s.redis.stream[id]? = some fields ∧
    entryRows cfg fields = some rows ∧ row ∈ rows
  reader : ReaderStuck id row s.proc.reader
  queue : ∀ batch, some batch ∈ s.proc.queue → Covers id row batch
  workers : ∀ w ∈ s.proc.workers, WorkerStuck stores id w

variable {id : MsgId} {row : PyVal}

theorem StuckInv.setWorker (inv : StuckInv cfg stores id row s) (i : Nat) {w : Worker}
    (stuck : WorkerStuck stores id w) : StuckInv cfg stores id row (s.setWorker i w) where
  pending := inv.pending
  decodes := inv.decodes
  reader := inv.reader
  queue := inv.queue
  workers := State.forall_setWorker inv.workers stuck

theorem StuckInv.xack (inv : StuckInv cfg stores id row s) {ids : List MsgId} (other : id ∉ ids) :
    StuckInv cfg stores id row { s with redis := s.redis.xack ids } :=
  { inv with pending := mem_pel_xack.mpr ⟨inv.pending, other⟩ }

theorem afterPoison_stuck {batch : Batch} (covers : Covers id row batch) :
    ReaderStuck id row (afterPoison .draining batch) := by
  unfold afterPoison
  split_ifs
  · rfl
  · exact ⟨rfl, covers⟩

theorem afterChunk_stuck {batch : Batch} {todo : List (List Tuple)}
    (rejected : id ∈ batch.messageIds → ∃ chunk ∈ todo, ∃ record ∈ chunk, stores record = false) :
    WorkerStuck stores id (afterChunk batch todo) := by
  cases todo with
  | nil =>
      intro mem
      simpa using rejected mem
  | cons chunk rest => exact rejected

/-- A batch with the message comes to no acknowledgement. -/
theorem startBatch_stuck (flush : 0 < cfg.rowsPerFlush) (bad : rowWritable cfg stores row = false)
    {batch : Batch} (covers : Covers id row batch) :
    WorkerStuck stores id (startBatch cfg batch) := by
  by_cases mem : id ∈ batch.messageIds
  · rcases startBatch_unwritable flush (covers mem) bad with idle | ⟨todo, eq, rejected⟩
    · rw [idle]
      trivial
    · rw [eq]
      exact fun _ => rejected
  · have vacuous (todo : List (List Tuple)) : WorkerStuck stores id (afterChunk batch todo) :=
      afterChunk_stuck fun here => absurd here mem
    rcases startBatch_cases cfg batch with ⟨-, eq⟩ | ⟨-, eq, -⟩ | ⟨-, -, -, todo, -, -, eq⟩
    · exact eq ▸ vacuous []
    · rw [eq]
      trivial
    · exact eq ▸ vacuous todo

/-- A read returns the message with its rows, not as malformed. -/
theorem StuckInv.read (inv : StuckInv cfg stores id row s) (ids : List MsgId) :
    ReaderStuck id row (afterDecode .draining (decodeEntries cfg (s.redis.entries ids))) := by
  obtain ⟨fields, rows, found, decodes, within⟩ := inv.decodes
  have own {fields' : Fields} (entry : (id, fields') ∈ s.redis.entries ids) : fields' = fields :=
    Option.some.inj ((mem_entries.mp entry).2.symm.trans found)
  have covers : Covers id row ⟨decodedIds cfg (s.redis.entries ids),
      decodedRows cfg (s.redis.entries ids)⟩ := by
    intro mem
    obtain ⟨fields', rows', entry, decodes'⟩ := mem_decodedIds.mp mem
    obtain rfl := own entry
    exact mem_decodedRows.mpr ⟨id, fields', rows, entry, decodes, within⟩
  have sound : id ∉ malformedIds cfg (s.redis.entries ids) := by
    intro mem
    obtain ⟨fields', entry, none⟩ := mem_malformedIds.mp mem
    obtain rfl := own entry
    simp [none] at decodes
  rw [decodeEntries_eq, afterDecode]
  split_ifs
  · exact afterPoison_stuck covers
  · exact ⟨rfl, sound, covers⟩

theorem StuckInv.step (count : 0 < cfg.readerBatchSize) (flush : 0 < cfg.rowsPerFlush)
    (bad : rowWritable cfg stores row = false) (inv : StuckInv cfg stores id row s)
    (step : Healthy cfg stores s l t) : StuckInv cfg stores id row t := by
  cases step with
  | produce fields =>
      refine { inv with decodes := ?_ }
      obtain ⟨fields', rows, found, rest⟩ := inv.decodes
      exact ⟨fields', rows,
        List.getElem?_append_left (List.getElem?_eq_some_iff.mp found).1 ▸ found, rest⟩
  | drained reading empty =>
      rcases List.take_eq_nil_iff.mp empty with zero | none
      · omega
      · have pending := inv.pending
        simp [none] at pending
  | readPending reading some' => exact { inv with reader := inv.read _ }
  | readNew n reading count available =>
      have stuck := inv.reader
      rw [reading] at stuck
      cases stuck
  | ackPoison mode poisonIds batch acking =>
      have stuck := inv.reader
      rw [acking] at stuck
      obtain ⟨rfl, other, covers⟩ := stuck
      exact { inv.xack other with reader := afterPoison_stuck covers }
  | put mode batch putting room =>
      have stuck := inv.reader
      rw [putting] at stuck
      obtain ⟨rfl, covers⟩ := stuck
      refine { inv with reader := rfl, queue := fun batch' mem => ?_ }
      rcases List.mem_append.mp mem with before | now
      · exact inv.queue batch' before
      · obtain rfl := Option.some.inj (List.mem_singleton.mp now)
        exact covers
  | get i batch rest idle queue =>
      have covers := inv.queue batch (queue ▸ List.mem_cons_self)
      have shorter : StuckInv cfg stores id row { s with proc := { s.proc with queue := rest } } :=
        { inv with queue := fun b mem => inv.queue b (queue ▸ List.mem_cons_of_mem _ mem) }
      exact shorter.setWorker i (startBatch_stuck flush bad covers)
  | commit i batch chunk todo writing accepted =>
      have stuck := inv.workers _ (List.mem_of_getElem? writing)
      have same : StuckInv cfg stores id row { s with db := s.db.flush cfg i chunk } := { inv with }
      refine same.setWorker i (afterChunk_stuck fun mem => ?_)
      -- the rejected chunk is not the one that has just committed
      obtain ⟨chunk', mem', record, within, rejected⟩ := stuck mem
      rcases List.mem_cons.mp mem' with rfl | later
      · have stored := accepted record within
        rw [rejected] at stored
        cases stored
      · exact ⟨chunk', later, record, within, rejected⟩
  | rollback i batch chunk todo writing rejected => exact inv.setWorker i trivial
  | ack i batch acking =>
      have other := inv.workers _ (List.mem_of_getElem? acking)
      exact (inv.xack other).setWorker i trivial

theorem StuckInv.not_live (inv : StuckInv cfg stores id row s) : ¬Live s := by
  intro live
  have stuck := inv.reader
  rw [live] at stuck
  cases stuck

theorem not_drainTerminates_of_unwritable (count : 0 < cfg.readerBatchSize)
    (flush : 0 < cfg.rowsPerFlush) {s₀ : State} (restarted : Restarted cfg s₀)
    (pending : id ∈ s₀.redis.pel) {fields : Fields} (found : s₀.redis.stream[id]? = some fields)
    (unwritable : Unwritable cfg stores fields) : ¬DrainTerminates cfg stores s₀ := by
  intro terminates
  obtain ⟨rows, decodes, row, within, bad⟩ := unwritable
  have stuck : StuckInv cfg stores id row s₀ :=
    { pending
      decodes := ⟨fields, rows, found, decodes, within⟩
      reader := by rw [restarted.fresh]; rfl
      queue := by simp [restarted.fresh, Process.fresh]
      workers := by
        rw [restarted.fresh]
        exact Process.forall_fresh trivial }
  -- there is a fair run, and it keeps the message
  have always : ∀ s, (healthy cfg stores s₀).Enabled s .producer :=
    fun s => ⟨_, .produce s Dict.empty⟩
  obtain ⟨run, start⟩ := System.exists_fairRun (tasks cfg) always s₀
  obtain ⟨n, live⟩ := terminates run start
  have inv : StuckInv cfg stores id row (run.state n) := by
    apply run.invariant (start.symm ▸ stuck)
    intro s l t inv step
    exact inv.step count flush bad step
  exact inv.not_live live

/-- **The replay ends exactly when no pending message has a row that cannot be
written.** -/
theorem drain_terminates_iff {s₀ : State} (count : 0 < cfg.readerBatchSize)
    (workers : 0 < cfg.workerCount) (flush : 0 < cfg.rowsPerFlush)
    (restarted : Restarted cfg s₀) :
    DrainTerminates cfg stores s₀ ↔
      ∀ id ∈ s₀.redis.pel, ∀ fields, s₀.redis.stream[id]? = some fields →
        ¬Unwritable cfg stores fields := by
  constructor
  · intro terminates id pending fields found unwritable
    exact not_drainTerminates_of_unwritable count flush restarted pending found unwritable
      terminates
  · exact drainTerminates_of_writable workers flush restarted

/-- A crash that left one message pending. -/
def onePending (cfg : Config) (fields : Fields) : State where
  redis := ⟨[fields], 1, [0], []⟩
  db := ⟨Dict.empty, List.replicate cfg.workerCount [], []⟩
  proc := .fresh cfg

theorem onePending_restarted (cfg : Config) (fields : Fields) :
    Restarted cfg (onePending cfg fields) where
  fresh := rfl
  known id mem := by
    rw [List.mem_singleton.mp mem]
    exact Nat.one_pos

theorem drain_terminates_iff_speed :
    DrainTerminates (speedConsumer 5000) (fun _ => true)
      (onePending (speedConsumer 5000) speedMessage) := by
  refine (drain_terminates_iff (by decide) (by decide) (by decide)
    (onePending_restarted _ _)).mpr ?_
  intro id mem fields found
  obtain rfl := List.mem_singleton.mp mem
  obtain rfl : speedMessage = fields := Option.some.inj found
  have decoded : entryRows (speedConsumer 5000) speedMessage = some [speedRow] := by
    decide +kernel
  exact not_unwritable decoded (by decide +kernel)

/-- A malformed UUID is enough: the database takes every record, and the replay of the
one message never ends. -/
theorem garbled_replayed_forever :
    ¬DrainTerminates garbledConsumer (fun _ => true)
      (onePending garbledConsumer garbledMessage) := by
  refine not_drainTerminates_of_unwritable (by decide) (by decide) (onePending_restarted _ _)
    List.mem_cons_self rfl ⟨[garbledRow], by decide +kernel, garbledRow, List.mem_cons_self, ?_⟩
  decide +kernel

end LocoTwin.DbWriter
