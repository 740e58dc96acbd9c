/-
# DbWriter.EnqueueOnce -- what a live read puts on the queue

`XREADGROUP … >` hands an entry out once; from there on it is up to `_enqueue_entries` to put
it on the queue.  Between the two lies one call, the `XACK` of the malformed entries of the
same read.  When it raises, `_reader_loop` logs the error and reads on, and the messages that
did decode stay in the pending list until a restart.

`Tracked` records, for the process that is running, what has been handed out and what was
put on the queue and taken from it.

* `put_once_iff`: along a run every message that decodes is put on the queue exactly once,
  and is still there or was taken by a worker, exactly when no such `XACK` fails;
* `stranded_message`: it fails, and a good message of the same read is never queued.
-/
import LocoTwin.DbWriter.Durability
import Mathlib.Data.List.ReduceOption

namespace LocoTwin.DbWriter

open LocoTwin.Lib LocoTwin.Shared

set_option autoImplicit false

/-! ## Tracking -/

/-- The entries `XREADGROUP … >` hands out in a step. -/
def deliveredBy (s s' : State) : List (MsgId × Fields) :=
  s'.redis.entries
    (List.range' s.redis.delivered (s'.redis.delivered - s.redis.delivered))

structure Tracked where
  state : State
  /-- The entries handed out since the process was started, whose answer arrived. -/
  read : List (MsgId × Fields)
  /-- Those whose answer was lost. -/
  lost : List (MsgId × Fields)
  put : List Batch
  taken : List Batch

/-- After an answer the reader is at its next read only where the answer was lost. -/
def Tracked.next (t : Tracked) (l : Label) (s' : State) : Tracked :=
  match l with
  | .producer => { t with state := s' }
  | .reader =>
      { state := s'
        read := t.read ++
          if s'.proc.reader = .reading .live then [] else deliveredBy t.state s'
        lost := t.lost ++
          if s'.proc.reader = .reading .live then deliveredBy t.state s' else []
        put := t.put ++ (s'.proc.queue.drop t.state.proc.queue.length).reduceOption
        taken := t.taken }
  | .worker _ =>
      { t with
        state := s'
        taken := t.taken ++
          (t.state.proc.queue.take (t.state.proc.queue.length - s'.proc.queue.length)).reduceOption }
  | .crash => ⟨s', [], [], [], []⟩

@[simp] theorem Tracked.next_state (t : Tracked) (l : Label) (s' : State) :
    (t.next l s').state = s' := by
  cases l <;> rfl

/-- The consumer with its tracking; a label holds the state after the step. -/
def tracked (cfg : Config) : System Tracked (Label × State) where
  init t := (consumer cfg).init t.state ∧ t.read = [] ∧ t.lost = [] ∧ t.put = [] ∧ t.taken = []
  step t e t' := Step cfg t.state e.1 e.2 ∧ t' = t.next e.1 e.2

/-- The entries handed out; `countLost` counts those that never got to the process. -/
def Tracked.handedOut (t : Tracked) (countLost : Bool) : List (MsgId × Fields) :=
  t.read ++ if countLost then t.lost else []

def Tracked.putIds (t : Tracked) : List MsgId := t.put.flatMap Batch.messageIds

/-- At the next read no message that decodes is stranded. -/
def NoneStranded (cfg : Config) (countLost : Bool) (t : Tracked) : Prop :=
  t.state.proc.reader = .reading .live → ∀ id ∈ decodedIds cfg (t.handedOut countLost),
    t.putIds.count id = 1 ∧
      ((∃ batch, some batch ∈ t.state.proc.queue ∧ id ∈ batch.messageIds) ∨
        ∃ batch ∈ t.taken, id ∈ batch.messageIds)

/-- The steps that lose a message that decodes. -/
inductive Strands (cfg : Config) (countLost : Bool) : State → State → Prop where
  /-- The `XACK` of the malformed entries raises. -/
  | ackPoisonFails (s : State) (poisonIds : List MsgId) (batch : Batch) (applied : Bool) :
      s.proc.reader = .ackingPoison .live poisonIds batch → batch.messageIds ≠ [] →
      Strands cfg countLost s
        ({ s with redis := if applied then s.redis.xack poisonIds else s.redis }.setReader
          (.reading .live))
  /-- The answer of the read is lost. -/
  | answerLost (s : State) (n : Nat) : countLost = true → s.proc.reader = .reading .live →
      n ≤ cfg.readerBatchSize → s.redis.delivered + n ≤ s.redis.stream.length →
      decodedIds cfg (s.redis.entries (List.range' s.redis.delivered n)) ≠ [] →
      Strands cfg countLost s ({ s with redis := s.redis.deliver n }.setReader (.reading .live))

/-- Every run of the consumer can be tracked. -/
theorem tracked_run {cfg : Config} {t : Tracked} {ls : List Label} {s' : State}
    (run : (consumer cfg).Run t.state ls s') :
    ∃ es t', (tracked cfg).Run t es t' ∧ es.map Prod.fst = ls ∧ t'.state = s' := by
  generalize start : t.state = s at run
  induction run with
  | nil => exact ⟨[], t, .nil t, rfl, start⟩
  | @snoc s₁ s₂ ls l run step ih =>
      obtain ⟨es, t', tracked, same, here⟩ := ih
      refine ⟨es ++ [(l, s₂)], t'.next l s₂, .snoc tracked ⟨here ▸ step, rfl⟩, by simp [same], ?_⟩
      exact Tracked.next_state t' l s₂

/-! ## What the reader holds -/

/-- The ids of the batch at an await of the reader. -/
def Reader.hand : Reader → List MsgId
  | .ackingPoison _ _ batch | .putting _ batch => batch.messageIds
  | _ => []

def Reader.isDraining : Reader → Bool
  | .reading .draining | .ackingPoison .draining _ _ | .putting .draining _ => true
  | _ => false

theorem afterPoison_hand (mode : Mode) (batch : Batch) :
    (afterPoison mode batch).hand = batch.messageIds := by
  unfold afterPoison
  split
  case isTrue empty => exact (List.isEmpty_iff.mp empty).symm
  case isFalse => rfl

theorem afterPoison_isDraining (mode : Mode) (batch : Batch) :
    (afterPoison mode batch).isDraining = (mode == .draining) := by
  unfold afterPoison
  split <;> cases mode <;> rfl

theorem afterDecode_hand (mode : Mode) (decoded : Decoded) :
    (afterDecode mode decoded).hand = decoded.batch.messageIds := by
  unfold afterDecode
  split
  · exact afterPoison_hand mode decoded.batch
  · rfl

theorem afterDecode_isDraining (mode : Mode) (decoded : Decoded) :
    (afterDecode mode decoded).isDraining = (mode == .draining) := by
  unfold afterDecode
  split
  · exact afterPoison_isDraining mode decoded.batch
  · cases mode <;> rfl

variable {cfg : Config}

/-- Every entry of a read is good or malformed, so the reader does not read on at once. -/
theorem afterDecode_reading {mode mode' : Mode} {entries : List (MsgId × Fields)}
    (reading : afterDecode mode (decodeEntries cfg entries) = .reading mode') : entries = [] := by
  rw [decodeEntries_eq] at reading
  unfold afterDecode afterPoison at reading
  split_ifs at reading with noPoison noBatch
  rw [List.isEmpty_iff] at noPoison noBatch
  rw [List.eq_nil_iff_forall_not_mem]
  intro e mem
  cases good : entryRows cfg e.2 with
  | none =>
      have here : e.1 ∈ malformedIds cfg entries := mem_malformedIds.mpr ⟨e.2, mem, good⟩
      simp [show malformedIds cfg entries = [] from noPoison] at here
  | some rows =>
      have here : e.1 ∈ decodedIds cfg entries := mem_decodedIds.mpr ⟨e.2, rows, mem, good⟩
      simp [show decodedIds cfg entries = [] from noBatch] at here

/-! ## Entries by position -/

theorem decodedIds_append (xs ys : List (MsgId × Fields)) :
    decodedIds cfg (xs ++ ys) = decodedIds cfg xs ++ decodedIds cfg ys := by
  simp [decodedIds]

theorem ids_sublist (redis : Redis) (ids : List MsgId) :
    ((redis.entries ids).map Prod.fst).Sublist ids := by
  induction ids with
  | nil => exact .slnil
  | cons id ids ih =>
      cases found : redis.stream[id]? with
      | none =>
          have skip : redis.entries (id :: ids) = redis.entries ids := by
            simp [Redis.entries, found]
          rw [skip]
          exact ih.cons id
      | some fields =>
          have here : redis.entries (id :: ids) = (id, fields) :: redis.entries ids := by
            simp [Redis.entries, found]
          rw [here]
          exact ih.cons_cons id

theorem decodedIds_sublist (cfg : Config) (redis : Redis) (ids : List MsgId) :
    (decodedIds cfg (redis.entries ids)).Sublist ids :=
  (List.filter_sublist.map Prod.fst).trans (ids_sublist redis ids)

/-! ## The invariant -/

/-- What is kept as long as no message is stranded. -/
structure Tidy (cfg : Config) (countLost : Bool) (t : Tracked) : Prop where
  pel : ∀ id ∈ t.state.redis.pel, id < t.state.redis.delivered
  fifo : t.put = t.taken ++ t.state.proc.queue.reduceOption
  earlier : ∀ id ∈ t.putIds ++ t.state.proc.reader.hand, id < t.state.redis.delivered
  known : ∀ id ∈ decodedIds cfg (t.handedOut countLost), id < t.state.redis.delivered
  draining : t.state.proc.reader.isDraining = true → t.handedOut countLost = []
  held : t.state.proc.reader.isDraining = false →
    ∀ id ∈ t.state.proc.reader.hand, id ∈ decodedIds cfg (t.handedOut countLost)
  once : (∀ n, t.state.proc.reader ≠ .closing n) →
    ∀ id ∈ decodedIds cfg (t.handedOut countLost),
      (t.putIds ++ t.state.proc.reader.hand).count id = 1

variable {countLost : Bool}

theorem Tidy.noneStranded {t : Tracked} (tidy : Tidy cfg countLost t) :
    NoneStranded cfg countLost t := by
  intro reading id mem
  have once := tidy.once (by simp [reading]) id mem
  rw [reading, show (Reader.reading .live).hand = [] from rfl, List.append_nil] at once
  refine ⟨once, ?_⟩
  have put : id ∈ t.putIds := by
    rw [← List.count_pos_iff, once]
    decide
  obtain ⟨batch, where', inside⟩ := List.mem_flatMap.mp put
  rw [tidy.fifo, List.mem_append, List.reduceOption_mem_iff] at where'
  exact where'.elim (fun taken => .inr ⟨batch, taken, inside⟩) fun queued =>
    .inl ⟨batch, queued, inside⟩

/-! ## A step -/

/-- The reader goes on with the batch it holds, or puts it on the queue, or closes. -/
structure Continues (reader : Reader) (out : List MsgId) (reader' : Reader) : Prop where
  sub : out ++ reader'.hand ⊆ reader.hand
  opened : (∀ n, reader' ≠ .closing n) →
    (∀ n, reader ≠ .closing n) ∧ out ++ reader'.hand = reader.hand
  draining : reader'.isDraining = true → reader.isDraining = true
  live : reader'.isDraining = false → reader'.hand ≠ [] → reader.isDraining = false

theorem Continues.closes (reader : Reader) (n : Nat) : Continues reader [] (.closing n) where
  sub := List.nil_subset _
  opened open' := absurd rfl (open' n)
  draining closed := nomatch closed
  live _ holds := absurd rfl holds

theorem Continues.drained : Continues (.reading .draining) [] (.reading .live) where
  sub := List.nil_subset _
  opened _ := ⟨nofun, rfl⟩
  draining live := nomatch live
  live _ holds := absurd rfl holds

theorem Continues.acked (mode : Mode) (poisonIds : List MsgId) (batch : Batch) :
    Continues (.ackingPoison mode poisonIds batch) [] (afterPoison mode batch) where
  sub := by
    rw [afterPoison_hand]
    exact List.Subset.refl _
  opened _ := ⟨nofun, afterPoison_hand mode batch⟩
  draining draining := by
    rw [afterPoison_isDraining] at draining
    cases mode <;> simp_all [Reader.isDraining]
  live live _ := by
    rw [afterPoison_isDraining] at live
    cases mode <;> simp_all [Reader.isDraining]

/-- Nothing is held that the failing `XACK` could lose. -/
theorem Continues.failed (poisonIds : List MsgId) {batch : Batch} (empty : batch.messageIds = []) :
    Continues (.ackingPoison .live poisonIds batch) [] (.reading .live) where
  sub := List.nil_subset _
  opened _ := ⟨nofun, empty.symm⟩
  draining live := nomatch live
  live _ holds := absurd rfl holds

theorem Continues.put (mode : Mode) (batch : Batch) :
    Continues (.putting mode batch) batch.messageIds (.reading mode) where
  sub := by
    rw [show (Reader.reading mode).hand = [] from rfl, List.append_nil]
    exact List.Subset.refl _
  opened _ := ⟨nofun, List.append_nil _⟩
  draining draining := by cases mode <;> simp_all [Reader.isDraining]
  live live _ := by cases mode <;> simp_all [Reader.isDraining]

theorem next_reader (t : Tracked) (s' : State) (extra : List (Option Batch))
    (delivered : s'.redis.delivered = t.state.redis.delivered)
    (queue : s'.proc.queue = t.state.proc.queue ++ extra) :
    t.next .reader s' = { t with state := s', put := t.put ++ extra.reduceOption } := by
  have none' : deliveredBy t.state s' = [] := by simp [deliveredBy, delivered, Redis.entries]
  simp [Tracked.next, none', queue]

theorem next_reader_quiet (t : Tracked) (s' : State)
    (delivered : s'.redis.delivered = t.state.redis.delivered)
    (queue : s'.proc.queue = t.state.proc.queue) : t.next .reader s' = { t with state := s' } := by
  rw [next_reader t s' [] delivered (by rw [queue, List.append_nil]), List.reduceOption_nil,
    List.append_nil]

namespace Tidy

variable {t : Tracked} {s' : State}

/-- A step of the reader that hands nothing out. -/
theorem reader (tidy : Tidy cfg countLost t) (extra : List (Option Batch))
    (delivered : s'.redis.delivered = t.state.redis.delivered)
    (pel : ∀ id ∈ s'.redis.pel, id ∈ t.state.redis.pel)
    (queue : s'.proc.queue = t.state.proc.queue ++ extra)
    (goes : Continues t.state.proc.reader (extra.reduceOption.flatMap Batch.messageIds)
      s'.proc.reader) :
    Tidy cfg countLost (t.next .reader s') := by
  rw [next_reader t s' extra delivered queue]
  have ids : (t.put ++ extra.reduceOption).flatMap Batch.messageIds ++ s'.proc.reader.hand =
      t.putIds ++ (extra.reduceOption.flatMap Batch.messageIds ++ s'.proc.reader.hand) := by
    rw [List.flatMap_append, List.append_assoc]
    rfl
  refine ⟨?_, ?_, ?_, ?_, ?_, ?_, ?_⟩
  · intro id mem
    exact delivered ▸ tidy.pel id (pel id mem)
  · show t.put ++ _ = t.taken ++ s'.proc.queue.reduceOption
    rw [queue, List.reduceOption_append, tidy.fifo, List.append_assoc]
  · intro id mem
    show id < s'.redis.delivered
    rw [delivered]
    refine tidy.earlier id ?_
    rw [Tracked.putIds, ids] at mem
    exact (List.mem_append.mp mem).elim (List.mem_append_left _) fun new =>
      List.mem_append_right _ (goes.sub new)
  · intro id mem
    exact delivered ▸ tidy.known id mem
  · exact fun draining => tidy.draining (goes.draining draining)
  · intro live id mem
    refine tidy.held (goes.live live (List.ne_nil_of_mem mem)) id ?_
    exact goes.sub (List.mem_append_right _ mem)
  · intro open' id mem
    obtain ⟨before, same⟩ := goes.opened open'
    show (List.flatMap _ _ ++ _).count id = 1
    rw [ids, same]
    exact tidy.once before id mem

theorem worker_step {s : State} {i : Nat} (step : Step cfg s (.worker i) s') :
    s'.proc.reader = s.proc.reader ∧ s'.redis.delivered = s.redis.delivered ∧
      (∀ id ∈ s'.redis.pel, id ∈ s.redis.pel) ∧ ∃ front, s.proc.queue = front ++ s'.proc.queue := by
  have acked (ids : List MsgId) : ∀ id ∈ (s.redis.xack ids).pel, id ∈ s.redis.pel :=
    fun id mem => (mem_pel_xack.mp mem).1
  cases step with
  | get _ batch rest worker queue => exact ⟨rfl, rfl, fun id mem => mem, [some batch], queue⟩
  | getSentinel _ rest worker queue => exact ⟨rfl, rfl, fun id mem => mem, [none], queue⟩
  | commit | rollback | cancelWorker => exact ⟨rfl, rfl, fun id mem => mem, [], rfl⟩
  | ack _ batch worker => exact ⟨rfl, rfl, acked batch.messageIds, [], rfl⟩
  | ackFails _ batch applied worker =>
      cases applied with
      | true => exact ⟨rfl, rfl, acked batch.messageIds, [], rfl⟩
      | false => exact ⟨rfl, rfl, fun id mem => mem, [], rfl⟩

theorem worker (tidy : Tidy cfg countLost t) {i : Nat} (step : Step cfg t.state (.worker i) s') :
    Tidy cfg countLost (t.next (.worker i) s') := by
  obtain ⟨reader, delivered, pel, front, queue⟩ := worker_step step
  have popped : t.state.proc.queue.take
      (t.state.proc.queue.length - s'.proc.queue.length) = front := by
    simp [queue]
  refine ⟨?_, ?_, ?_, ?_, ?_, ?_, ?_⟩
  · intro id mem
    exact delivered ▸ tidy.pel id (pel id mem)
  · show t.put = t.taken ++ (t.state.proc.queue.take _).reduceOption ++ s'.proc.queue.reduceOption
    rw [popped, List.append_assoc, ← List.reduceOption_append, ← queue]
    exact tidy.fifo
  · exact delivered ▸ reader ▸ tidy.earlier
  · exact delivered ▸ tidy.known
  · exact reader ▸ tidy.draining
  · exact reader ▸ tidy.held
  · exact reader ▸ tidy.once

/-- Nothing is handed out while the pending list is drained. -/
theorem readPending (tidy : Tidy cfg countLost t)
    (draining : t.state.proc.reader.isDraining = true) {reader' : Reader}
    (draining' : reader'.isDraining = true) (hand : reader'.hand ⊆ t.state.redis.pel) :
    Tidy cfg countLost (t.next .reader (t.state.setReader reader')) := by
  have nothing : t.handedOut countLost = [] := tidy.draining draining
  rw [next_reader_quiet t (t.state.setReader reader') rfl rfl]
  refine ⟨tidy.pel, tidy.fifo, ?_, tidy.known, fun _ => nothing, ?_, ?_⟩
  · intro id mem
    rcases List.mem_append.mp mem with put | held
    · exact tidy.earlier id (List.mem_append_left _ put)
    · exact tidy.pel id (hand held)
  · intro live
    exact absurd draining' (by rw [show reader'.isDraining = false from live]; decide)
  · intro _ id mem
    have mem : id ∈ decodedIds cfg (t.handedOut countLost) := mem
    rw [nothing] at mem
    cases mem

/-- Entries are handed out, and those that count and decode are in the hand of the reader. -/
theorem deliver (tidy : Tidy cfg countLost t) (reading : t.state.proc.reader = .reading .live)
    {n : Nat} {out : List MsgId} {t' : Tracked}
    (new : out.Sublist (List.range' t.state.redis.delivered n))
    (redis : t'.state.redis = t.state.redis.deliver n)
    (queue : t'.state.proc.queue = t.state.proc.queue)
    (put : t'.put = t.put) (taken : t'.taken = t.taken)
    (hand : t'.state.proc.reader.hand = out) (live : t'.state.proc.reader.isDraining = false)
    (handedOut : ∀ id, id ∈ decodedIds cfg (t'.handedOut countLost) ↔
      id ∈ decodedIds cfg (t.handedOut countLost) ∨ id ∈ out) :
    Tidy cfg countLost t' := by
  have delivered : t'.state.redis.delivered = t.state.redis.delivered + n := by
    rw [redis]
    rfl
  have later : ∀ id ∈ out, t.state.redis.delivered ≤ id ∧ id < t.state.redis.delivered + n :=
    fun id mem => List.mem_range'_1.mp (new.subset mem)
  have putIds : t'.putIds = t.putIds := by rw [Tracked.putIds, put, Tracked.putIds]
  have before : ∀ id ∈ t.putIds, id < t.state.redis.delivered :=
    fun id mem => tidy.earlier id (List.mem_append_left _ mem)
  refine ⟨?_, ?_, ?_, ?_, ?_, ?_, ?_⟩
  · intro id mem
    rw [redis] at mem
    rw [delivered]
    rcases List.mem_append.mp mem with old | now
    · exact Nat.lt_add_right n (tidy.pel id old)
    · exact (List.mem_range'_1.mp now).2
  · rw [put, taken, queue]
    exact tidy.fifo
  · intro id mem
    rw [putIds, hand] at mem
    rw [delivered]
    rcases List.mem_append.mp mem with old | now
    · exact Nat.lt_add_right n (before id old)
    · exact (later id now).2
  · intro id mem
    rw [delivered]
    rcases (handedOut id).mp mem with old | now
    · exact Nat.lt_add_right n (tidy.known id old)
    · exact (later id now).2
  · intro draining
    rw [live] at draining
    cases draining
  · intro _ id mem
    rw [hand] at mem
    exact (handedOut id).mpr (.inr mem)
  · intro _ id mem
    rw [putIds, hand, List.count_append]
    rcases (handedOut id).mp mem with old | now
    · have once := tidy.once (by simp [reading]) id old
      rw [reading, show (Reader.reading .live).hand = [] from rfl, List.append_nil] at once
      have absent : id ∉ out :=
        fun now => absurd (tidy.known id old) (Nat.not_lt.mpr (later id now).1)
      rw [once, List.count_eq_zero_of_not_mem absent]
    · have absent : id ∉ t.putIds :=
        fun old => absurd (before id old) (Nat.not_lt.mpr (later id now).1)
      rw [List.count_eq_zero_of_not_mem absent,
        List.count_eq_one_of_mem (new.nodup List.nodup_range') now]

theorem deliveredBy_deliver (s : State) (n : Nat) (reader : Reader) :
    deliveredBy s ({ s with redis := s.redis.deliver n }.setReader reader) =
      s.redis.entries (List.range' s.redis.delivered n) := by
  have count : s.redis.delivered + n - s.redis.delivered = n := Nat.add_sub_cancel_left _ n
  unfold deliveredBy
  show (s.redis.deliver n).entries (List.range' _ (s.redis.delivered + n - _)) = _
  rw [count]
  rfl

theorem readNew (tidy : Tidy cfg countLost t) (reading : t.state.proc.reader = .reading .live)
    (n : Nat) :
    Tidy cfg countLost (t.next .reader ({ t.state with redis := t.state.redis.deliver n }.setReader
      (afterDecode .live (decodeEntries cfg
        (t.state.redis.entries (List.range' t.state.redis.delivered n)))))) := by
  let entries := t.state.redis.entries (List.range' t.state.redis.delivered n)
  let s' := { t.state with redis := t.state.redis.deliver n }.setReader
    (afterDecode .live (decodeEntries cfg entries))
  have appended : t.next .reader s' = { t with state := s', read := t.read ++ entries } := by
    have out := deliveredBy_deliver t.state n (afterDecode .live (decodeEntries cfg entries))
    simp only [Tracked.next, s', out]
    by_cases onward : afterDecode .live (decodeEntries cfg entries) = .reading .live
    · have none' : entries = [] := afterDecode_reading onward
      simp [State.setReader, entries, none']
    · simp [State.setReader, onward, entries]
  show Tidy cfg countLost (t.next .reader s')
  rw [appended]
  have new := decodedIds_sublist cfg t.state.redis (List.range' t.state.redis.delivered n)
  refine tidy.deliver reading new rfl rfl rfl rfl ?_ ?_ ?_
  · show (afterDecode _ _).hand = _
    rw [afterDecode_hand, decodeEntries_eq]
  · exact afterDecode_isDraining _ _
  · intro id
    show id ∈ decodedIds cfg (t.read ++ entries ++ _) ↔ id ∈ decodedIds cfg (t.read ++ _) ∨ _
    rw [decodedIds_append, decodedIds_append, decodedIds_append]
    simp only [List.mem_append]
    tauto

/-- The answer is lost, with no message that counts. -/
theorem readFails (tidy : Tidy cfg countLost t) (reading : t.state.proc.reader = .reading .live)
    (n : Nat) (nothing : countLost = true →
      decodedIds cfg (t.state.redis.entries (List.range' t.state.redis.delivered n)) = []) :
    Tidy cfg countLost (t.next .reader
      ({ t.state with redis := t.state.redis.deliver n }.setReader (.reading .live))) := by
  have out := deliveredBy_deliver t.state n (.reading .live)
  refine tidy.deliver reading (List.nil_sublist _) rfl rfl ?_ rfl rfl rfl ?_
  · show t.put ++ (t.state.proc.queue.drop _).reduceOption = t.put
    simp
  · intro id
    simp only [Tracked.handedOut, Tracked.next, out]
    cases countLost with
    | false => simp [State.setReader]
    | true => simp [State.setReader, decodedIds_append, nothing rfl]

/-- A process that has just been started. -/
theorem fresh (pel : ∀ id ∈ t.state.redis.pel, id < t.state.redis.delivered)
    (proc : t.state.proc = .fresh cfg) (nothing : t.handedOut countLost = []) (put : t.put = [])
    (taken : t.taken = []) : Tidy cfg countLost t := by
  have putIds : t.putIds = [] := by rw [Tracked.putIds, put, List.flatMap_nil]
  refine ⟨pel, ?_, ?_, ?_, fun _ => nothing, ?_, ?_⟩
  · rw [put, taken, proc]
    rfl
  · rw [putIds, proc]
    intro id mem
    cases mem
  all_goals rw [nothing]
  · intro id mem
    cases mem
  · intro _ id mem
    rw [proc] at mem
    cases mem
  · intro _ id mem
    cases mem

/-- What a step keeps, unless it strands a message. -/
theorem step (tidy : Tidy cfg countLost t) {l : Label} (step : Step cfg t.state l s')
    (kept : ¬Strands cfg countLost t.state s') : Tidy cfg countLost (t.next l s') := by
  have same : ∀ id ∈ t.state.redis.pel, id ∈ t.state.redis.pel := fun id mem => mem
  have acked (ids : List MsgId) :
      ∀ id ∈ (t.state.redis.xack ids).pel, id ∈ t.state.redis.pel :=
    fun id mem => (mem_pel_xack.mp mem).1
  have nothing : t.state.proc.queue = t.state.proc.queue ++ [] := (List.append_nil _).symm
  cases l with
  | producer =>
      cases step with
      | produce fields =>
          exact ⟨tidy.pel, tidy.fifo, tidy.earlier, tidy.known, tidy.draining, tidy.held, tidy.once⟩
  | worker i => exact tidy.worker step
  | crash =>
      cases step with
      | crash => exact .fresh tidy.pel rfl (by cases countLost <;> rfl) rfl rfl
  | reader =>
      cases step with
      | drained reading none' =>
          exact tidy.reader [] rfl same nothing (reading ▸ .drained)
      | readPending reading some' =>
          refine tidy.readPending (by rw [reading]; rfl) (afterDecode_isDraining _ _) ?_
          rw [afterDecode_hand, decodeEntries_eq]
          exact ((decodedIds_sublist cfg _ _).trans (List.take_sublist _ _)).subset
      | readNew n reading count available => exact tidy.readNew reading n
      | readFails mode n reading count available draining =>
          cases mode with
          | draining =>
              obtain rfl : n = 0 := draining rfl
              refine tidy.reader [] rfl ?_ nothing (.closes _ _)
              intro id mem
              simpa [Redis.deliver, State.setReader] using mem
          | live =>
              refine tidy.readFails reading n ?_
              intro counted
              by_contra some'
              exact kept (.answerLost t.state n counted reading count available some')
      | ackPoison mode poisonIds batch acking =>
          exact tidy.reader [] rfl (acked poisonIds) nothing
            (acking ▸ .acked mode poisonIds batch)
      | ackPoisonFails mode poisonIds batch applied acking =>
          have pel : ∀ id ∈ (if applied then t.state.redis.xack poisonIds
              else t.state.redis).pel, id ∈ t.state.redis.pel := by
            cases applied with
            | true => exact acked poisonIds
            | false => exact same
          have delivered : (if applied then t.state.redis.xack poisonIds
              else t.state.redis).delivered = t.state.redis.delivered := by
            cases applied <;> rfl
          cases mode with
          | draining => exact tidy.reader [] delivered pel nothing (.closes _ _)
          | live =>
              have empty : batch.messageIds = [] := by
                by_contra some'
                exact kept (.ackPoisonFails t.state poisonIds batch applied acking some')
              exact tidy.reader [] delivered pel nothing
                (acking ▸ .failed poisonIds empty)
      | put mode batch putting room =>
          refine tidy.reader [some batch] rfl same rfl ?_
          simpa [putting] using Continues.put mode batch
      | stop sentinels open' => exact tidy.reader [] rfl same nothing (.closes _ _)
      | putSentinel sentinels closing room =>
          exact tidy.reader [none] rfl same rfl (.closes _ _)

theorem init (start : (tracked cfg).init t) : Tidy cfg countLost t := by
  obtain ⟨⟨-, pel, -, -, -, -, proc⟩, read, lost, put, taken⟩ := start
  refine .fresh ?_ proc ?_ put taken
  · rw [pel]
    intro id mem
    cases mem
  · rw [Tracked.handedOut, read, lost]
    cases countLost <;> rfl

/-- Only the reader comes to its next read. -/
theorem label_of_next {s : State} {l : Label} (step : Step cfg s l s')
    (next : s'.proc.reader = .reading .live)
    (moved : s.proc.reader ≠ .reading .live ∨ s'.redis.delivered ≠ s.redis.delivered) :
    l = .reader := by
  cases l with
  | reader => rfl
  | producer =>
      cases step with
      | produce fields => exact moved.elim (absurd next) (absurd rfl)
  | worker i =>
      obtain ⟨reader, delivered, -⟩ := worker_step step
      exact moved.elim (absurd (reader ▸ next)) (absurd delivered)
  | crash =>
      cases step with
      | crash => cases next

/-- A step that strands a message shows at once. -/
theorem stranded (tidy : Tidy cfg countLost t) {l : Label} (step : Step cfg t.state l s')
    (strands : Strands cfg countLost t.state s') :
    ¬NoneStranded cfg countLost (t.next l s') := by
  intro none'
  cases strands with
  | ackPoisonFails poisonIds batch applied acking some' =>
      obtain rfl := label_of_next step rfl (.inl (by simp [acking]))
      obtain ⟨id, mem⟩ := List.exists_mem_of_ne_nil _ some'
      have held : id ∈ t.state.proc.reader.hand := by
        rw [acking]
        exact mem
      have known := tidy.held (by rw [acking]; rfl) id held
      have once := tidy.once (by simp [acking]) id known
      have seen (redis : Redis) (delivered : redis.delivered = t.state.redis.delivered)
          (none' : NoneStranded cfg countLost
            (t.next .reader ({ t.state with redis }.setReader (.reading .live)))) :
          t.putIds.count id = 1 := by
        have quiet := next_reader_quiet t ({ t.state with redis }.setReader (.reading .live))
          delivered rfl
        rw [quiet] at none'
        exact (none' rfl id known).1
      have found : t.putIds.count id = 1 := by
        cases applied with
        | true => exact seen _ rfl none'
        | false => exact seen _ rfl none'
      rw [List.count_append, found] at once
      have := List.count_pos_iff.mpr held
      omega
  | answerLost n counted reading count available some' =>
      obtain ⟨id, mem⟩ := List.exists_mem_of_ne_nil _ some'
      have later := List.mem_range'_1.mp ((decodedIds_sublist _ _ _).subset mem)
      have further : t.state.redis.delivered + n ≠ t.state.redis.delivered := by omega
      obtain rfl := label_of_next step rfl (.inr further)
      let after := { t.state with redis := t.state.redis.deliver n }.setReader (.reading .live)
      have out : deliveredBy t.state after =
          t.state.redis.entries (List.range' t.state.redis.delivered n) :=
        deliveredBy_deliver t.state n (.reading .live)
      have lost : (t.next .reader after).lost = t.lost ++ deliveredBy t.state after := rfl
      have known : id ∈ decodedIds cfg ((t.next .reader after).handedOut countLost) := by
        rw [Tracked.handedOut, counted, if_pos rfl, lost, out, decodedIds_append,
          decodedIds_append]
        exact List.mem_append_right _ (List.mem_append_right _ mem)
      have found := (none' rfl id known).1
      have put : (t.next .reader after).putIds = t.putIds := by
        simp [Tracked.next, Tracked.putIds, after, State.setReader]
      rw [put] at found
      have inside : id ∈ t.putIds := List.count_pos_iff.mp (by omega)
      exact absurd (tidy.earlier id (List.mem_append_left _ inside)) (Nat.not_lt.mpr later.1)

end Tidy

/-! ## Runs -/

/-- **A message that decodes is put on the queue exactly once**: in every state of a run, if
and only if no step of it strands one. -/
theorem put_once_iff (cfg : Config) (countLost : Bool) {t t' : Tracked}
    {es : List (Label × State)} (start : (tracked cfg).init t) (run : (tracked cfg).Run t es t') :
    (∀ pre u, pre <+: es → (tracked cfg).Run t pre u → NoneStranded cfg countLost u) ↔
      ((tracked cfg).where' fun u e => ¬Strands cfg countLost u.state e.2).Run t es t' := by
  refine run.guarded_iff ?_ (I := Tidy cfg countLost) (.init start) ?_ ?_ ?_
  · rintro s e t u ⟨-, rfl⟩ ⟨-, rfl⟩
    rfl
  · rintro s e t - tidy kept ⟨step, rfl⟩
    exact tidy.step step kept
  · exact fun s tidy => tidy.noneStranded
  · rintro s e t - tidy strands ⟨step, rfl⟩
    exact tidy.stranded step (not_not.mp strands)

/-! ## A read with a malformed entry -/

theorem Strands.readers {s s' : State} (strands : Strands cfg countLost s s') :
    s'.proc.reader = .reading .live ∧ (s.proc.reader = .reading .live ∨
      ∃ poisonIds batch, s.proc.reader = .ackingPoison .live poisonIds batch) := by
  cases strands with
  | ackPoisonFails poisonIds batch applied acking some' =>
      exact ⟨rfl, .inr ⟨poisonIds, batch, acking⟩⟩
  | answerLost n counted reading count available some' => exact ⟨rfl, .inl reading⟩

/-- A step to elsewhere than a live read strands nothing. -/
theorem not_strands_of_reader {s s' : State} (elsewhere : s'.proc.reader ≠ .reading .live) :
    ¬Strands cfg countLost s s' :=
  fun strands => elsewhere strands.readers.1

/-- Nor does one from elsewhere than a live read or its `XACK`. -/
theorem not_strands_from {s s' : State} (reading : s.proc.reader ≠ .reading .live)
    (acking : ∀ poisonIds batch, s.proc.reader ≠ .ackingPoison .live poisonIds batch) :
    ¬Strands cfg countLost s s' := by
  intro strands
  rcases strands.readers.2 with live | ⟨poisonIds, batch, live⟩
  · exact reading live
  · exact acking poisonIds batch live

variable (countLost) in
theorem keeps_step {t u : Tracked} {es : List (Label × State)} {l : Label} {s' : State}
    (run : ((tracked cfg).where' fun u e => ¬Strands cfg countLost u.state e.2).Run t es u)
    (step : Step cfg u.state l s') (kept : ¬Strands cfg countLost u.state s') :
    ((tracked cfg).where' fun u e => ¬Strands cfg countLost u.state e.2).Run t (es ++ [(l, s')])
      (u.next l s') :=
  .snoc run ⟨kept, step, rfl⟩

/-- A good message and one without a payload, in one read. -/
def mixedRead (reader : Reader) (queue : List (Option Batch)) (pel acked : List MsgId) : State where
  redis := ⟨[speedMessage, Dict.empty], 2, pel, acked⟩
  db := ⟨Dict.empty, List.replicate 3 [], []⟩
  proc := ⟨reader, queue, List.replicate 3 .idle⟩

/-- The read, up to the `XACK` of the malformed entry. -/
theorem mixed_read : ∃ t es, (tracked (speedConsumer 5000)).init t ∧
    ((tracked (speedConsumer 5000)).where' fun u e =>
      ¬Strands (speedConsumer 5000) true u.state e.2).Run t es
      ⟨mixedRead (.ackingPoison .live [1] speedBatch) [] [0, 1] [],
        [(0, speedMessage), (1, Dict.empty)], [], [], []⟩ := by
  let start (stream : List Fields) (mode : Mode) : State :=
    ⟨⟨stream, 0, [], []⟩, ⟨Dict.empty, List.replicate 3 [], []⟩,
      ⟨.reading mode, [], List.replicate 3 .idle⟩⟩
  let tracks (s : State) : Tracked := ⟨s, [], [], [], []⟩
  let both := [speedMessage, Dict.empty]
  have decoded : decodeEntries (speedConsumer 5000) [(0, speedMessage), (1, Dict.empty)] =
      ⟨speedBatch, [1]⟩ := by
    have malformed : rawField Dict.empty = none := rfl
    simp [decodeEntries, decodeEntry, rawField_speed, payloadRows_speed, speedBatch, malformed]
  have first : Step (speedConsumer 5000) (start [] .draining) .producer
      (start [speedMessage] .draining) := .produce _ speedMessage
  have second : Step (speedConsumer 5000) (start [speedMessage] .draining) .producer
      (start both .draining) := .produce _ Dict.empty
  have drained : Step (speedConsumer 5000) (start both .draining) .reader (start both .live) :=
    .drained _ rfl rfl
  have read : Step (speedConsumer 5000) (start both .live) .reader
      (mixedRead (.ackingPoison .live [1] speedBatch) [] [0, 1] []) := by
    have step := Step.readNew (start both .live) 2 rfl
      (show 2 ≤ (speedConsumer 5000).readerBatchSize by decide) (by decide)
    have after : afterDecode .live (decodeEntries (speedConsumer 5000)
        ((start both .live).redis.entries (List.range' 0 2))) =
          .ackingPoison .live [1] speedBatch := by
      show afterDecode .live (decodeEntries _ [(0, speedMessage), (1, Dict.empty)]) = _
      rw [decoded]
      rfl
    rw [show (start both .live).redis.delivered = 0 from rfl, after] at step
    exact step
  have published := keeps_step true (.nil (tracks (start [] .draining))) first
    (not_strands_of_reader (by simp [start]))
  have published' := keeps_step true published second (not_strands_of_reader (by simp [start]))
  have live := keeps_step true published' drained
    (not_strands_from (by simp [start]) (by simp [start]))
  have answered := keeps_step true live read (not_strands_of_reader (by simp [mixedRead]))
  exact ⟨_, _, ⟨⟨rfl, rfl, rfl, rfl, rfl, rfl, rfl⟩, rfl, rfl, rfl, rfl⟩, answered⟩

/-- The `XACK` succeeds and the good message is put on the queue. -/
theorem put_once_iff_mixed : ∃ t es t', (tracked (speedConsumer 5000)).Run t es t' ∧
    t'.state.proc.reader = .reading .live ∧ t'.put = [speedBatch] ∧
    NoneStranded (speedConsumer 5000) true t' := by
  obtain ⟨t, es, start, run⟩ := mixed_read
  have acked : Step (speedConsumer 5000)
      (mixedRead (.ackingPoison .live [1] speedBatch) [] [0, 1] []) .reader
      (mixedRead (.putting .live speedBatch) [] [0] [1]) := .ackPoison _ .live [1] speedBatch rfl
  have room : (0 : Int) < (speedConsumer 5000).queueMaxsize := by
    show (0 : Int) < 4
    decide
  have put : Step (speedConsumer 5000) (mixedRead (.putting .live speedBatch) [] [0] [1]) .reader
      (mixedRead (.reading .live) [some speedBatch] [0] [1]) :=
    .put _ .live speedBatch rfl (.inr room)
  have handed := keeps_step true run acked (not_strands_of_reader (by simp [mixedRead]))
  have queued := keeps_step true handed put
    (not_strands_from (by simp [mixedRead]) (by simp [mixedRead]))
  refine ⟨t, _, _, queued.unguarded, rfl, rfl, ?_⟩
  exact (put_once_iff (speedConsumer 5000) true start queued.unguarded).mpr queued _ _
    (List.prefix_refl _) queued.unguarded

/-- The `XACK` raises: the reader is at its next read, and the good message is neither on the
queue nor with a worker, but pending. -/
theorem stranded_message : ∃ t es t', (tracked (speedConsumer 5000)).init t ∧
    (tracked (speedConsumer 5000)).Run t es t' ∧ t'.read = [(0, speedMessage), (1, Dict.empty)] ∧
    t'.state.proc.reader = .reading .live ∧ t'.state.redis.pel = [0, 1] ∧ t'.put = [] ∧
    ¬NoneStranded (speedConsumer 5000) false t' := by
  obtain ⟨t, es, start, run⟩ := mixed_read
  have failed : Step (speedConsumer 5000)
      (mixedRead (.ackingPoison .live [1] speedBatch) [] [0, 1] []) .reader
      (mixedRead (.reading .live) [] [0, 1] []) :=
    .ackPoisonFails _ .live [1] speedBatch false rfl
  have onward := run.unguarded.snoc (l := (.reader, mixedRead (.reading .live) [] [0, 1] []))
    ⟨failed, rfl⟩
  refine ⟨t, _, _, start, onward, rfl, rfl, rfl, rfl, ?_⟩
  intro none'
  have good : 0 ∈ decodedIds (speedConsumer 5000) [(0, speedMessage), (1, Dict.empty)] := by
    refine mem_decodedIds.mpr ⟨speedMessage, [speedRow], by simp, ?_⟩
    exact entryRows_eq_some.mpr ⟨_, rawField_speed, payloadRows_speed 5000⟩
  have put := (none' rfl 0 good).1
  exact absurd put (by decide)

end LocoTwin.DbWriter
