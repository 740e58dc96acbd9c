/-
# Lib.Csv -- comma-separated text, written and read

`writeRow` quotes a field that has a comma, a quote or a line break in it, doubling its
quotes; rows end in CR LF.  A row of one empty field is written with quotes, as it would
otherwise be an empty line.

`read` goes over the text once, with the state of a reader of RFC 4180: a line break between
quotes belongs to the field, two quotes there are one.

* `read_write`: rows that have fields are read back as they were written.
-/
import Mathlib.Data.List.Basic

namespace LocoTwin.Lib.Csv

set_option autoImplicit false

/-! ## Writing -/

def comma : Char := Char.ofNat 44

def quote : Char := Char.ofNat 34

def cr : Char := Char.ofNat 13

def lf : Char := Char.ofNat 10

def special (c : Char) : Bool := c == comma || c == quote || c == cr || c == lf

/-- With every quote twice. -/
def doubled (field : List Char) : List Char :=
  field.flatMap fun c => if c = quote then [quote, quote] else [c]

def writeQuoted (field : List Char) : List Char := quote :: (doubled field ++ [quote])

def writeField (field : List Char) : List Char :=
  if field.any special then writeQuoted field else field

def writeFields : List (List Char) → List Char
  | [] => []
  | [field] => writeField field
  | field :: field' :: fields => writeField field ++ comma :: writeFields (field' :: fields)

def writeRow (row : List (List Char)) : List Char :=
  (if row = [[]] then writeQuoted [] else writeFields row) ++ [cr, lf]

def write (rows : List (List (List Char))) : List Char := rows.flatMap writeRow

/-! ## Reading -/

inductive Mode where
  /-- At the first character of a line. -/
  | startRow
  | startField
  | inField
  | inQuotes
  /-- After a quote between quotes: the end of the field, or the first of two. -/
  | afterQuote
  /-- After a CR, to which an LF belongs. -/
  | afterCr
  deriving DecidableEq

structure Reader where
  mode : Mode
  field : List Char
  row : List (List Char)
  rows : List (List (List Char))

namespace Reader

def start (rows : List (List (List Char))) : Reader := ⟨.startRow, [], [], rows⟩

/-- The field has ended. -/
def endField (r : Reader) : Reader := ⟨.startField, [], r.row ++ [r.field], r.rows⟩

/-- The field and its row have ended. -/
def endRow (r : Reader) (mode : Mode) : Reader := ⟨mode, [], [], r.rows ++ [r.row ++ [r.field]]⟩

def add (r : Reader) (mode : Mode) (c : Char) : Reader :=
  { r with mode, field := r.field ++ [c] }

/-- A character outside quotes. -/
def plain (r : Reader) (c : Char) : Reader :=
  if c = comma then r.endField
  else if c = cr then r.endRow .afterCr
  else if c = lf then r.endRow .startRow
  else r.add .inField c

/-- The first character of a line, which may be empty. -/
def first (r : Reader) (c : Char) : Reader :=
  if c = quote then { r with mode := .inQuotes }
  else if c = cr then { r with mode := .afterCr, rows := r.rows ++ [[]] }
  else if c = lf then { r with mode := .startRow, rows := r.rows ++ [[]] }
  else r.plain c

def step (r : Reader) (c : Char) : Reader :=
  match r.mode with
  | .startRow => r.first c
  | .startField => if c = quote then { r with mode := .inQuotes } else r.plain c
  | .inField => r.plain c
  | .inQuotes => if c = quote then { r with mode := .afterQuote } else r.add .inQuotes c
  | .afterQuote => if c = quote then r.add .inQuotes c else r.plain c
  | .afterCr => if c = lf then { r with mode := .startRow } else r.first c

def feed (r : Reader) (text : List Char) : Reader := text.foldl step r

/-- At the end of the text, where a last line may lack its line break. -/
def finish (r : Reader) : List (List (List Char)) :=
  match r.mode with
  | .startRow | .afterCr => r.rows
  | _ => r.rows ++ [r.row ++ [r.field]]

end Reader

def read (text : List Char) : List (List (List Char)) := ((Reader.start []).feed text).finish

/-! ## Reading what was written -/

namespace Reader

variable {r : Reader}

@[simp] theorem feed_nil (r : Reader) : r.feed [] = r := rfl

@[simp] theorem feed_cons (r : Reader) (c : Char) (text : List Char) :
    r.feed (c :: text) = (r.step c).feed text := rfl

@[simp] theorem feed_append (r : Reader) (text text' : List Char) :
    r.feed (text ++ text') = (r.feed text).feed text' := List.foldl_append

/-- Between quotes, a field is read with its quotes halved. -/
theorem feed_doubled (quotes : r.mode = .inQuotes) (field : List Char) :
    r.feed (doubled field) = { r with field := r.field ++ field } := by
  induction field generalizing r with
  | nil => simp [doubled]
  | cons c field ih =>
      have split : doubled (c :: field) =
          (if c = quote then [quote, quote] else [c]) ++ doubled field := List.flatMap_cons
      rw [split, feed_append]
      have one : r.feed (if c = quote then [quote, quote] else [c]) = r.add .inQuotes c := by
        by_cases same : c = quote
        · subst same
          simp [step, quotes, add]
        · simp [step, quotes, same]
      rw [one, ih rfl]
      simp [add, quotes]

theorem plain_other {c : Char} (other : special c = false) (r : Reader) :
    r.plain c = r.add .inField c := by
  simp only [special, Bool.or_eq_false_iff, beq_eq_false_iff_ne, ne_eq] at other
  obtain ⟨⟨⟨notComma, -⟩, notCr⟩, notLf⟩ := other
  rw [plain, if_neg notComma, if_neg notCr, if_neg notLf]

theorem feed_plain (inside : r.mode = .inField) {field : List Char}
    (others : field.any special = false) :
    r.feed field = { r with field := r.field ++ field } := by
  induction field generalizing r with
  | nil => simp
  | cons c field ih =>
      rw [List.any_cons, Bool.or_eq_false_iff] at others
      have one : r.step c = r.add .inField c := by
        rw [step, inside]
        exact plain_other others.1 r
      rw [feed_cons, one, ih rfl others.2]
      simp [add, inside]

/-- At the start of a field. -/
def AtStart (r : Reader) : Prop := (r.mode = .startRow ∨ r.mode = .startField) ∧ r.field = []

theorem step_quote (start : r.AtStart) : r.step quote = { r with mode := .inQuotes } := by
  obtain ⟨first | field, -⟩ := start
  · simp [step, Reader.first, first]
  · simp [step, field]

theorem step_other (start : r.AtStart) {c : Char} (other : special c = false) :
    r.step c = r.add .inField c := by
  have notQuote : c ≠ quote ∧ c ≠ cr ∧ c ≠ lf := by
    simp only [special, Bool.or_eq_false_iff, beq_eq_false_iff_ne, ne_eq] at other
    exact ⟨other.1.1.2, other.1.2, other.2⟩
  obtain ⟨first | field, -⟩ := start
  · simp [step, Reader.first, first, notQuote, plain_other other]
  · simp [step, field, notQuote, plain_other other]

/-- A field has been read, up to the character that ends it. -/
structure Read (r r' : Reader) (field : List Char) : Prop where
  mode : r'.mode = .inField ∨ r'.mode = .afterQuote ∨ r'.mode = r.mode ∧ field = []
  field : r'.field = field
  row : r'.row = r.row
  rows : r'.rows = r.rows

theorem feed_quoted (start : r.AtStart) (field : List Char) :
    Read r (r.feed (writeQuoted field)) field ∧
      (r.feed (writeQuoted field)).mode = .afterQuote := by
  have quoted : r.feed (writeQuoted field) = { r with mode := .afterQuote, field } := by
    rw [writeQuoted, feed_cons, step_quote start, feed_append, feed_doubled rfl]
    simp [step, start.2]
  rw [quoted]
  exact ⟨⟨.inr (.inl rfl), rfl, rfl, rfl⟩, rfl⟩

theorem feed_field (start : r.AtStart) (field : List Char) :
    Read r (r.feed (writeField field)) field := by
  by_cases quotes : field.any special = true
  · rw [writeField, if_pos quotes]
    exact (feed_quoted start field).1
  · rw [writeField, if_neg quotes]
    have others := Bool.eq_false_iff.mpr quotes
    cases field with
    | nil => exact ⟨.inr (.inr ⟨rfl, rfl⟩), start.2, rfl, rfl⟩
    | cons c field =>
        rw [List.any_cons, Bool.or_eq_false_iff] at others
        rw [feed_cons, step_other start others.1, feed_plain rfl others.2]
        refine ⟨.inl rfl, ?_, rfl, rfl⟩
        simp [add, start.2]

theorem Read.comma {r' : Reader} {field : List Char} (read : Read r r' field)
    (start : r.AtStart) :
    r'.step Csv.comma = ⟨.startField, [], r.row ++ [field], r.rows⟩ := by
  have ends : r'.endField = ⟨.startField, [], r.row ++ [field], r.rows⟩ := by
    rw [endField, read.row, read.field, read.rows]
  have plain' : r'.plain Csv.comma = r'.endField := if_pos rfl
  have notQuote : Csv.comma ≠ quote := by decide
  rw [← ends, ← plain']
  rcases read.mode with inside | after | ⟨same, -⟩
  · simp [step, inside]
  · simp [step, after, notQuote]
  · rcases start.1 with first | field
    · simp [step, same, first, Reader.first, notQuote, show Csv.comma ≠ cr by decide,
        show Csv.comma ≠ lf by decide]
    · simp [step, same, field, notQuote]

/-- A field that is not an empty line is ended by the line break. -/
theorem Read.line {r' : Reader} {field : List Char} (read : Read r r' field)
    (start : r.AtStart) (line : ¬ (r'.mode = .startRow ∧ field = [])) :
    r'.feed [cr, lf] = Reader.start (r.rows ++ [r.row ++ [field]]) := by
  have notQuote : cr ≠ quote := by decide
  have one : r'.step cr = r'.endRow .afterCr := by
    have plain' : r'.plain cr = r'.endRow .afterCr := by
      rw [plain, if_neg (by decide), if_pos rfl]
    rw [← plain']
    rcases read.mode with inside | after | ⟨same, empty⟩
    · simp [step, inside]
    · simp [step, after, notQuote]
    · rcases start.1 with first | field
      · exact absurd ⟨same.trans first, empty⟩ line
      · simp [step, same, field, notQuote]
  rw [feed_cons, one, feed_cons, feed_nil, endRow, read.row, read.field, read.rows]
  simp [step, Reader.start]

theorem feed_fields {fields : List (List Char)} (some' : fields ≠ []) (start : r.AtStart)
    (line : ¬ (r.mode = .startRow ∧ fields = [[]])) :
    (r.feed (writeFields fields)).feed [cr, lf] = Reader.start (r.rows ++ [r.row ++ fields]) := by
  induction fields generalizing r with
  | nil => exact absurd rfl some'
  | cons field fields ih =>
      have read := feed_field start field
      cases fields with
      | nil =>
          refine read.line start ?_
          rintro ⟨mode, rfl⟩
          rcases read.mode with inside | after | ⟨same, -⟩
          · rw [mode] at inside
            cases inside
          · rw [mode] at after
            cases after
          · exact line ⟨same.symm.trans mode, rfl⟩
      | cons field' fields =>
          rw [writeFields, feed_append, feed_cons _ Csv.comma, read.comma start, ih (by simp)
            ⟨.inr rfl, rfl⟩ (by simp)]
          simp

theorem feed_row {row : List (List Char)} (some' : row ≠ []) (rows : List (List (List Char))) :
    (Reader.start rows).feed (writeRow row) = Reader.start (rows ++ [row]) := by
  have start : (Reader.start rows).AtStart := ⟨.inl rfl, rfl⟩
  rw [writeRow, feed_append]
  split
  case isTrue empty =>
    obtain ⟨read, mode⟩ := feed_quoted start []
    rw [empty]
    refine read.line start ?_
    rw [mode]
    rintro ⟨same, -⟩
    cases same
  case isFalse full => exact feed_fields some' start fun same => full same.2

end Reader

/-- **What was written is read back**, whatever is in the fields. -/
theorem read_write {rows : List (List (List Char))} (full : ∀ row ∈ rows, row ≠ []) :
    read (write rows) = rows := by
  have fed (before : List (List (List Char))) :
      (Reader.start before).feed (write rows) = Reader.start (before ++ rows) := by
    induction rows generalizing before with
    | nil => simp [write]
    | cons row rows ih =>
        have split : write (row :: rows) = writeRow row ++ write rows := List.flatMap_cons
        rw [split, Reader.feed_append, Reader.feed_row (full row List.mem_cons_self),
          ih (fun row' mem => full row' (List.mem_cons_of_mem row mem)), List.append_assoc]
        rfl
  rw [read, fed]
  rfl

end LocoTwin.Lib.Csv
