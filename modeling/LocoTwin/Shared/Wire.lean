/-
# Shared.Wire -- payloads as Python values, before `encode` and after `decode`

What `wire.decode` can return: the values a msgpack message unpacks to.  Truth
value, `get` and iteration are those of the language, with their errors.

A `Row` is what `xadd_rows` is given: UUIDs and datetimes stand in it as they are.  The
encoder is a library, `Ormsgpack`; what is documented of it is `Ormsgpack.Laws`: a message
that was encoded decodes to its payload, with a UUID as its canonical text, a datetime as
its RFC 3339 text, and the rest unchanged.
-/
import LocoTwin.Shared.Python

namespace LocoTwin.Shared

set_option autoImplicit false

/-- An unpacked value; the entries of a `dict` have distinct keys. -/
inductive PyVal where
  | none
  | bool (b : Bool)
  | int (i : Int)
  | float (f : PyFloat)
  | str (s : String)
  | bytes (b : List UInt8)
  | list (xs : List PyVal)
  | dict (entries : List (String × PyVal))

namespace PyVal

/-! Equality of nested values, by the structure of both. -/

mutual

def beq : PyVal → PyVal → Bool
  | .none, .none => true
  | .bool a, .bool b => a == b
  | .int a, .int b => a == b
  | .float a, .float b => decide (a = b)
  | .str a, .str b => a == b
  | .bytes a, .bytes b => a == b
  | .list a, .list b => beqList a b
  | .dict a, .dict b => beqEntries a b
  | _, _ => false

def beqList : List PyVal → List PyVal → Bool
  | [], [] => true
  | a :: as, b :: bs => beq a b && beqList as bs
  | _, _ => false

def beqEntries : List (String × PyVal) → List (String × PyVal) → Bool
  | [], [] => true
  | (k, a) :: as, (l, b) :: bs => k == l && beq a b && beqEntries as bs
  | _, _ => false

end

mutual

theorem beq_iff : ∀ a b : PyVal, beq a b = true ↔ a = b
  | .list a, b => by cases b <;> simp [beq, beqList_iff a]
  | .dict a, b => by cases b <;> simp [beq, beqEntries_iff a]
  | .none, b => by cases b <;> simp [beq]
  | .bool a, b => by cases b <;> simp [beq]
  | .int a, b => by cases b <;> simp [beq]
  | .float a, b => by cases b <;> simp [beq]
  | .str a, b => by cases b <;> simp [beq]
  | .bytes a, b => by cases b <;> simp [beq]

theorem beqList_iff : ∀ a b : List PyVal, beqList a b = true ↔ a = b
  | [], b => by cases b <;> simp [beqList]
  | a :: as, b => by cases b <;> simp [beqList, beq_iff a, beqList_iff as]

theorem beqEntries_iff : ∀ a b : List (String × PyVal), beqEntries a b = true ↔ a = b
  | [], b => by cases b <;> simp [beqEntries]
  | (k, a) :: as, b => by
      cases b with
      | nil => simp [beqEntries]
      | cons e bs => simp [beqEntries, beq_iff a, beqEntries_iff as, Prod.ext_iff]

end

instance : DecidableEq PyVal := fun a b => decidable_of_iff (beq a b = true) (beq_iff a b)

/-- `bool(v)` -/
def truthy : PyVal → Bool
  | .none => false
  | .bool b => b
  | .int i => i != 0
  | .float f => !decide (f = 0)
  | .str s => s != ""
  | .bytes b => !b.isEmpty
  | .list xs => !xs.isEmpty
  | .dict es => !es.isEmpty

/-- `v.get(name)`, `None` for a missing name. -/
def get (v : PyVal) (name : String) : Except PyError PyVal :=
  match v with
  | .dict entries => .ok ((entries.lookup name).getD .none)
  | _ => .error { kind := "AttributeError", text := "object has no attribute 'get'" }

/-- The elements `list.extend(v)` appends. -/
def elements : PyVal → Except PyError (List PyVal)
  | .list xs => .ok xs
  | .dict es => .ok (es.map fun e => .str e.1)
  | .str s => .ok (s.toList.map fun c => .str c.toString)
  | .bytes b => .ok (b.map fun x => .int x.toNat)
  | _ => .error { kind := "TypeError", text := "object is not iterable" }

end PyVal

/-! ## Rows before they are encoded -/

/-- A value of a row. -/
inductive Field where
  | uuid (u : UUID)
  | datetime (t : Datetime)
  | plain (v : PyVal)
  deriving DecidableEq

/-- A row dictionary, in the order in which it is written. -/
abbrev Row := List (String × Field)

section Decoded

/-! What a row comes out as, given the text of a datetime. -/

variable (rfc3339 : Datetime → Option String)

def wireField : Field → Option PyVal
  | .uuid u => some (.str (UUID.str u))
  | .datetime t => (rfc3339 t).map .str
  | .plain v => some v

def wireEntry (e : String × Field) : Option (String × PyVal) :=
  (wireField rfc3339 e.2).map fun v => (e.1, v)

def wireRow (row : Row) : Option PyVal := (row.mapM (wireEntry rfc3339)).map .dict

/-- `{"rows": rows}` -/
def wirePayload (rows : List Row) : Option PyVal :=
  (rows.mapM (wireRow rfc3339)).map fun rows => .dict [("rows", .list rows)]

end Decoded

/-- `ormsgpack`: `packb` of a payload `{"rows": rows}`, `unpackb`, and the text of a
datetime, which has one where its year has four digits. -/
structure Ormsgpack where
  packb : List Row → Except PyError (List UInt8)
  unpackb : List UInt8 → Except PyError PyVal
  rfc3339 : Datetime → Option String

/-- An encoded payload decodes to what is documented. -/
def Ormsgpack.Laws (orm : Ormsgpack) : Prop :=
  ∀ rows raw, orm.packb rows = .ok raw →
    ∃ payload, wirePayload orm.rfc3339 rows = some payload ∧ orm.unpackb raw = .ok payload

end LocoTwin.Shared
