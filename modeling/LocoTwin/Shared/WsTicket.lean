/-
# Shared.WsTicket -- one-time tickets for WebSocket connections

`create_ticket` stores who a ticket is for under a key of its own, for 30 seconds;
`validate_ticket` reads and deletes it in one step.  JSON is the standard library's: what
is used of it is that it reads back the two strings of a ticket.

* `validateTicket_some`: an answer was stored under the key of the ticket, and is live;
* `validateTicket_found`: what `create_ticket` stored is read back.
-/
import LocoTwin.Lib.Expiring
import LocoTwin.Shared.Wire

namespace LocoTwin.Shared

open LocoTwin.Lib

set_option autoImplicit false

/-- `json.dumps` and `json.loads`. -/
structure Json where
  dumps : PyVal → String
  loads : String → Except PyError PyVal

/-- The keys of the Redis database, with the texts they hold. -/
abbrev RedisStore := Expiring String String

def wsTicketPrefix : String := "ws:ticket"

/-- Seconds. -/
def wsTicketTtl : Int := 30

def ticketKey (ticket : String) : String := wsTicketPrefix ++ ":" ++ ticket

theorem ticketKey_injective {t t' : String} (same : ticketKey t = ticketKey t') : t = t' := by
  unfold ticketKey at same
  exact (String.append_right_inj _).mp same

/-- What is stored for a ticket. -/
def ticketData (userId role : String) : PyVal :=
  .dict [("user_id", .str userId), ("role", .str role)]

/-- The data of a ticket are read back as they were written. -/
def Json.Laws (json : Json) : Prop :=
  ∀ userId role, json.loads (json.dumps (ticketData userId role)) = .ok (ticketData userId role)

variable (json : Json)

/-- The store after `create_ticket`, for the given random UUID. -/
def createTicket (redis : RedisStore) (now : Datetime) (uuid4 : UUID) (userId role : String) :
    RedisStore :=
  redis.set (ticketKey (UUID.str uuid4)) (json.dumps (ticketData userId role))
    (some (now + wsTicketTtl * 1000000))

/-- The answer of `validate_ticket`, and the store it leaves. -/
def validateTicket (redis : RedisStore) (now : Datetime) (ticket : String) :
    Except PyError (Option PyVal) × RedisStore :=
  let (raw, redis) := redis.getdel now (ticketKey ticket)
  (match raw with
    | none => .ok none
    | some raw => (json.loads raw).map some, redis)

variable {json}

/-- An answer was stored, and has not expired. -/
theorem validateTicket_some {redis : RedisStore} {now : Datetime} {ticket : String} {info : PyVal}
    (valid : (validateTicket json redis now ticket).1 = .ok (some info)) :
    ∃ raw, redis.get? now (ticketKey ticket) = some raw ∧ json.loads raw = .ok info := by
  simp only [validateTicket, Expiring.getdel] at valid
  cases found : redis.get? now (ticketKey ticket) with
  | none =>
      rw [found] at valid
      cases valid
  | some raw =>
      rw [found] at valid
      cases loaded : json.loads raw with
      | error exc =>
          simp only [loaded, Except.map] at valid
          cases valid
      | ok v =>
          simp only [loaded, Except.map, Except.ok.injEq, Option.some.injEq] at valid
          exact ⟨raw, rfl, valid ▸ loaded⟩

/-- What was stored for the ticket is the answer. -/
theorem validateTicket_found (laws : json.Laws) {redis : RedisStore} {now : Datetime}
    {ticket userId role : String}
    (found : redis.get? now (ticketKey ticket) = some (json.dumps (ticketData userId role))) :
    (validateTicket json redis now ticket).1 = .ok (some (ticketData userId role)) := by
  simp only [validateTicket, Expiring.getdel, found, laws userId role, Except.map]

end LocoTwin.Shared
