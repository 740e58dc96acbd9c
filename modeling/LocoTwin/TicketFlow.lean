/-
# TicketFlow -- from a password to a WebSocket

The API gateway and the WebSocket server around one database and one Redis.  Requests are
tasks that stop at each of their awaits, so that any number of them overlap: a request that
carries a token is first decoded, then looks its user up, then writes.  Clients hold no
secret: a token that was not issued does not decode.

* `Inv.step`: each row of the table, each ticket in Redis and each task remembers where it
  comes from;
* **`sockets_authentic`**: a socket is open for a ticket that was made for a user who had
  logged in, with that user's id and role, within the 30 seconds of the ticket, and no ticket
  opens more sockets than it was made for;
* **`users_vouched`**: names and ids stay unique, and every user is one of the two defaults or
  was registered by an admin, who is again such a user;
* **`ticket_redeemable`**: a ticket that nobody has presented is admitted until its deadline,
  whatever else happens.

The rest of Redis is written too, under keys of other prefixes.
-/
import LocoTwin.Lib.Transition
import LocoTwin.Shared.WsTicket
import LocoTwin.ApiGateway.Auth
import LocoTwin.WsServer.ConnectionManager

namespace LocoTwin.TicketFlow

open LocoTwin.Lib LocoTwin.Shared LocoTwin.ApiGateway

set_option autoImplicit false

/-! ## The endpoints of the WebSocket server -/

inductive Handshake where
  | close (code : Nat) (reason : String)
  | admitted (userInfo : PyVal)

/-- `ws_live` and `ws_fleet`, up to `accept`: the two begin alike. -/
def authenticate (json : Json) (ready : Bool) (redis : RedisStore) (now : Datetime)
    (ticket : Option String) : Except PyError Handshake × RedisStore :=
  if ¬ ready then (.ok (.close 1011 "Server not ready"), redis)
  else
    match ticket with
    | none => (.ok (.close 4400 "Missing ticket parameter"), redis)
    | some ticket =>
        let (userInfo, redis) := validateTicket json redis now ticket
        (userInfo.map fun
          | none => .close 4401 "Invalid or expired ticket"
          | some info => .admitted info, redis)

/-- The endpoints up to their first subscription: `accept` of the manager closes the socket
of a connection that is over the limit. -/
def connect (json : Json) (ready : Bool) (redis : RedisStore) (now : Datetime)
    (ticket : Option String) (manager : WsServer.ConnectionManager) (ws : WsServer.WsId) :
    Except PyError Handshake × WsServer.ConnectionManager :=
  match (authenticate json ready redis now ticket).1 with
  | .ok (.admitted userInfo) =>
      if manager.full then (.ok (.close 1013 "Server too busy"), manager)
      else (.ok (.admitted userInfo), manager.accept ws)
  | answer => (answer, manager)

/-! ## The state -/

/-- A login that was answered with a token; nobody keeps these. -/
structure Login (τ : Type) where
  token : τ
  user : User
  password : String
  at' : Datetime

/-- A request that carries a token, with the login the token is of. -/
structure Caller (τ : Type) where
  login : Login τ
  /-- When the token was decoded. -/
  decodedAt : Datetime

inductive Route where
  | wsTicket
  | register (username password role : String)

/-- A request at one of its awaits. -/
inductive Task (τ : Type) where
  /-- At the query of `get_current_user`. -/
  | resolving (caller : Caller τ) (userId : String) (route : Route)
  /-- `create_ticket` at its `SET`. -/
  | creating (caller : Caller τ) (user : User)
  /-- `register` at its commit. -/
  | registering (caller : Caller τ) (user : User)
  /-- `seed_admin_user` at its commit, after it has counted no users. -/
  | seeding
  /-- An endpoint at `accept`, after its `GETDEL`. -/
  | accepting (ticket : String) (userInfo : PyVal) (consumedAt : Datetime)

/-- A ticket that was made. -/
structure Issue (τ : Type) where
  ticket : String
  user : User
  caller : Caller τ
  at' : Datetime

structure Socket where
  ticket : String
  userInfo : PyVal
  consumedAt : Datetime

structure State (τ : Type) where
  now : Datetime
  users : List User
  redis : RedisStore
  tasks : List (Task τ)
  /-- What has happened; no code reads these. -/
  logins : List (Login τ)
  issues : List (Issue τ)
  registrations : List (Caller τ × User)
  sockets : List Socket

inductive Label where
  | clock
  | login
  | request
  | query
  | stop
  | createTicket (ticket : String)
  | commit
  | handshake (ticket : Option String)
  | accept
  | elsewhere
  deriving DecidableEq

section

variable {τ : Type} (bcrypt : Bcrypt) (jwt : Jwt τ) (json : Json) (settings : Settings)

/-- The task after the query of its user. -/
def afterQuery (caller : Caller τ) (user : User) (id : UUID) (salt : Bytes) (now : Datetime) :
    Route → Except HttpError (Task τ)
  | .wsTicket => .ok (.creating caller user)
  | .register username password role =>
      (requireAdmin user).map fun _ =>
        .registering caller (newUser bcrypt id username password role salt now)

/-- An admitted connection goes on to `accept`. -/
def admittedTask (answer : Except PyError Handshake) (ticket : Option String) (now : Datetime) :
    List (Task τ) :=
  match ticket, answer with
  | some ticket, .ok (.admitted info) => [.accepting ticket info now]
  | _, _ => []

inductive Step : State τ → Label → State τ → Prop where
  | clock (s : State τ) (later : Datetime) : s.now ≤ later →
      Step s .clock { s with now := later }
  | login (s : State τ) (username password : String) (token : τ) (user : User) :
      login bcrypt jwt settings s.users s.now username password = .ok token →
      user ∈ s.users → user.username = username →
      Step s .login { s with logins := s.logins ++ [⟨token, user, password, s.now⟩] }
  /-- A token that was issued; any other is answered with 401 and starts no task. -/
  | request (s : State τ) (login : Login τ) (userId : String) (route : Route) : login ∈ s.logins →
      tokenUser jwt settings s.now login.token = .ok userId →
      Step s .request { s with tasks := s.tasks ++ [.resolving ⟨login, s.now⟩ userId route] }
  | query (s : State τ) (before after : List (Task τ)) (caller : Caller τ) (userId : String)
      (route : Route) (user : User) (id : UUID) (salt : Bytes) (task : Task τ) :
      s.tasks = before ++ .resolving caller userId route :: after →
      getCurrentUser s.users userId = .ok user →
      afterQuery bcrypt caller user id salt s.now route = .ok task →
      Step s .query { s with tasks := before ++ task :: after }
  /-- A task ends: with an error at any of its awaits, or because the connection is gone. -/
  | stop (s : State τ) (before after : List (Task τ)) (task : Task τ) :
      s.tasks = before ++ task :: after →
      Step s .stop { s with tasks := before ++ after }
  | createTicket (s : State τ) (before after : List (Task τ)) (caller : Caller τ) (user : User)
      (uuid4 : UUID) :
      s.tasks = before ++ .creating caller user :: after →
      Step s (.createTicket (UUID.str uuid4))
        { s with
          redis := createTicket json s.redis s.now uuid4 (UUID.str user.id) user.role
          issues := s.issues ++ [⟨UUID.str uuid4, user, caller, s.now⟩]
          tasks := before ++ after }
  | register (s : State τ) (before after : List (Task τ)) (caller : Caller τ) (user : User)
      (users : List User) :
      s.tasks = before ++ .registering caller user :: after →
      register s.users user = (.ok user, users) →
      Step s .commit
        { s with users, registrations := s.registrations ++ [(caller, user)],
                 tasks := before ++ after }
  | seedCount (s : State τ) : s.users.length = 0 →
      Step s .query { s with tasks := s.tasks ++ [.seeding] }
  | seedCommit (s : State τ) (before after : List (Task τ)) (ids : UUID × UUID)
      (salts : Bytes × Bytes) (users : List User) :
      s.tasks = before ++ .seeding :: after →
      insertAll s.users (defaultUsers bcrypt ids salts s.now) = .ok users →
      Step s .commit { s with users, tasks := before ++ after }
  | handshake (s : State τ) (ready : Bool) (ticket : Option String) :
      Step s (.handshake ticket)
        { s with
          redis := (authenticate json ready s.redis s.now ticket).2
          tasks := s.tasks ++
            admittedTask (authenticate json ready s.redis s.now ticket).1 ticket s.now }
  /-- The manager has room; without room the task stops. -/
  | accept (s : State τ) (before after : List (Task τ)) (ticket : String) (userInfo : PyVal)
      (consumedAt : Datetime) :
      s.tasks = before ++ .accepting ticket userInfo consumedAt :: after →
      Step s .accept
        { s with
          sockets := s.sockets ++ [⟨ticket, userInfo, consumedAt⟩]
          tasks := before ++ after }
  /-- Another use of Redis, under a key of another prefix. -/
  | elsewhere (s : State τ) (write : Expiring.Write String String) :
      (∀ ticket, write.key ≠ ticketKey ticket) →
      Step s .elsewhere { s with redis := write.apply s.redis }

/-- An empty database and an empty Redis. -/
def gateway : System (State τ) Label where
  init s := s.users = [] ∧ s.redis = Expiring.empty ∧ s.tasks = [] ∧ s.logins = [] ∧
    s.issues = [] ∧ s.registrations = [] ∧ s.sockets = []
  step := Step bcrypt jwt json settings

end

/-! ## Where things come from -/

section

variable {τ : Type} {bcrypt : Bcrypt} {jwt : Jwt τ} {json : Json} {settings : Settings}

/-- Nothing is forgotten. -/
structure State.Grows (old new : State τ) : Prop where
  now : old.now ≤ new.now
  users : old.users ⊆ new.users
  logins : old.logins ⊆ new.logins
  issues : old.issues ⊆ new.issues
  registrations : old.registrations ⊆ new.registrations

/-- The user had the password, and the token is theirs. -/
structure LoginOk {τ : Type} (bcrypt : Bcrypt) (jwt : Jwt τ) (settings : Settings) (s : State τ)
    (login : Login τ) : Prop where
  user : login.user ∈ s.users
  password : verifyPassword bcrypt login.password login.user.hashedPassword = true
  token : login.token =
    createAccessToken jwt settings login.at' login.user.id login.user.role
  past : login.at' ≤ s.now

/-- The token was live when it was decoded. -/
structure CallerOk (settings : Settings) (s : State τ) (caller : Caller τ) : Prop where
  login : caller.login ∈ s.logins
  after : caller.login.at' ≤ caller.decodedAt
  fresh : caller.decodedAt < caller.login.at' + settings.jwtExpiryMinutes * 60000000
  past : caller.decodedAt ≤ s.now

structure IssueOk (settings : Settings) (s : State τ) (issue : Issue τ) : Prop where
  caller : CallerOk settings s issue.caller
  user : issue.user = issue.caller.login.user
  after : issue.caller.decodedAt ≤ issue.at'

/-- The ticket was made for these data, and consumed before its deadline. -/
def Opened (s : State τ) (ticket : String) (userInfo : PyVal) (consumedAt : Datetime) : Prop :=
  ∃ issue ∈ s.issues, issue.ticket = ticket ∧
    userInfo = ticketData (UUID.str issue.user.id) issue.user.role ∧
    issue.at' ≤ consumedAt ∧ consumedAt ≤ issue.at' + wsTicketTtl * 1000000

/-- An entry of Redis under the key of a ticket. -/
def CellOk (json : Json) (s : State τ) (key value : String) (deadline : Option Datetime) : Prop :=
  ∀ ticket, key = ticketKey ticket → ∃ issue ∈ s.issues, issue.ticket = ticket ∧
    issue.at' ≤ s.now ∧
    value = json.dumps (ticketData (UUID.str issue.user.id) issue.user.role) ∧
    deadline = some (issue.at' + wsTicketTtl * 1000000)

/-- One of the defaults, or registered by an admin who is vouched for. -/
inductive Vouched (bcrypt : Bcrypt) (registrations : List (Caller τ × User)) : User → Prop where
  | default (ids : UUID × UUID) (salts : Bytes × Bytes) (now : Datetime) (user : User) :
      user ∈ defaultUsers bcrypt ids salts now → Vouched bcrypt registrations user
  | registered (caller : Caller τ) (user : User) : (caller, user) ∈ registrations →
      caller.login.user.role = "admin" → Vouched bcrypt registrations caller.login.user →
      Vouched bcrypt registrations user

def TaskOk (bcrypt : Bcrypt) (settings : Settings) (s : State τ) : Task τ → Prop
  | .resolving caller userId _ => CallerOk settings s caller ∧
      userId = UUID.str caller.login.user.id
  | .creating caller user => CallerOk settings s caller ∧ user = caller.login.user
  | .registering caller _ => CallerOk settings s caller ∧ caller.login.user.role = "admin" ∧
      Vouched bcrypt s.registrations caller.login.user
  | .seeding => True
  | .accepting ticket userInfo consumedAt => Opened s ticket userInfo consumedAt

structure Inv {τ : Type} (bcrypt : Bcrypt) (jwt : Jwt τ) (json : Json) (settings : Settings)
    (s : State τ) : Prop where
  keyed : Keyed s.users
  vouched : ∀ user ∈ s.users, Vouched bcrypt s.registrations user
  logins : ∀ login ∈ s.logins, LoginOk bcrypt jwt settings s login
  issues : ∀ issue ∈ s.issues, IssueOk settings s issue
  registrations : ∀ entry ∈ s.registrations, CallerOk settings s entry.1
  redis : s.redis.All (CellOk json s)
  tasks : ∀ task ∈ s.tasks, TaskOk bcrypt settings s task
  sockets : ∀ socket ∈ s.sockets, Opened s socket.ticket socket.userInfo socket.consumedAt

/-! ## Growth -/

theorem State.Grows.of_eq {s s' : State τ} (now : s.now ≤ s'.now) (users : s'.users = s.users)
    (logins : s'.logins = s.logins) (issues : s'.issues = s.issues)
    (registrations : s'.registrations = s.registrations) : s.Grows s' where
  now := now
  users := users ▸ List.Subset.refl _
  logins := logins ▸ List.Subset.refl _
  issues := issues ▸ List.Subset.refl _
  registrations := registrations ▸ List.Subset.refl _

theorem LoginOk.mono {s s' : State τ} (grows : s.Grows s') {login : Login τ}
    (ok : LoginOk bcrypt jwt settings s login) : LoginOk bcrypt jwt settings s' login where
  user := grows.users ok.user
  password := ok.password
  token := ok.token
  past := ok.past.trans grows.now

theorem CallerOk.mono {s s' : State τ} (grows : s.Grows s') {caller : Caller τ}
    (ok : CallerOk settings s caller) : CallerOk settings s' caller where
  login := grows.logins ok.login
  after := ok.after
  fresh := ok.fresh
  past := ok.past.trans grows.now

theorem IssueOk.mono {s s' : State τ} (grows : s.Grows s') {issue : Issue τ}
    (ok : IssueOk settings s issue) : IssueOk settings s' issue where
  caller := ok.caller.mono grows
  user := ok.user
  after := ok.after

theorem Opened.mono {s s' : State τ} (grows : s.Grows s') {ticket : String} {userInfo : PyVal}
    {consumedAt : Datetime} (opened : Opened s ticket userInfo consumedAt) :
    Opened s' ticket userInfo consumedAt := by
  obtain ⟨issue, mem, rest⟩ := opened
  exact ⟨issue, grows.issues mem, rest⟩

theorem CellOk.mono {s s' : State τ} (grows : s.Grows s') {key value : String}
    {deadline : Option Datetime} (ok : CellOk json s key value deadline) :
    CellOk json s' key value deadline := by
  intro ticket same
  obtain ⟨issue, mem, named, past, rest⟩ := ok ticket same
  exact ⟨issue, grows.issues mem, named, past.trans grows.now, rest⟩

theorem Vouched.mono {old new : List (Caller τ × User)} (sub : old ⊆ new) {user : User}
    (vouched : Vouched bcrypt old user) : Vouched bcrypt new user := by
  induction vouched with
  | default ids salts now user mem => exact .default ids salts now user mem
  | registered caller user mem role _ ih => exact .registered caller user (sub mem) role ih

theorem TaskOk.mono {s s' : State τ} (grows : s.Grows s') {task : Task τ}
    (ok : TaskOk bcrypt settings s task) : TaskOk bcrypt settings s' task := by
  cases task with
  | resolving caller userId route => exact ⟨ok.1.mono grows, ok.2⟩
  | creating caller user => exact ⟨ok.1.mono grows, ok.2⟩
  | registering caller user =>
      exact ⟨ok.1.mono grows, ok.2.1, ok.2.2.mono grows.registrations⟩
  | seeding => trivial
  | accepting ticket userInfo consumedAt => exact Opened.mono grows ok

/-- What was there stays as it is, so only what is new has to be shown. -/
theorem Inv.grow {s s' : State τ} (inv : Inv bcrypt jwt json settings s) (grows : s.Grows s')
    (keyed : Keyed s'.users)
    (users : ∀ user ∈ s'.users, user ∈ s.users ∨ Vouched bcrypt s'.registrations user)
    (logins : ∀ login ∈ s'.logins, login ∈ s.logins ∨ LoginOk bcrypt jwt settings s' login)
    (issues : ∀ issue ∈ s'.issues, issue ∈ s.issues ∨ IssueOk settings s' issue)
    (registrations : ∀ entry ∈ s'.registrations, entry ∈ s.registrations ∨
      CallerOk settings s' entry.1)
    (redis : s'.redis.All (CellOk json s'))
    (tasks : ∀ task ∈ s'.tasks, task ∈ s.tasks ∨ TaskOk bcrypt settings s' task)
    (sockets : ∀ socket ∈ s'.sockets, socket ∈ s.sockets ∨
      Opened s' socket.ticket socket.userInfo socket.consumedAt) :
    Inv bcrypt jwt json settings s' where
  keyed := keyed
  vouched user mem := (users user mem).elim
    (fun before => (inv.vouched user before).mono grows.registrations) id
  logins login mem := (logins login mem).elim
    (fun before => (inv.logins login before).mono grows) id
  issues issue mem := (issues issue mem).elim
    (fun before => (inv.issues issue before).mono grows) id
  registrations entry mem := (registrations entry mem).elim
    (fun before => (inv.registrations entry before).mono grows) id
  redis := redis
  tasks task mem := (tasks task mem).elim (fun before => (inv.tasks task before).mono grows) id
  sockets socket mem := (sockets socket mem).elim
    (fun before => (inv.sockets socket before).mono grows) id

/-- A step that changes only the tasks, each new one with a reason. -/
theorem Inv.setTasks {s : State τ} (inv : Inv bcrypt jwt json settings s) {tasks : List (Task τ)}
    (ok : ∀ task ∈ tasks, task ∈ s.tasks ∨ TaskOk bcrypt settings s task) :
    Inv bcrypt jwt json settings { s with tasks } := by
  have grows : s.Grows { s with tasks } := .of_eq (le_refl _) rfl rfl rfl rfl
  refine inv.grow grows inv.keyed (fun _ => .inl) (fun _ => .inl) (fun _ => .inl) (fun _ => .inl)
    (inv.redis.imp fun _ _ _ cell => cell.mono grows) ?_ (fun _ => .inl)
  intro task mem
  exact (ok task mem).imp_right (TaskOk.mono grows)

theorem mem_replaced {α : Type} {before after : List α} {old new x : α}
    (mem : x ∈ before ++ new :: after) : x ∈ before ++ old :: after ∨ x = new := by
  rcases List.mem_append.mp mem with left | right
  · exact .inl (List.mem_append_left _ left)
  · rcases List.mem_cons.mp right with rfl | later
    · exact .inr rfl
    · exact .inl (List.mem_append_right _ (List.mem_cons_of_mem _ later))

theorem mem_removed {α : Type} {before after : List α} {old x : α}
    (mem : x ∈ before ++ after) : x ∈ before ++ old :: after :=
  ((List.sublist_cons_self old after).append_left before).subset mem

/-! ## One step -/

/-- A token is live for `jwt_expiry_minutes`, cut to whole seconds. -/
theorem fresh_of_decode (laws : jwt.Laws) {login now : Datetime} {userId : UUID} {role : String}
    {payload : TokenPayload}
    (decoded : jwt.decode now (createAccessToken jwt settings login userId role)
      settings.jwtSecret = .ok payload) :
    payload.sub = some (UUID.str userId) ∧
      now < login + settings.jwtExpiryMinutes * 60000000 := by
  rw [createAccessToken, laws.decode] at decoded
  split at decoded
  · cases decoded
  · rename_i live
    obtain rfl := Except.ok.inj decoded
    refine ⟨rfl, ?_⟩
    have cut : expiry settings login * 1000000 ≤ login + settings.jwtExpiryMinutes * 60000000 :=
      Int.ediv_mul_le _ (by decide)
    exact (Int.not_le.mp live).trans_le cut

theorem eq_of_id {users : List User} (keyed : Keyed users) {u v : User} (hu : u ∈ users)
    (hv : v ∈ users) (same : u.id = v.id) : u = v :=
  List.inj_on_of_nodup_map keyed.ids hu hv same

theorem eq_of_username {users : List User} (keyed : Keyed users) {u v : User} (hu : u ∈ users)
    (hv : v ∈ users) (same : u.username = v.username) : u = v :=
  List.inj_on_of_nodup_map keyed.usernames hu hv same

/-- The user of a token is the user who logged in. -/
theorem Inv.current {s : State τ} (inv : Inv bcrypt jwt json settings s) {caller : Caller τ}
    {userId : String} (ok : CallerOk settings s caller)
    (named : userId = UUID.str caller.login.user.id) {user : User}
    (found : getCurrentUser s.users userId = .ok user) : user = caller.login.user := by
  obtain ⟨mem, id⟩ := getCurrentUser_ok found
  apply eq_of_id inv.keyed mem (inv.logins _ ok.login).user
  exact UUID.str_injective (id.trans named)

theorem Inv.afterQuery {s : State τ} (inv : Inv bcrypt jwt json settings s) {caller : Caller τ}
    {user : User} (ok : CallerOk settings s caller) (same : user = caller.login.user)
    (mem : user ∈ s.users) {id : UUID} {salt : Bytes} {route : Route} {task : Task τ}
    (next : afterQuery bcrypt caller user id salt s.now route = .ok task) :
    TaskOk bcrypt settings s task := by
  cases route with
  | wsTicket =>
      obtain rfl := Except.ok.inj next
      exact ⟨ok, same⟩
  | register username password role =>
      simp only [TicketFlow.afterQuery] at next
      cases checked : requireAdmin user with
      | error e =>
          rw [checked] at next
          cases next
      | ok admin =>
          rw [checked] at next
          obtain rfl := Except.ok.inj next
          obtain ⟨rfl, role⟩ := requireAdmin_ok checked
          exact ⟨ok, same ▸ role, inv.vouched _ (same ▸ mem)⟩

theorem Inv.request {s : State τ} (inv : Inv bcrypt jwt json settings s) (laws : jwt.Laws)
    {login : Login τ} {userId : String} (mem : login ∈ s.logins)
    (named : tokenUser jwt settings s.now login.token = .ok userId) :
    CallerOk settings s ⟨login, s.now⟩ ∧ userId = UUID.str login.user.id := by
  have ok := inv.logins login mem
  obtain ⟨payload, decoded, sub⟩ := tokenUser_ok named
  rw [ok.token] at decoded
  obtain ⟨sub', fresh⟩ := fresh_of_decode laws decoded
  rw [sub] at sub'
  exact ⟨⟨mem, ok.past, fresh, le_refl _⟩, Option.some.inj sub'⟩

/-- The row that is added is vouched for, and the table stays keyed. -/
theorem Inv.register {s : State τ} (inv : Inv bcrypt jwt json settings s) {user : User}
    {users : List User} (done : ApiGateway.register s.users user = (.ok user, users)) :
    users = s.users ++ [user] ∧ Keyed users := by
  unfold ApiGateway.register at done
  cases inserted : insert s.users user with
  | error e => cases e <;> simp [inserted] at done
  | ok users' =>
      simp only [inserted, Prod.mk.injEq, true_and] at done
      subst done
      exact ⟨(insert_ok inserted).1, inv.keyed.insert inserted⟩

variable (json) in
theorem authenticate_redis (ready : Bool) (redis : RedisStore) (now : Datetime)
    (ticket : Option String) :
    (authenticate json ready redis now ticket).2 = redis ∨
      ∃ t, ticket = some t ∧
        (authenticate json ready redis now ticket).2 = redis.del (ticketKey t) := by
  unfold authenticate
  split
  · exact .inl rfl
  · cases ticket with
    | none => exact .inl rfl
    | some t => exact .inr ⟨t, rfl, rfl⟩

theorem authenticate_admitted {ready : Bool} {redis : RedisStore} {now : Datetime}
    {ticket : String} {info : PyVal}
    (admitted : (authenticate json ready redis now (some ticket)).1 = .ok (.admitted info)) :
    (validateTicket json redis now ticket).1 = .ok (some info) ∧
      (authenticate json ready redis now (some ticket)).2 = redis.del (ticketKey ticket) := by
  unfold authenticate at admitted ⊢
  split
  · rename_i unready
    simp [unready] at admitted
  · rename_i here
    simp only [here, if_false] at admitted
    refine ⟨?_, rfl⟩
    cases answer : (validateTicket json redis now ticket).1 with
    | error e => simp [answer, Except.map] at admitted
    | ok userInfo => cases userInfo <;> simp_all [Except.map]

theorem mem_admittedTask {answer : Except PyError Handshake} {ticket : Option String}
    {now : Datetime} {task : Task τ} (mem : task ∈ admittedTask answer ticket now) :
    ∃ t info, ticket = some t ∧ answer = .ok (.admitted info) ∧ task = .accepting t info now := by
  unfold admittedTask at mem
  split at mem
  · exact ⟨_, _, rfl, rfl, List.mem_singleton.mp mem⟩
  · cases mem

/-- An admitted ticket was made, and its deadline has not passed. -/
theorem Inv.admitted {s : State τ} (inv : Inv bcrypt jwt json settings s) (laws : json.Laws)
    {ready : Bool} {ticket : String} {info : PyVal}
    (admitted : (authenticate json ready s.redis s.now (some ticket)).1 = .ok (.admitted info)) :
    Opened s ticket info s.now := by
  obtain ⟨raw, found, loaded⟩ := validateTicket_some (authenticate_admitted admitted).1
  obtain ⟨deadline, cell, live⟩ := Expiring.get?_eq_some.mp found
  obtain ⟨issue, mem, named, past, rfl, rfl⟩ := inv.redis _ _ _ cell ticket rfl
  rw [laws] at loaded
  exact ⟨issue, mem, named, (Except.ok.inj loaded).symm, past, of_decide_eq_true live⟩

theorem Inv.init {s : State τ} (start : (gateway bcrypt jwt json settings).init s) :
    Inv bcrypt jwt json settings s := by
  obtain ⟨users, redis, tasks, logins, issues, registrations, sockets⟩ := start
  refine ⟨?_, by simp [users], by simp [logins], by simp [issues],
    by simp [registrations], ?_, by simp [tasks], by simp [sockets]⟩
  · rw [users]
    exact ⟨List.nodup_nil, List.nodup_nil⟩
  · rw [redis]
    exact Expiring.All.empty

/-- A task of the state has its reason. -/
theorem Inv.task {s : State τ} (inv : Inv bcrypt jwt json settings s)
    {before after : List (Task τ)} {task : Task τ} (tasks : s.tasks = before ++ task :: after) :
    TaskOk bcrypt settings s task :=
  inv.tasks _ (tasks ▸ List.mem_append_right _ List.mem_cons_self)

theorem mem_snoc {α : Type} {xs : List α} {new x : α} (mem : x ∈ xs ++ [new]) :
    x ∈ xs ∨ x = new :=
  (List.mem_append.mp mem).imp_right List.mem_singleton.mp

theorem Inv.clock_step {s : State τ} (inv : Inv bcrypt jwt json settings s) {later : Datetime}
    (le : s.now ≤ later) : Inv bcrypt jwt json settings { s with now := later } := by
  have grows : s.Grows { s with now := later } := .of_eq le rfl rfl rfl rfl
  exact inv.grow grows inv.keyed (fun _ => .inl) (fun _ => .inl) (fun _ => .inl) (fun _ => .inl)
    (inv.redis.imp fun _ _ _ cell => cell.mono grows) (fun _ => .inl) (fun _ => .inl)

theorem Inv.login_step {s : State τ} (inv : Inv bcrypt jwt json settings s)
    {username password : String} {token : τ} {user : User}
    (answered : login bcrypt jwt settings s.users s.now username password = .ok token)
    (mem : user ∈ s.users) (named : user.username = username) :
    Inv bcrypt jwt json settings
      { s with logins := s.logins ++ [⟨token, user, password, s.now⟩] } := by
  have grows : s.Grows { s with logins := s.logins ++ [⟨token, user, password, s.now⟩] } :=
    { now := le_refl _
      users := List.Subset.refl _
      logins := List.subset_append_left _ _
      issues := List.Subset.refl _
      registrations := List.Subset.refl _ }
  refine inv.grow grows inv.keyed (fun _ => .inl) ?_ (fun _ => .inl) (fun _ => .inl)
    (inv.redis.imp fun _ _ _ cell => cell.mono grows) (fun _ => .inl) (fun _ => .inl)
  intro login login_mem
  rcases mem_snoc login_mem with before | rfl
  · exact .inl before
  · obtain ⟨user', mem', named', verified, rfl⟩ := login_ok answered
    obtain rfl := eq_of_username inv.keyed mem mem' (named.trans named'.symm)
    exact .inr ⟨mem, verified, rfl, le_refl _⟩

theorem Inv.addTask {s : State τ} (inv : Inv bcrypt jwt json settings s) {new : Task τ}
    (ok : TaskOk bcrypt settings s new) :
    Inv bcrypt jwt json settings { s with tasks := s.tasks ++ [new] } := by
  apply inv.setTasks
  intro task mem
  rcases mem_snoc mem with before | rfl
  · exact .inl before
  · exact .inr ok

theorem Inv.query_step {s : State τ} (inv : Inv bcrypt jwt json settings s)
    {before after : List (Task τ)} {caller : Caller τ} {userId : String} {route : Route}
    {user : User} {id : UUID} {salt : Bytes} {task : Task τ}
    (tasks : s.tasks = before ++ .resolving caller userId route :: after)
    (found : getCurrentUser s.users userId = .ok user)
    (next : TicketFlow.afterQuery bcrypt caller user id salt s.now route = .ok task) :
    Inv bcrypt jwt json settings { s with tasks := before ++ task :: after } := by
  obtain ⟨ok, named⟩ := inv.task tasks
  have same := inv.current ok named found
  apply inv.setTasks
  intro task' mem
  rcases mem_replaced mem with before | rfl
  · exact .inl (tasks ▸ before)
  · exact .inr (inv.afterQuery ok same (getCurrentUser_ok found).1 next)

theorem Inv.createTicket_step {s : State τ} (inv : Inv bcrypt jwt json settings s)
    {before after : List (Task τ)} {caller : Caller τ} {user : User} (uuid4 : UUID)
    (tasks : s.tasks = before ++ .creating caller user :: after) :
    Inv bcrypt jwt json settings
      { s with
        redis := createTicket json s.redis s.now uuid4 (UUID.str user.id) user.role
        issues := s.issues ++ [⟨UUID.str uuid4, user, caller, s.now⟩]
        tasks := before ++ after } := by
  obtain ⟨ok, same⟩ := inv.task tasks
  let issue : Issue τ := ⟨UUID.str uuid4, user, caller, s.now⟩
  have made : issue ∈ s.issues ++ [issue] := List.mem_append_right _ (List.mem_singleton_self _)
  have grows : s.Grows
      { s with
        redis := createTicket json s.redis s.now uuid4 (UUID.str user.id) user.role
        issues := s.issues ++ [issue]
        tasks := before ++ after } :=
    { now := le_refl _, users := List.Subset.refl _, logins := List.Subset.refl _
      issues := List.subset_append_left _ _, registrations := List.Subset.refl _ }
  refine inv.grow grows inv.keyed (fun _ => .inl) (fun _ => .inl) ?_ (fun _ => .inl) ?_ ?_
    (fun _ => .inl)
  · intro issue' mem
    rcases mem_snoc mem with before | rfl
    · exact .inl before
    · exact .inr ⟨ok.mono grows, same, ok.past⟩
  · refine (inv.redis.imp fun _ _ _ cell => cell.mono grows).set ?_
    intro ticket named
    exact ⟨issue, made, ticketKey_injective named, le_refl _, rfl, rfl⟩
  · intro task mem
    exact .inl (tasks ▸ mem_removed mem)

theorem Inv.register_step {s : State τ} (inv : Inv bcrypt jwt json settings s)
    {before after : List (Task τ)} {caller : Caller τ} {user : User} {users : List User}
    (tasks : s.tasks = before ++ .registering caller user :: after)
    (done : ApiGateway.register s.users user = (.ok user, users)) :
    Inv bcrypt jwt json settings
      { s with users, registrations := s.registrations ++ [(caller, user)],
               tasks := before ++ after } := by
  obtain ⟨ok, role, vouched⟩ := inv.task tasks
  obtain ⟨rfl, keyed⟩ := inv.register done
  have grows : s.Grows
      { s with
        users := s.users ++ [user]
        registrations := s.registrations ++ [(caller, user)]
        tasks := before ++ after } :=
    { now := le_refl _, users := List.subset_append_left _ _, logins := List.Subset.refl _
      issues := List.Subset.refl _, registrations := List.subset_append_left _ _ }
  refine inv.grow grows keyed ?_ (fun _ => .inl) (fun _ => .inl) ?_
    (inv.redis.imp fun _ _ _ cell => cell.mono grows) ?_ (fun _ => .inl)
  · intro user' mem
    rcases mem_snoc mem with before | rfl
    · exact .inl before
    · refine .inr (.registered caller user' ?_ role (vouched.mono grows.registrations))
      exact List.mem_append_right _ (List.mem_singleton_self _)
  · intro entry mem
    rcases mem_snoc mem with before | rfl
    · exact .inl before
    · exact .inr (ok.mono grows)
  · intro task mem
    exact .inl (tasks ▸ mem_removed mem)

theorem Inv.seedCommit_step {s : State τ} (inv : Inv bcrypt jwt json settings s)
    {before after : List (Task τ)} {ids : UUID × UUID} {salts : Bytes × Bytes} {users : List User}
    (tasks : s.tasks = before ++ .seeding :: after)
    (inserted : insertAll s.users (defaultUsers bcrypt ids salts s.now) = .ok users) :
    Inv bcrypt jwt json settings { s with users, tasks := before ++ after } := by
  obtain ⟨rfl, keyed⟩ := insertAll_ok inv.keyed inserted
  have grows : s.Grows
      { s with
        users := s.users ++ defaultUsers bcrypt ids salts s.now
        tasks := before ++ after } :=
    { now := le_refl _, users := List.subset_append_left _ _, logins := List.Subset.refl _
      issues := List.Subset.refl _, registrations := List.Subset.refl _ }
  refine inv.grow grows keyed ?_ (fun _ => .inl) (fun _ => .inl) (fun _ => .inl)
    (inv.redis.imp fun _ _ _ cell => cell.mono grows) ?_ (fun _ => .inl)
  · intro user mem
    exact (List.mem_append.mp mem).imp_right (.default ids salts s.now user)
  · intro task mem
    exact .inl (tasks ▸ mem_removed mem)

theorem Inv.handshake_step {s : State τ} (inv : Inv bcrypt jwt json settings s)
    (laws : json.Laws) (ready : Bool) (ticket : Option String) :
    Inv bcrypt jwt json settings
      { s with
        redis := (authenticate json ready s.redis s.now ticket).2
        tasks := s.tasks ++
          admittedTask (authenticate json ready s.redis s.now ticket).1 ticket s.now } := by
  have grows : s.Grows
      { s with
        redis := (authenticate json ready s.redis s.now ticket).2
        tasks := s.tasks ++ admittedTask (authenticate json ready s.redis s.now ticket).1
          ticket s.now } := .of_eq (le_refl _) rfl rfl rfl rfl
  refine inv.grow grows inv.keyed (fun _ => .inl) (fun _ => .inl) (fun _ => .inl)
    (fun _ => .inl) ?_ ?_ (fun _ => .inl)
  · refine Expiring.All.imp ?_ fun _ _ _ cell => CellOk.mono grows cell
    rcases authenticate_redis json ready s.redis s.now ticket with same | ⟨t, -, deleted⟩
    · rw [same]
      exact inv.redis
    · rw [deleted]
      exact inv.redis.del (ticketKey t)
  · intro task mem
    rcases List.mem_append.mp mem with before | now
    · exact .inl before
    · obtain ⟨t, info, rfl, admitted, rfl⟩ := mem_admittedTask now
      exact .inr ((inv.admitted laws admitted).mono grows)

theorem Inv.accept_step {s : State τ} (inv : Inv bcrypt jwt json settings s)
    {before after : List (Task τ)} {ticket : String} {userInfo : PyVal} {consumedAt : Datetime}
    (tasks : s.tasks = before ++ .accepting ticket userInfo consumedAt :: after) :
    Inv bcrypt jwt json settings
      { s with
        sockets := s.sockets ++ [⟨ticket, userInfo, consumedAt⟩]
        tasks := before ++ after } := by
  have opened : Opened s ticket userInfo consumedAt := inv.task tasks
  have grows : s.Grows
      { s with
        sockets := s.sockets ++ [⟨ticket, userInfo, consumedAt⟩]
        tasks := before ++ after } := .of_eq (le_refl _) rfl rfl rfl rfl
  refine inv.grow grows inv.keyed (fun _ => .inl) (fun _ => .inl) (fun _ => .inl) (fun _ => .inl)
    (inv.redis.imp fun _ _ _ cell => cell.mono grows) ?_ ?_
  · intro task mem
    exact .inl (tasks ▸ mem_removed mem)
  · intro socket mem
    rcases mem_snoc mem with before | rfl
    · exact .inl before
    · exact .inr (Opened.mono grows opened)

theorem Inv.elsewhere_step {s : State τ} (inv : Inv bcrypt jwt json settings s)
    {write : Expiring.Write String String} (other : ∀ ticket, write.key ≠ ticketKey ticket) :
    Inv bcrypt jwt json settings { s with redis := write.apply s.redis } := by
  have grows : s.Grows { s with redis := write.apply s.redis } :=
    .of_eq (le_refl _) rfl rfl rfl rfl
  refine inv.grow grows inv.keyed (fun _ => .inl) (fun _ => .inl) (fun _ => .inl) (fun _ => .inl)
    (Expiring.All.imp ?_ fun _ _ _ cell => CellOk.mono grows cell) (fun _ => .inl)
    (fun _ => .inl)
  cases write with
  | set key value deadline =>
      exact inv.redis.set fun ticket same => absurd same (other ticket)
  | del key => exact inv.redis.del key

theorem Inv.step (jwtLaws : jwt.Laws) (jsonLaws : json.Laws) {s s' : State τ} {label : Label}
    (inv : Inv bcrypt jwt json settings s) (step : Step bcrypt jwt json settings s label s') :
    Inv bcrypt jwt json settings s' := by
  cases step with
  | clock later le => exact inv.clock_step le
  | login username password token user answered mem named =>
      exact inv.login_step answered mem named
  | request login userId route mem named => exact inv.addTask (inv.request jwtLaws mem named)
  | query before after caller userId route user id salt task tasks found next =>
      exact inv.query_step tasks found next
  | stop before after task tasks => exact inv.setTasks fun _ mem => .inl (tasks ▸ mem_removed mem)
  | createTicket before after caller user uuid4 tasks => exact inv.createTicket_step uuid4 tasks
  | register before after caller user users tasks done => exact inv.register_step tasks done
  | seedCount none => exact inv.addTask trivial
  | seedCommit before after ids salts users tasks inserted =>
      exact inv.seedCommit_step tasks inserted
  | handshake ready ticket => exact inv.handshake_step jsonLaws ready ticket
  | accept before after ticket userInfo consumedAt tasks => exact inv.accept_step tasks
  | elsewhere write other => exact inv.elsewhere_step other

/-! ## One use -/

def Task.accepts (ticket : String) : Task τ → Bool
  | .accepting t _ _ => decide (t = ticket)
  | _ => false

/-- Whether Redis holds the ticket, expired or not. -/
def held (redis : RedisStore) (ticket : String) : Nat :=
  if ticketKey ticket ∈ redis.cells.keys then 1 else 0

/-- The uses of a ticket: sockets, connections on their way, and one that is left. -/
def uses (s : State τ) (ticket : String) : Nat :=
  s.sockets.countP (fun socket => socket.ticket = ticket) +
    s.tasks.countP (Task.accepts ticket) + held s.redis ticket

def issued (s : State τ) (ticket : String) : Nat :=
  s.issues.countP fun issue => issue.ticket = ticket

theorem held_le (redis : RedisStore) (ticket : String) : held redis ticket ≤ 1 := by
  unfold held
  split <;> decide

/-- A write under another key leaves the ticket as it is. -/
theorem held_apply_ne (redis : RedisStore) {write : Expiring.Write String String}
    {ticket : String} (ne : write.key ≠ ticketKey ticket) :
    held (write.apply redis) ticket = held redis ticket := by
  have same : ticketKey ticket ∈ (write.apply redis).cells.keys ↔
      ticketKey ticket ∈ redis.cells.keys := by
    rw [Dict.mem_keys, Dict.mem_keys, Expiring.Write.cell_apply_ne redis write (Ne.symm ne)]
  simp only [held, same]

theorem held_del_self (redis : RedisStore) (ticket : String) :
    held (redis.del (ticketKey ticket)) ticket = 0 := by
  simp [held, Expiring.del]

/-- A ticket that is admitted was held. -/
theorem held_of_admitted {ready : Bool} {redis : RedisStore} {now : Datetime} {ticket : String}
    {info : PyVal}
    (admitted : (authenticate json ready redis now (some ticket)).1 = .ok (.admitted info)) :
    held redis ticket = 1 := by
  obtain ⟨raw, found, -⟩ := validateTicket_some (authenticate_admitted admitted).1
  obtain ⟨deadline, cell, -⟩ := Expiring.get?_eq_some.mp found
  exact if_pos (Dict.mem_keys.mpr ⟨_, cell⟩)

theorem countP_middle {α : Type} (p : α → Bool) (before after : List α) (x : α) :
    (before ++ x :: after).countP p = (before ++ after).countP p + (if p x then 1 else 0) := by
  simp only [List.countP_append, List.countP_cons]
  omega

/-- The task after a query is no connection. -/
theorem afterQuery_accepts {caller : Caller τ} {user : User} {id : UUID} {salt : Bytes}
    {now : Datetime} {route : Route} {task : Task τ}
    (next : afterQuery bcrypt caller user id salt now route = .ok task) (ticket : String) :
    task.accepts ticket = false := by
  cases route with
  | wsTicket =>
      obtain rfl := Except.ok.inj next
      rfl
  | register username password role =>
      simp only [afterQuery] at next
      cases checked : requireAdmin user with
      | error e =>
          rw [checked] at next
          cases next
      | ok admin =>
          rw [checked] at next
          obtain rfl := Except.ok.inj next
          rfl

/-- A connection takes its ticket out of Redis. -/
theorem handshake_uses {ready : Bool} {redis : RedisStore} {now : Datetime}
    {presented : Option String} (ticket : String) {tasks : List (Task τ)}
    (admitted : admittedTask (authenticate json ready redis now presented).1 presented now =
      tasks) :
    tasks.countP (Task.accepts ticket) +
      held (authenticate json ready redis now presented).2 ticket ≤ held redis ticket := by
  cases tasks with
  | nil =>
      -- nobody comes in, and the ticket presented is gone at most
      rw [List.countP_nil, Nat.zero_add]
      rcases authenticate_redis json ready redis now presented with same | ⟨t, -, deleted⟩
      · rw [same]
      · rw [deleted]
        by_cases own : t = ticket
        · rw [own, held_del_self]
          exact Nat.zero_le _
        · have ne : (Expiring.Write.del (ticketKey t) : Expiring.Write String String).key ≠
              ticketKey ticket := fun same => own (ticketKey_injective same)
          exact (held_apply_ne redis ne).le
  | cons task rest =>
      have mem : task ∈ admittedTask (authenticate json ready redis now presented).1
          presented now := admitted ▸ List.mem_cons_self
      obtain ⟨t, info, rfl, answer, rfl⟩ := mem_admittedTask mem
      obtain rfl : rest = [] := by
        simp only [answer, admittedTask, List.cons.injEq, true_and] at admitted
        exact admitted.symm
      rw [(authenticate_admitted answer).2]
      by_cases own : t = ticket
      · subst own
        rw [held_of_admitted answer, held_del_self]
        simp [Task.accepts]
      · have ne : (Expiring.Write.del (ticketKey t) : Expiring.Write String String).key ≠
            ticketKey ticket := fun same => own (ticketKey_injective same)
        have kept : held (redis.del (ticketKey t)) ticket = held redis ticket :=
          held_apply_ne redis ne
        simp [Task.accepts, own, kept]

/-- No step adds more uses than tickets. -/
theorem uses_step {s s' : State τ} {label : Label}
    (step : Step bcrypt jwt json settings s label s') {ticket : String}
    (before : uses s ticket ≤ issued s ticket) : uses s' ticket ≤ issued s' ticket := by
  unfold uses issued at *
  cases step with
  | clock later le => exact before
  | login username password token user answered mem named => exact before
  | request login userId route mem named =>
      simpa [List.countP_append, Task.accepts] using before
  | query first last caller userId route user id salt task tasks found next =>
      rw [tasks, countP_middle] at before
      rw [countP_middle, afterQuery_accepts next]
      simpa [Task.accepts] using before
  | stop first last task tasks =>
      rw [tasks, countP_middle] at before
      simp only
      omega
  | createTicket first last caller user uuid4 tasks =>
      rw [tasks, countP_middle] at before
      simp only [List.countP_append, List.countP_singleton] at before ⊢
      by_cases own : UUID.str uuid4 = ticket
      · have le := held_le (createTicket json s.redis s.now uuid4 (UUID.str user.id) user.role)
          ticket
        simp only [own, decide_true, if_true]
        omega
      · let write : Expiring.Write String String := .set (ticketKey (UUID.str uuid4))
          (json.dumps (ticketData (UUID.str user.id) user.role))
          (some (s.now + wsTicketTtl * 1000000))
        have ne : write.key ≠ ticketKey ticket := fun same => own (ticketKey_injective same)
        have kept : held (createTicket json s.redis s.now uuid4 (UUID.str user.id) user.role)
            ticket = held s.redis ticket := held_apply_ne s.redis ne
        simp only [own, decide_false, kept]
        omega
  | register first last caller user users tasks done =>
      rw [tasks, countP_middle] at before
      simp only
      omega
  | seedCount none => simpa [List.countP_append, Task.accepts] using before
  | seedCommit first last ids salts users tasks inserted =>
      rw [tasks, countP_middle] at before
      simp only
      omega
  | handshake ready presented =>
      rw [List.countP_append]
      generalize admitted : admittedTask (authenticate json ready s.redis s.now presented).1
        presented s.now = new
      have taken := handshake_uses ticket admitted
      simp only
      omega
  | accept first last t userInfo consumedAt tasks =>
      rw [tasks, countP_middle] at before
      rw [List.countP_append, List.countP_singleton]
      by_cases own : t = ticket
      · simp only [Task.accepts, own, decide_true, if_true] at before ⊢
        omega
      · simp only [Task.accepts, own, decide_false] at before ⊢
        omega
  | elsewhere write other =>
      rw [held_apply_ne s.redis (other ticket)]
      exact before

/-! ## Every run -/

theorem reachable_inv (jwtLaws : jwt.Laws) (jsonLaws : json.Laws) {s : State τ}
    (reach : (gateway bcrypt jwt json settings).Reachable s) :
    Inv bcrypt jwt json settings s := by
  apply reach.invariant
  · intro s start
    exact .init start
  · intro s label s' inv step
    exact inv.step jwtLaws jsonLaws step

theorem reachable_uses {s : State τ} (reach : (gateway bcrypt jwt json settings).Reachable s)
    (ticket : String) : uses s ticket ≤ issued s ticket := by
  apply reach.invariant
  · intro s ⟨users, redis, tasks, logins, issues, registrations, sockets⟩
    simp [uses, issued, redis, tasks, issues, sockets, held, Expiring.empty]
  · intro s label s' before step
    exact uses_step step before

/-- The socket is open for a ticket of the user, who had logged in. -/
def Authentic (bcrypt : Bcrypt) (settings : Settings) (s : State τ) (socket : Socket) : Prop :=
  ∃ issue ∈ s.issues, ∃ login ∈ s.logins, ∃ asked : Datetime,
    issue.ticket = socket.ticket ∧
    issue.at' ≤ socket.consumedAt ∧ socket.consumedAt ≤ issue.at' + wsTicketTtl * 1000000 ∧
    issue.user ∈ s.users ∧ login.user = issue.user ∧
    socket.userInfo = ticketData (UUID.str issue.user.id) issue.user.role ∧
    verifyPassword bcrypt login.password issue.user.hashedPassword = true ∧
    login.at' ≤ asked ∧ asked < login.at' + settings.jwtExpiryMinutes * 60000000 ∧
    asked ≤ issue.at'

/-- **Sockets are authentic.**  Whatever the order in which requests, connections, restarts
of the clock and other uses of Redis overlap: a socket was opened with a ticket made at most
30 seconds before, for a user of the table who had logged in with their password and whose
token had not expired; it carries that user's id and role; and a ticket opens no more sockets
than it was made for. -/
theorem sockets_authentic (jwtLaws : jwt.Laws) (jsonLaws : json.Laws) {s : State τ}
    (reach : (gateway bcrypt jwt json settings).Reachable s) :
    (∀ socket ∈ s.sockets, Authentic bcrypt settings s socket) ∧
      ∀ ticket, s.sockets.countP (fun socket => socket.ticket = ticket) ≤
        s.issues.countP fun issue => issue.ticket = ticket := by
  have inv := reachable_inv jwtLaws jsonLaws reach
  refine ⟨?_, ?_⟩
  · intro socket mem
    obtain ⟨issue, made, named, info, after, within⟩ := inv.sockets socket mem
    have ok := inv.issues issue made
    have login := inv.logins _ ok.caller.login
    refine ⟨issue, made, issue.caller.login, ok.caller.login, issue.caller.decodedAt, named, after,
      within, ok.user ▸ login.user, ok.user.symm, info, ?_, ok.caller.after, ok.caller.fresh,
      ok.after⟩
    rw [ok.user]
    exact login.password
  · intro ticket
    have le := reachable_uses reach ticket
    unfold uses issued at le
    omega

/-- **Users are vouched for.**  Ids and names are unique, and each user is one of the two
defaults or was registered in a request with a live token of an admin, who is such a user. -/
theorem users_vouched (jwtLaws : jwt.Laws) (jsonLaws : json.Laws) {s : State τ}
    (reach : (gateway bcrypt jwt json settings).Reachable s) :
    Keyed s.users ∧ (∀ user ∈ s.users, Vouched bcrypt s.registrations user) ∧
      ∀ entry ∈ s.registrations, CallerOk settings s entry.1 ∧
        LoginOk bcrypt jwt settings s entry.1.login := by
  have inv := reachable_inv jwtLaws jsonLaws reach
  refine ⟨inv.keyed, inv.vouched, ?_⟩
  intro entry mem
  have ok := inv.registrations entry mem
  exact ⟨ok, inv.logins _ ok.login⟩

/-! ## Nothing gets in the way -/

/-- Redis holds the data of the ticket until the deadline. -/
def Holds (json : Json) (issue : Issue τ) (s : State τ) : Prop :=
  s.redis.cells.get? (ticketKey issue.ticket) =
    some (json.dumps (ticketData (UUID.str issue.user.id) issue.user.role),
      some (issue.at' + wsTicketTtl * 1000000))

theorem authenticate_valid {redis : RedisStore} {now : Datetime} {ticket : String} {info : PyVal}
    (valid : (validateTicket json redis now ticket).1 = .ok (some info)) :
    (authenticate json true redis now (some ticket)).1 = .ok (.admitted info) := by
  simp only [authenticate, not_true_eq_false, if_false, valid, Except.map]

/-- Only a presentation of the ticket, or another one of that name, touches its entry. -/
theorem Holds.step {issue : Issue τ} {s s' : State τ} {label : Label}
    (holds : Holds json issue s) (step : Step bcrypt jwt json settings s label s')
    (idle : label ≠ .handshake (some issue.ticket) ∧ label ≠ .createTicket issue.ticket) :
    Holds json issue s' := by
  cases step with
  | createTicket first last caller user uuid4 tasks =>
      have ne : ticketKey issue.ticket ≠ ticketKey (UUID.str uuid4) := by
        intro same
        exact idle.2 (congrArg Label.createTicket (ticketKey_injective same).symm)
      exact (Expiring.Write.cell_apply_ne s.redis (.set _ _ _) ne).trans holds
  | handshake ready presented =>
      rcases authenticate_redis json ready s.redis s.now presented with same | ⟨t, rfl, deleted⟩
      · rw [Holds, same]
        exact holds
      · rw [Holds, deleted]
        have ne : ticketKey issue.ticket ≠ ticketKey t := by
          intro same
          exact idle.1
            (congrArg (fun t => Label.handshake (some t)) (ticketKey_injective same).symm)
        exact (Expiring.Write.cell_apply_ne s.redis (.del _) ne).trans holds
  | elsewhere write other =>
      exact (Expiring.Write.cell_apply_ne s.redis write (Ne.symm (other issue.ticket))).trans holds
  | _ => exact holds

theorem holds_made {s made : State τ} {label : Label} {ticket : String}
    (step : Step bcrypt jwt json settings s label made) (making : label = .createTicket ticket) :
    ∃ issue ∈ made.issues, issue.ticket = ticket ∧ issue.at' = s.now ∧ Holds json issue made := by
  cases step with
  | createTicket first last caller user uuid4 tasks =>
      refine ⟨⟨UUID.str uuid4, user, caller, s.now⟩, List.mem_append_right _
        (List.mem_singleton_self _), Label.createTicket.inj making, rfl, ?_⟩
      exact Dict.get?_set_self _ _ _
  | _ => simp at making

/-- **A ticket stays good.**  Once it is made, a ticket that is neither presented nor made
again is admitted as its user at any time up to its deadline, whatever else happens; and the
manager registers the connection, in any state in which it is not over its limit. -/
theorem ticket_redeemable (laws : json.Laws) {s made t : State τ} {ticket : String}
    {labels : List Label} (step : Step bcrypt jwt json settings s (.createTicket ticket) made)
    (run : (gateway bcrypt jwt json settings).Run made labels t)
    (idle : ∀ label ∈ labels,
      label ≠ .handshake (some ticket) ∧ label ≠ .createTicket ticket)
    (within : t.now ≤ s.now + wsTicketTtl * 1000000) :
    ∃ issue ∈ made.issues, issue.ticket = ticket ∧
      (authenticate json true t.redis t.now (some ticket)).1 =
        .ok (.admitted (ticketData (UUID.str issue.user.id) issue.user.role)) ∧
      ∀ manager ws, connect json true t.redis t.now (some ticket) manager ws =
        if manager.full then (.ok (.close 1013 "Server too busy"), manager)
        else
          (.ok (.admitted (ticketData (UUID.str issue.user.id) issue.user.role)),
            manager.accept ws) := by
  obtain ⟨issue, mem, rfl, made_at, start⟩ := holds_made step rfl
  have holds : Holds json issue t := by
    refine run.invariant start ?_
    intro s label s' mem holds step
    exact holds.step step (idle label mem)
  have live : t.now ≤ issue.at' + wsTicketTtl * 1000000 := made_at ▸ within
  have found : t.redis.get? t.now (ticketKey issue.ticket) =
      some (json.dumps (ticketData (UUID.str issue.user.id) issue.user.role)) :=
    Expiring.get?_eq_some.mpr ⟨_, holds, decide_eq_true live⟩
  have admitted : (authenticate json true t.redis t.now (some issue.ticket)).1 = _ :=
    authenticate_valid (validateTicket_found laws found)
  refine ⟨issue, mem, rfl, admitted, fun manager ws => ?_⟩
  simp only [connect, admitted]

/-- The step keeps the rows of the table. -/
theorem users_step {s s' : State τ} {label : Label} (inv : Inv bcrypt jwt json settings s)
    (step : Step bcrypt jwt json settings s label s') : s.users ⊆ s'.users := by
  cases step with
  | register first last caller user users tasks done =>
      rw [(inv.register done).1]
      exact List.subset_append_left _ _
  | seedCommit first last ids salts users tasks inserted =>
      rw [(insertAll_ok inv.keyed inserted).1]
      exact List.subset_append_left _ _
  | _ => exact List.Subset.refl _

/-- The one row with a value in a column that has no value twice. -/
theorem filter_unique {κ : Type} [DecidableEq κ] {users : List User} (column : User → κ)
    (nodup : (users.map column).Nodup) {user : User} (mem : user ∈ users) :
    users.filter (fun u => column u = column user) = [user] := by
  induction users with
  | nil => cases mem
  | cons u rest ih =>
      rw [List.map_cons, List.nodup_cons] at nodup
      rcases List.mem_cons.mp mem with rfl | later
      · have none : rest.filter (fun u => column u = column user) = [] := by
          refine List.filter_eq_nil_iff.mpr ?_
          intro u here same
          exact nodup.1 (List.mem_map.mpr ⟨u, here, of_decide_eq_true same⟩)
        simp [none]
      · have ne : column u ≠ column user := by
          intro same
          exact nodup.1 (same ▸ List.mem_map_of_mem later)
        rw [List.filter_cons_of_neg (by simpa using ne), ih nodup.2 later]

/-- **Registered users get in.**  In any state, a user whose stored hash is of the password
logs in with it, and up to the expiry of the token every later request with it is answered as
this user. -/
theorem registered_user_gets_in (bcryptLaws : bcrypt.Laws) (jwtLaws : jwt.Laws)
    (jsonLaws : json.Laws) {s : State τ} (reach : (gateway bcrypt jwt json settings).Reachable s)
    {user : User} (mem : user ∈ s.users) {password : String} {salt : Bytes}
    (hashed : user.hashedPassword = hashPassword bcrypt password salt) :
    ∃ token, login bcrypt jwt settings s.users s.now user.username password = .ok token ∧
      ∀ labels t, (gateway bcrypt jwt json settings).Run s labels t →
        t.now < expiry settings s.now * 1000000 →
        (tokenUser jwt settings t.now token).bind (getCurrentUser t.users) = .ok user := by
  have inv := reachable_inv jwtLaws jsonLaws reach
  have verified : verifyPassword bcrypt password user.hashedPassword = true := by
    rw [hashed]
    exact bcryptLaws.accepts _ _
  refine ⟨createAccessToken jwt settings s.now user.id user.role, ?_, ?_⟩
  · simp [login, filter_unique User.username inv.keyed.usernames mem, scalarOneOrNone, verified,
      bind, Except.bind]
  · intro labels t run early
    have inv' := reachable_inv jwtLaws jsonLaws (run.reachable reach)
    have kept : user ∈ t.users := by
      have sub : s.users ⊆ t.users := by
        refine run.respects (R := fun s t : State τ => s.users ⊆ t.users)
          (fun _ => List.Subset.refl _) (fun _ _ _ => List.Subset.trans) reach ?_
        intro s label s' reach step
        exact users_step (reachable_inv jwtLaws jsonLaws reach) step
      exact sub mem
    have named : tokenUser jwt settings t.now
        (createAccessToken jwt settings s.now user.id user.role) = .ok (UUID.str user.id) := by
      simp [tokenUser, decodeToken, createAccessToken, jwtLaws.decode, Int.not_le.mpr early, bind,
        Except.bind]
    have found : t.users.filter (fun u => UUID.str u.id = UUID.str user.id) = [user] := by
      refine filter_unique (fun u => UUID.str u.id) ?_ kept
      have texts : t.users.map (fun u => UUID.str u.id) = (t.users.map User.id).map UUID.str := by
        rw [List.map_map]
        rfl
      rw [texts]
      exact inv'.keyed.ids.map UUID.str_injective
    rw [named]
    simp [Except.bind, getCurrentUser, found, scalarOneOrNone, bind]

end

/-! ## One user -/

def quote : Char := Char.ofNat 34

def backslash : Char := Char.ofNat 92

/-- A JSON text of printable characters, without its quotes. -/
def escape : List Char → List Char
  | [] => []
  | c :: cs =>
      if c = quote ∨ c = backslash then backslash :: c :: escape cs else c :: escape cs

/-- A JSON text up to its closing quote, and what follows. -/
def unescape : List Char → Option (List Char × List Char)
  | [] => none
  | c :: cs =>
      if c = quote then some ([], cs)
      else if c = backslash then
        match cs with
        | [] => none
        | c' :: cs => (unescape cs).map fun read => (c' :: read.1, read.2)
      else (unescape cs).map fun read => (c :: read.1, read.2)

theorem unescape_quote (cs : List Char) : unescape (quote :: cs) = some ([], cs) := by
  rw [unescape.eq_def]
  simp

theorem unescape_plain {c : Char} (noQuote : c ≠ quote) (noBackslash : c ≠ backslash)
    (cs : List Char) :
    unescape (c :: cs) = (unescape cs).map fun read => (c :: read.1, read.2) := by
  rw [unescape.eq_def]
  simp [noQuote, noBackslash]

theorem unescape_escape (cs rest : List Char) :
    unescape (escape cs ++ quote :: rest) = some (cs, rest) := by
  induction cs with
  | nil => exact unescape_quote rest
  | cons c cs ih =>
      unfold escape
      split
      · have ne : backslash ≠ quote := by decide
        simp [unescape, ne, ih]
      · rename_i plain
        obtain ⟨noQuote, noBackslash⟩ := not_or.mp plain
        simp [unescape_plain noQuote noBackslash, ih]

/-- What follows a fixed text. -/
def after : List Char → List Char → Option (List Char)
  | [], text => some text
  | c :: cs, c' :: text => if c = c' then after cs text else none
  | _ :: _, [] => none

theorem after_append (fixed rest : List Char) : after fixed (fixed ++ rest) = some rest := by
  induction fixed with
  | nil => rfl
  | cons c cs ih => simp [after, ih]

def userIdText : List Char := "\x7b\"user_id\": \"".toList

def roleText : List Char := ", \"role\": \"".toList

/-- The texts of tickets. -/
def ticketJson : Json where
  dumps v :=
    match v with
    | .dict [("user_id", .str userId), ("role", .str role)] =>
        String.ofList (userIdText ++ (escape userId.toList ++ quote ::
          (roleText ++ (escape role.toList ++ quote :: "\x7d".toList))))
    | _ => "null"
  loads text :=
    let read := do
      let (userId, rest) ← unescape (← after userIdText text.toList)
      let (role, _) ← unescape (← after roleText rest)
      some (ticketData (String.ofList userId) (String.ofList role))
    match read with
    | some data => .ok data
    | none => .error { kind := "JSONDecodeError", text := "Expecting value" }

theorem ticketJson_laws : ticketJson.Laws := by
  intro userId role
  simp [ticketJson, ticketData, after_append, unescape_escape]

/-- Hashes without a salt. -/
def plainBcrypt : Bcrypt where
  hashpw password _ := String.ofList (password.map fun byte => Char.ofNat byte.toNat)
  checkpw password hashed := String.ofList (password.map fun byte => Char.ofNat byte.toNat) = hashed

/-- Tokens that carry their payload and the secret they were signed with. -/
def plainJwt : Jwt (TokenPayload × String) where
  encode payload secret := (payload, secret)
  decode now token secret :=
    if token.2 ≠ secret then .error .invalidToken
    else if token.1.exp * 1000000 ≤ now then .error .expiredSignature
    else .ok token.1

theorem plainBcrypt_laws : plainBcrypt.Laws where
  accepts password salt := by simp [plainBcrypt]

theorem plainJwt_laws : plainJwt.Laws where
  decode payload secret now := by simp [plainJwt]

def hour : Settings := ⟨"secret", 60⟩

def seeded : List User := defaultUsers plainBcrypt (1, 2) ([], []) 0

def operator : User := newUser plainBcrypt 2 "operator" "operator" "operator" [] 0

def operatorToken : TokenPayload × String :=
  createAccessToken plainJwt hour 0 operator.id operator.role

def operatorLogin : Login (TokenPayload × String) := ⟨operatorToken, operator, "operator", 0⟩

def operatorTicket : String := UUID.str 7

abbrev sample : System (State (TokenPayload × String)) Label :=
  gateway plainBcrypt plainJwt ticketJson hour

/-- The defaults are seeded and the operator asks for a ticket. -/
theorem operator_asks : ∃ s, sample.Reachable s ∧ s.users = seeded ∧ s.now = 0 ∧
    s.tasks = [.creating ⟨operatorLogin, 0⟩ operator] ∧ s.redis = Expiring.empty ∧
    s.issues = [] ∧ s.sockets = [] := by
  have initial : sample.Reachable ⟨0, [], Expiring.empty, [], [], [], [], []⟩ :=
    .init ⟨rfl, rfl, rfl, rfl, rfl, rfl, rfl⟩
  have counted := initial.step (Step.seedCount _ rfl)
  have started := counted.step (Step.seedCommit _ [] [] (1, 2) ([], []) seeded rfl rfl)
  have known : operator ∈ seeded := by simp [seeded, defaultUsers, operator]
  have logged := started.step (Step.login _ "operator" "operator" operatorToken operator rfl
    known rfl)
  have asked := logged.step (Step.request _ operatorLogin (UUID.str 2) .wsTicket
    (List.mem_singleton_self _) rfl)
  have found : getCurrentUser seeded (UUID.str 2) = .ok operator := by rfl
  have resolved := asked.step (Step.query _ [] [] ⟨operatorLogin, 0⟩ (UUID.str 2) .wsTicket
    operator 0 [] _ rfl found rfl)
  exact ⟨_, resolved, rfl, rfl, rfl, rfl, rfl, rfl⟩

/-- The ticket is made, and nothing else happens. -/
theorem operator_ticket : ∃ s made, sample.Reachable made ∧
    Step plainBcrypt plainJwt ticketJson hour s (.createTicket operatorTicket) made ∧
    s.now = 0 ∧ made.now = 0 ∧ made.users = seeded ∧ made.tasks = [] ∧ made.sockets = [] ∧
    made.redis =
      createTicket ticketJson Expiring.empty 0 7 (UUID.str operator.id) operator.role := by
  obtain ⟨s, reach, users, now, tasks, redis, -, sockets⟩ := operator_asks
  have step : Step plainBcrypt plainJwt ticketJson hour s (.createTicket operatorTicket) _ :=
    .createTicket s [] [] ⟨operatorLogin, 0⟩ operator 7 tasks
  exact ⟨s, _, reach.step step, step, now, now, users, rfl, sockets, by rw [redis, now]⟩

/-- The ticket is presented at its deadline. -/
theorem operator_connected : ∃ s, sample.Reachable s ∧
    s.sockets = [⟨operatorTicket, ticketData (UUID.str 2) "operator", 30000000⟩] := by
  obtain ⟨-, made, reach, -, -, now, -, tasks, sockets, redis⟩ := operator_ticket
  have later := reach.step (Step.clock made 30000000 (by rw [now]; decide))
  have presented := later.step (Step.handshake _ true (some operatorTicket))
  have admitted : (authenticate ticketJson true made.redis 30000000 (some operatorTicket)).1 =
      .ok (.admitted (ticketData (UUID.str 2) "operator")) := by
    rw [redis]
    exact authenticate_valid (validateTicket_found ticketJson_laws rfl)
  have accepted := presented.step (Step.accept _ [] [] operatorTicket
    (ticketData (UUID.str 2) "operator") 30000000 (by simp [tasks, admitted, admittedTask]))
  exact ⟨_, accepted, by simp [sockets]⟩

theorem sockets_authentic_operator : ∃ s, sample.Reachable s ∧
    s.sockets = [⟨operatorTicket, ticketData (UUID.str 2) "operator", 30000000⟩] ∧
    (∀ socket ∈ s.sockets, Authentic plainBcrypt hour s socket) ∧
    ∀ ticket, s.sockets.countP (fun socket => socket.ticket = ticket) ≤
      s.issues.countP fun issue => issue.ticket = ticket := by
  obtain ⟨s, reach, sockets⟩ := operator_connected
  exact ⟨s, reach, sockets, sockets_authentic plainJwt_laws ticketJson_laws reach⟩

theorem users_vouched_seeded : ∃ s, sample.Reachable s ∧ s.users = seeded ∧ Keyed s.users ∧
    (∀ user ∈ s.users, Vouched plainBcrypt s.registrations user) ∧
    ∀ entry ∈ s.registrations, CallerOk hour s entry.1 ∧
      LoginOk plainBcrypt plainJwt hour s entry.1.login := by
  obtain ⟨s, reach, users, -⟩ := operator_asks
  exact ⟨s, reach, users, users_vouched plainJwt_laws ticketJson_laws reach⟩

theorem ticket_redeemable_operator : ∃ (s made t : State (TokenPayload × String)),
    s.now = 0 ∧ t.now = 30000000 ∧ sample.Run made [.clock] t ∧
    ∃ issue ∈ made.issues, issue.ticket = operatorTicket ∧
      (authenticate ticketJson true t.redis t.now (some operatorTicket)).1 =
        .ok (.admitted (ticketData (UUID.str issue.user.id) issue.user.role)) ∧
      ∀ manager ws, connect ticketJson true t.redis t.now (some operatorTicket) manager ws =
        if manager.full then (.ok (.close 1013 "Server too busy"), manager)
        else
          (.ok (.admitted (ticketData (UUID.str issue.user.id) issue.user.role)),
            manager.accept ws) := by
  obtain ⟨s, made, -, step, now, made_now, -⟩ := operator_ticket
  have run : sample.Run made [.clock] { made with now := 30000000 } :=
    .snoc (.nil made) (Step.clock made 30000000 (by rw [made_now]; decide))
  have within : (30000000 : Int) ≤ s.now + wsTicketTtl * 1000000 := by
    rw [now]
    decide
  exact ⟨s, made, _, now, rfl, run, ticket_redeemable ticketJson_laws step run (by simp) within⟩

theorem registered_user_gets_in_operator : ∃ s, sample.Reachable s ∧ ∃ token,
    login plainBcrypt plainJwt hour s.users s.now "operator" "operator" = .ok token ∧
      ∀ labels t, sample.Run s labels t → t.now < expiry hour s.now * 1000000 →
        (tokenUser plainJwt hour t.now token).bind (getCurrentUser t.users) = .ok operator := by
  obtain ⟨s, reach, users, -⟩ := operator_asks
  have known : operator ∈ s.users := by
    rw [users]
    simp [seeded, defaultUsers, operator]
  exact ⟨s, reach, registered_user_gets_in plainBcrypt_laws plainJwt_laws ticketJson_laws
    reach known (rfl : _ = hashPassword plainBcrypt "operator" [])⟩

end LocoTwin.TicketFlow
