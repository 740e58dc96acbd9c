/-
# ApiGateway.Auth -- users, passwords and access tokens

`core/auth.py` and `services/auth_service.py`: the table of users with its unique columns,
registration, login, and the two dependencies that every protected route has.

bcrypt and PyJWT are libraries.  Of bcrypt a check accepts the password that was hashed; of
PyJWT a token decodes to its payload up to its `exp`, read in whole seconds.

* `insert_ok`: what a committed row says of the table;
* `login_ok`: a token is given for a password that checks, and it names the user;
* `getCurrentUser_ok`: who a request is answered as is read from the table, not from the token.
-/
import LocoTwin.Shared.Wire

namespace LocoTwin.ApiGateway

open LocoTwin.Shared

set_option autoImplicit false

/-! ## The libraries -/

abbrev Bytes := List UInt8

structure Bcrypt where
  hashpw : Bytes → Bytes → String
  checkpw : Bytes → String → Bool

structure Bcrypt.Laws (bcrypt : Bcrypt) : Prop where
  accepts : ∀ password salt, bcrypt.checkpw password (bcrypt.hashpw password salt) = true

/-- The payload of an access token; `exp` is in seconds since the epoch. -/
structure TokenPayload where
  sub : Option String
  role : String
  exp : Int
  deriving DecidableEq, Repr

inductive JwtError where
  | expiredSignature
  | invalidToken
  deriving DecidableEq, Repr

/-- Tokens are of no particular form: nothing looks into one. -/
structure Jwt (τ : Type) where
  encode : TokenPayload → String → τ
  decode : Datetime → τ → String → Except JwtError TokenPayload

/-- A token decodes to its payload until `exp`. -/
structure Jwt.Laws {τ : Type} (jwt : Jwt τ) : Prop where
  decode : ∀ payload secret now, jwt.decode now (jwt.encode payload secret) secret =
    if payload.exp * 1000000 ≤ now then .error .expiredSignature else .ok payload

structure Settings where
  jwtSecret : String
  jwtExpiryMinutes : Int

/-! ## The table of users -/

structure User where
  id : UUID
  username : String
  hashedPassword : String
  role : String
  createdAt : Datetime
  deriving DecidableEq

structure HttpError where
  status : Nat
  detail : String
  deriving DecidableEq, Repr

inductive DbError where
  | integrity
  | data
  deriving DecidableEq, Repr

/-- The rows to be added fit their columns. -/
def User.fits (user : User) : Bool :=
  decide (user.username.length ≤ 100 ∧ user.hashedPassword.length ≤ 255 ∧ user.role.length ≤ 20)

/-- One `INSERT` into `users`: both `id` and `username` are unique. -/
def insert (users : List User) (user : User) : Except DbError (List User) :=
  if ¬ user.fits then .error .data
  else if users.any fun u => u.id = user.id ∨ u.username = user.username then .error .integrity
  else .ok (users ++ [user])

/-- The rows of one transaction, all or none. -/
def insertAll (users : List User) (rows : List User) : Except DbError (List User) :=
  rows.foldlM insert users

/-- `result.scalar_one_or_none()` -/
def scalarOneOrNone : List User → Except HttpError (Option User)
  | [] => .ok none
  | [user] => .ok (some user)
  | _ => .error ⟨500, "Internal Server Error"⟩

/-! ## Passwords -/

/-- UTF-8, cut at the limit of bcrypt. -/
def prepare (plain : String) : Bytes := (plain.toList.flatMap String.utf8EncodeChar).take 72

section

variable {τ : Type} (bcrypt : Bcrypt) (jwt : Jwt τ) (settings : Settings)

def hashPassword (plain : String) (salt : Bytes) : String := bcrypt.hashpw (prepare plain) salt

def verifyPassword (plain hashed : String) : Bool := bcrypt.checkpw (prepare plain) hashed

/-! ## Tokens -/

/-- `exp` as PyJWT writes a datetime: whole seconds. -/
def expiry (now : Datetime) : Int := (now + settings.jwtExpiryMinutes * 60000000) / 1000000

def createAccessToken (now : Datetime) (userId : UUID) (role : String) : τ :=
  jwt.encode ⟨some (UUID.str userId), role, expiry settings now⟩ settings.jwtSecret

def decodeToken (now : Datetime) (token : τ) : Except HttpError TokenPayload :=
  match jwt.decode now token settings.jwtSecret with
  | .error .expiredSignature => .error ⟨401, "Token expired"⟩
  | .error .invalidToken => .error ⟨401, "Invalid token"⟩
  | .ok payload => .ok payload

/-! ## The dependencies of a protected route -/

/-- `get_current_user` up to its query: whom the token names. -/
def tokenUser (now : Datetime) (token : τ) : Except HttpError String := do
  let payload ← decodeToken jwt settings now token
  match payload.sub with
  | none => .error ⟨401, "Invalid token payload"⟩
  | some userId => .ok userId

/-- `get_current_user` from its query on. -/
def getCurrentUser (users : List User) (userId : String) : Except HttpError User := do
  match ← scalarOneOrNone (users.filter fun u => UUID.str u.id = userId) with
  | none => .error ⟨401, "User not found"⟩
  | some user => .ok user

def requireAdmin (user : User) : Except HttpError User :=
  if user.role ≠ "admin" then .error ⟨403, "Admin access required"⟩ else .ok user

/-! ## The service -/

/-- The row `register` adds. -/
def newUser (id : UUID) (username password role : String) (salt : Bytes) (now : Datetime) : User :=
  ⟨id, username, hashPassword bcrypt password salt, role, now⟩

/-- `session.commit()` of a registration, and the answer. -/
def register (users : List User) (user : User) : Except HttpError User × List User :=
  match insert users user with
  | .error .integrity => (.error ⟨409, "Username already exists"⟩, users)
  | .error .data => (.error ⟨500, "Internal Server Error"⟩, users)
  | .ok users' => (.ok user, users')

def login (users : List User) (now : Datetime) (username password : String) :
    Except HttpError τ := do
  match ← scalarOneOrNone (users.filter fun u => u.username = username) with
  | none => .error ⟨401, "Invalid credentials"⟩
  | some user =>
      if verifyPassword bcrypt password user.hashedPassword then
        .ok (createAccessToken jwt settings now user.id user.role)
      else .error ⟨401, "Invalid credentials"⟩

/-- The rows of `seed_admin_user`. -/
def defaultUsers (ids : UUID × UUID) (salts : Bytes × Bytes) (now : Datetime) : List User :=
  [ newUser bcrypt ids.1 "admin" "admin" "admin" salts.1 now,
    newUser bcrypt ids.2 "operator" "operator" "operator" salts.2 now ]

end

/-! ## What they do -/

/-- No two rows share an id or a name. -/
structure Keyed (users : List User) : Prop where
  ids : (users.map User.id).Nodup
  usernames : (users.map User.username).Nodup

theorem insert_ok {users users' : List User} {user : User} (ok : insert users user = .ok users') :
    users' = users ++ [user] ∧ ∀ u ∈ users, u.id ≠ user.id ∧ u.username ≠ user.username := by
  unfold insert at ok
  split at ok
  · cases ok
  · split at ok
    · cases ok
    · rename_i none
      refine ⟨(Except.ok.inj ok).symm, ?_⟩
      intro u mem
      simp only [List.any_eq_true, decide_eq_true_eq, not_exists, not_and, not_or] at none
      exact none u mem

theorem Keyed.insert {users users' : List User} {user : User} (keyed : Keyed users)
    (ok : insert users user = .ok users') : Keyed users' := by
  obtain ⟨rfl, new⟩ := insert_ok ok
  constructor
  · rw [List.map_append, List.map_singleton, List.nodup_append]
    refine ⟨keyed.ids, by simp, ?_⟩
    intro id mem id' mem'
    obtain ⟨u, here, rfl⟩ := List.mem_map.mp mem
    obtain rfl := List.mem_singleton.mp mem'
    exact (new u here).1
  · rw [List.map_append, List.map_singleton, List.nodup_append]
    refine ⟨keyed.usernames, by simp, ?_⟩
    intro name mem name' mem'
    obtain ⟨u, here, rfl⟩ := List.mem_map.mp mem
    obtain rfl := List.mem_singleton.mp mem'
    exact (new u here).2

theorem insertAll_ok {users users' rows : List User} (keyed : Keyed users)
    (ok : insertAll users rows = .ok users') : users' = users ++ rows ∧ Keyed users' := by
  induction rows generalizing users with
  | nil =>
      obtain rfl : users = users' := Except.ok.inj ok
      exact ⟨(List.append_nil _).symm, keyed⟩
  | cons row rest ih =>
      rw [insertAll, List.foldlM_cons] at ok
      cases first : ApiGateway.insert users row with
      | error e =>
          rw [first] at ok
          cases ok
      | ok users₁ =>
          rw [first] at ok
          obtain ⟨same, keyed'⟩ := ih (keyed.insert first) ok
          obtain ⟨rfl, -⟩ := insert_ok first
          exact ⟨by rw [same, List.append_assoc, List.singleton_append], keyed'⟩

theorem scalarOneOrNone_ok {rows : List User} {user : User}
    (ok : scalarOneOrNone rows = .ok (some user)) : rows = [user] := by
  unfold scalarOneOrNone at ok
  split at ok <;> simp_all

theorem getCurrentUser_ok {users : List User} {userId : String} {user : User}
    (ok : getCurrentUser users userId = .ok user) :
    user ∈ users ∧ UUID.str user.id = userId := by
  unfold getCurrentUser at ok
  cases found : scalarOneOrNone (users.filter fun u => UUID.str u.id = userId) with
  | error e => simp [found, bind, Except.bind] at ok
  | ok row =>
      cases row with
      | none => simp [found, bind, Except.bind] at ok
      | some user' =>
          simp only [found, bind, Except.bind, Except.ok.injEq] at ok
          subst ok
          have here : user' ∈ users.filter fun u => UUID.str u.id = userId := by
            rw [scalarOneOrNone_ok found]
            exact List.mem_singleton_self _
          simpa using List.mem_filter.mp here

theorem requireAdmin_ok {user admin : User} (ok : requireAdmin user = .ok admin) :
    user = admin ∧ admin.role = "admin" := by
  unfold requireAdmin at ok
  split at ok
  · cases ok
  · rename_i role
    obtain rfl := Except.ok.inj ok
    exact ⟨rfl, not_not.mp role⟩

section

variable {τ : Type} {bcrypt : Bcrypt} {jwt : Jwt τ} {settings : Settings}

theorem tokenUser_ok {now : Datetime} {token : τ} {userId : String}
    (ok : tokenUser jwt settings now token = .ok userId) :
    ∃ payload, jwt.decode now token settings.jwtSecret = .ok payload ∧
      payload.sub = some userId := by
  unfold tokenUser decodeToken at ok
  cases decoded : jwt.decode now token settings.jwtSecret with
  | error e => cases e <;> simp [decoded, bind, Except.bind] at ok
  | ok payload =>
      cases named : payload.sub with
      | none => simp [decoded, named, bind, Except.bind] at ok
      | some sub =>
          simp only [decoded, named, bind, Except.bind, Except.ok.injEq] at ok
          exact ⟨payload, rfl, by rw [named, ok]⟩

theorem login_ok {users : List User} {now : Datetime} {username password : String}
    {token : τ}
    (ok : login bcrypt jwt settings users now username password = .ok token) :
    ∃ user ∈ users, user.username = username ∧
      verifyPassword bcrypt password user.hashedPassword = true ∧
      token = createAccessToken jwt settings now user.id user.role := by
  unfold login at ok
  cases found : scalarOneOrNone (users.filter fun u => u.username = username) with
  | error e => simp [found, bind, Except.bind] at ok
  | ok row =>
      cases row with
      | none => simp [found, bind, Except.bind] at ok
      | some user =>
          simp only [found, bind, Except.bind] at ok
          split at ok
          · rename_i verified
            have here : user ∈ users.filter fun u => u.username = username := by
              rw [scalarOneOrNone_ok found]
              exact List.mem_singleton_self _
            obtain ⟨mem, name⟩ := List.mem_filter.mp here
            exact ⟨user, mem, of_decide_eq_true name, verified, (Except.ok.inj ok).symm⟩
          · cases ok

end

end LocoTwin.ApiGateway
