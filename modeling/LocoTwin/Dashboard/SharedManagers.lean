/-
# Dashboard.SharedManagers -- the managers that the components of a page share

`shared/ws/hooks.ts`.  The hooks of one path share a manager: the first one creates it, the
last one to leave disposes of it, and a count of references says which is the last.  The
hook of `useWsDispatch` and `useFleetDispatch` subscribes one handler, and again whenever
its status changes.

The effects of a hook run when its component is mounted or gets another path, their cleanups
before that and when it is unmounted; React may interleave the hooks of a page as it likes.
The status that a hook shows is left out, and so is the manager's callback for it.

* `Page.Inv`: the counts count the hooks, and the handlers of a manager are its hooks';
* **`managers_shared`**: a manager is in use exactly while a hook holds it, and the hooks of
  a path hold the same one;
* **`frame_shared`**: a frame reaches each hook of its path once, and no other hook.
-/
import LocoTwin.Dashboard.Disposal
import LocoTwin.Lib.Dict

namespace LocoTwin.Dashboard

open LocoTwin.Lib

set_option autoImplicit false

/-- An entry of `sharedManagers`.  A manager is named by its place in the order in which the
page created them. -/
structure SharedManager where
  manager : Nat
  refCount : Int
  deriving DecidableEq, Repr

/-- A hook between its effects and their cleanups. -/
structure UseWebSocket where
  id : Nat
  path : String
  managerRef : Nat
  deriving DecidableEq, Repr

structure Page where
  sharedManagers : Dict String SharedManager
  /-- Every manager created, with its path. -/
  managers : List (String × WebSocketManager)
  hooks : List UseWebSocket

/-- `maxReconnectAttempts`, which the hooks leave at its default. -/
def maxReconnectAttempts : Nat := 10

namespace Page

def empty : Page := ⟨Dict.empty, [], []⟩

/-- A call of a method of the `i`-th manager. -/
def called (managers : List (String × WebSocketManager)) (i : Nat)
    (f : WebSocketManager → WebSocketManager) : List (String × WebSocketManager) :=
  managers.modify i fun entry => (entry.1, f entry.2)

def call (p : Page) (i : Nat) (f : WebSocketManager → WebSocketManager) : Page :=
  { p with managers := called p.managers i f }

/-- The manager, and the page with the reference to it. -/
def acquireManager (p : Page) (path : String) : Nat × Page :=
  match p.sharedManagers.get? path with
  | some existing =>
      (existing.manager,
        { p with
          sharedManagers := p.sharedManagers.set path
            { existing with refCount := existing.refCount + 1 } })
  | none =>
      (p.managers.length,
        { p with
          sharedManagers := p.sharedManagers.set path ⟨p.managers.length, 1⟩
          managers := p.managers ++ [(path, WebSocketManager.new.connect)] })

def releaseManager (p : Page) (path : String) : Page :=
  match p.sharedManagers.get? path with
  | none => p
  | some entry =>
      let entry := { entry with refCount := entry.refCount - 1 }
      if entry.refCount ≤ 0 then
        { p.call entry.manager WebSocketManager.dispose with
          sharedManagers := p.sharedManagers.pop path }
      else { p with sharedManagers := p.sharedManagers.set path entry }

/-- The effect of `useWebSocket`, then the subscription of its dispatcher. -/
def effect (p : Page) (id : Nat) (path : String) : Page :=
  if path = "" then p
  else
    let (manager, p) := p.acquireManager path
    { p.call manager fun m => m.subscribe id with hooks := p.hooks ++ [⟨id, path, manager⟩] }

/-- The cleanups of both, and the hooks that are left. -/
def cleanup (p : Page) (hook : UseWebSocket) (left : List UseWebSocket) : Page :=
  { (p.releaseManager hook.path).call hook.managerRef fun m => m.unsubscribe hook.id with
    hooks := left }

/-- The dispatcher subscribes again. -/
def resubscribe (p : Page) (hook : UseWebSocket) : Page :=
  p.call hook.managerRef fun m => (m.unsubscribe hook.id).subscribe hook.id

end Page

/-- What the browser raises on a manager by itself. -/
def Event.OfBrowser : Event → Prop
  | .connect | .dispose | .subscribe _ | .unsubscribe _ => False
  | _ => True

inductive PageEvent where
  /-- A component is mounted, or gets the path. -/
  | effect (hook : Nat) (path : Option String)
  | cleanup (hook : Nat)
  | resubscribe (hook : Nat)
  | browser (manager : Nat) (event : Event)
  deriving DecidableEq, Repr

inductive PageStep (p : Page) : PageEvent → Page → Prop where
  | noPath (id : Nat) : PageStep p (.effect id none) p
  | effect (id : Nat) (path : String) (new : id ∉ p.hooks.map UseWebSocket.id) :
      PageStep p (.effect id (some path)) (p.effect id path)
  | cleanup (before after : List UseWebSocket) (hook : UseWebSocket)
      (mounted : p.hooks = before ++ hook :: after) :
      PageStep p (.cleanup hook.id) (p.cleanup hook (before ++ after))
  | resubscribe (hook : UseWebSocket) (mounted : hook ∈ p.hooks) :
      PageStep p (.resubscribe hook.id) (p.resubscribe hook)
  | browser (i : Nat) (path : String) (m m' : WebSocketManager) (event : Event)
      (created : p.managers[i]? = some (path, m)) (raised : event.OfBrowser)
      (next : step maxReconnectAttempts m event = some m') :
      PageStep p (.browser i event) (p.call i fun _ => m')

/-- A page that has just been loaded, and whatever happens on it. -/
def hookedPage : System Page PageEvent where
  init p := p = .empty
  step := PageStep

/-! ## What the calls leave alone -/

namespace WebSocketManager

@[simp] theorem connect_handlers (m : WebSocketManager) : m.connect.handlers = m.handlers := by
  unfold connect; split <;> rfl

@[simp] theorem resume_handlers (m : WebSocketManager) (answer : Option String) :
    (m.resume answer).handlers = m.handlers := by
  unfold resume; split <;> rfl

@[simp] theorem closeCurrent_handlers (m : WebSocketManager) :
    m.closeCurrent.handlers = m.handlers := by
  unfold closeCurrent; split <;> rfl

@[simp] theorem onclose_handlers (max : Nat) (m : WebSocketManager) (event : CloseEvent) :
    (m.onclose max event).handlers = m.handlers := by
  unfold onclose scheduleReconnect
  dsimp only
  split
  · rfl
  · split
    · rfl
    · split
      · split <;> rfl
      · rfl

@[simp] theorem mem_subscribe {m : WebSocketManager} {handler id : Nat} :
    id ∈ (m.subscribe handler).handlers ↔ id = handler ∨ id ∈ m.handlers := by
  unfold subscribe
  split
  · rename_i mem
    constructor
    · exact .inr
    · rintro (rfl | old)
      · exact mem
      · exact old
  · simp [or_comm]

theorem nodup_subscribe {m : WebSocketManager} (nodup : m.handlers.Nodup) (handler : Nat) :
    (m.subscribe handler).handlers.Nodup := by
  unfold subscribe
  split
  · exact nodup
  · rename_i new
    exact List.nodup_append.mpr ⟨nodup, List.nodup_singleton _, by
      rintro a mem b one rfl
      exact new (List.mem_singleton.mp one ▸ mem)⟩

@[simp] theorem subscribe_disposed (m : WebSocketManager) (handler : Nat) :
    (m.subscribe handler).disposed = m.disposed := by
  unfold subscribe; split <;> rfl

theorem mem_unsubscribe {m : WebSocketManager} (nodup : m.handlers.Nodup) {handler id : Nat} :
    id ∈ (m.unsubscribe handler).handlers ↔ id ≠ handler ∧ id ∈ m.handlers :=
  nodup.mem_erase_iff

theorem nodup_unsubscribe {m : WebSocketManager} (nodup : m.handlers.Nodup) (handler : Nat) :
    (m.unsubscribe handler).handlers.Nodup :=
  nodup.erase handler

end WebSocketManager

/-- Only the page subscribes and unsubscribes. -/
theorem handlers_of_step {max : Nat} {m m' : WebSocketManager} {event : Event}
    (raised : event.OfBrowser) (next : step max m event = some m') :
    m'.handlers = m.handlers := by
  cases raised_of_step next with
  | connect => cases raised
  | ticket answer fetching => exact WebSocketManager.resume_handlers m answer
  | closed i event error =>
      rw [WebSocketManager.onclose_handlers]
      cases error with
      | true => exact WebSocketManager.closeCurrent_handlers _
      | false => rfl
  | fired id pending => exact WebSocketManager.connect_handlers (m.clearTimeout id)
  | dispose => cases raised
  | subscribe handler handlers => cases raised
  | unsubscribe handler handlers => cases raised
  | _ => rfl

theorem Event.OfBrowser.ne_dispose {event : Event} (raised : event.OfBrowser) :
    event ≠ .dispose := by
  rintro rfl
  exact raised

/-! ## The invariant -/

namespace Page

/-- The manager of a path. -/
def owner (p : Page) (path : String) : Option Nat :=
  (p.sharedManagers.get? path).map SharedManager.manager

/-- The hooks of a path. -/
def users (p : Page) (path : String) : List UseWebSocket :=
  p.hooks.filter fun hook => hook.path = path

/-- A manager that is as its hooks need it. -/
structure Serves (p : Page) (i : Nat) (path : String) (m : WebSocketManager) : Prop where
  reach : (dashboard maxReconnectAttempts).Reachable m
  nodup : m.handlers.Nodup
  subscribed : ∀ id, id ∈ m.handlers ↔ ∃ hook ∈ p.hooks, hook.id = id ∧ hook.managerRef = i
  used : m.disposed = false ↔ p.owner path = some i

structure Inv (p : Page) : Prop where
  counted : ∀ path entry, p.sharedManagers.get? path = some entry →
    entry.refCount = (p.users path).length ∧ 0 < (p.users path).length
  created : ∀ path i, p.owner path = some i → ∃ m, p.managers[i]? = some (path, m)
  held : ∀ hook ∈ p.hooks, p.owner hook.path = some hook.managerRef
  ids : (p.hooks.map UseWebSocket.id).Nodup
  serves : ∀ i path m, p.managers[i]? = some (path, m) → p.Serves i path m

variable {p : Page}

/-- A method of a manager changes that manager. -/
theorem get_called {l : List (String × WebSocketManager)} {i j : Nat}
    {f : WebSocketManager → WebSocketManager} {path : String} {m : WebSocketManager}
    (after : (called l i f)[j]? = some (path, m)) :
    ∃ m₀, l[j]? = some (path, m₀) ∧ m = if j = i then f m₀ else m₀ := by
  simp only [called, List.getElem?_modify, Option.map_eq_map, Option.map_eq_some_iff] at after
  obtain ⟨⟨path', m₀⟩, before, same⟩ := after
  by_cases here : i = j
  · subst here
    simp only [if_true, Prod.mk.injEq] at same
    obtain ⟨rfl, rfl⟩ := same
    exact ⟨m₀, before, by simp⟩
  · simp only [here, if_false, Prod.mk.injEq] at same
    obtain ⟨rfl, rfl⟩ := same
    exact ⟨m₀, before, by simp [Ne.symm here]⟩

theorem exists_called {l : List (String × WebSocketManager)} {i j : Nat}
    {f : WebSocketManager → WebSocketManager} {path : String}
    (before : ∃ m, l[j]? = some (path, m)) : ∃ m, (called l i f)[j]? = some (path, m) := by
  obtain ⟨m, before⟩ := before
  refine ⟨if i = j then f m else m, ?_⟩
  simp only [called, List.getElem?_modify, before, Option.map_eq_map, Option.map_some]
  split <;> rfl

/-- The hooks of one manager have one path. -/
theorem Inv.path_eq (inv : p.Inv) {path path' : String} {i : Nat}
    (owner : p.owner path = some i) (owner' : p.owner path' = some i) : path = path' := by
  obtain ⟨m, created⟩ := inv.created path i owner
  obtain ⟨m', created'⟩ := inv.created path' i owner'
  rw [created] at created'
  exact (Prod.mk.inj (Option.some.inj created')).1

/-! ## A hook comes -/

/-- The page after the effects of a hook: it got the `i`-th of the managers `l`. -/
structure Acquired (p : Page) (id : Nat) (path : String) (i : Nat)
    (l : List (String × WebSocketManager)) (p' : Page) : Prop where
  shared : p'.sharedManagers = p.sharedManagers.set path ⟨i, (p.users path).length + 1⟩
  hooks : p'.hooks = p.hooks ++ [⟨id, path, i⟩]
  managers : p'.managers = called l i fun m => m.subscribe id
  free : p.owner path = some i ∨ p.owner path = none
  kept : ∀ (j : Nat) (path' : String) (m : WebSocketManager),
    p.managers[j]? = some (path', m) → l[j]? = some (path', m)
  others : ∀ (j : Nat) (path' : String) (m : WebSocketManager),
    l[j]? = some (path', m) → j ≠ i → p.managers[j]? = some (path', m)
  manager : ∃ m : WebSocketManager, l[i]? = some (path, m) ∧
    (dashboard maxReconnectAttempts).Reachable m ∧ m.handlers.Nodup ∧ m.disposed = false ∧
    ∀ id', id' ∈ m.handlers ↔ ∃ hook ∈ p.hooks, hook.id = id' ∧ hook.managerRef = i

theorem Acquired.owner_eq {p' : Page} {id i : Nat} {path : String}
    {l : List (String × WebSocketManager)} (acquired : p.Acquired id path i l p')
    (path' : String) :
    p'.owner path' = if path' = path then some i else p.owner path' := by
  simp only [owner, acquired.shared, Dict.get?_set]
  split <;> rfl

theorem Acquired.users_eq {p' : Page} {id i : Nat} {path : String}
    {l : List (String × WebSocketManager)} (acquired : p.Acquired id path i l p')
    (path' : String) :
    (p'.users path').length = (p.users path').length + if path' = path then 1 else 0 := by
  simp only [users, acquired.hooks, List.filter_append, List.length_append, List.filter_cons,
    List.filter_nil]
  by_cases same : path = path'
  · simp [same]
  · simp [same, Ne.symm same]

theorem Inv.acquired {p' : Page} {id i : Nat} {path : String}
    {l : List (String × WebSocketManager)} (inv : p.Inv)
    (new : id ∉ p.hooks.map UseWebSocket.id) (acquired : p.Acquired id path i l p') :
    p'.Inv where
  counted path' entry found := by
    rw [acquired.users_eq]
    rw [acquired.shared, Dict.get?_set] at found
    by_cases same : path' = path
    · simp only [same, if_true, Option.some.injEq] at found ⊢
      subst found
      exact ⟨by push_cast; rfl, Nat.succ_pos _⟩
    · simp only [same, if_false, Nat.add_zero] at found ⊢
      exact inv.counted path' entry found
  created path' j owned := by
    rw [acquired.owner_eq] at owned
    rw [acquired.managers]
    refine exists_called ?_
    split at owned
    · rename_i same
      cases owned
      obtain ⟨m, created, -⟩ := acquired.manager
      exact ⟨m, same ▸ created⟩
    · obtain ⟨m, created⟩ := inv.created path' j owned
      exact ⟨m, acquired.kept j path' m created⟩
  held hook mem := by
    rw [acquired.owner_eq]
    rw [acquired.hooks] at mem
    rcases List.mem_append.mp mem with old | one
    · have owned := inv.held hook old
      split
      · rename_i same
        rcases acquired.free with here | none'
        · rw [← here, ← same, owned]
        · rw [same, none'] at owned
          cases owned
      · exact owned
    · obtain rfl := List.mem_singleton.mp one
      simp
  ids := by
    rw [acquired.hooks, List.map_append]
    refine List.nodup_append.mpr ⟨inv.ids, List.nodup_singleton _, ?_⟩
    rintro a mem b one rfl
    obtain rfl := List.mem_singleton.mp one
    exact new mem
  serves j path' m' found := by
    rw [acquired.managers] at found
    obtain ⟨m₀, before, rfl⟩ := get_called found
    by_cases here : j = i
    · subst here
      obtain ⟨m, created, reach, nodup, alive, handlers⟩ := acquired.manager
      rw [before] at created
      cases created
      rw [if_pos rfl]
      refine ⟨reach.step (l := .subscribe id) rfl, WebSocketManager.nodup_subscribe nodup id,
        fun id' => ?_, ?_⟩
      · rw [WebSocketManager.mem_subscribe, handlers, acquired.hooks]
        simp [or_and_right, exists_or, or_comm, eq_comm]
      · rw [WebSocketManager.subscribe_disposed, acquired.owner_eq]
        simp [alive]
    · rw [if_neg here]
      have serves := inv.serves j path' m₀ (acquired.others j path' m₀ before here)
      refine ⟨serves.reach, serves.nodup, fun id' => ?_, ?_⟩
      · rw [serves.subscribed, acquired.hooks]
        simp [or_and_right, exists_or, Ne.symm here]
      · rw [serves.used, acquired.owner_eq]
        split
        · rename_i same
          rcases acquired.free with owned | none'
          · rw [same, owned]
          · simp [same, none', Ne.symm here]
        · rfl

/-- No hook has a manager that is still to be created. -/
theorem Inv.managerRef_lt (inv : p.Inv) {hook : UseWebSocket} (mem : hook ∈ p.hooks) :
    hook.managerRef < p.managers.length := by
  obtain ⟨m, created⟩ := inv.created _ _ (inv.held hook mem)
  exact (List.getElem?_eq_some_iff.mp created).1

/-- A path without a manager has no hooks. -/
theorem Inv.users_nil (inv : p.Inv) {path : String} (none' : p.owner path = none) :
    p.users path = [] := by
  refine List.filter_eq_nil_iff.mpr fun hook mem same => ?_
  have owned := inv.held hook mem
  rw [of_decide_eq_true same, none'] at owned
  cases owned

theorem connected_reachable :
    (dashboard maxReconnectAttempts).Reachable WebSocketManager.new.connect :=
  (System.Reachable.init rfl).step (l := .connect) rfl

theorem Inv.effect (inv : p.Inv) {id : Nat} (new : id ∉ p.hooks.map UseWebSocket.id)
    (path : String) : (p.effect id path).Inv := by
  unfold Page.effect
  split
  · exact inv
  cases found : p.sharedManagers.get? path with
  | some existing =>
      have owned : p.owner path = some existing.manager := by simp [owner, found]
      obtain ⟨m, created⟩ := inv.created path existing.manager owned
      have serves := inv.serves _ _ _ created
      simp only [acquireManager, found]
      refine inv.acquired (l := p.managers) new ⟨?_, rfl, rfl, .inl owned,
        fun _ _ _ before => before, fun _ _ _ before _ => before, m, created, serves.reach,
        serves.nodup, serves.used.mpr owned, serves.subscribed⟩
      rw [← (inv.counted path existing found).1]
      rfl
  | none =>
      have none' : p.owner path = none := by simp [owner, found]
      simp only [acquireManager, found]
      refine inv.acquired (l := p.managers ++ [(path, WebSocketManager.new.connect)]) new
        ⟨?_, rfl, rfl, .inr none', ?_, ?_, WebSocketManager.new.connect,
          List.getElem?_concat_length, connected_reachable, List.nodup_nil, rfl, fun id' => ?_⟩
      · rw [inv.users_nil none']
        rfl
      · intro j path' m before
        exact (List.getElem?_append_left (List.getElem?_eq_some_iff.mp before).1).trans before
      · intro j path' m before other
        have old : j < p.managers.length := by
          have lt := (List.getElem?_eq_some_iff.mp before).1
          simp only [List.length_append, List.length_singleton] at lt
          omega
        rwa [List.getElem?_append_left old] at before
      · constructor
        · intro mem
          cases mem
        · rintro ⟨hook, mem, -, here⟩
          exact absurd (inv.managerRef_lt mem) (by omega)

/-! ## A hook goes -/

/-- What a cleanup has of the hooks. -/
structure Leaves (p : Page) (hook : UseWebSocket) (left : List UseWebSocket) : Prop where
  mem : hook ∈ p.hooks
  sub : left.Sublist p.hooks
  split : ∀ other ∈ p.hooks, other = hook ∨ other ∈ left
  gone : hook.id ∉ left.map UseWebSocket.id
  users : ∀ path, (p.users path).length =
    (left.filter fun other => other.path = path).length + if path = hook.path then 1 else 0

theorem Inv.leaves (inv : p.Inv) {before after : List UseWebSocket} {hook : UseWebSocket}
    (mounted : p.hooks = before ++ hook :: after) : p.Leaves hook (before ++ after) where
  mem := mounted ▸ List.mem_append_right _ List.mem_cons_self
  sub := mounted ▸ (List.sublist_cons_self hook after).append_left before
  split other mem := by
    rw [mounted, List.mem_append, List.mem_cons] at mem
    rw [List.mem_append]
    rcases mem with mem | same | mem
    · exact .inr (.inl mem)
    · exact .inl same
    · exact .inr (.inr mem)
  gone := by
    have ids := inv.ids
    rw [mounted, List.map_append, List.map_cons, List.nodup_middle, List.nodup_cons] at ids
    rw [List.map_append]
    exact ids.1
  users path := by
    simp only [Page.users, mounted, List.filter_append, List.length_append, List.filter_cons]
    by_cases same : hook.path = path
    · simp only [same, decide_true, if_true, List.length_cons]
      omega
    · simp [same, Ne.symm same]

/-- The manager of the hook that goes. -/
theorem Leaves.of_managerRef {hook other : UseWebSocket} {left : List UseWebSocket}
    (leaves : p.Leaves hook left) {j : Nat} (ne : j ≠ hook.managerRef) :
    (other ∈ p.hooks ∧ other.managerRef = j) ↔ other ∈ left ∧ other.managerRef = j := by
  constructor
  · rintro ⟨mem, here⟩
    rcases leaves.split other mem with rfl | stays
    · exact absurd here.symm ne
    · exact ⟨stays, here⟩
  · rintro ⟨mem, here⟩
    exact ⟨leaves.sub.subset mem, here⟩

/-- The managers of the other hooks serve those that are left. -/
theorem Serves.left {p' : Page} {hook : UseWebSocket} {left : List UseWebSocket}
    (leaves : p.Leaves hook left) (hooks : p'.hooks = left) {j : Nat} {path : String}
    {m : WebSocketManager} (serves : p.Serves j path m) (ne : j ≠ hook.managerRef)
    (used : p'.owner path = some j ↔ p.owner path = some j) : p'.Serves j path m where
  reach := serves.reach
  nodup := serves.nodup
  subscribed id := by
    rw [serves.subscribed, hooks]
    refine exists_congr fun other => ?_
    rw [and_left_comm, leaves.of_managerRef ne, and_left_comm]
  used := serves.used.trans used.symm

/-- The manager that the hook shared with others. -/
theorem Serves.unsubscribe {p' : Page} {hook : UseWebSocket} {left : List UseWebSocket}
    (leaves : p.Leaves hook left) (hooks : p'.hooks = left) {path : String}
    {m : WebSocketManager} (serves : p.Serves hook.managerRef path m)
    (used : p'.owner path = some hook.managerRef ↔ p.owner path = some hook.managerRef) :
    p'.Serves hook.managerRef path (m.unsubscribe hook.id) where
  reach := serves.reach.step (l := .unsubscribe hook.id) rfl
  nodup := WebSocketManager.nodup_unsubscribe serves.nodup hook.id
  subscribed id := by
    rw [WebSocketManager.mem_unsubscribe serves.nodup, serves.subscribed, hooks]
    constructor
    · rintro ⟨ne, other, mem, rfl, here⟩
      rcases leaves.split other mem with rfl | stays
      · exact absurd rfl ne
      · exact ⟨other, stays, rfl, here⟩
    · rintro ⟨other, mem, rfl, here⟩
      refine ⟨fun same => ?_, other, leaves.sub.subset mem, rfl, here⟩
      exact leaves.gone (same ▸ List.mem_map_of_mem mem)
  used := serves.used.trans used.symm

/-- The manager that no other hook has. -/
theorem Serves.dispose {p' : Page} {hook : UseWebSocket} {path : String} {m : WebSocketManager}
    (serves : p.Serves hook.managerRef path m)
    (alone : ∀ other ∈ p'.hooks, other.managerRef ≠ hook.managerRef)
    (free : p'.owner path ≠ some hook.managerRef) :
    p'.Serves hook.managerRef path (m.dispose.unsubscribe hook.id) where
  reach := by
    have disposed : (dashboard maxReconnectAttempts).Reachable m.dispose :=
      serves.reach.step (l := .dispose) rfl
    exact disposed.step (l := .unsubscribe hook.id) rfl
  nodup := List.nodup_nil
  subscribed id := by
    constructor
    · intro mem
      cases mem
    · rintro ⟨other, mem, -, same⟩
      exact absurd same (alone other mem)
  used := by
    have ended : (m.dispose.unsubscribe hook.id).disposed = true :=
      WebSocketManager.dispose_disposed m
    constructor
    · intro alive
      rw [ended] at alive
      cases alive
    · exact fun own => absurd own free

/-- The hook was not the last of its path. -/
theorem Inv.cleanup_more {p' : Page} (inv : p.Inv) {hook : UseWebSocket}
    {left : List UseWebSocket} (leaves : p.Leaves hook left) (refCount : Int)
    (shared : p'.sharedManagers = p.sharedManagers.set hook.path ⟨hook.managerRef, refCount⟩)
    (hooks : p'.hooks = left)
    (managers : p'.managers = called p.managers hook.managerRef fun m => m.unsubscribe hook.id)
    (count : refCount + 1 = (p.users hook.path).length) (more : 0 < refCount) : p'.Inv := by
  have owner (path : String) : p'.owner path = p.owner path := by
    simp only [Page.owner, shared, Dict.get?_set]
    split
    · rename_i same
      exact (same ▸ inv.held hook leaves.mem).symm
    · rfl
  have users (path : String) : (p.users path).length =
      (p'.users path).length + if path = hook.path then 1 else 0 := by
    rw [leaves.users path, Page.users, hooks]
  refine ⟨fun path entry found => ?_, fun path i owned => ?_, fun other mem => ?_, ?_,
    fun j path m' found => ?_⟩
  · have counts := users path
    rw [shared, Dict.get?_set] at found
    by_cases same : path = hook.path
    · subst same
      simp only [if_true, Option.some.injEq] at found counts
      subst found
      dsimp only
      omega
    · simp only [same, if_false, Nat.add_zero] at found counts
      rw [← counts]
      exact inv.counted path entry found
  · rw [managers]
    exact exists_called (inv.created path i (owner path ▸ owned))
  · rw [owner]
    exact inv.held other (leaves.sub.subset (hooks ▸ mem))
  · rw [hooks]
    exact (leaves.sub.map UseWebSocket.id).nodup inv.ids
  · rw [managers] at found
    obtain ⟨m, before, rfl⟩ := get_called found
    have serves := inv.serves j path m before
    have used : p'.owner path = some j ↔ p.owner path = some j := by rw [owner]
    split
    · rename_i here
      subst here
      exact serves.unsubscribe leaves hooks used
    · rename_i ne
      exact serves.left leaves hooks ne used

/-- The hook was the last of its path. -/
theorem Inv.cleanup_last {p' : Page} (inv : p.Inv) {hook : UseWebSocket}
    {left : List UseWebSocket} (leaves : p.Leaves hook left)
    (shared : p'.sharedManagers = p.sharedManagers.pop hook.path) (hooks : p'.hooks = left)
    (managers : p'.managers = called (called p.managers hook.managerRef WebSocketManager.dispose)
      hook.managerRef fun m => m.unsubscribe hook.id)
    (last : (p.users hook.path).length = 1) : p'.Inv := by
  have owned := inv.held hook leaves.mem
  have none' : p'.owner hook.path = none := by
    rw [Page.owner, shared, Dict.get?_pop_self]
    rfl
  have owner {path : String} (ne : path ≠ hook.path) : p'.owner path = p.owner path := by
    rw [Page.owner, shared, Dict.get?_pop_ne _ ne]
    rfl
  have users (path : String) : (p.users path).length =
      (p'.users path).length + if path = hook.path then 1 else 0 := by
    rw [leaves.users path, Page.users, hooks]
  have elsewhere {other : UseWebSocket} (mem : other ∈ left) : other.path ≠ hook.path := by
    intro same
    have counts := users hook.path
    have user : other ∈ p'.users hook.path :=
      List.mem_filter.mpr ⟨hooks ▸ mem, decide_eq_true same⟩
    have pos := List.length_pos_of_mem user
    rw [if_pos rfl] at counts
    omega
  refine ⟨fun path entry found => ?_, fun path i owned' => ?_, fun other mem => ?_, ?_,
    fun j path m' found => ?_⟩
  · have ne : path ≠ hook.path := by
      rintro rfl
      rw [shared, Dict.get?_pop_self] at found
      cases found
    have counts := users path
    rw [if_neg ne, Nat.add_zero] at counts
    rw [shared, Dict.get?_pop_ne _ ne] at found
    rw [← counts]
    exact inv.counted path entry found
  · have ne : path ≠ hook.path := by
      rintro rfl
      rw [none'] at owned'
      cases owned'
    rw [managers]
    exact exists_called (exists_called (inv.created path i (owner ne ▸ owned')))
  · have stays := hooks ▸ mem
    rw [owner (elsewhere stays)]
    exact inv.held other (leaves.sub.subset stays)
  · rw [hooks]
    exact (leaves.sub.map UseWebSocket.id).nodup inv.ids
  · rw [managers] at found
    obtain ⟨m₁, between, rfl⟩ := get_called found
    obtain ⟨m, before, rfl⟩ := get_called between
    have serves := inv.serves j path m before
    by_cases here : j = hook.managerRef
    · subst here
      simp only [if_true]
      refine serves.dispose (fun other mem same => ?_) fun own => ?_
      · have stays : other ∈ left := hooks ▸ mem
        have held := inv.held other (leaves.sub.subset stays)
        exact elsewhere stays (inv.path_eq (same ▸ held) owned)
      · by_cases same : path = hook.path
        · rw [same, none'] at own
          cases own
        · rw [owner same] at own
          exact same (inv.path_eq own owned)
    · simp only [here, if_false]
      refine serves.left leaves hooks here ?_
      by_cases same : path = hook.path
      · rw [same, none', owned, Option.some.injEq]
        exact ⟨fun own => (nomatch own), fun own => absurd own.symm here⟩
      · rw [owner same]

theorem Inv.cleanup (inv : p.Inv) {before after : List UseWebSocket} {hook : UseWebSocket}
    (mounted : p.hooks = before ++ hook :: after) : (p.cleanup hook (before ++ after)).Inv := by
  have leaves := inv.leaves mounted
  obtain ⟨entry, found, same⟩ := Option.map_eq_some_iff.mp (inv.held hook leaves.mem)
  obtain ⟨count, -⟩ := inv.counted hook.path entry found
  unfold Page.cleanup releaseManager
  simp only [found]
  split
  case isTrue last =>
    refine inv.cleanup_last leaves rfl rfl ?_ ?_
    · simp only [call, same]
    · have one := leaves.users hook.path
      rw [if_pos rfl] at one
      omega
  case isFalse more =>
    refine inv.cleanup_more leaves (entry.refCount - 1) ?_ rfl ?_ ?_ ?_
    · rw [same]
      rfl
    · rfl
    · omega
    · omega

/-! ## Calls that keep the handlers -/

theorem Inv.call (inv : p.Inv) {i : Nat} {f : WebSocketManager → WebSocketManager}
    (kept : ∀ path m, p.managers[i]? = some (path, m) → p.Serves i path m →
      (dashboard maxReconnectAttempts).Reachable (f m) ∧ (f m).handlers.Nodup ∧
      (∀ id, id ∈ (f m).handlers ↔ id ∈ m.handlers) ∧ (f m).disposed = m.disposed) :
    (p.call i f).Inv where
  counted := inv.counted
  created path j owned := exists_called (inv.created path j owned)
  held := inv.held
  ids := inv.ids
  serves j path m' found := by
    obtain ⟨m, before, rfl⟩ := get_called found
    have serves := inv.serves j path m before
    split
    · rename_i here
      subst here
      obtain ⟨reach, nodup, same, disposed⟩ := kept path m before serves
      exact ⟨reach, nodup, fun id => (same id).trans (serves.subscribed id),
        disposed ▸ serves.used⟩
    · exact ⟨serves.reach, serves.nodup, serves.subscribed, serves.used⟩

theorem Inv.resubscribe (inv : p.Inv) {hook : UseWebSocket} (mounted : hook ∈ p.hooks) :
    (p.resubscribe hook).Inv := by
  refine inv.call fun path m created serves => ⟨?_, ?_, fun id => ?_, ?_⟩
  · have gone : (dashboard maxReconnectAttempts).Reachable (m.unsubscribe hook.id) :=
      serves.reach.step (l := .unsubscribe hook.id) rfl
    exact gone.step (l := .subscribe hook.id) rfl
  · exact WebSocketManager.nodup_subscribe
      (WebSocketManager.nodup_unsubscribe serves.nodup hook.id) hook.id
  · have own : hook.id ∈ m.handlers := (serves.subscribed hook.id).mpr ⟨hook, mounted, rfl, rfl⟩
    rw [WebSocketManager.mem_subscribe, WebSocketManager.mem_unsubscribe serves.nodup]
    by_cases same : id = hook.id
    · simp [same, own]
    · simp [same]
  · exact WebSocketManager.subscribe_disposed (m.unsubscribe hook.id) hook.id

theorem Inv.step {p' : Page} {event : PageEvent} (inv : p.Inv) (step : PageStep p event p') :
    p'.Inv := by
  cases step with
  | noPath id => exact inv
  | effect id path new => exact inv.effect new path
  | cleanup before after hook mounted => exact inv.cleanup mounted
  | resubscribe hook mounted => exact inv.resubscribe mounted
  | browser i path m m' event created raised next =>
      refine inv.call fun path' m₀ found serves => ?_
      rw [created] at found
      cases found
      have handlers := handlers_of_step raised next
      exact ⟨serves.reach.step next, handlers ▸ serves.nodup, fun id => by rw [handlers],
        disposed_of_step next raised.ne_dispose⟩

/-- A manager is in use while a hook holds it. -/
theorem Inv.used_iff (inv : p.Inv) {i : Nat} {path : String} {m : WebSocketManager}
    (created : p.managers[i]? = some (path, m)) :
    m.disposed = false ↔ ∃ hook ∈ p.hooks, hook.managerRef = i := by
  rw [(inv.serves i path m created).used]
  constructor
  · intro owned
    obtain ⟨entry, found, -⟩ := Option.map_eq_some_iff.mp owned
    obtain ⟨hook, user⟩ := List.exists_mem_of_length_pos (inv.counted path entry found).2
    obtain ⟨mem, same⟩ := List.mem_filter.mp user
    have held := inv.held hook mem
    rw [of_decide_eq_true same, owned] at held
    exact ⟨hook, mem, (Option.some.inj held).symm⟩
  · rintro ⟨hook, mem, rfl⟩
    have owned := inv.held hook mem
    obtain ⟨m', created'⟩ := inv.created _ _ owned
    rw [created] at created'
    cases created'
    exact owned

theorem Inv.empty : Page.empty.Inv where
  counted path entry found := by cases found
  created path i owned := by cases owned
  held hook mem := by cases mem
  ids := List.nodup_nil
  serves i path m found := by cases found

theorem reachable_inv (reach : hookedPage.Reachable p) : p.Inv := by
  refine reach.invariant ?_ fun p event p' inv step => inv.step step
  rintro p rfl
  exact Inv.empty

end Page

/-! ## What the hooks have -/

open Page

/-- **The managers of a page.**  Whatever is mounted, moved and unmounted while sockets open,
fail and close: the count of a path is the number of its hooks, and without hooks there is no
entry; a manager is disposed of exactly when no hook holds it, and each has only seen what a
manager by itself can see; a hook holds a manager of its path, and two hooks hold the same one
exactly when they have the same path. -/
theorem managers_shared {p : Page} (reach : hookedPage.Reachable p) :
    (∀ path, (p.sharedManagers.get? path).map SharedManager.refCount =
      if p.users path = [] then none else some ((p.users path).length : Int)) ∧
    (∀ i path m, p.managers[i]? = some (path, m) →
      (dashboard maxReconnectAttempts).Reachable m ∧
      (m.disposed = false ↔ ∃ hook ∈ p.hooks, hook.managerRef = i)) ∧
    (∀ hook ∈ p.hooks, ∃ m, p.managers[hook.managerRef]? = some (hook.path, m)) ∧
    ∀ hook ∈ p.hooks, ∀ other ∈ p.hooks,
      hook.managerRef = other.managerRef ↔ hook.path = other.path := by
  have inv := reachable_inv reach
  refine ⟨fun path => ?_, fun i path m found => ?_, fun hook mem => ?_,
    fun hook mem other mem' => ⟨fun same => ?_, fun same => ?_⟩⟩
  · cases found : p.sharedManagers.get? path with
    | none =>
        have none' : p.owner path = none := by simp [owner, found]
        simp [inv.users_nil none']
    | some entry =>
        obtain ⟨count, pos⟩ := inv.counted path entry found
        rw [if_neg (List.ne_nil_of_length_pos pos), Option.map_some, count]
  · exact ⟨(inv.serves i path m found).reach, inv.used_iff found⟩
  · exact inv.created _ _ (inv.held hook mem)
  · exact inv.path_eq (inv.held hook mem) (same ▸ inv.held other mem')
  · have held := inv.held hook mem
    rw [same, inv.held other mem'] at held
    exact (Option.some.inj held).symm

/-- Two components of the fleet page, of which the first has left. -/
def fleetHooks : Page :=
  ((Page.empty.effect 0 "/ws/fleet").effect 1 "/ws/fleet").cleanup ⟨0, "/ws/fleet", 0⟩
    [⟨1, "/ws/fleet", 0⟩]

theorem fleetHooks_reachable : hookedPage.Reachable fleetHooks := by
  have first : hookedPage.Reachable (Page.empty.effect 0 "/ws/fleet") :=
    (System.Reachable.init rfl).step (l := .effect 0 (some "/ws/fleet"))
      (.effect 0 "/ws/fleet" (by decide))
  have second : hookedPage.Reachable ((Page.empty.effect 0 "/ws/fleet").effect 1 "/ws/fleet") :=
    first.step (l := .effect 1 (some "/ws/fleet")) (.effect 1 "/ws/fleet" (by decide))
  exact second.step (l := .cleanup 0) (.cleanup [] [⟨1, "/ws/fleet", 0⟩] ⟨0, "/ws/fleet", 0⟩ rfl)

/-- The manager is still in use. -/
theorem managers_shared_fleetHooks :
    (fleetHooks.sharedManagers.get? "/ws/fleet").map SharedManager.refCount = some 1 ∧
      ∃ m, fleetHooks.managers[0]? = some ("/ws/fleet", m) ∧ m.disposed = false := by
  obtain ⟨counts, used, -, -⟩ := managers_shared fleetHooks_reachable
  refine ⟨counts "/ws/fleet", _, rfl, (used 0 "/ws/fleet" _ rfl).2.mpr ?_⟩
  exact ⟨⟨1, "/ws/fleet", 0⟩, List.mem_singleton_self _, rfl⟩

/-- **A frame reaches the hooks of its path.**  On whatever socket of a manager it comes: when
the manager is in use, each hook of the path is called once, and no other; when it is disposed
of, none is. -/
theorem frame_shared {p p' : Page} (reach : hookedPage.Reachable p) {i socket : Nat}
    {path payload : String} {m : WebSocketManager} (created : p.managers[i]? = some (path, m))
    (frame : hookedPage.step p (.browser i (.message socket (.data payload))) p') :
    ∃ (m' : WebSocketManager) (ids : List Nat), p'.managers[i]? = some (path, m') ∧
      m'.delivered = m.delivered ++ ids.map (fun id => (id, payload)) ∧
      ids.Perm (if m.disposed then [] else (p.users path).map UseWebSocket.id) := by
  have inv := reachable_inv reach
  have serves := inv.serves i path m created
  cases frame with
  | browser i path' m₀ m' event created' raised next =>
      rw [created] at created'
      cases created'
      simp only [step, Option.ite_none_right_eq_some, Option.some.injEq] at next
      obtain ⟨-, rfl⟩ := next
      refine ⟨m.onmessage (.data payload), m.handlers, ?_, rfl, ?_⟩
      · simp only [call, called, List.getElem?_modify, created, if_true, Option.map_eq_map,
          Option.map_some]
      · cases disposed : m.disposed with
        | true =>
            have none' : m.handlers = [] := by
              refine List.eq_nil_iff_forall_not_mem.mpr fun id mem => ?_
              obtain ⟨hook, mounted, -, here⟩ := (serves.subscribed id).mp mem
              rw [(inv.used_iff created).mpr ⟨hook, mounted, here⟩] at disposed
              cases disposed
            rw [none']
            exact .nil
        | false =>
            have owned := serves.used.mp disposed
            have nodup : ((p.users path).map UseWebSocket.id).Nodup :=
              (List.filter_sublist.map UseWebSocket.id).nodup inv.ids
            refine (List.perm_ext_iff_of_nodup serves.nodup nodup).mpr fun id => ?_
            rw [serves.subscribed, List.mem_map]
            constructor
            · rintro ⟨hook, mem, rfl, here⟩
              have same := inv.path_eq (here ▸ inv.held hook mem) owned
              exact ⟨hook, List.mem_filter.mpr ⟨mem, decide_eq_true same⟩, rfl⟩
            · rintro ⟨hook, user, rfl⟩
              obtain ⟨mem, same⟩ := List.mem_filter.mp user
              have held := inv.held hook mem
              rw [of_decide_eq_true same, owned] at held
              exact ⟨hook, mem, rfl, (Option.some.inj held).symm⟩

/-- The manager of the fleet page. -/
def fleetManager : WebSocketManager :=
  ((WebSocketManager.new.connect.subscribe 0).subscribe 1).unsubscribe 0

/-- Its socket is open. -/
def openManager : WebSocketManager :=
  ((fleetManager.resume (some "ticket")).setReadyState 0 .open).onopen

theorem reachable_browser {p : Page} (reach : hookedPage.Reachable p) {i : Nat} {path : String}
    {m m' : WebSocketManager} (event : Event) (created : p.managers[i]? = some (path, m))
    (raised : event.OfBrowser) (next : step maxReconnectAttempts m event = some m') :
    hookedPage.Reachable (p.call i fun _ => m') :=
  reach.step (l := .browser i event) (.browser i path m m' event created raised next)

/-- The fleet page with its socket open. -/
def openHooks : Page :=
  (fleetHooks.call 0 fun _ => fleetManager.resume (some "ticket")).call 0 fun _ => openManager

theorem openHooks_reachable : hookedPage.Reachable openHooks := by
  have ticket : hookedPage.Reachable
      (fleetHooks.call 0 fun _ => fleetManager.resume (some "ticket")) :=
    reachable_browser fleetHooks_reachable (m := fleetManager) (.ticket (some "ticket"))
      rfl trivial rfl
  exact reachable_browser ticket (m := fleetManager.resume (some "ticket")) (.opened 0)
    rfl trivial rfl

/-- The hook that is left gets the frame. -/
theorem frame_shared_openHooks :
    ∃ (m' : WebSocketManager) (ids : List Nat),
      (openHooks.call 0 fun _ => openManager.onmessage (.data "summary")).managers[0]? =
        some ("/ws/fleet", m') ∧
      m'.delivered = [] ++ ids.map (fun id => (id, "summary")) ∧ ids.Perm [1] := by
  have frame := PageStep.browser 0 "/ws/fleet" openManager _ (.message 0 (.data "summary"))
    (p := openHooks) rfl trivial rfl
  exact frame_shared openHooks_reachable rfl frame

end LocoTwin.Dashboard
