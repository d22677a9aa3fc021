import LinkControl.Server.Duplicates
import LinkControl.Lib.Cells
import Mathlib.Order.BooleanAlgebra.Set

/-!
# Link server — the order of requests

Seen from outside, the server is a set of addresses it knows and one `Link` for every
device name: a status, a connect time, the retries left, and the addresses that use the
device. A request makes its sender known and acts on the link it names (`Request.act`).
While every command returns 0, and no allocation fails, this is all that a request does
(`view_processedAt`).

So requests that name different devices commute, since they act on different cells, and
two UPs or two DOWNs of one device commute because `Link.up` and `Link.down` do
(`order_irrelevant`). The clients share lists, but no list entry is about two devices.

Time stands still while a request is processed, but for the two seconds that a dial
waits when it has killed the old connection.
-/

namespace LinkControl

open ReturnCode Cells

variable {w : World} {cfg : Config} {cli : SockAddr} {c : CliPtr} {d : DevPtr} {o : Op}
  {message : CStr} {s s₁ s' : State} {a b : Nat} {T : Int}

-- ---------------------------------------------------------------------------
-- The server from outside
-- ---------------------------------------------------------------------------

/-- A device, without the order of its clients. `users` are the addresses in the list of
the device, `listing` the addresses of the clients that have it in theirs. -/
@[ext]
structure Link where
  status : DeviceStatus
  connectTime : Int
  retries : Int
  users : Set Nat
  listing : Set Nat

/-- The server, without its lists. -/
@[ext]
structure View where
  known : Set Nat
  link : CStr → Option Link

/-- What the lists say about a device. -/
def linkOf (s : State) (d : DevPtr) : Link where
  status := (s.dev d).status
  connectTime := (s.dev d).connectTime
  retries := (s.dev d).retries
  users := {a | ∃ c ∈ (s.dev d).clientsConnected, (s.cli c).sa.addr = a}
  listing := {a | ∃ c ∈ s.gClients, (s.cli c).sa.addr = a ∧ d ∈ (s.cli c).devicesConnected}

/-- The client set, and what is known of the device of each name. -/
def view (s : State) : View where
  known := {a | ∃ c ∈ s.gClients, (s.cli c).sa.addr = a}
  link name := (getDevice s.gDevices name s).1.map (linkOf s)

/-- The requests that can change a device. -/
inductive Request where
  | up (cli : SockAddr) (name : CStr)
  | down (cli : SockAddr) (name : CStr)
  | forceDown (cli : SockAddr) (name : CStr)
  | isup (name : CStr)
  | isdown (name : CStr)

namespace Request

/-- The datagram of a request. -/
def event : Request → Event
  | .up cli name => .client cli (clientUp ++ name)
  | .down cli name => .client cli (clientDown ++ name)
  | .forceDown cli name => .client cli (clientForceDown ++ name)
  | .isup name => .peer (notifyIsup ++ name)
  | .isdown name => .peer (notifyIsdown ++ name)

/-- The device it names. -/
def name : Request → CStr
  | .up _ name | .down _ name | .forceDown _ name | .isup name | .isdown name => name

/-- The address it makes known. -/
def senders : Request → Set Nat
  | .up cli _ | .down cli _ | .forceDown cli _ => {cli.addr}
  | .isup _ | .isdown _ => ∅

end Request

namespace Link

open Classical in
/-- An address asks for the link at time `T`, with `R` retries. -/
noncomputable def up (R T : Int) (a : Nat) (L : Link) : Link :=
  if L.users = ∅ then
    if L.status = .up then { L with retries := R }
    else
      { status := .connecting
        connectTime := if L.status = .disconnecting then T + 2 else T
        retries := R - 1
        users := {a}
        listing := insert a L.listing }
  else { L with users := insert a L.users, listing := insert a L.listing }

open Classical in
/-- An address that has the link in its list is finished with it, and the link is hung up
after its last user. -/
noncomputable def down (T : Int) (a : Nat) (L : Link) : Link :=
  if a ∈ L.listing then
    { status := if L.users = {a} then .disconnecting else L.status
      connectTime := if L.users = {a} ∧ L.status = .up then T else L.connectTime
      retries := L.retries
      users := L.users \ {a}
      listing := L.listing \ {a} }
  else L

/-- The link is taken down for everybody. -/
def gone (L : Link) : Link := { L with status := .down, users := ∅, listing := ∅ }

/-- The link is reported up. -/
def isup (T : Int) (L : Link) : Link :=
  if L.status = .connecting then { L with status := .up, connectTime := T } else L

end Link

/-- What a request does to the link it names. -/
noncomputable def Request.onLink (cfg : Config) (T : Int) : Request → Link → Link
  | .up cli _ => Link.up cfg.gRetries T cli.addr
  | .down cli _ => Link.down T cli.addr
  | .forceDown _ _ | .isdown _ => Link.gone
  | .isup _ => Link.isup T

/-- What a request does at time `T`. A name of no device has no link. -/
noncomputable def Request.act (cfg : Config) (T : Int) (r : Request) (v : View) : View where
  known := r.senders ∪ v.known
  link := modify r.name (Option.map (r.onLink cfg T)) v.link

-- ---------------------------------------------------------------------------
-- Actions that commute
-- ---------------------------------------------------------------------------

/-- The first of two users has the server dial, whichever it is. -/
theorem Link.up_comm (R T : Int) (a b : Nat) : Function.Commute (Link.up R T a) (Link.up R T b) := by
  intro L
  have hSome : ∀ a, insert a L.users ≠ ∅ := fun a => (Set.insert_nonempty a L.users).ne_empty
  by_cases hFree : L.users = ∅
  · by_cases hUp : L.status = .up
    · simp [Link.up, hFree, hUp]
    · simp [Link.up, hFree, hUp, Set.pair_comm a b, Set.insert_comm a b]
  · simp [Link.up, hFree, hSome, Set.insert_comm a b]

/-- Who does not have the link in its list does not get it there by another's DOWN. -/
theorem Link.down_of_not_listing {L : Link} (hNot : a ∉ L.listing) (T : Int) (b : Nat) :
    (L.down T b).down T a = (L.down T a).down T b := by
  have hBefore : L.down T a = L := if_neg hNot
  have hAfter : (L.down T b).down T a = L.down T b := by
    refine if_neg ?_
    unfold Link.down
    split
    · exact fun hMem => hNot hMem.1
    · exact hNot
  rw [hBefore, hAfter]

/-- One of two users is the last, whichever it is. -/
theorem Link.down_comm (T : Int) (hNe : a ≠ b) :
    Function.Commute (Link.down T a) (Link.down T b) := by
  intro L
  by_cases ha : a ∈ L.listing
  swap
  · exact Link.down_of_not_listing ha T b
  by_cases hb : b ∈ L.listing
  swap
  · exact (Link.down_of_not_listing hb T a).symm
  -- both are users that are finished: after either, is the other the only one left?
  have hRest : ∀ {x y : Nat}, x ≠ y → (L.users \ {x} = {y} ↔ L.users = {y} ∨ L.users = {x, y}) := by
    intro x y hxy
    constructor
    · intro hDiff
      by_cases hx : x ∈ L.users
      · right
        rw [← hDiff, Set.insert_sdiff_singleton, Set.insert_eq_of_mem hx]
      · left
        rwa [Set.sdiff_singleton_eq_self hx] at hDiff
    · intro hUsers
      rcases hUsers with hUsers | hUsers <;> rw [hUsers]
      · exact Set.sdiff_singleton_eq_self (by simpa using hxy)
      · exact Set.insert_sdiff_self_of_notMem (by simpa using hxy)
  have hSets : (L.users \ {a}) \ {b} = (L.users \ {b}) \ {a} := Set.sdiff_sdiff_comm
  have hLists : (L.listing \ {a}) \ {b} = (L.listing \ {b}) \ {a} := Set.sdiff_sdiff_comm
  unfold Link.down
  simp only [ha, hb, if_true, Set.mem_sdiff, Set.mem_singleton_iff, hNe, hNe.symm,
    not_false_eq_true, and_self, hRest hNe, hRest hNe.symm, hSets, hLists, Set.pair_comm b a]
  by_cases hA : L.users = {a}
  · simp [hA, hNe]
  · by_cases hB : L.users = {b}
    · simp [hB, hNe.symm]
    · by_cases hBoth : L.users = {a, b}
      · rw [hBoth] at hA
        simp [hBoth, hA, hNe]
      · simp [hA, hB, hBoth]

theorem Request.act_comm_of_name {r r' : Request} (h : r.name ≠ r'.name) (v : View) :
    r.act cfg T (r'.act cfg T v) = r'.act cfg T (r.act cfg T v) := by
  refine View.ext ?_ (modify_comm_of_ne h _ _ _)
  exact Set.union_left_comm _ _ _

theorem Request.act_comm_of_commute {r r' : Request} (hName : r.name = r'.name)
    (h : Function.Commute (r.onLink cfg T) (r'.onLink cfg T)) (v : View) :
    r.act cfg T (r'.act cfg T v) = r'.act cfg T (r.act cfg T v) := by
  refine View.ext (Set.union_left_comm _ _ _) ?_
  have hOption : Function.Commute (Option.map (r.onLink cfg T)) (Option.map (r'.onLink cfg T)) := by
    intro L
    cases L with
    | none => rfl
    | some L => exact congrArg some (h.eq L)
  unfold Request.act
  rw [hName]
  exact modify_comm_of_commute hOption _ _

-- ---------------------------------------------------------------------------
-- The sets behind the lists
-- ---------------------------------------------------------------------------

namespace WellFormed

variable (h : WellFormed s)
include h

theorem mem_users (hd : d ∈ s.gDevices) (hc : c ∈ s.gClients) :
    (s.cli c).sa.addr ∈ (linkOf s d).users ↔ c ∈ (s.dev d).clientsConnected := by
  constructor
  · intro hMem
    obtain ⟨c', hc', hAddr⟩ := hMem
    rwa [h.client_ext hc (h.clientsKnown d hd c' hc') hAddr.symm]
  · exact fun hMem => ⟨c, hMem, rfl⟩

theorem mem_listing (hc : c ∈ s.gClients) :
    (s.cli c).sa.addr ∈ (linkOf s d).listing ↔ d ∈ (s.cli c).devicesConnected := by
  constructor
  · intro hMem
    obtain ⟨c', hc', hAddr, hd⟩ := hMem
    rwa [h.client_ext hc hc' hAddr.symm]
  · exact fun hMem => ⟨c, hc, rfl, hMem⟩

theorem users_eq_singleton (hd : d ∈ s.gDevices) (hc : c ∈ s.gClients) :
    (linkOf s d).users = {(s.cli c).sa.addr} ↔ (s.dev d).clientsConnected = [c] := by
  constructor
  · intro hOne
    have hMem : c ∈ (s.dev d).clientsConnected := by
      rw [← h.mem_users hd hc, hOne]
      exact Set.mem_singleton _
    have hOnly : ∀ c' ∈ (s.dev d).clientsConnected, c' = c := by
      intro c' hc'
      have hKnown := h.clientsKnown d hd c' hc'
      have hUser := (h.mem_users hd hKnown).mpr hc'
      rw [hOne] at hUser
      exact h.client_ext hKnown hc hUser
    refine List.perm_singleton.mp ?_
    refine (List.perm_ext_iff_of_nodup (h.clientsNodup d hd) (List.nodup_singleton c)).mpr fun c' => ?_
    rw [List.mem_singleton]
    exact ⟨hOnly c', fun hEq => hEq ▸ hMem⟩
  · intro hOne
    ext a
    simp [linkOf, hOne, eq_comm]

end WellFormed

theorem users_eq_empty : (linkOf s d).users = ∅ ↔ (s.dev d).clientsConnected = [] := by
  rw [Set.eq_empty_iff_forall_notMem, List.eq_nil_iff_forall_not_mem]
  constructor
  · exact fun hNone c hc => hNone _ ⟨c, hc, rfl⟩
  · intro hNone a hMem
    obtain ⟨c, hc, -⟩ := hMem
    exact hNone c hc

/-- A device that nothing happened to looks the same. -/
theorem linkOf_congr (hDev : s'.dev d = s.dev d) (hWF : WellFormed s) (hd : d ∈ s.gDevices)
    (hAddr : ∀ c ∈ s.gClients, (s'.cli c).sa.addr = (s.cli c).sa.addr)
    (hListing : (linkOf s' d).listing = (linkOf s d).listing) : linkOf s' d = linkOf s d := by
  refine Link.ext ?_ ?_ ?_ ?_ hListing
  · exact congrArg Device.status hDev
  · exact congrArg Device.connectTime hDev
  · exact congrArg Device.retries hDev
  · ext a
    simp only [linkOf, hDev, Set.mem_ofPred_eq]
    refine exists_congr fun c => and_congr_right fun hc => ?_
    rw [hAddr c (hWF.clientsKnown d hd c hc)]

/-- The device of a name, as a function of what it was. -/
theorem view_link (hNamed : Named s s') {name : CStr} {f : Link → Link}
    (hLink : ∀ d ∈ s.gDevices, (s.dev d).deviceName = name → linkOf s' d = f (linkOf s d)) :
    (view s').link name = ((view s).link name).map f := by
  have hFound : (getDevice s'.gDevices name s').1 = (getDevice s.gDevices name s).1 := by
    rw [hNamed.gDevices]
    exact getDevice_congr fun d _ => hNamed.names d
  show (getDevice s'.gDevices name s').1.map (linkOf s') =
    ((getDevice s.gDevices name s).1.map (linkOf s)).map f
  rw [hFound]
  rcases hGet : getDevice s.gDevices name s with ⟨_ | d, s₁⟩
  · rfl
  · obtain ⟨hd, hName, -⟩ := getDevice_some hGet
    exact congrArg some (hLink d hd hName)

/-- The view of a state in which nothing has happened to a device or a list. -/
theorem Quiet.view (hq : Quiet s s') (h : WellFormed s) : LinkControl.view s' = LinkControl.view s := by
  refine View.ext ?_ (funext fun name => ?_)
  · ext a
    simp only [LinkControl.view, hq.gClients, Set.mem_ofPred_eq]
    exact exists_congr fun c => and_congr_right fun hc => by rw [hq.addr c hc]
  · refine (view_link hq.same.named fun d hd _ => ?_).trans Option.map_id'
    refine linkOf_congr (by rw [hq.dev]) h hd hq.addr ?_
    ext a
    simp only [linkOf, hq.gClients, Set.mem_ofPred_eq]
    refine exists_congr fun c => and_congr_right fun hc => ?_
    rw [hq.addr c hc, hq.devices c hc]

/-- The sender has become known, and nothing else. -/
theorem Entered.view (hEntered : Entered w cli c s s₁) (h : WellFormed s) :
    LinkControl.view s₁ =
      { LinkControl.view s with known := {cli.addr} ∪ (LinkControl.view s).known } := by
  have hNamed : Named s s₁ := ⟨hEntered.gDevices, fun d => by rw [hEntered.dev]⟩
  have hAddr : ∀ c' ∈ s.gClients, (s₁.cli c').sa.addr = (s.cli c').sa.addr :=
    fun _ hc' => hEntered.addr hc'
  refine View.ext ?_ (funext fun name => ?_)
  · ext a
    simp only [LinkControl.view, Set.mem_ofPred_eq, Set.mem_union, Set.mem_singleton_iff]
    constructor
    · intro hKnown
      obtain ⟨c', hc', rfl⟩ := hKnown
      rcases hEntered.mem_gClients.mp hc' with hOld | rfl
      · exact Or.inr ⟨c', hOld, (hAddr c' hOld).symm⟩
      · exact Or.inl (by rw [hEntered.sa])
    · intro hKnown
      rcases hKnown with rfl | ⟨c', hOld, rfl⟩
      · exact ⟨c, hEntered.known, by rw [hEntered.sa]⟩
      · exact ⟨c', hEntered.mem_gClients.mpr (Or.inl hOld), hAddr c' hOld⟩
  · refine (view_link hNamed fun d hd _ => ?_).trans Option.map_id'
    refine linkOf_congr (by rw [hEntered.dev]) h hd hAddr ?_
    ext a
    simp only [linkOf, Set.mem_ofPred_eq]
    constructor
    · intro hListing
      obtain ⟨c', hc', hSame, hMem⟩ := hListing
      obtain ⟨hOld, hMem'⟩ := (hEntered.mem_devices hc').mp hMem
      exact ⟨c', hOld, (hAddr c' hOld).symm.trans hSame, hMem'⟩
    · intro hListing
      obtain ⟨c', hOld, hSame, hMem⟩ := hListing
      have hc' : c' ∈ s₁.gClients := hEntered.mem_gClients.mpr (Or.inl hOld)
      exact ⟨c', hc', (hAddr c' hOld).trans hSame, (hEntered.mem_devices hc').mpr ⟨hOld, hMem⟩⟩

-- ---------------------------------------------------------------------------
-- Calls
-- ---------------------------------------------------------------------------

/-- A call leaves the entries of other devices alone. -/
theorem mem_onClient_other {v : Device} {ds : List DevPtr} (hOther : d ≠ o.device) :
    d ∈ o.onClient v c ds ↔ d ∈ ds := by
  cases o with
  | connect c' d' =>
    have hNe : d ≠ d' := hOther
    simp only [Op.onClient]
    split <;> simp [hNe]
  | disconnect c' d' =>
    have hNe : d ≠ d' := hOther
    simp only [Op.onClient]
    split <;> simp [List.mem_erase_of_ne hNe]
  | expire c' d' =>
    have hNe : d ≠ d' := hOther
    simp only [Op.onClient]
    split <;> simp [List.mem_erase_of_ne hNe]
  | isDown d' => exact List.mem_erase_of_ne hOther
  | forceDown d' => exact List.mem_erase_of_ne hOther
  | isUp d' => exact Iff.rfl
  | timeout d' => exact Iff.rfl

namespace Does

/-- The link of the device of a call, by what the call does. -/
theorem linkOf_device (hDoes : Does cfg o s s') :
    linkOf s' o.device =
      { status := (o.onDevice cfg s'.clock (s.dev o.device)).status
        connectTime := (o.onDevice cfg s'.clock (s.dev o.device)).connectTime
        retries := (o.onDevice cfg s'.clock (s.dev o.device)).retries
        users := {a | ∃ c ∈ (o.onDevice cfg s'.clock (s.dev o.device)).clientsConnected,
          (s.cli c).sa.addr = a}
        listing := {a | ∃ c ∈ s.gClients, (s.cli c).sa.addr = a ∧
          o.device ∈ o.onClient (s.dev o.device) c (s.cli c).devicesConnected} } := by
  have hDev : s'.dev o.device = o.onDevice cfg s'.clock (s.dev o.device) := by
    rw [hDoes.dev, Function.update_self]
  refine Link.ext (by rw [linkOf, hDev]) (by rw [linkOf, hDev]) (by rw [linkOf, hDev]) ?_ ?_
  · simp only [linkOf, hDev, hDoes.sa]
  · ext a
    simp only [linkOf, hDoes.gClients, Set.mem_ofPred_eq]
    refine exists_congr fun c => and_congr_right fun hc => ?_
    rw [hDoes.sa, hDoes.devices c hc]

/-- A call acts on the link of its device, and on no other. -/
theorem view (hDoes : Does cfg o s s') (h : WellFormed s) (hd : o.device ∈ s.gDevices)
    {f : Link → Link} (hLink : linkOf s' o.device = f (linkOf s o.device)) :
    LinkControl.view s' =
      { LinkControl.view s with
        link := modify (s.dev o.device).deviceName (Option.map f) (LinkControl.view s).link } := by
  refine View.ext ?_ (eq_modify ?_ fun name hOther => ?_)
  · simp only [LinkControl.view, hDoes.gClients, hDoes.sa]
  · refine view_link hDoes.named fun d hd' hName => ?_
    rwa [h.device_ext hd' hd hName]
  · refine (view_link hDoes.named fun d hd' hName => ?_).trans Option.map_id'
    have hNe : d ≠ o.device := by
      rintro rfl
      exact hOther hName.symm
    refine linkOf_congr ?_ h hd' (fun c _ => by rw [hDoes.sa]) ?_
    · rw [hDoes.dev, Function.update_of_ne hNe]
    · ext a
      simp only [linkOf, hDoes.gClients, Set.mem_ofPred_eq]
      refine exists_congr fun c => and_congr_right fun hc => ?_
      rw [hDoes.sa, hDoes.devices c hc, mem_onClient_other hNe]

/-- UP, at the clock the dial leaves. -/
theorem link_connect (hDoes : Does cfg (.connect c d) s s') (hc : c ∈ s.gClients)
    (hClock : (s.dev d).clientsConnected = [] → (s.dev d).status ≠ .up →
      s'.clock = if (s.dev d).status = .disconnecting then T + 2 else T) :
    linkOf s' d = (linkOf s d).up cfg.gRetries T (s.cli c).sa.addr := by
  have hLink := hDoes.linkOf_device
  dsimp only [Op.device, Op.onDevice] at hLink
  have hListing : ¬ ((s.dev d).clientsConnected = [] ∧ (s.dev d).status = .up) →
      {a | ∃ c' ∈ s.gClients, (s.cli c').sa.addr = a ∧
        d ∈ (Op.connect c d).onClient (s.dev d) c' (s.cli c').devicesConnected} =
      insert (s.cli c).sa.addr (linkOf s d).listing := by
    intro hServed
    have hOn : ∀ c', d ∈ (Op.connect c d).onClient (s.dev d) c' (s.cli c').devicesConnected ↔
        c' = c ∨ d ∈ (s.cli c').devicesConnected := by
      intro c'
      rcases eq_or_ne c' c with rfl | hOther
      · by_cases hMem : d ∈ (s.cli c').devicesConnected <;> simp [Op.onClient, hMem, hServed]
      · simp [Op.onClient, hOther]
    ext a
    simp only [hOn, linkOf, Set.mem_ofPred_eq, Set.mem_insert_iff]
    constructor
    · intro hMem
      obtain ⟨c', hc', rfl, hWhy⟩ := hMem
      rcases hWhy with rfl | hOld
      · exact Or.inl rfl
      · exact Or.inr ⟨c', hc', rfl, hOld⟩
    · intro hMem
      rcases hMem with rfl | ⟨c', hc', hAddr, hOld⟩
      · exact ⟨c, hc, rfl, Or.inl rfl⟩
      · exact ⟨c', hc', hAddr, Or.inr hOld⟩
  unfold Link.up
  by_cases hFree : (s.dev d).clientsConnected = []
  · rw [if_pos (users_eq_empty.mpr hFree)]
    by_cases hUp : (s.dev d).status = .up
    · rw [if_pos (show (linkOf s d).status = .up from hUp), hLink]
      simp [Device.joined, hFree, hUp, linkOf, Op.onClient]
    · rw [if_neg (show (linkOf s d).status ≠ .up from hUp), hLink,
        hListing fun hAway => hUp hAway.2]
      refine Link.ext ?_ ?_ ?_ ?_ rfl
      · simp [Device.joined, hFree, hUp]
      · simp [Device.joined, hFree, hUp, hClock hFree hUp, linkOf]
      · simp [Device.joined, hFree, hUp]
      · ext a
        simp [Device.joined, hFree, hUp, eq_comm]
  · rw [if_neg fun hNone => hFree (users_eq_empty.mp hNone), hLink,
      hListing fun hAway => hFree hAway.1]
    have hUsers : {a | ∃ c' ∈ ((s.dev d).joined cfg c s'.clock).clientsConnected,
        (s.cli c').sa.addr = a} = insert (s.cli c).sa.addr (linkOf s d).users := by
      ext a
      by_cases hMem : c ∈ (s.dev d).clientsConnected
      · simp only [Device.joined, hFree, hMem, if_false, if_true, linkOf, Set.mem_insert_iff,
          Set.mem_ofPred_eq]
        constructor
        · exact Or.inr
        · intro hUser
          rcases hUser with rfl | hUser
          · exact ⟨c, hMem, rfl⟩
          · exact hUser
      · simp only [Device.joined, hFree, hMem, if_false, linkOf, Set.mem_insert_iff,
          Set.mem_ofPred_eq, List.mem_append, List.mem_singleton, or_and_right, exists_or,
          exists_eq_left]
        rw [or_comm, eq_comm]
    rw [hUsers]
    by_cases hMem : c ∈ (s.dev d).clientsConnected <;>
      simp [Device.joined, hFree, hMem, linkOf]

/-- DOWN of a client that lists the device, at the clock hanging up leaves. -/
theorem link_disconnect (hDoes : Does cfg (.disconnect c d) s s') (h : WellFormed s)
    (hc : c ∈ s.gClients) (hd : d ∈ s.gDevices) (hMem : d ∈ (s.cli c).devicesConnected)
    (hClock : (s.dev d).status = .up → s'.clock = T) :
    linkOf s' d = (linkOf s d).down T (s.cli c).sa.addr := by
  have hLink := hDoes.linkOf_device
  dsimp only [Op.device, Op.onDevice] at hLink
  have hOther : ∀ {c'}, c' ∈ s.gClients → ((s.cli c').sa.addr = (s.cli c).sa.addr ↔ c' = c) :=
    fun hc' => ⟨fun hAddr => h.client_ext hc' hc hAddr, fun hEq => by rw [hEq]⟩
  have hClients : ∀ t, ((s.dev d).left c t).clientsConnected = (s.dev d).clientsConnected.erase c := by
    intro t
    unfold Device.left
    split
    · rename_i hLast
      simp [hLast]
    · rfl
  have hUsers : {a | ∃ c' ∈ (s.dev d).clientsConnected.erase c, (s.cli c').sa.addr = a} =
      (linkOf s d).users \ {(s.cli c).sa.addr} := by
    ext a
    simp only [linkOf, Set.mem_sdiff, Set.mem_ofPred_eq, Set.mem_singleton_iff,
      (h.clientsNodup d hd).mem_erase_iff]
    constructor
    · intro hLeft
      obtain ⟨c', ⟨hNe, hc'⟩, rfl⟩ := hLeft
      exact ⟨⟨c', hc', rfl⟩, fun hAddr => hNe ((hOther (h.clientsKnown d hd c' hc')).mp hAddr)⟩
    · intro hLeft
      obtain ⟨⟨c', hc', rfl⟩, hNe⟩ := hLeft
      exact ⟨c', ⟨fun hEq => hNe ((hOther (h.clientsKnown d hd c' hc')).mpr hEq), hc'⟩, rfl⟩
  have hListing : {a | ∃ c' ∈ s.gClients, (s.cli c').sa.addr = a ∧
      d ∈ (Op.disconnect c d).onClient (s.dev d) c' (s.cli c').devicesConnected} =
      (linkOf s d).listing \ {(s.cli c).sa.addr} := by
    have hOn : ∀ {c'}, c' ∈ s.gClients →
        (d ∈ (Op.disconnect c d).onClient (s.dev d) c' (s.cli c').devicesConnected ↔
          d ∈ (s.cli c').devicesConnected ∧ c' ≠ c) := by
      intro c' hc'
      rcases eq_or_ne c' c with rfl | hNe
      · simp [Op.onClient, (h.devicesNodup c' hc').not_mem_erase]
      · simp [Op.onClient, hNe]
    ext a
    simp only [linkOf, Set.mem_sdiff, Set.mem_ofPred_eq, Set.mem_singleton_iff]
    constructor
    · intro hLeft
      obtain ⟨c', hc', rfl, hStill⟩ := hLeft
      obtain ⟨hOld, hNe⟩ := (hOn hc').mp hStill
      exact ⟨⟨c', hc', rfl, hOld⟩, fun hAddr => hNe ((hOther hc').mp hAddr)⟩
    · intro hLeft
      obtain ⟨⟨c', hc', rfl, hOld⟩, hNe⟩ := hLeft
      exact ⟨c', hc', rfl, (hOn hc').mpr ⟨hOld, fun hEq => hNe ((hOther hc').mpr hEq)⟩⟩
  rw [hLink, hClients, hUsers, hListing, Link.down, if_pos ((h.mem_listing hc).mpr hMem)]
  by_cases hLast : (s.dev d).clientsConnected = [c]
  · have hOne : (linkOf s d).users = {(s.cli c).sa.addr} := (h.users_eq_singleton hd hc).mpr hLast
    by_cases hUp : (s.dev d).status = .up
    · simp [Device.left, hLast, hUp, hClock hUp, linkOf]
    · simp [Device.left, hLast, hUp, linkOf]
  · have hMore : (linkOf s d).users ≠ {(s.cli c).sa.addr} :=
      fun hOne => hLast ((h.users_eq_singleton hd hc).mp hOne)
    simp only [Device.left, if_neg hLast, if_neg hMore, if_neg fun hBoth => hMore (And.left hBoth)]
    rfl

/-- FORCE_DOWN and ISDOWN. -/
theorem link_isDown (hDoes : Does cfg (.isDown d) s s') (h : WellFormed s) :
    linkOf s' d = (linkOf s d).gone := by
  have hLink := hDoes.linkOf_device
  dsimp only [Op.device, Op.onDevice] at hLink
  rw [hLink]
  refine Link.ext rfl rfl rfl ?_ ?_
  · simp [Link.gone]
  · refine Set.eq_empty_of_forall_notMem fun a hMem => ?_
    obtain ⟨c, hc, -, hStill⟩ := hMem
    exact (h.devicesNodup c hc).not_mem_erase hStill

/-- ISUP. -/
theorem link_isUp (hDoes : Does cfg (.isUp d) s s')
    (hClock : (s.dev d).status = .connecting → s'.clock = T) :
    linkOf s' d = (linkOf s d).isup T := by
  have hLink := hDoes.linkOf_device
  dsimp only [Op.device, Op.onDevice] at hLink
  rw [hLink]
  by_cases hStatus : (s.dev d).status = .connecting
  · simp [Link.isup, linkOf, hStatus, hClock hStatus, Op.onClient]
  · simp [Link.isup, linkOf, hStatus, Op.onClient]

end Does

-- ---------------------------------------------------------------------------
-- Time that stands still
-- ---------------------------------------------------------------------------

/-- The same surroundings, in which no time passes. -/
def World.still (w : World) : World := { w with tick := fun _ => 0 }

theorem commanded_clock_still (w : World) (d : DevPtr) (command : Command) (s : State) :
    (commanded w.still d command s).clock = s.clock := by
  rw [commanded_clock]
  split <;> simp [World.still]

theorem readied_clock_still (w : World) (cfg : Config) (d : DevPtr) (s : State) :
    (readied w.still cfg d s).clock =
      if (s.dev d).status = .disconnecting then s.clock + 2 else s.clock := by
  unfold readied
  split <;> simp [World.still]

theorem dialled_clock_still (w : World) (d : DevPtr) (s : State) :
    (dialled w.still d s).clock = s.clock := by
  have hUp := commanded_clock_still w d .linkUp (s.setRetries d ((s.dev d).retries - 1))
  unfold dialled
  simp only [State.setStatus_clock, setConnectTime_clock, advance_clock, hUp]
  simp [World.still]

section Still

variable (hw : Obeyed w)
include hw

theorem connect_clock_still (hRetries : 0 ≤ cfg.gRetries) (c : CliPtr)
    (hFree : (s.dev d).clientsConnected = []) (hUp : (s.dev d).status ≠ .up) :
    (connectClientToDevice w.still cfg c d s).2.clock =
      if (s.dev d).status = .disconnecting then s.clock + 2 else s.clock := by
  have hStill : Obeyed w.still := hw
  rcases connect_cases hRetries w.still c d s with ⟨hMore, -⟩ | ⟨-, hStatus, -⟩ |
    ⟨-, -, hLaunch, -⟩ | ⟨-, -, hLaunch, -⟩ | ⟨-, -, -, -, hEq⟩
  · exact absurd hFree hMore
  · exact absurd hStatus hUp
  · simp [hStill] at hLaunch
  · simp [hStill] at hLaunch
  · rw [hEq, (noted_noteClient w.still c d _).clock, dialled_clock_still, readied_clock_still]
    simp

theorem disconnect_clock_still (c : CliPtr) (hUp : (s.dev d).status = .up) :
    (disconnectClientFromDevice w.still cfg c d s).2.clock = s.clock := by
  have hStill : Obeyed w.still := hw
  rcases disconnectClientFromDevice_cases w.still cfg c d s with ⟨-, hEq⟩ | ⟨-, -, hEq⟩ |
    ⟨-, hStatus, -⟩ | ⟨-, -, hLaunch, -⟩ | ⟨-, hStatus, -⟩ | ⟨-, -, -, hEq⟩
  · simp [hEq]
  · simp [hEq]
  · simp [hUp] at hStatus
  · simp [hStill] at hLaunch
  · simp [hUp] at hStatus
  · rw [hEq, forgetDevice_clock, State.setStatus_clock, hungUp]
    simp [hUp, commanded_clock_still]

end Still

theorem isUp_clock_still (w : World) (d : DevPtr) (s : State) :
    (alterToUp w.still d s).2.clock = s.clock := by
  rcases alterToUp_cases w.still d s with ⟨-, hEq⟩ | ⟨-, hEq⟩
  · simp [hEq]
  · rw [hEq]
    simp [World.still]

-- ---------------------------------------------------------------------------
-- Requests
-- ---------------------------------------------------------------------------

/-- A name of no device has no link. -/
theorem view_link_none {name : CStr} (h : (getDevice s.gDevices name s).1 = none) :
    (view s).link name = none :=
  congrArg (Option.map (linkOf s)) h

section Requests

variable (hw : Obeyed w)
include hw

/-- The branch of UP. -/
theorem view_up (hRetries : 0 ≤ cfg.gRetries) (h : Tidy s) (hc : c ∈ s.gClients) (name : CStr)
    (hAlloc : Allocated w s (clientRequest w.still cfg c (clientUp ++ name) s).2) :
    view (clientRequest w.still cfg c (clientUp ++ name) s).2 = { view s with
      link := modify name (Option.map (Link.up cfg.gRetries s.clock (s.cli c).sa.addr))
        (view s).link } := by
  have hOp := clientOp_up c name s
  rcases hGet : getDevice s.gDevices name s with ⟨_ | d, s'⟩ <;> rw [hGet] at hOp
  · have hNothing := clientRequest_of_none w.still cfg hOp
    have hNone : (view s).link name = none := view_link_none (congrArg Prod.fst hGet)
    rw [hNothing.view h.wellFormed, modify_eq_self (by simp [hNone])]
  · obtain ⟨hd, rfl, -⟩ := getDevice_some hGet
    have hRequest := clientRequest_of_op w.still cfg hOp
    rw [hRequest, unlessFails_done] at hAlloc ⊢
    have hDoes := does_connect (w := w.still) hw hRetries h hc hd hAlloc
    exact hDoes.view h.wellFormed hd
      (hDoes.link_connect hc fun hFree hUp => connect_clock_still hw hRetries c hFree hUp)

/-- The branch of DOWN. -/
theorem view_down (cfg : Config) (h : Tidy s) (hc : c ∈ s.gClients) (name : CStr) :
    view (clientRequest w.still cfg c (clientDown ++ name) s).2 = { view s with
      link := modify name (Option.map (Link.down s.clock (s.cli c).sa.addr)) (view s).link } := by
  have hOp := clientOp_down c name s
  rcases hGet : getDevice (s.cli c).devicesConnected name s with ⟨_ | d, s'⟩ <;> rw [hGet] at hOp
  · have hNothing := clientRequest_of_none w.still cfg hOp
    obtain ⟨hNone, -⟩ := getDevice_none hGet
    -- the client does not list a device of this name, if there is one
    have hFixed : Option.map (Link.down s.clock (s.cli c).sa.addr) ((view s).link name) =
        (view s).link name := by
      rcases hFind : getDevice s.gDevices name s with ⟨_ | d, s'⟩
      · simp [view_link_none (congrArg Prod.fst hFind)]
      · obtain ⟨hd, hName, -⟩ := getDevice_some hFind
        have hLink : (view s).link name = some (linkOf s d) :=
          congrArg (Option.map (linkOf s)) (congrArg Prod.fst hFind)
        rw [hLink]
        refine congrArg some (if_neg ?_)
        rw [h.wellFormed.mem_listing hc]
        exact fun hMem => hNone d hMem hName
    rw [hNothing.view h.wellFormed, modify_eq_self hFixed]
  · obtain ⟨hMem, rfl, -⟩ := getDevice_some hGet
    have hd := h.wellFormed.devicesKnown c hc d hMem
    have hRequest := clientRequest_of_op w.still cfg hOp
    rw [hRequest, unlessFails_done]
    have hDoes := does_disconnect (w := w.still) cfg hw h hc hd
    exact hDoes.view h.wellFormed hd (hDoes.link_disconnect h.wellFormed hc hd hMem
      fun hUp => disconnect_clock_still hw c hUp)

/-- The branch of FORCE_DOWN. -/
theorem view_forceDown (h : Tidy s) (name : CStr) :
    view (clientRequest w.still cfg c (clientForceDown ++ name) s).2 = { view s with
      link := modify name (Option.map Link.gone) (view s).link } := by
  have hOp := clientOp_forceDown c name s
  rcases hGet : getDevice s.gDevices name s with ⟨_ | d, s'⟩ <;> rw [hGet] at hOp
  · have hNothing := clientRequest_of_none w.still cfg hOp
    have hNone : (view s).link name = none := view_link_none (congrArg Prod.fst hGet)
    rw [hNothing.view h.wellFormed, modify_eq_self (by simp [hNone])]
  · obtain ⟨hd, rfl, -⟩ := getDevice_some hGet
    have hRequest := clientRequest_of_op w.still cfg hOp
    rw [hRequest, unlessFails_done]
    have hDoes := does_forceDown (w := w.still) cfg hw h hd
    have hDown : Does cfg (.isDown d) s ((Op.forceDown d).run w.still cfg s).2 := { hDoes with }
    exact hDoes.view h.wellFormed hd (hDown.link_isDown h.wellFormed)

theorem view_isdown (h : Tidy s) (name : CStr) :
    view (processPeer w.still cfg (notifyIsdown ++ name) s).2 = { view s with
      link := modify name (Option.map Link.gone) (view s).link } := by
  have hOp : peerOp (notifyIsdown ++ name) s = (getDevice s.gDevices name s).1.map .isDown := rfl
  rcases hGet : getDevice s.gDevices name s with ⟨_ | d, s'⟩ <;> rw [hGet] at hOp
  · have hNothing := processPeer_of_none w.still cfg hOp
    have hNone : (view s).link name = none := view_link_none (congrArg Prod.fst hGet)
    rw [hNothing.view h.wellFormed, modify_eq_self (by simp [hNone])]
  · obtain ⟨hd, rfl, -⟩ := getDevice_some hGet
    have hDoes := (does_alterToDown (w := w.still) cfg hw h hd).2
    rw [processPeer_of_op w.still cfg hOp]
    exact hDoes.view h.wellFormed hd (hDoes.link_isDown h.wellFormed)

omit hw in
theorem view_isup (h : Tidy s) (name : CStr) :
    view (processPeer w.still cfg (notifyIsup ++ name) s).2 = { view s with
      link := modify name (Option.map (Link.isup s.clock)) (view s).link } := by
  have hOp : peerOp (notifyIsup ++ name) s = (getDevice s.gDevices name s).1.map .isUp := rfl
  rcases hGet : getDevice s.gDevices name s with ⟨_ | d, s'⟩ <;> rw [hGet] at hOp
  · have hNothing := processPeer_of_none w.still cfg hOp
    have hNone : (view s).link name = none := view_link_none (congrArg Prod.fst hGet)
    rw [hNothing.view h.wellFormed, modify_eq_self (by simp [hNone])]
  · obtain ⟨hd, rfl, -⟩ := getDevice_some hGet
    have hDoes := does_isUp w.still cfg d s
    rw [processPeer_of_op w.still cfg hOp]
    exact hDoes.view h.wellFormed hd (hDoes.link_isUp fun _ => isUp_clock_still w d s)

/-- A client message makes its sender known, and then runs its branch. -/
theorem view_processClient (hRetries : 0 ≤ cfg.gRetries) (h : Tidy s) {name : CStr} {f : Link → Link}
    (hAlloc : Allocated w s (processClient w.still cfg cli message s).2)
    (hBranch : ∀ c s₁, Tidy s₁ → c ∈ s₁.gClients → (s₁.cli c).sa = cli → s₁.clock = s.clock →
      Allocated w s₁ (clientRequest w.still cfg c message s₁).2 →
      view (clientRequest w.still cfg c message s₁).2 =
        { view s₁ with link := modify name (Option.map f) (view s₁).link }) :
    view (processClient w.still cfg cli message s).2 =
      { known := {cli.addr} ∪ (view s).known
        link := modify name (Option.map f) (view s).link } := by
  rcases processClient_cases w.still cfg cli message s with ⟨c, s₁, hEntered, hEq⟩ |
    ⟨s', hEq, -, k, hk, hk', hNone⟩ <;> rw [hEq] at hAlloc ⊢
  · have h₁ : Tidy s₁ := hEntered.kept (tidy_kept (w := w.still) hw hRetries) h
    have hClock : s₁.clock = s.clock := hEntered.clock.trans (Int.add_zero _)
    rw [hBranch c s₁ h₁ hEntered.known hEntered.sa hClock (hAlloc.mono hEntered.mallocs le_rfl),
      hEntered.view h.wellFormed]
  · have hSome := hAlloc k hk hk'
    have hNone' : w.malloc k = none := hNone
    rw [hNone'] at hSome
    exact absurd hSome (by simp)

end Requests

/-- Nobody sees the clock. -/
theorem view_setClock (s : State) (T : Int) : view { s with clock := T } = view s := by
  refine View.ext rfl (funext fun name => ?_)
  have hNamed : Named s { s with clock := T } := ⟨rfl, fun _ => rfl⟩
  exact (view_link hNamed fun _ _ _ => rfl).trans Option.map_id'

/-- A request, processed while the clock shows `T`. -/
def processedAt (w : World) (cfg : Config) (T : Int) (r : Request) (s : State) : State :=
  (handle w.still cfg r.event { s with clock := T }).2

/-- **A request and its action.** -/
theorem view_processedAt (hw : Obeyed w) (hRetries : 0 ≤ cfg.gRetries) (h : Tidy s) (T : Int)
    (r : Request) (hAlloc : Allocated w s (processedAt w cfg T r s)) :
    view (processedAt w cfg T r s) = r.act cfg T (view s) ∧ Tidy (processedAt w cfg T r s) := by
  have hKept := tidy_kept (w := w.still) hw hRetries
  set s₀ : State := { s with clock := T } with hs₀
  have h₀ : Tidy s₀ := ⟨⟨h.wellFormed.addrs, h.wellFormed.names, h.wellFormed.clientsNodup,
    h.wellFormed.devicesNodup, h.wellFormed.clientsKnown, h.wellFormed.devicesKnown⟩,
    h.served, h.listed⟩
  have hAlloc₀ : Allocated w s₀ (handle w.still cfg r.event s₀).2 := hAlloc
  have hSame : view s₀ = view s := view_setClock s T
  refine ⟨?_, ?_⟩
  · rw [← hSame]
    show view (handle w.still cfg r.event s₀).2 = _
    cases r with
    | up cli name =>
      refine view_processClient hw hRetries h₀ hAlloc₀ fun c s₁ h₁ hc hSa hClock hRest => ?_
      have hUp := view_up hw hRetries h₁ hc name hRest
      rwa [hSa, hClock] at hUp
    | down cli name =>
      refine view_processClient hw hRetries h₀ hAlloc₀ fun c s₁ h₁ hc hSa hClock _ => ?_
      have hDown := view_down hw cfg h₁ hc name
      rwa [hSa, hClock] at hDown
    | forceDown cli name =>
      exact view_processClient hw hRetries h₀ hAlloc₀ fun c s₁ h₁ _ _ _ _ =>
        view_forceDown hw h₁ name
    | isup name =>
      refine (view_isup h₀ name).trans (View.ext ?_ rfl)
      exact (Set.empty_union _).symm
    | isdown name =>
      refine (view_isdown hw h₀ name).trans (View.ext ?_ rfl)
      exact (Set.empty_union _).symm
  · have hMessage : Calls w.still cfg (fun _ _ => True) r.event s₀ := by
      cases r with
      | up cli name => exact Calls.client fun _ _ _ _ _ => trivial
      | down cli name => exact Calls.client fun _ _ _ _ _ => trivial
      | forceDown cli name => exact Calls.client fun _ _ _ _ _ => trivial
      | isup name => exact fun _ _ => trivial
      | isdown name => exact fun _ _ => trivial
    show Tidy (handle w.still cfg r.event s₀).2
    cases r with
    | up cli name => exact hKept.processClient h₀ hMessage
    | down cli name => exact hKept.processClient h₀ hMessage
    | forceDown cli name => exact hKept.processClient h₀ hMessage
    | isup name => exact hKept.processPeer h₀ hMessage
    | isdown name => exact hKept.processPeer h₀ hMessage

-- ---------------------------------------------------------------------------
-- Allocations
-- ---------------------------------------------------------------------------

theorem mallocs_noteDevice (w : World) (c : CliPtr) (d : DevPtr) (s : State) :
    s.mallocs ≤ (noteDevice w c d s).2.mallocs := by
  rcases noteDevice_cases w c d s with ⟨-, hEq⟩ | ⟨-, -, hEq⟩ | ⟨-, -, hEq⟩ <;> rw [hEq]
  · exact le_rfl
  · exact Nat.le_succ _
  · exact Nat.le_succ _

theorem mallocs_noteClient (w : World) (c : CliPtr) (d : DevPtr) (s : State) :
    s.mallocs ≤ (noteClient w c d s).2.mallocs := by
  have hDevice := fun s₁ => mallocs_noteDevice w c d s₁
  rcases noteClient_cases w c d s with ⟨-, hEq⟩ | ⟨-, -, hEq⟩ | ⟨-, -, hEq⟩ <;> rw [hEq]
  · exact hDevice (s.setErrno .ealready)
  · exact Nat.le_succ _
  · exact (Nat.le_succ _).trans (hDevice (State.setClientsConnected
      { s with mallocs := s.mallocs + 1, errno := .enodev } d _))

/-- Allocations are not undone. -/
theorem mallocs_run (w : World) (cfg : Config) (o : Op) (s : State) :
    s.mallocs ≤ (o.run w cfg s).2.mallocs := by
  by_cases hConnect : ∃ c d, o = .connect c d
  · obtain ⟨c, d, rfl⟩ := hConnect
    have ht := (touched_setRetries d s cfg.gRetries).trans
      (touched_alterToConnecting w cfg d (s.setRetries d cfg.gRetries))
    rw [run_connect]
    rcases connectClientToDevice_cases w cfg c d s with ⟨-, hEq⟩ | ⟨-, -, hEq⟩ | ⟨-, -, hEq⟩ <;>
      rw [hEq]
    · exact mallocs_noteClient w c d s
    · exact ht.mallocs.ge
    · exact ht.mallocs.ge.trans (mallocs_noteClient w c d _)
  · exact (touched_run fun c d hEq => hConnect ⟨c, d, hEq⟩).mallocs.ge

/-- A name that is not found costs nothing. -/
theorem mallocs_of_not_found {pp : List DevPtr} {name : CStr}
    (h : getDevice pp name s = (none, s')) : s'.mallocs = s.mallocs := by
  rw [(getDevice_none h).2]
  rfl

theorem mallocs_clientRequest (w : World) (cfg : Config) (c : CliPtr) (s : State)
    {r : Request} (hr : r.event = .client cli message) :
    s.mallocs ≤ (clientRequest w cfg c message s).2.mallocs := by
  have hCall : ∀ o, clientOp c message s = some o →
      s.mallocs ≤ (clientRequest w cfg c message s).2.mallocs := by
    intro o hOp
    rw [clientRequest_of_op w cfg hOp, unlessFails_done]
    exact mallocs_run w cfg o s
  cases r with
  | up cli name =>
    cases hr
    rcases hGet : getDevice s.gDevices name s with ⟨_ | d, s'⟩
    · have hRequest : clientRequest w cfg c (clientUp ++ name) s = (-1, s') := by
        unfold clientRequest
        simp only [clientMessage_up, hGet]
      rw [hRequest]
      exact (mallocs_of_not_found hGet).ge
    · exact hCall (.connect c d) (by rw [clientOp_up, hGet]; rfl)
  | down cli name =>
    cases hr
    rcases hGet : getDevice (s.cli c).devicesConnected name s with ⟨_ | d, s'⟩
    · have hRequest : clientRequest w cfg c (clientDown ++ name) s = (-1, s') := by
        unfold clientRequest
        simp only [clientMessage_down, hGet]
      rw [hRequest]
      exact (mallocs_of_not_found hGet).ge
    · exact hCall (.disconnect c d) (by rw [clientOp_down, hGet]; rfl)
  | forceDown cli name =>
    cases hr
    rcases hGet : getDevice s.gDevices name s with ⟨_ | d, s'⟩
    · have hRequest : clientRequest w cfg c (clientForceDown ++ name) s =
          (-1, s'.setErrno .enodev) := by
        unfold clientRequest
        simp only [clientMessage_forceDown, hGet]
      rw [hRequest]
      exact (mallocs_of_not_found hGet).ge
    · exact hCall (.forceDown d) (by rw [clientOp_forceDown, hGet]; rfl)
  | isup name => cases hr
  | isdown name => cases hr

theorem mallocs_processPeer (w : World) (cfg : Config) (message : CStr) (s : State) :
    s.mallocs ≤ (processPeer w cfg message s).2.mallocs := by
  cases hOp : peerOp message s with
  | some o =>
    rw [processPeer_of_op w cfg hOp]
    exact mallocs_run w cfg o s
  | none =>
    unfold peerOp at hOp
    unfold processPeer
    cases hMsg : peerMessage message with
    | isup name =>
      rcases hGet : getDevice s.gDevices name s with ⟨_ | d, s'⟩
      · simp only [hGet]
        exact (mallocs_of_not_found hGet).ge
      · simp [hMsg, hGet] at hOp
    | isdown name =>
      rcases hGet : getDevice s.gDevices name s with ⟨_ | d, s'⟩
      · simp only [hGet]
        exact (mallocs_of_not_found hGet).ge
      · simp [hMsg, hGet] at hOp
    | unknown => exact le_rfl

theorem mallocs_processedAt (w : World) (cfg : Config) (T : Int) (r : Request) (s : State) :
    s.mallocs ≤ (processedAt w cfg T r s).mallocs := by
  unfold processedAt
  have hClient : ∀ {cli message}, r.event = .client cli message →
      s.mallocs ≤ (processClient w.still cfg cli message { s with clock := T }).2.mallocs := by
    intro cli message hr
    rcases processClient_cases w.still cfg cli message { s with clock := T } with
      ⟨c, s₁, hEntered, hEq⟩ | ⟨s', hEq, -, k, hk, hk', -⟩ <;> rw [hEq]
    · exact hEntered.mallocs.trans (mallocs_clientRequest w.still cfg c s₁ hr)
    · exact hk.trans hk'.le
  cases r with
  | up cli name => exact hClient rfl
  | down cli name => exact hClient rfl
  | forceDown cli name => exact hClient rfl
  | isup name => exact mallocs_processPeer w.still cfg _ { s with clock := T }
  | isdown name => exact mallocs_processPeer w.still cfg _ { s with clock := T }

-- ---------------------------------------------------------------------------
-- Two requests
-- ---------------------------------------------------------------------------

/-- The requests name different devices, or they are two UPs or two DOWNs of different
clients. -/
def Independent : Request → Request → Prop
  | .up cli name, .up cli' name' | .down cli name, .down cli' name' =>
    name ≠ name' ∨ cli.addr ≠ cli'.addr
  | r, r' => r.name ≠ r'.name

theorem Independent.act_comm {r r' : Request} (h : Independent r r') (cfg : Config) (T : Int)
    (v : View) : r.act cfg T (r'.act cfg T v) = r'.act cfg T (r.act cfg T v) := by
  by_cases hName : r.name = r'.name
  swap
  · exact Request.act_comm_of_name hName v
  unfold Independent at h
  split at h
  · exact Request.act_comm_of_commute hName (Link.up_comm cfg.gRetries T _ _) v
  · exact Request.act_comm_of_commute hName
      (Link.down_comm T (h.resolve_left fun hNe => hNe hName)) v
  · exact absurd hName h

/-- **The order of independent requests does not matter**: if no allocation fails in
either order, the client set, and the status, the connect time, the retries and the users
of every device are the same in the end. -/
theorem order_irrelevant (w : World) (cfg : Config) (sections : List DeviceSection)
    (es : List Event) (T : Int) (r r' : Request) (hIndependent : Independent r r')
    (hRetries : 0 ≤ cfg.gRetries) (hCommands : ∀ k, (w.system k).result = 0) :
    let s := serverRun w cfg es (boot w sections)
    let one := processedAt w cfg T r' (processedAt w cfg T r s)
    let other := processedAt w cfg T r (processedAt w cfg T r' s)
    Allocated w s one → Allocated w s other → view one = view other := by
  intro s one other hOne hOther
  have h : Tidy s := tidy_run hCommands hRetries sections es
  have hRun : ∀ r r' : Request, Allocated w s (processedAt w cfg T r' (processedAt w cfg T r s)) →
      view (processedAt w cfg T r' (processedAt w cfg T r s)) =
        r'.act cfg T (r.act cfg T (view s)) := by
    intro r r' hAlloc
    have hFrom := mallocs_processedAt w cfg T r s
    have hTo := mallocs_processedAt w cfg T r' (processedAt w cfg T r s)
    obtain ⟨hFirst, h'⟩ := view_processedAt hCommands hRetries h T r (hAlloc.mono le_rfl hTo)
    rw [(view_processedAt hCommands hRetries h' T r' (hAlloc.mono hFrom le_rfl)).1, hFirst]
  rw [hRun r r' hOne, hRun r' r hOther]
  exact (hIndependent.act_comm cfg T (view s)).symm

/-- Two clients ask for the link at once. -/
theorem order_irrelevant_up :
    let w := calmWorld 7 []
    let s := serverRun w defaultConfig [] (boot w [pppSection])
    let r := Request.up ⟨1, 1026⟩ "ppp0".toList
    let r' := Request.up ⟨2, 1026⟩ "ppp0".toList
    view (processedAt w defaultConfig 2000 r' (processedAt w defaultConfig 2000 r s)) =
      view (processedAt w defaultConfig 2000 r (processedAt w defaultConfig 2000 r' s)) :=
  order_irrelevant (calmWorld 7 []) defaultConfig [pppSection] [] 2000 _ _
    (Or.inr (by decide)) (by decide) (fun k => by simp [calmWorld]) (fun _ _ _ => rfl)
    fun _ _ _ => rfl

/-- Memory runs out after the first dial, before its client is noted: whoever comes first
is left out. -/
theorem order_matters :
    let w := { calmWorld 0 [] with malloc := fun k => if k = 3 then none else some k }
    let s := boot w [pppSection]
    let r := Request.up ⟨1, 1026⟩ "ppp0".toList
    let r' := Request.up ⟨2, 1026⟩ "ppp0".toList
    (∀ k, (w.system k).result = 0) ∧ 0 ≤ defaultConfig.gRetries ∧ Independent r r' ∧
      view (processedAt w defaultConfig 2000 r' (processedAt w defaultConfig 2000 r s)) ≠
        view (processedAt w defaultConfig 2000 r (processedAt w defaultConfig 2000 r' s)) := by
  intro w s r r'
  refine ⟨fun k => by simp [w, calmWorld], by decide, Or.inr (by decide), fun hSame => ?_⟩
  set one := processedAt w defaultConfig 2000 r' (processedAt w defaultConfig 2000 r s) with hOne
  set other := processedAt w defaultConfig 2000 r (processedAt w defaultConfig 2000 r' s) with hOther
  have hLink := congrFun (congrArg View.link hSame) "ppp0".toList
  have hFind : (getDevice one.gDevices "ppp0".toList one).1 = some 0 ∧
      (getDevice other.gDevices "ppp0".toList other).1 = some 0 := by
    decide +kernel
  have hUsers : (linkOf one 0).users = (linkOf other 0).users := by
    simp only [view, hFind, Option.map_some, Option.some.injEq] at hLink
    rw [hLink]
  have hIn : ∃ c ∈ (one.dev 0).clientsConnected, (one.cli c).sa.addr = 2 := by
    decide +kernel
  have hOut : ¬ ∃ c ∈ (other.dev 0).clientsConnected, (other.cli c).sa.addr = 2 := by
    decide +kernel
  have hUser : 2 ∈ (linkOf other 0).users := hUsers ▸ hIn
  exact hOut hUser

end LinkControl
