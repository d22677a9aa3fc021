import LinkControl.JavaClient.Definitions
import LinkControl.Lib.Enumeration

/-!
# Java client — the ageing thread

One round of `ageThread.run ()`, from `getServers ()` to the `sleep ()`: the loop goes through
the vector of the servers with a live enumeration and takes servers out of it while it does
so. The time stands still, nobody else touches the list, and every message is sent.

* `LinkServerList` — no address is in the list twice: `add ()` sees to that, so that
  `removeElement ()`, which goes by the object, is modelled with the address.
* `ageing_iff` — the round does what it is for exactly if no server is both expired and due
  for a PING and nothing that is either stands directly behind an expired server.
-/

namespace LinkControl.JavaClient

open Enumeration

-- ---------------------------------------------------------------------------
-- linkServer, linkServerList
-- ---------------------------------------------------------------------------

/-- `linkServer` with its times, in milliseconds. -/
structure AgedServer extends LinkServer where
  lastHeardFrom : Int
  lastTalkedTo : Int
deriving DecidableEq, Repr

/-- `linkServerList` -/
structure LinkServerList where
  serverList : List AgedServer
  distinct : (serverList.map fun server => server.sa.addr).Nodup

namespace LinkServerList

/-- `add ()`; `none` for a `ServerExistsException`. -/
def add (newServer : AgedServer) (l : LinkServerList) : Option LinkServerList :=
  if h : ∃ server ∈ l.serverList, server.sa.addr = newServer.sa.addr then none
  else some
    { serverList := l.serverList ++ [newServer]
      distinct := by
        rw [List.map_append, List.nodup_append]
        refine ⟨l.distinct, List.nodup_singleton _, fun a ha b hb hEq => h ?_⟩
        obtain ⟨server, hServer, rfl⟩ := List.mem_map.mp ha
        exact ⟨server, hServer, hEq.trans (List.mem_singleton.mp hb)⟩ }

/-- `remove ()` -/
def remove (server : AgedServer) (l : LinkServerList) : LinkServerList where
  serverList := l.serverList.eraseP fun x => x.sa.addr = server.sa.addr
  distinct := l.distinct.sublist (List.eraseP_sublist.map _)

/-- `server.updateLastTalkedTo ()` at `now` -/
def updateLastTalkedTo (now : Int) (server : AgedServer) (l : LinkServerList) :
    LinkServerList where
  serverList := l.serverList.map fun x =>
    if x.sa.addr = server.sa.addr then { x with lastTalkedTo := now } else x
  distinct := by
    have hSame : (fun x : AgedServer => x.sa.addr) ∘ (fun x : AgedServer =>
        if x.sa.addr = server.sa.addr then { x with lastTalkedTo := now } else x) =
        fun x => x.sa.addr := by
      funext x
      dsimp only [Function.comp]
      split <;> rfl
    rw [List.map_map, hSame]
    exact l.distinct

end LinkServerList

-- ---------------------------------------------------------------------------
-- ageThread
-- ---------------------------------------------------------------------------

namespace AgeThread

def serverPollFrequency : Int := 5000
def serverForgetClientFrequency : Int := 7200000
def clientPollFrequency : Int := serverForgetClientFrequency / 4
def clientForgetServerFrequency : Int := serverPollFrequency * 4

/-- `protocol.clientPrefix + " " + protocol.clientPing` -/
def clientPing : CStr := "CLIENT".toList ++ " ".toList ++ "PING".toList

/-- What the round works on: the list, and the messages sent, the last one first. -/
structure Ageing where
  linkServers : LinkServerList
  sent : List (SockAddr × CStr)

/-- The server is past its communicate-by date. -/
def expired (now : Int) (server : AgedServer) : Bool :=
  now - server.lastHeardFrom > clientForgetServerFrequency

/-- The server needs to be polled. -/
def due (now : Int) (server : AgedServer) : Bool :=
  now - server.lastTalkedTo > clientPollFrequency

/-- The body of the inner loop. -/
def ageServer (now : Int) (currentServer : AgedServer) (a : Ageing) : Ageing :=
  let linkServers :=
    if expired now currentServer then a.linkServers.remove currentServer else a.linkServers
  if due now currentServer then
    { linkServers := linkServers.updateLastTalkedTo now currentServer
      sent := (currentServer.sa, clientPing) :: a.sent }
  else { a with linkServers }

/-- The inner loop. It makes one test more than there are servers, at the most. -/
def ageServers (now : Int) (linkServers : LinkServerList) : Option Ageing :=
  enumerate (fun a : Ageing => a.linkServers.serverList) (ageServer now)
    (linkServers.serverList.length + 1) 0 ⟨linkServers, []⟩

/-- What the round is for: it leaves the servers that are not expired, in order, and sends a
PING to each server it leaves that is due for one, and to no server it has removed. -/
structure Aged (now : Int) (servers : List AgedServer) (a : Ageing) : Prop where
  left : a.linkServers.serverList.map (fun x => x.sa) =
    (servers.filter fun x => !expired now x).map fun x => x.sa
  polled : ∀ x ∈ servers, x.sa ∈ a.linkServers.serverList.map (fun y => y.sa) → due now x →
    (x.sa, clientPing) ∈ a.sent
  removed : ∀ x ∈ servers, x.sa ∉ a.linkServers.serverList.map (fun y => y.sa) →
    (x.sa, clientPing) ∉ a.sent

/-- No expired server is due for a PING, and the server directly behind an expired one is
neither expired nor due. -/
def WellSpaced (now : Int) (servers : List AgedServer) : Prop :=
  (∀ x ∈ servers, expired now x → ¬ due now x) ∧
    servers.IsChain fun x next => expired now x → ¬ (expired now next ∨ due now next)

-- ---------------------------------------------------------------------------
-- One server
-- ---------------------------------------------------------------------------

variable {now : Int} {a : Ageing} {x : AgedServer} {done rest : List AgedServer}

/-- The server after its turn. -/
def contacted (now : Int) (x : AgedServer) : AgedServer :=
  if due now x then { x with lastTalkedTo := now } else x

theorem addr_not_mem (l : LinkServerList) (h : l.serverList = done ++ x :: rest) :
    (∀ y ∈ done, y.sa.addr ≠ x.sa.addr) ∧ ∀ y ∈ rest, y.sa.addr ≠ x.sa.addr := by
  have hDistinct := l.distinct
  rw [h, List.map_append, List.map_cons, List.nodup_append] at hDistinct
  obtain ⟨-, hRest, hApart⟩ := hDistinct
  refine ⟨fun y hy => hApart _ (List.mem_map_of_mem hy) _ (List.mem_cons_self ..), fun y hy hEq => ?_⟩
  exact (List.nodup_cons.mp hRest).1 (hEq ▸ List.mem_map_of_mem hy)

/-- Removing a server leaves the servers with other addresses. -/
theorem remove_serverList (l : LinkServerList) (x : AgedServer) :
    (l.remove x).serverList = l.serverList.filter fun y => y.sa.addr ≠ x.sa.addr := by
  obtain ⟨serverList, hDistinct⟩ := l
  show serverList.eraseP _ = serverList.filter _
  induction serverList with
  | nil => rfl
  | cons y rest ih =>
    rw [List.map_cons, List.nodup_cons] at hDistinct
    obtain ⟨hNot, hRest⟩ := hDistinct
    by_cases hEq : y.sa.addr = x.sa.addr
    · have hOthers : ∀ z ∈ rest, z.sa.addr ≠ x.sa.addr :=
        fun z hz hSame => hNot (hEq ▸ hSame ▸ List.mem_map_of_mem hz)
      rw [List.eraseP_cons_of_pos (by simpa using hEq), List.filter_cons_of_neg (by simpa using hEq),
        List.filter_eq_self.mpr (by simpa using hOthers)]
    · rw [List.eraseP_cons_of_neg (by simpa using hEq), List.filter_cons_of_pos (by simpa using hEq),
        ih hRest]

/-- Only the server itself gets a new time. -/
theorem map_update_of_ne {l : List AgedServer} (h : ∀ y ∈ l, y.sa.addr ≠ x.sa.addr) :
    (l.map fun y => if y.sa.addr = x.sa.addr then { y with lastTalkedTo := now } else y) = l := by
  have hEach := List.map_congr_left (f := fun y => if y.sa.addr = x.sa.addr then
    ({ y with lastTalkedTo := now } : AgedServer) else y) (g := id) fun y hy => if_neg (h y hy)
  rwa [List.map_id] at hEach

/-- **One server.** The body of the loop takes it out, or leaves it where it is. -/
theorem ageServer_serverList (h : a.linkServers.serverList = done ++ x :: rest) :
    (ageServer now x a).linkServers.serverList =
      done ++ (if expired now x then rest else contacted now x :: rest) := by
  obtain ⟨hDone, hRest⟩ := addr_not_mem a.linkServers h
  unfold ageServer contacted
  by_cases hExpired : expired now x = true
  · simp only [hExpired, if_true]
    have hRemoved : (a.linkServers.remove x).serverList = done ++ rest := by
      rw [remove_serverList, h, List.filter_append, List.filter_cons_of_neg (by simp),
        List.filter_eq_self.mpr (by simpa using hDone), List.filter_eq_self.mpr (by simpa using hRest)]
    split
    · show ((a.linkServers.remove x).serverList.map _) = _
      rw [hRemoved, List.map_append, map_update_of_ne hDone, map_update_of_ne hRest]
    · exact hRemoved
  · simp only [hExpired, Bool.false_eq_true, if_false]
    split
    · show (a.linkServers.serverList.map _) = _
      rw [h, List.map_append, List.map_cons, map_update_of_ne hDone, map_update_of_ne hRest,
        if_pos rfl]
    · exact h

/-- Whatever is in the list: a server that has expired is not in it afterwards. -/
theorem ageServer_left (now : Int) (x : AgedServer) (a : Ageing) :
    (ageServer now x a).linkServers.serverList.map (fun y => y.sa) =
      (a.linkServers.serverList.map fun y => y.sa).filter
        fun sa => expired now x → sa.addr ≠ x.sa.addr := by
  have hUpdate : ∀ l : LinkServerList, (l.updateLastTalkedTo now x).serverList.map (fun y => y.sa) =
      l.serverList.map fun y => y.sa := by
    intro l
    show (l.serverList.map _).map _ = _
    rw [List.map_map]
    refine List.map_congr_left fun y _ => ?_
    dsimp only [Function.comp]
    split <;> rfl
  have hSame : (ageServer now x a).linkServers.serverList.map (fun y => y.sa) =
      (if expired now x then a.linkServers.remove x else a.linkServers).serverList.map
        fun y => y.sa := by
    unfold ageServer
    dsimp only
    split
    · exact hUpdate _
    · rfl
  rw [hSame]
  split
  · rename_i hExpired
    simp only [hExpired, remove_serverList, List.filter_map, forall_const]
    rfl
  · rename_i hKept
    simp [hKept]

theorem ageServer_sent (now : Int) (x : AgedServer) (a : Ageing) :
    (ageServer now x a).sent = (if due now x then [(x.sa, clientPing)] else []) ++ a.sent := by
  unfold ageServer
  by_cases hDue : due now x = true <;> simp [hDue]

-- ---------------------------------------------------------------------------
-- The round
-- ---------------------------------------------------------------------------

/-- The list after the examined servers have had their turns. -/
theorem foldl_left (xs : List AgedServer) (a : Ageing) :
    (xs.foldl (fun a x => ageServer now x a) a).linkServers.serverList.map (fun y => y.sa) =
      (a.linkServers.serverList.map fun y => y.sa).filter
        fun sa => ∀ x ∈ xs, expired now x → sa.addr ≠ x.sa.addr := by
  induction xs generalizing a with
  | nil => simp
  | cons x xs ih =>
    rw [List.foldl_cons, ih, ageServer_left, List.filter_filter]
    refine List.filter_congr fun sa _ => ?_
    simp [Bool.and_comm]

theorem mem_foldl_sent (xs : List AgedServer) (a : Ageing) (m : SockAddr × CStr) :
    m ∈ (xs.foldl (fun a x => ageServer now x a) a).sent ↔
      (∃ x ∈ xs, due now x ∧ m = (x.sa, clientPing)) ∨ m ∈ a.sent := by
  induction xs generalizing a with
  | nil => simp
  | cons x xs ih =>
    rw [List.foldl_cons, ih, ageServer_sent, List.mem_append]
    by_cases hDue : due now x = true <;> simp [hDue, or_assoc, or_left_comm]

/-- **The round** is over when the examined servers have had their turns. -/
theorem ageServers_eq (now : Int) (linkServers : LinkServerList) :
    ageServers now linkServers = some ((examined (expired now) linkServers.serverList).foldl
      (fun a x => ageServer now x a) ⟨linkServers, []⟩) := by
  have hBody : ∀ (a : Ageing) (done : List AgedServer) x rest,
      a.linkServers.serverList = done ++ x :: rest →
      (ageServer now x a).linkServers.serverList =
        done ++ (if expired now x then rest else contacted now x :: rest) :=
    fun _ _ _ _ h => ageServer_serverList h
  have hElements : (Ageing.mk linkServers []).linkServers.serverList =
      [] ++ linkServers.serverList := rfl
  have hLoop := enumerate_eq_foldl hBody hElements (Nat.lt_succ_self _)
  exact hLoop

/-- Servers are told apart by their address. -/
theorem server_ext {l : LinkServerList} {y : AgedServer} (hx : x ∈ l.serverList)
    (hy : y ∈ l.serverList) (hAddr : x.sa.addr = y.sa.addr) : x = y :=
  List.inj_on_of_nodup_map l.distinct hx hy hAddr

section Round

variable {linkServers : LinkServerList}

/-- A server is taken out if it is examined and expired. -/
theorem left_iff (hResult : ageServers now linkServers = some a)
    (hx : x ∈ linkServers.serverList) :
    x.sa ∈ a.linkServers.serverList.map (fun y => y.sa) ↔
      ¬ (expired now x ∧ x ∈ examined (expired now) linkServers.serverList) := by
  rw [ageServers_eq] at hResult
  obtain rfl := Option.some.inj hResult
  rw [foldl_left, List.mem_filter, and_iff_right (List.mem_map_of_mem hx), decide_eq_true_eq]
  constructor
  · intro hOthers ⟨hExpired, hExamined⟩
    exact hOthers x hExamined hExpired rfl
  · intro hNot y hy hExpired hAddr
    obtain rfl := server_ext hx ((examined_sublist _ _).subset hy) hAddr
    exact hNot ⟨hExpired, hy⟩

/-- A server gets a PING if it is examined and due for one. -/
theorem polled_iff (hResult : ageServers now linkServers = some a)
    (hx : x ∈ linkServers.serverList) :
    (x.sa, clientPing) ∈ a.sent ↔
      x ∈ examined (expired now) linkServers.serverList ∧ due now x := by
  rw [ageServers_eq] at hResult
  obtain rfl := Option.some.inj hResult
  rw [mem_foldl_sent, or_iff_left List.not_mem_nil]
  constructor
  · intro ⟨y, hy, hDue, hSame⟩
    obtain rfl := server_ext hx ((examined_sublist _ _).subset hy)
      (congrArg SockAddr.addr (Prod.mk.inj hSame).1)
    exact ⟨hy, hDue⟩
  · intro ⟨hExamined, hDue⟩
    exact ⟨x, hExamined, hDue, rfl⟩

/-- The servers that are left, as a part of the list there was. -/
theorem left_eq (hResult : ageServers now linkServers = some a) :
    a.linkServers.serverList.map (fun y => y.sa) =
      (linkServers.serverList.filter fun x =>
        x.sa ∈ a.linkServers.serverList.map fun y => y.sa).map fun x => x.sa := by
  have hLeft : ∃ p : SockAddr → Bool, a.linkServers.serverList.map (fun y => y.sa) =
      (linkServers.serverList.map fun y => y.sa).filter p := by
    rw [ageServers_eq] at hResult
    obtain rfl := Option.some.inj hResult
    exact ⟨_, foldl_left _ _⟩
  obtain ⟨p, hLeft⟩ := hLeft
  rw [hLeft]
  conv_lhs => rw [List.filter_map]
  congr 1
  refine List.filter_congr fun x hx => ?_
  have hMem : x.sa ∈ linkServers.serverList.map fun y => y.sa := List.mem_map_of_mem hx
  rw [Bool.eq_iff_iff, decide_eq_true_eq, List.mem_filter, and_iff_right hMem]
  rfl

/-- The round has done what it is for if every server that is expired or due is examined,
and none is both. -/
theorem aged_iff (hResult : ageServers now linkServers = some a) :
    Aged now linkServers.serverList a ↔
      (∀ x ∈ linkServers.serverList, expired now x → ¬ due now x) ∧
      ∀ x ∈ linkServers.serverList, expired now x ∨ due now x →
        x ∈ examined (expired now) linkServers.serverList := by
  constructor
  · intro h
    have hKept : ∀ x ∈ linkServers.serverList,
        x.sa ∈ a.linkServers.serverList.map (fun y => y.sa) → ¬ expired now x := by
      intro x hx hMem
      rw [h.left] at hMem
      obtain ⟨y, hy, hSame⟩ := List.mem_map.mp hMem
      obtain ⟨hy, hFresh⟩ := List.mem_filter.mp hy
      obtain rfl := server_ext hy hx (congrArg SockAddr.addr hSame)
      simpa using hFresh
    refine ⟨fun x hx hExpired hDue => ?_, fun x hx hEither => ?_⟩
    · have hGone := fun hMem => hKept x hx hMem hExpired
      have hExamined := (not_not.mp (mt (left_iff hResult hx).mpr hGone)).2
      exact h.removed x hx hGone ((polled_iff hResult hx).mpr ⟨hExamined, hDue⟩)
    · by_cases hExpired : expired now x = true
      · have hGone := fun hMem => hKept x hx hMem hExpired
        exact (not_not.mp (mt (left_iff hResult hx).mpr hGone)).2
      · have hMem := (left_iff hResult hx).mpr fun hBoth => hExpired hBoth.1
        have hDue := hEither.resolve_left hExpired
        exact ((polled_iff hResult hx).mp (h.polled x hx hMem hDue)).1
  · intro ⟨hApart, hExamined⟩
    have hMem : ∀ x ∈ linkServers.serverList,
        x.sa ∈ a.linkServers.serverList.map (fun y => y.sa) ↔ ¬ expired now x := by
      intro x hx
      rw [left_iff hResult hx]
      exact not_congr (and_iff_left_of_imp fun hExpired => hExamined x hx (Or.inl hExpired))
    refine ⟨?_, fun x hx _ hDue => ?_, fun x hx hGone hSent => ?_⟩
    · rw [left_eq hResult]
      refine congrArg _ (List.filter_congr fun x hx => ?_)
      rw [Bool.eq_iff_iff, decide_eq_true_eq, hMem x hx, Bool.not_eq_true, Bool.not_eq_true']
    · exact (polled_iff hResult hx).mpr ⟨hExamined x hx (Or.inr hDue), hDue⟩
    · have hExpired := not_not.mp (mt (hMem x hx).mpr hGone)
      exact hApart x hx hExpired ((polled_iff hResult hx).mp hSent).2

end Round

/-- **Ageing.** A round always ends, and it has done what it is for exactly if the servers are
well spaced. -/
theorem ageing_iff (now : Int) (linkServers : LinkServerList) :
    (∃ a, ageServers now linkServers = some a ∧ Aged now linkServers.serverList a) ↔
      WellSpaced now linkServers.serverList := by
  have hNodup : linkServers.serverList.Nodup := linkServers.distinct.of_map _
  have hEither : ∀ x, expired now x → expired now x ∨ due now x := fun _ => Or.inl
  have hSpaced := forall_mem_examined_iff (Q := fun x => expired now x ∨ due now x) hEither hNodup
  rw [WellSpaced, ← hSpaced]
  constructor
  · intro ⟨a, hResult, hAged⟩
    exact (aged_iff hResult).mp hAged
  · intro hWell
    exact ⟨_, ageServers_eq now linkServers, (aged_iff (ageServers_eq now linkServers)).mpr hWell⟩

/-- Three servers at `1800001`: the first two have not been heard of for more than 20
seconds, and the third has not been talked to for more than half an hour. -/
def silentServers : LinkServerList where
  serverList := [⟨⟨⟨1, 2346⟩, []⟩, 1780000, 1800000⟩, ⟨⟨⟨2, 2346⟩, []⟩, 1780000, 1800000⟩,
    ⟨⟨⟨3, 2346⟩, []⟩, 1800000, 0⟩]
  distinct := by decide

/-- The second of two expired servers stays in the list. -/
theorem ageing_skips :
    (ageServers 1800001 silentServers).map (fun a => a.linkServers.serverList.map fun x => x.sa.addr) =
      some [2, 3] ∧
    ¬ ∃ a, ageServers 1800001 silentServers = some a ∧
      Aged 1800001 silentServers.serverList a := by
  refine ⟨by decide +kernel, fun ⟨a, hResult, hAged⟩ => ?_⟩
  have hLeft : (ageServers 1800001 silentServers).map
      (fun a => a.linkServers.serverList.map fun x => x.sa) = some [⟨2, 2346⟩, ⟨3, 2346⟩] := by
    decide +kernel
  rw [hResult, Option.map_some, hAged.left] at hLeft
  exact absurd hLeft (by decide +kernel)

end AgeThread

end LinkControl.JavaClient
