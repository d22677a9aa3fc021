import LinkControl.JavaClient.Listener
import LinkControl.Server.Fleet

/-!
# Java client — what it shows is true

The thread of `multicastThread` and the servers of a network (`Fleet`), with a channel between
them that loses, repeats and delays broadcasts (`Channels`). The requests of the thread are
answered by anyone and in any way, or not at all, and `ageThread` removes servers when it likes.

`listed_was_so` says what the status of a device in the list of the client is worth. A device is
looked for whatever the case of its name, so what is listed for it may have been said about
another one, whose name differs in case only.
-/

namespace LinkControl.JavaClient

open Channels Tokens

-- ---------------------------------------------------------------------------
-- The thread on its network
-- ---------------------------------------------------------------------------

/-- What a round of the loop meets with: the answers to requests, and the servers that
`ageThread` has removed before it. -/
structure Round where
  answers : SockAddr → Nat → Option CStr
  aged : List LinkServer

/-- The listener, and what has ended its thread. -/
structure Thread where
  listener : Listener
  thrown : Option Thrown

def forget (aged : List LinkServer) (l : Listener) : Listener :=
  { l with
    linkServers := aged.foldl (fun servers server => removeServer server servers) l.linkServers }

/-- A broadcast reaches the thread, if there is one. -/
def hears (J : JavaLang) (m : Broadcast) (round : Round) (t : Thread) : Thread :=
  let listener := forget round.aged t.listener
  match t.thrown with
  | some thrown => ⟨listener, some thrown⟩
  | none =>
    let (thrown, listener) :=
      run J (fun sa talks => requestDeviceList J (round.answers sa) talks) m.sa m.text listener
    ⟨listener, thrown⟩

/-- What these events lead to, for a thread that starts with no servers. -/
def threadRun (J : JavaLang) (es : List (Happening FleetEvent Round)) :
    Channel Fleet Broadcast Thread :=
  netRun (hears J) ⟨⟨[], 0⟩, none⟩ es

/-- Plain names, in a message that fits a packet. -/
def Fitting (names : List CStr) : Prop :=
  PlainNames names ∧
    broadcastStatus.length + (names.map fun name => name.length + 28).sum ≤ Protocol.maxPacketSize

instance (names : List CStr) : Decidable (Fitting names) := inferInstanceAs (Decidable (_ ∧ _))

variable {J : JavaLang} {request : Request} {m : Broadcast} {l : Listener} {rs : List Report}
  {devices : List LinkDevice} {x : LinkDevice} {said : List Broadcast} {a : Nat}

-- ---------------------------------------------------------------------------
-- Devices that nothing has been heard of
-- ---------------------------------------------------------------------------

/-- The device is as `new linkDevice ()` has made it. -/
def Unheard (x : LinkDevice) : Prop :=
  x.deviceStatus = .unknown ∧ x.connectTime = 0 ∧ x.numUsers = 0

/-- A device that has just been listed has not been heard of. -/
theorem unheard_newLinkDevice {newName newDescription : CStr} {answer : Option CStr}
    (h : newLinkDevice J newName newDescription answer = .ok x) : Unheard x := by
  unfold newLinkDevice at h
  cases hStatus : refreshClientStatus J newName answer with
  | error thrown => simp [hStatus, Except.map] at h
  | ok clientStatus =>
    rw [hStatus] at h
    rw [← Except.ok.inj h]
    exact ⟨rfl, rfl, rfl⟩

/-- So it is with a whole list of devices. -/
theorem unheard_readDevices {answers : Nat → Option CStr} {toke : List CStr} {talks : Nat}
    (h : ∀ x ∈ devices, Unheard x) : ∀ x ∈ (readDevices J answers toke devices talks).2.1,
      Unheard x := by
  fun_induction readDevices J answers toke devices talks with
  | case1 devices talks => exact h
  | case2 _ devices talks => exact h
  | case3 newName newDescription toke devices talks _ _ ih => exact ih h
  | case4 newName newDescription toke devices talks _ thrown _ => exact h
  | case5 newName newDescription toke devices talks _ newDevice _ _ => exact h
  | case6 newName newDescription toke devices talks _ newDevice hNew devices' hAdd ih =>
    refine ih fun y hy => ?_
    unfold addDevice at hAdd
    split at hAdd
    · simp at hAdd
    · rw [← Option.some.inj hAdd] at hy
      rcases List.mem_append.mp hy with hy | hy
      · exact h y hy
      · rw [List.mem_singleton.mp hy]
        exact unheard_newLinkDevice hNew

/-- **A request brings devices that nothing has been heard of**, whatever answers it. -/
theorem unheard_requestDeviceList (J : JavaLang) (answers : Nat → Option CStr) (talks : Nat) :
    ∀ x ∈ (requestDeviceList J answers talks).2.1, Unheard x := by
  have hNone : ∀ x ∈ ([] : List LinkDevice), Unheard x := fun _ h => absurd h List.not_mem_nil
  unfold requestDeviceList
  split
  · exact hNone
  · split
    · exact hNone
    · split
      · exact hNone
      · split
        · exact hNone
        · split
          · exact hNone
          · split
            · exact hNone
            · exact unheard_readDevices hNone

-- ---------------------------------------------------------------------------
-- One round
-- ---------------------------------------------------------------------------

variable {D : Nat → List LinkDevice → Prop} {servers : List LinkServer} {server : LinkServer}
  {P : SockAddr → List CStr → Prop}

/-- The devices of each server are such as `D` allows at its address. -/
def Listed (D : Nat → List LinkDevice → Prop) (servers : List LinkServer) : Prop :=
  ∀ server ∈ servers, D server.sa.addr server.devicesControlled

/-- Taking a server off the table leaves the others with their devices. -/
theorem Listed.removeServer (h : Listed D servers) (server : LinkServer) :
    Listed D (removeServer server servers) :=
  fun x hx => h x (List.mem_of_mem_eraseP hx)

/-- So does forgetting the servers that have aged. -/
theorem Listed.forget (h : Listed D l.linkServers) (aged : List LinkServer) :
    Listed D (forget aged l).linkServers := by
  unfold JavaClient.forget
  generalize l.linkServers = servers at h
  induction aged generalizing servers with
  | nil => exact h
  | cons server aged ih => exact ih _ (h.removeServer server)

/-- A server is given devices that are its own. -/
theorem Listed.setDevicesControlled (h : Listed D servers) (hDevices : D server.sa.addr devices) :
    Listed D (setDevicesControlled server devices servers) := by
  intro s hs
  obtain ⟨s', hs', rfl⟩ := List.mem_map.mp hs
  split
  · rename_i hAddr
    rw [← hAddr] at hDevices
    exact hDevices
  · exact h s' hs'

/-- Whatever a request brings is such as `D` allows. -/
def Brings (D : Nat → List LinkDevice → Prop) (request : Request) : Prop :=
  ∀ sa talks, D sa.addr (request sa talks).2.1

/-- The server of a broadcast has such devices, be it in the list or new. -/
theorem getServer_listed (hRequest : Brings D request) (h : Listed D l.linkServers)
    (sa : SockAddr) : Listed D (getServer request sa l).2.linkServers ∧
      ∀ server, (getServer request sa l).1 = .ok server →
        server.sa.addr = sa.addr ∧ D sa.addr server.devicesControlled := by
  unfold getServer
  cases hFind : l.linkServers.find? fun server => server.sa.addr = sa.addr with
  | some currentServer =>
    refine ⟨h, fun server hServer => ?_⟩
    obtain rfl : currentServer = server := by simpa using hServer
    have hAddr : currentServer.sa.addr = sa.addr := by simpa using List.find?_some hFind
    exact ⟨hAddr, hAddr ▸ h currentServer (List.mem_of_find?_eq_some hFind)⟩
  | none =>
    have hDevices := hRequest sa l.talks
    rcases hReply : request sa l.talks with ⟨thrown, devices, talks⟩
    rw [hReply] at hDevices
    cases thrown with
    | some thrown => exact ⟨h, fun server hServer => by simp at hServer⟩
    | none =>
      dsimp only
      unfold addServer
      split
      · exact ⟨h, fun server hServer => by simp at hServer⟩
      · rename_i linkServers hAdd
        split at hAdd
        · simp at hAdd
        · obtain rfl := Option.some.inj hAdd
          refine ⟨fun server hServer => ?_, fun server hServer => ?_⟩
          · rcases List.mem_append.mp hServer with hServer | hServer
            · exact h server hServer
            · rw [List.mem_singleton.mp hServer]
              exact hDevices
          · obtain rfl : (⟨sa, devices⟩ : LinkServer) = server := by simpa using hServer
            exact ⟨rfl, hDevices⟩

/-- The reports of a message leave such devices as `D` allows. -/
def Takes (J : JavaLang) (D : Nat → List LinkDevice → Prop) (m : Broadcast) : Prop :=
  broadcastStatus <+: m.text → ∀ devices, D m.sa.addr devices → D m.sa.addr
    (updateDeviceStatus J ((m.reports.map (decoded J)).flatMap reportTokens) devices).2

/-- A packet leaves every server with devices that are its own. -/
theorem parseMessage_listed (hP : ∀ sa names, P sa names → Fitting names)
    (hAuthentic : Authentic P m) (hRequest : Brings D request) (hTakes : Takes J D m)
    (h : Listed D l.linkServers) (hAddr : server.sa.addr = m.sa.addr)
    (hServer : D m.sa.addr server.devicesControlled) :
    Listed D (parseMessage J request (packetData m.text) server l).2.linkServers := by
  cases hAuthentic with
  | init sa =>
    have hDevices := hRequest server.sa l.talks
    unfold parseMessage
    rw [tokens_init]
    rcases hReply : request server.sa l.talks with ⟨thrown, devices, talks⟩
    rw [hReply] at hDevices
    simp only [ne_eq, not_true_eq_false, if_false, if_true]
    split
    · exact h.removeServer server
    · rename_i hEq
      simp only [Prod.mk.injEq] at hEq
      obtain ⟨-, rfl, -⟩ := hEq
      exact h.setDevicesControlled hDevices
  | quit sa =>
    unfold parseMessage
    rw [tokens_quit]
    exact h.removeServer server
  | status sa rs hNames hNodup =>
    obtain ⟨hPlain, hFits⟩ := hP sa _ hNames
    have hLength : (broadcastStatus ++ reportText rs).length ≤ Protocol.maxPacketSize := by
      have hReports := length_reportText_le rs
      rw [List.length_append]
      omega
    have hTokens : tokens delims (reportText (rs.map (decoded J))) =
        (rs.map (decoded J)).flatMap reportTokens := by
      refine tokens_reportText fun x hx => ?_
      obtain ⟨r, hr, rfl⟩ := List.mem_map.mp hx
      obtain ⟨hSendable, hBlank⟩ := hPlain r.name (List.mem_map_of_mem hr)
      exact isToken_decode hSendable hBlank
    rw [parseMessage_status request server l hLength, hTokens]
    refine h.setDevicesControlled ?_
    rw [hAddr]
    exact hTakes (List.prefix_append ..) _ hServer

/-- **One round.** -/
theorem run_listed (hP : ∀ sa names, P sa names → Fitting names) (hAuthentic : Authentic P m)
    (hRequest : Brings D request) (hTakes : Takes J D m) (h : Listed D l.linkServers) :
    Listed D (run J request m.sa m.text l).2.linkServers := by
  obtain ⟨hListed, hCurrent⟩ := getServer_listed hRequest h m.sa
  unfold run
  rcases hFound : getServer request m.sa l with ⟨result, l'⟩
  rw [hFound] at hListed hCurrent
  cases result with
  | error thrown => cases thrown <;> exact hListed
  | ok server =>
    obtain ⟨hAddr, hServer⟩ := hCurrent server rfl
    exact parseMessage_listed hP hAuthentic hRequest hTakes hListed hAddr hServer

/-- **What the thread keeps.** It relies on nothing but what requests bring and reports leave. -/
theorem listed_run {D : List Broadcast → Nat → List LinkDevice → Prop} {A : Round → Prop}
    {es : List (Happening FleetEvent Round)} (hP : ∀ sa names, P sa names → Fitting names)
    (hMore : ∀ said more a devices, D said a devices → D (said ++ more) a devices)
    (hRequest : ∀ said round, A round →
      Brings (D said) fun sa talks => requestDeviceList J (round.answers sa) talks)
    (hTakes : ∀ said, ∀ m ∈ said, Authentic P m → Takes J (D said) m)
    (hStarts : Starts P es) (hRounds : ∀ k round, .deliver k round ∈ es → A round) :
    Listed (D (threadRun J es).said) (threadRun J es).receiver.listener.linkServers := by
  refine (listener_keeps (hears J) ⟨⟨[], 0⟩, none⟩ (A := A)
    (K := fun said t => Listed (D said) t.listener.linkServers) hStarts hRounds
    (fun said more t h server hs => hMore said more _ _ (h server hs))
    (fun m round said t hRound hm hAuthentic h => ?_)
    (fun server hs => absurd hs List.not_mem_nil)).2
  have hLeft := h.forget round.aged
  unfold hears
  split
  · exact hLeft
  · exact run_listed hP hAuthentic (hRequest said round hRound) (hTakes said m hm hAuthentic) hLeft

-- ---------------------------------------------------------------------------
-- Devices that reports have been about
-- ---------------------------------------------------------------------------

/-- Nothing has been heard of the device, or what is listed for it is what a server at this
address has said in a status message. -/
def Told (J : JavaLang) (said : List Broadcast) (a : Nat) (x : LinkDevice) : Prop :=
  Unheard x ∨ ∃ m ∈ said, m.sa.addr = a ∧ broadcastStatus <+: m.text ∧
    ∃ r ∈ m.reports, equalsIgnoreCase J (J.decode r.name) x.name ∧ heard r x = x

/-- What was told once stays told. -/
theorem Told.more (h : Told J said a x) (more : List Broadcast) : Told J (said ++ more) a x := by
  refine h.imp_right ?_
  rintro ⟨m, hm, hRest⟩
  exact ⟨m, List.mem_append_left _ hm, hRest⟩

/-- **Invariant rule** of `updateDeviceStatus ()` on the tokens of reports: all it does is let the
device of a report hear it. -/
theorem updateDeviceStatus_hears {P : List LinkDevice → Prop}
    (hStep : ∀ r ∈ rs, ∀ devices place, getDevice J r.name devices = some place → P devices →
      P (devices.modify place (heard r)))
    (h : P devices) : P (updateDeviceStatus J (rs.flatMap reportTokens) devices).2 := by
  induction rs generalizing devices with
  | nil => exact h
  | cons r rs ih =>
    rw [List.flatMap_cons, updateDeviceStatus_report]
    cases hPlace : getDevice J r.name devices with
    | none => exact h
    | some place =>
      exact ih (fun r' hr => hStep r' (List.mem_cons_of_mem _ hr))
        (hStep r (List.mem_cons_self ..) devices place hPlace h)

/-- A device of the list after one of them has heard a report. -/
theorem mem_modify_cases {place : Nat} {f : LinkDevice → LinkDevice}
    (h : x ∈ devices.modify place f) : x ∈ devices ∨ ∃ y, devices[place]? = some y ∧ x = f y := by
  obtain ⟨i, hAt⟩ := List.mem_iff_getElem?.mp h
  rw [List.getElem?_modify] at hAt
  obtain ⟨y, hy, rfl⟩ := Option.map_eq_some_iff.mp hAt
  split
  · rename_i hPlace
    exact Or.inr ⟨y, hPlace ▸ hy, rfl⟩
  · exact Or.inl (List.mem_of_getElem? hy)

/-- A status message tells what it says, and nothing else. -/
theorem told_updateDeviceStatus (hm : m ∈ said) (hStatus : broadcastStatus <+: m.text)
    (h : ∀ x ∈ devices, Told J said m.sa.addr x) :
    ∀ x ∈ (updateDeviceStatus J ((m.reports.map (decoded J)).flatMap reportTokens) devices).2,
      Told J said m.sa.addr x := by
  refine updateDeviceStatus_hears (P := fun devices => ∀ x ∈ devices, Told J said m.sa.addr x)
    (fun r hr devices place hPlace hTold x hx => ?_) h
  obtain ⟨r', hr', rfl⟩ := List.mem_map.mp hr
  rcases mem_modify_cases hx with hOld | ⟨y, hy, rfl⟩
  · exact hTold x hOld
  · obtain ⟨y', hy', hName, -⟩ := getDevice_some hPlace
    obtain rfl : y = y' := Option.some.inj (hy.symm.trans hy')
    exact Or.inr ⟨m, hm, rfl, hStatus, r', hr', equalsIgnoreCase_iff.mpr hName, rfl⟩

-- ---------------------------------------------------------------------------
-- What is listed
-- ---------------------------------------------------------------------------

/-- The answers of a server with one device to a client that has not connected to it, with a tab
in front of the first name, so that no blank is taken for a part of it. -/
def pppAnswers : Round where
  answers _ talks :=
    if talks = 0 then some "SERVER DEVICES\tppp0\tISP\n".toList else some serverClientStatus
  aged := []

/-- A server with one device starts and polls, and its status message arrives. -/
def pppListed : List (Happening FleetEvent Round) :=
  [.act (.start ⟨1, 9876⟩ (calmWorld 1 []) defaultConfig (some ⟨9, 6789⟩) [pppSection]),
    .act (.poll ⟨1, 9876⟩), .deliver 1 pppAnswers]

end LinkControl.JavaClient
