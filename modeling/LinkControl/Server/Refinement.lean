import LinkControl.Server.Requests
import LinkControl.Server.InTouch

/-!
# Link server — what the server is for

Apart from how it keeps its lists, the server is there for this: an address is interested in a
device from its UP until its DOWN, until the device is forced or reported down, until the last
of `g_retries + 1` dials has not been answered in time, or until nothing has been heard of the
address for too long.

`Interest` follows this through a run. It is told the events and what the clock shows when the
server comes to each of them (`Timetable`), and it knows nothing of lists, statuses, connect
times and retries, or of what the server has found. `Tracks` is what connects it with the server,
one event after the other (`tracks_step`), while every command returns 0 and memory suffices.
-/

namespace LinkControl

open ReturnCode Edits

-- ---------------------------------------------------------------------------
-- The interest of the clients
-- ---------------------------------------------------------------------------

/-- When a device was dialled last, and how often since somebody has asked for it. -/
structure Dialling where
  since : Int
  dials : Nat

/-- Which address is interested in which device, when each address was heard of last, and which
devices have been dialled without an answer. -/
structure Interest where
  pairs : Set (Nat × CStr)
  heard : Nat → Option Int
  dialling : CStr → Option Dialling

/-- The clock during an event: when a datagram is taken down, when a sweep looks at the client of
an address or at a device, and when a device has been dialled. -/
structure Timetable where
  heard : Int
  client : Nat → Int
  device : CStr → Int
  dialled : CStr → Int

namespace Interest

/-- Nothing has been heard yet. -/
def initial : Interest := ⟨∅, fun _ => none, fun _ => none⟩

variable (known : List CStr) (cfg : Config) (τ : Timetable) (i : Interest)

/-- More time than the client timeout has passed since the last datagram of the address. -/
def Silent (addr : Nat) : Prop :=
  ∃ t, i.heard addr = some t ∧ t + cfg.gClientTimeout < τ.client addr

/-- More time than the connect timeout has passed since the last dial, and no dial is left. -/
def Exhausted (name : CStr) : Prop :=
  ∃ x, i.dialling name = some x ∧ x.since + cfg.gConnectTimeout < τ.device name ∧
    cfg.gRetries < x.dials

/-- A device whose last dial has not been answered in time is dialled once more. -/
def redialled (name : CStr) : Option Dialling :=
  (i.dialling name).map fun x =>
    if x.since + cfg.gConnectTimeout < τ.device name then ⟨τ.dialled name, x.dials + 1⟩ else x

open Classical in
/-- Dialling after an UP: the first address that asks for a device makes the server dial. -/
noncomputable def asked (name : CStr) : CStr → Option Dialling :=
  if known.contains name ∧ ∀ addr, (addr, name) ∉ i.pairs then
    Function.update i.dialling name (some ⟨τ.dialled name, 1⟩)
  else i.dialling

/-- A datagram of a client. -/
noncomputable def client (addr : Nat) (message : ClientMessage) : Interest where
  pairs := edited (message.edits known addr) i.pairs
  heard := Function.update i.heard addr (some τ.heard)
  dialling := match message with
    | .up name => i.asked known τ name
    | .ping | .devices | .down _ | .forceDown _ | .status _ | .clientStatus | .unknown => i.dialling

/-- A datagram of the peer. -/
def peer (message : PeerMessage) : Interest where
  pairs := edited message.edits i.pairs
  heard := i.heard
  dialling := match message with
    | .isup name => Function.update i.dialling name none
    | .isdown _ | .unknown => i.dialling

/-- An event. -/
noncomputable def step (e : Event) : Interest :=
  match e with
  | .client cli message => i.client known τ cli.addr (clientMessage message)
  | .peer message => i.peer (peerMessage message)
  | .timeoutOldClients => { i with pairs := {p ∈ i.pairs | ¬ i.Silent cfg τ p.1} }
  | .timeoutOldDevices =>
    { i with
      pairs := {p ∈ i.pairs | ¬ i.Exhausted cfg τ p.2}
      dialling := i.redialled cfg τ }

end Interest

-- ---------------------------------------------------------------------------
-- The clock of the server
-- ---------------------------------------------------------------------------

/-- Where the sweep over the clients stands when it comes to this address. -/
def clientTurn (w : World) (cfg : Config) (s : State) (addr : Nat) : State :=
  reached (timeoutOldClient w cfg) s.gClients
    (s.gClients.findIdx fun c => (s.cli c).sa.addr = addr) s

/-- The place of a device in the list. -/
def devicePlace (s : State) (name : CStr) : Nat :=
  s.gDevices.findIdx fun d => (s.dev d).deviceName = name

/-- Where the sweep over the devices stands when it comes to a place. -/
def deviceTurn (w : World) (cfg : Config) (s : State) (n : Nat) : State :=
  reached (timeoutOldDevice w cfg) s.gDevices n s

/-- What the clock of the server shows in the course of an event. It goes on whenever the server
looks at it and while a command runs. -/
def timetable (w : World) (cfg : Config) (e : Event) (s : State) : Timetable where
  heard := (advance w (advance w s)).clock
  client addr := (advance w (clientTurn w cfg (advance w s) addr)).clock
  device name := (advance w (deviceTurn w cfg (advance w s) (devicePlace s name))).clock
  dialled name := match e with
    | .timeoutOldDevices => (deviceTurn w cfg (advance w s) (devicePlace s name + 1)).clock
    | .client _ _ | .peer _ | .timeoutOldClients => (step w cfg e s).2.clock

/-- The interest after a run of a server with devices of these names. A server that has crashed
takes no event. -/
noncomputable def interest (w : World) (cfg : Config) (known : List CStr) (es : List Event)
    (s : State) : Interest :=
  Runs.observe (fun e s => (step w cfg e s).2)
    (fun e s i => if s.crashed then i else i.step known cfg (timetable w cfg e s) e) es s .initial

-- ---------------------------------------------------------------------------
-- The interest and the server
-- ---------------------------------------------------------------------------

/-- What is known of the dialling of a device agrees with the device: a retry has gone with each
dial. -/
structure Remembers (cfg : Config) (x : Option Dialling) (v : Device) : Prop where
  connecting : v.status = .connecting →
    ∃ k : Nat, x = some ⟨v.connectTime, k⟩ ∧ v.retries + k = cfg.gRetries
  up : v.status = .up → x = none

/-- The server knows of its clients what has been heard of them. -/
def HeardOf (i : Interest) (s : State) : Prop :=
  ∀ c ∈ s.gClients, i.heard (s.cli c).sa.addr = some (s.cli c).lastHeardFrom

/-- The devices are where their dialling is. -/
def AsDialled (cfg : Config) (i : Interest) (s : State) : Prop :=
  ∀ d ∈ s.gDevices, Remembers cfg (i.dialling (s.dev d).deviceName) (s.dev d)

/-- The server is where the interest of its clients says. -/
structure Tracks (known : List CStr) (cfg : Config) (s : State) (i : Interest) : Prop
    extends Sound s where
  names : deviceNames s = known
  pairs : i.pairs = uses s
  heard : HeardOf i s
  asDialled : AsDialled cfg i s

variable {w : World} {cfg : Config} {known : List CStr} {cli : SockAddr} {c : CliPtr} {d : DevPtr}
  {message name : CStr} {x : Option Dialling} {i i' : Interest} {s s₁ s' s'' : State}

-- ---------------------------------------------------------------------------
-- What has been heard
-- ---------------------------------------------------------------------------

/-- The clients that are left have not been heard of. -/
structure Unheard (s s' : State) : Prop where
  gClients : s'.gClients ⊆ s.gClients
  sa : ∀ c, (s'.cli c).sa = (s.cli c).sa
  heard : ∀ c, (s'.cli c).lastHeardFrom = (s.cli c).lastHeardFrom

namespace Unheard

theorem refl (s : State) : Unheard s s := ⟨fun _ hc => hc, fun _ => rfl, fun _ => rfl⟩

/-- Composition. -/
theorem trans (h : Unheard s s') (h' : Unheard s' s'') : Unheard s s'' where
  gClients _ hc := h.gClients (h'.gClients hc)
  sa c := (h'.sa c).trans (h.sa c)
  heard c := (h'.heard c).trans (h.heard c)

end Unheard

/-- Where nobody is made or heard of, nobody has been heard. -/
theorem Steady.unheard (h : Steady s s') : Unheard s s' := ⟨h.gClients.subset, h.sa, h.heard⟩

/-- What is known of the last datagrams stays true while none comes. -/
theorem HeardOf.unheard (h : HeardOf i s) (hUnheard : Unheard s s') : HeardOf i s' := by
  intro c hc
  rw [hUnheard.sa, hUnheard.heard]
  exact h c (hUnheard.gClients hc)

/-- One round of the sweep over the clients. -/
theorem unheard_timeoutOldClient (w : World) (cfg : Config) (c : CliPtr) (s : State) :
    Unheard s (timeoutOldClient w cfg c s).2 := by
  by_cases hOver : Overdue cfg c (advance w s)
  · have hNoted : Unheard s (noteExpired w c s) := { Unheard.refl s with }
    have hDevices := (steady_removeClientFromAllDevices w cfg c (noteExpired w c s)).unheard
    rw [timeoutOldClient_of_overdue w cfg hOver]
    exact unlessFails_post (fun _ => hNoted.trans hDevices) fun _ =>
      (hNoted.trans hDevices).trans (steady_dropClient c _).unheard
  · rw [timeoutOldClient_of_not_overdue w cfg hOver]
    exact { Unheard.refl s with }

/-- A datagram is heard when its sender is entered. -/
theorem HeardOf.entered (h : HeardOf i s) (hE : Entered w cli c s s₁) (hWF : WellFormed s₁)
    (hHeard : i'.heard = Function.update i.heard cli.addr (some s₁.clock)) : HeardOf i' s₁ := by
  have hAddr : (s₁.cli c).sa.addr = cli.addr := congrArg SockAddr.addr hE.sa
  intro x hx
  rw [hHeard]
  rcases eq_or_ne x c with rfl | hOther
  · rw [hAddr, Function.update_self, hE.heard]
  · have hMem : x ∈ s.gClients := (hE.mem_gClients.mp hx).resolve_right hOther
    have hNe : (s₁.cli x).sa.addr ≠ cli.addr :=
      fun hSame => hOther (hWF.client_ext hx hE.known (hSame.trans hAddr.symm))
    rw [Function.update_of_ne hNe, hE.others x hMem hOther]
    exact h x hMem

-- ---------------------------------------------------------------------------
-- What has been dialled
-- ---------------------------------------------------------------------------

namespace Remembers

/-- Only the status, the connect time and the retries matter. -/
theorem congr {v v' : Device} (h : Remembers cfg x v) (hStatus : v'.status = v.status)
    (hTime : v'.connectTime = v.connectTime) (hRetries : v'.retries = v.retries) :
    Remembers cfg x v' := by
  refine ⟨fun hConnecting => ?_, fun hUp => h.up (hStatus ▸ hUp)⟩
  rw [hTime, hRetries]
  exact h.connecting (hStatus ▸ hConnecting)

/-- A device without clients is neither up nor on its way there. -/
theorem of_nobody (hUsed : Used d s) (hNobody : (s.dev d).clientsConnected = []) :
    Remembers cfg x (s.dev d) :=
  ⟨fun hConnecting => absurd hNobody (hUsed.mp (Or.inl hConnecting)),
    fun hUp => absurd hNobody (hUsed.mp (Or.inr hUp))⟩

end Remembers

/-- Where no device has changed. -/
theorem AsDialled.same (h : AsDialled cfg i s) (hDev : s'.dev = s.dev)
    (hDevices : s'.gDevices = s.gDevices) : AsDialled cfg i s' := by
  intro d hd
  rw [hDev]
  exact h d (hDevices ▸ hd)

/-- A change of one device. -/
theorem AsDialled.relisted (h : AsDialled cfg i s) (hWF : WellFormed s) (hd : d ∈ s.gDevices)
    (hRel : Relisted d s s')
    (hOthers : ∀ name, name ≠ (s.dev d).deviceName → i'.dialling name = i.dialling name)
    (hOwn : Remembers cfg (i'.dialling (s.dev d).deviceName) (s'.dev d)) : AsDialled cfg i' s' := by
  intro d' hd'
  rw [hRel.gDevices] at hd'
  rcases eq_or_ne d' d with rfl | hOther
  · rw [hRel.name]
    exact hOwn
  · rw [hRel.other d' hOther, hOthers _ fun hSame => hOther (hWF.device_ext hd' hd hSame)]
    exact h d' hd'

/-- The peer reports that the link is up. -/
theorem remembers_isUp (w : World) (cfg : Config) (d : DevPtr) (s : State) :
    Remembers cfg none ((alterToUp w d s).2.dev d) := by
  rcases alterToUp_cases w d s with ⟨hNot, hEq⟩ | ⟨-, hEq⟩ <;> rw [hEq]
  · exact ⟨fun hConnecting => absurd (by simpa using hConnecting) hNot, fun _ => rfl⟩
  · exact ⟨fun hConnecting => absurd hConnecting (by simp), fun _ => rfl⟩

section Calls

variable (hw : Calm w) (h : Sound s) (hd : d ∈ s.gDevices)
include hw h hd

/-- A disconnection takes the device down, or leaves it where it is. -/
theorem remembers_disconnect (c : CliPtr) (hOwn : Remembers cfg x (s.dev d)) :
    Remembers cfg x ((disconnectClientFromDevice w cfg c d s).2.dev d) := by
  have hUsed : Used d (disconnectClientFromDevice w cfg c d s).2 := (disconnect_used hw h hd c).2.1
  have hClients : ((disconnectClientFromDevice w cfg c d s).2.dev d).clientsConnected =
      (s.dev d).clientsConnected.erase c := (disconnect_used hw h hd c).1
  by_cases hNobody : ((disconnectClientFromDevice w cfg c d s).2.dev d).clientsConnected = []
  · exact .of_nobody hUsed hNobody
  · have hMore : (s.dev d).clientsConnected ≠ [c] := by
      intro hLast
      rw [hClients, hLast] at hNobody
      exact hNobody (by simp)
    rcases disconnectClientFromDevice_cases w cfg c d s with ⟨-, hEq⟩ | ⟨-, -, hEq⟩ |
      ⟨hLast, -⟩ | ⟨hLast, -⟩ | ⟨hLast, -⟩ | ⟨hLast, -⟩
    · exact hOwn.congr (by simp [hEq]) (by simp [hEq]) (by simp [hEq])
    · exact hOwn.congr (by simp [hEq]) (by simp [hEq]) (by simp [hEq])
    · exact absurd hLast hMore
    · exact absurd hLast hMore
    · exact absurd hLast hMore
    · exact absurd hLast hMore

/-- A connection makes the server dial if nobody was connected. -/
theorem remembers_connect (hRetries : 0 ≤ cfg.gRetries) (c : CliPtr)
    (hOwn : Remembers cfg x (s.dev d)) :
    Remembers cfg (if (s.dev d).clientsConnected = [] then
        some ⟨(connectClientToDevice w cfg c d s).2.clock, 1⟩ else x)
      ((connectClientToDevice w cfg c d s).2.dev d) := by
  obtain ⟨s₁, -, -, hDial, hEq⟩ := connect_eq hw h hd hRetries c
  have hNoted := noted_noteClient w c d s₁
  rw [hEq]
  rcases hDial with ⟨hSome, rfl⟩ | ⟨hNone, hConnecting, hTime, hLeft⟩
  · rw [if_neg hSome]
    exact hOwn.congr hNoted.status hNoted.connectTime hNoted.retries
  · rw [if_pos hNone]
    refine ⟨fun _ => ⟨1, ?_, ?_⟩, fun hUp => ?_⟩
    · rw [hNoted.connectTime, hNoted.clock, hTime]
    · rw [hNoted.retries, hLeft]
      omega
    · rw [hNoted.status, hConnecting] at hUp
      exact absurd hUp (by decide)

/-- A device that is due has been dialled once more, or goes down. -/
theorem remembers_timeout (hDue : Due cfg d s) (hOwn : Remembers cfg x (s.dev d)) :
    0 ≤ ((Op.timeout d).run w cfg s).1 ∧
    Remembers cfg (x.map fun y => ⟨((Op.timeout d).run w cfg s).2.clock, y.dials + 1⟩)
      (((Op.timeout d).run w cfg s).2.dev d) := by
  have hUsed := (timeout_used hw h hd hDue).2
  rcases timeout_cases w hDue with ⟨-, -, hLaunch, -⟩ | ⟨-, -, -, hEq⟩ |
    ⟨-, -, hLaunch, -⟩ | ⟨hStatus, -, -, hEq⟩ | ⟨-, hLaunch, -⟩ | ⟨-, -, hEq⟩
  · simp [hw] at hLaunch
  · rw [hEq]
    exact ⟨le_rfl, fun hConnecting => absurd hConnecting (by simp),
      fun hUp => absurd hUp (by simp)⟩
  · simp [hw] at hLaunch
  · obtain ⟨k, rfl, hLeft⟩ := hOwn.connecting hStatus
    rw [hEq]
    refine ⟨le_rfl, fun _ => ⟨k + 1, by simp, ?_⟩, fun hUp => absurd hUp (by simp)⟩
    rw [dialled_retries]
    push_cast
    omega
  · simp [hw] at hLaunch
  · rw [hEq]
    exact ⟨le_rfl, fun hConnecting => absurd hConnecting (by simp),
      fun hUp => absurd hUp (by simp)⟩

end Calls

-- ---------------------------------------------------------------------------
-- Messages
-- ---------------------------------------------------------------------------

/-- An UP changes the dialling of no other device. -/
theorem asked_other (known : List CStr) (τ : Timetable) (i : Interest) {name other : CStr}
    (hOther : other ≠ name) : i.asked known τ name other = i.dialling other := by
  unfold Interest.asked
  split
  · exact Function.update_of_ne hOther _ _
  · rfl

/-- The device that an UP asks for has been dialled if nobody was connected to it. -/
theorem asked_self (hWF : WellFormed s) (hd : d ∈ s.gDevices) (hPairs : i.pairs = uses s)
    (τ : Timetable) :
    i.asked (deviceNames s) τ (s.dev d).deviceName (s.dev d).deviceName =
      if (s.dev d).clientsConnected = [] then some ⟨τ.dialled (s.dev d).deviceName, 1⟩
      else i.dialling (s.dev d).deviceName := by
  have hKnown : (s.dev d).deviceName ∈ deviceNames s := mem_deviceNames.mpr ⟨d, hd, rfl⟩
  have hWanted : (∀ addr, (addr, (s.dev d).deviceName) ∉ i.pairs) ↔
      (s.dev d).clientsConnected = [] := by
    rw [hPairs]
    constructor
    · intro hNone
      by_contra hSome
      obtain ⟨c, hc⟩ := List.exists_mem_of_ne_nil _ hSome
      exact hNone _ ((hWF.mem_uses hd).mpr ⟨c, hc, rfl⟩)
    · intro hNobody addr hUses
      obtain ⟨c, hc, -⟩ := (hWF.mem_uses hd).mp hUses
      exact List.not_mem_nil (hNobody ▸ hc)
  unfold Interest.asked
  rw [hWanted]
  by_cases hNobody : (s.dev d).clientsConnected = []
  · rw [if_pos ⟨List.contains_iff_mem.mpr hKnown, hNobody⟩, if_pos hNobody, Function.update_self]
  · rw [if_neg fun hAsked => hNobody hAsked.2, if_neg hNobody]

/-- A request and the dialling. -/
theorem asDialled_clientRequest (hw : Calm w) (hRetries : 0 ≤ cfg.gRetries) (h : Sound s)
    (hPairs : i.pairs = uses s) (hDials : AsDialled cfg i s) (hc : c ∈ s.gClients) (addr : Nat)
    {τ : Timetable}
    (hDialled : ∀ name, τ.dialled name = (clientRequest w cfg c message s).2.clock) :
    AsDialled cfg (i.client (deviceNames s) τ addr (clientMessage message))
      (clientRequest w cfg c message s).2 := by
  have hWF := h.wellFormed
  cases hOp : clientOp c message s with
  | none =>
    have hq := clientRequest_of_none w cfg hOp
    have hSame : (i.client (deviceNames s) τ addr (clientMessage message)).dialling =
        i.dialling := by
      unfold clientOp at hOp
      cases hMsg : clientMessage message with
      | up name =>
        rw [hMsg] at hOp
        have hNone := getDevice_none (Prod.ext (Option.map_eq_none_iff.mp hOp) rfl)
        have hUnknown : name ∉ deviceNames s := by
          intro hKnown
          obtain ⟨d, hd, hName⟩ := mem_deviceNames.mp hKnown
          exact hNone.1 d hd hName
        exact if_neg fun hAsked => hUnknown (List.contains_iff_mem.mp hAsked.1)
      | _ => rfl
    have hStays : AsDialled cfg i (clientRequest w cfg c message s).2 :=
      hDials.same hq.dev hq.gDevices
    intro d hd
    rw [hSame]
    exact hStays d hd
  | some o =>
    have hRun : (clientRequest w cfg c message s).2 = (o.run w cfg s).2 := by
      rw [clientRequest_of_op w cfg hOp, unlessFails_done]
    rw [hRun] at hDialled ⊢
    have hApplies : o.Applies cfg s := Kept.applies_of_clientOp hWF hc hOp
    unfold clientOp at hOp
    cases hMsg : clientMessage message with
    | up name =>
      rw [hMsg] at hOp
      obtain ⟨d, hGet, rfl⟩ := Option.map_eq_some_iff.mp hOp
      obtain ⟨hd, rfl, -⟩ := getDevice_some (Prod.ext hGet rfl)
      obtain ⟨s₁, ht, -, -, hEq⟩ := connect_eq hw h hd hRetries c
      have hRel : Relisted d s ((Op.connect c d).run w cfg s).2 := by
        rw [run_connect, hEq]
        exact ht.relisted.trans (relisted_noteClient w c d s₁)
      refine hDials.relisted hWF hd hRel (fun _ hOther => asked_other _ _ _ hOther) ?_
      have hOwn := remembers_connect hw h hd hRetries c (hDials d hd)
      show Remembers cfg
        (i.asked (deviceNames s) τ (s.dev d).deviceName (s.dev d).deviceName) _
      rw [asked_self hWF hd hPairs, hDialled]
      exact hOwn
    | down name =>
      rw [hMsg] at hOp
      obtain ⟨d, hGet, rfl⟩ := Option.map_eq_some_iff.mp hOp
      have ht : Touched d s ((Op.disconnect c d).run w cfg s).2 :=
        touched_run (o := .disconnect c d) (by simp)
      exact hDials.relisted hWF hApplies.2 ht.relisted (fun _ _ => rfl)
        (remembers_disconnect hw h hApplies.2 c (hDials d hApplies.2))
    | forceDown name =>
      rw [hMsg] at hOp
      obtain ⟨d, hGet, rfl⟩ := Option.map_eq_some_iff.mp hOp
      have ht : Touched d s ((Op.forceDown d).run w cfg s).2 :=
        touched_run (o := .forceDown d) (by simp)
      obtain ⟨hNobody, hUsed⟩ := forceDown_used hw cfg d s
      exact hDials.relisted hWF hApplies ht.relisted (fun _ _ => rfl)
        (.of_nobody hUsed hNobody)
    | _ => simp [hMsg] at hOp

/-- **A datagram of a client.** -/
theorem tracks_processClient (hw : Calm w) (hRetries : 0 ≤ cfg.gRetries) (h : Tracks known cfg s i)
    (cli : SockAddr) (message : CStr) {τ : Timetable} (hHeard : τ.heard = (advance w s).clock)
    (hDialled : ∀ name, τ.dialled name = (processClient w cfg cli message s).2.clock) :
    HeardOf (i.step known cfg τ (.client cli message)) (processClient w cfg cli message s).2 ∧
      AsDialled cfg (i.step known cfg τ (.client cli message))
        (processClient w cfg cli message s).2 := by
  rcases processClient_cases w cfg cli message s with ⟨c, s₁, hE, hEq⟩ | ⟨s', -, -, k, -, -, hNone⟩
  · have h₁ : Sound s₁ := hE.kept (sound_kept hw hRetries) h.toSound
    have hNames : deviceNames s₁ = known := by
      rw [← h.names, deviceNames, deviceNames, hE.dev, hE.gDevices]
    have hUses : uses s₁ = uses s := by
      refine Set.ext fun p => exists_congr fun d => ?_
      rw [hE.dev, hE.gDevices]
      refine and_congr_right fun hd => exists_congr fun x => and_congr_right fun hx => ?_
      rw [hE.addr (h.wellFormed.clientsKnown d hd x hx)]
    rw [hEq] at hDialled ⊢
    constructor
    · refine HeardOf.unheard (h.heard.entered hE h₁.wellFormed ?_)
        (steady_clientRequest w cfg c message s₁).unheard
      rw [hE.clock, ← advance_clock, ← hHeard]
      rfl
    · have hDials := asDialled_clientRequest hw hRetries h₁ (h.pairs.trans hUses.symm)
        (h.asDialled.same hE.dev hE.gDevices) hE.known cli.addr hDialled
      rw [hNames] at hDials
      exact hDials
  · exact absurd (hw.memory k) (by simp [hNone])

/-- **A datagram of the peer.** -/
theorem tracks_processPeer (hw : Calm w) (h : Tracks known cfg s i) (message : CStr)
    (τ : Timetable) :
    HeardOf (i.step known cfg τ (.peer message)) (processPeer w cfg message s).2 ∧
      AsDialled cfg (i.step known cfg τ (.peer message)) (processPeer w cfg message s).2 := by
  have hWF := h.wellFormed
  refine ⟨h.heard.unheard (steady_processPeer w cfg message s).unheard, ?_⟩
  cases hOp : peerOp message s with
  | none =>
    have hq := processPeer_of_none w cfg hOp
    have hStays : AsDialled cfg i (processPeer w cfg message s).2 :=
      h.asDialled.same hq.dev hq.gDevices
    unfold peerOp at hOp
    rw [Interest.step]
    cases hMsg : peerMessage message with
    | isup name =>
      rw [hMsg] at hOp
      have hNone := getDevice_none (Prod.ext (Option.map_eq_none_iff.mp hOp) rfl)
      intro d hd
      have hOther : ((processPeer w cfg message s).2.dev d).deviceName ≠ name := by
        rw [hq.dev]
        exact hNone.1 d (hq.gDevices ▸ hd)
      show Remembers cfg (Function.update i.dialling name none _) _
      rw [Function.update_of_ne hOther]
      exact hStays d hd
    | _ => exact hStays
  | some o =>
    rw [processPeer_of_op w cfg hOp]
    have hApplies : o.Applies cfg s := Kept.applies_of_peerOp hOp
    unfold peerOp at hOp
    rw [Interest.step]
    cases hMsg : peerMessage message with
    | isup name =>
      rw [hMsg] at hOp
      obtain ⟨d, hGet, rfl⟩ := Option.map_eq_some_iff.mp hOp
      obtain ⟨-, rfl, -⟩ := getDevice_some (Prod.ext hGet rfl)
      have ht : Touched d s ((Op.isUp d).run w cfg s).2 := touched_run (o := .isUp d) (by simp)
      refine h.asDialled.relisted hWF hApplies ht.relisted
        (fun _ hOther => Function.update_of_ne hOther _ _) ?_
      show Remembers cfg (Function.update i.dialling _ none _) _
      rw [Function.update_self]
      exact remembers_isUp w cfg d s
    | isdown name =>
      rw [hMsg] at hOp
      obtain ⟨d, -, rfl⟩ := Option.map_eq_some_iff.mp hOp
      have ht : Touched d s ((Op.isDown d).run w cfg s).2 := touched_run (o := .isDown d) (by simp)
      obtain ⟨hNobody, hUsed⟩ := alterToDown_used hw h.toSound hApplies
      exact h.asDialled.relisted hWF hApplies ht.relisted (fun _ _ => rfl) (.of_nobody hUsed hNobody)
    | unknown => simp [hMsg] at hOp

-- ---------------------------------------------------------------------------
-- The sweep over the clients
-- ---------------------------------------------------------------------------

/-- The sweep comes to a client where it stands in the list. -/
theorem clientTurn_eq (h : WellFormed s) {before after : List CliPtr}
    (hSplit : s.gClients = before ++ c :: after) (w : World) (cfg : Config) :
    clientTurn w cfg s (s.cli c).sa.addr =
      reached (timeoutOldClient w cfg) s.gClients before.length s := by
  have hPlace : (s.gClients.findIdx fun x => (s.cli x).sa.addr = (s.cli c).sa.addr) =
      before.length := by
    refine findIdx_of_append hSplit (fun x hx hSame => ?_) (by simp)
    have hEq : x = c := h.client_ext (by simp [hSplit, hx]) (by simp [hSplit])
      (of_decide_eq_true hSame)
    exact not_mem_of_append h.clients_nodup hSplit (hEq ▸ hx)
  rw [clientTurn, hPlace]

/-- A client is overdue for the server when its address has been silent for too long. -/
theorem overdue_iff_silent {τ : Timetable} (hHeard : i.heard (s.cli c).sa.addr =
      some (s.cli c).lastHeardFrom) (hTime : τ.client (s.cli c).sa.addr = s.clock) :
    Overdue cfg c s ↔ i.Silent cfg τ (s.cli c).sa.addr := by
  unfold Overdue Interest.Silent
  rw [hHeard, hTime]
  constructor
  · exact fun hLate => ⟨_, rfl, hLate⟩
  · intro hSilent
    obtain ⟨t, hEq, hLate⟩ := hSilent
    obtain rfl := Option.some.inj hEq
    exact hLate

/-- One round leaves the devices where their dialling is. -/
theorem asDialled_timeoutOldClient (hw : Calm w) (hRetries : 0 ≤ cfg.gRetries) (h : Sound s)
    (hc : c ∈ s.gClients) (hDials : AsDialled cfg i s) :
    AsDialled cfg i (timeoutOldClient w cfg c s).2 := by
  by_cases hOver : Overdue cfg c (advance w s)
  · have hNoted : Sound (noteExpired w c s) := (sound_kept hw hRetries).expired (c := c) _ _
      ((sound_kept hw hRetries).quiet (quiet_advance w s) h)
    have hRemoved : Sound (removeClientFromAllDevices w cfg c (noteExpired w c s)).2 ∧
        c ∈ (removeClientFromAllDevices w cfg c (noteExpired w c s)).2.gClients ∧
        (removeClientFromAllDevices w cfg c (noteExpired w c s)).2.gDevices = s.gDevices ∧
        AsDialled cfg i (removeClientFromAllDevices w cfg c (noteExpired w c s)).2 := by
      refine untilFailure_invariant' (I := fun s' : State => Sound s' ∧ c ∈ s'.gClients ∧
        s'.gDevices = s.gDevices ∧ AsDialled cfg i s') ?_ _ ⟨hNoted, hc, rfl, hDials⟩
      intro d hd s' h'
      obtain ⟨hSound, hListed, hDevices, hBefore⟩ := h'
      have hd' : d ∈ s'.gDevices := hDevices ▸ hd
      have ht := touched_removeClientFromDevice w cfg d s' c
      refine ⟨sound_run hw hRetries hSound (o := .expire c d) ⟨hListed, hd'⟩, ht.gClients ▸ hListed,
        ht.gDevices.trans hDevices, hBefore.relisted hSound.wellFormed hd' ht.relisted
          (fun _ _ => rfl) ?_⟩
      rw [removeClientFromDevice_snd]
      exact remembers_disconnect hw hSound hd' c (hBefore d hd')
    rw [timeoutOldClient_of_overdue w cfg hOver]
    refine unlessFails_post (fun _ => hRemoved.2.2.2) fun _ => ?_
    rw [dropClient_of_mem hRemoved.2.1]
    exact hRemoved.2.2.2.same rfl rfl
  · rw [timeoutOldClient_of_not_overdue w cfg hOver]
    exact hDials.same rfl rfl

/-- What the sweep has done when it has been at some of the clients. -/
structure ClientsSwept (cfg : Config) (τ : Timetable) (i : Interest) (s : State)
    (before : List CliPtr) (s' : State) : Prop where
  sound : Sound s'
  unheard : Unheard s s'
  left : ∀ c ∈ s.gClients, c ∉ before → c ∈ s'.gClients
  uses : uses s' = {p ∈ uses s | ∀ c ∈ before, (s.cli c).sa.addr = p.1 → ¬ i.Silent cfg τ p.1}
  asDialled : AsDialled cfg i s'

/-- One more round of the sweep over the clients. -/
theorem ClientsSwept.next {τ : Timetable} {before : List CliPtr} (hw : Calm w)
    (hRetries : 0 ≤ cfg.gRetries) (h : ClientsSwept cfg τ i s before s') (hc : c ∈ s'.gClients)
    (hSilent : Overdue cfg c (advance w s') ↔ i.Silent cfg τ (s.cli c).sa.addr) :
    ClientsSwept cfg τ i s (before ++ [c]) (timeoutOldClient w cfg c s').2 where
  sound := (sound_kept hw hRetries).timeoutOldClient h.sound hc
    fun _ => visits_of_forall (fun _ _ => trivial) _ _
  unheard := h.unheard.trans (unheard_timeoutOldClient w cfg c s')
  left x hx hNot := by
    rw [List.mem_append, List.mem_singleton, not_or] at hNot
    exact Kept.timeoutOldClient_others w cfg (h.left x hx hNot.1) hNot.2
  uses := by
    rw [(uses_timeoutOldClient hw hRetries h.sound hc).2, h.uses, h.unheard.sa]
    ext p
    rw [Set.mem_ofPred_eq, List.forall_mem_append, List.forall_mem_singleton]
    by_cases hOver : Overdue cfg c (advance w s')
    · rw [if_pos hOver]
      constructor
      · exact fun hp => ⟨hp.1.1, hp.1.2, fun hAddr => absurd hAddr.symm hp.2⟩
      · intro hp
        obtain ⟨hUsed, hBefore, hThis⟩ := hp
        exact ⟨⟨hUsed, hBefore⟩, fun hAddr => hThis hAddr.symm (hAddr ▸ hSilent.mp hOver)⟩
    · rw [if_neg hOver]
      constructor
      · intro hp
        refine ⟨hp.1, hp.2, fun hAddr hIs => hOver (hSilent.mpr ?_)⟩
        rwa [hAddr]
      · exact fun hp => ⟨hp.1, hp.2.1⟩
  asDialled := asDialled_timeoutOldClient hw hRetries h.sound hc h.asDialled

/-- **The sweep over the clients.** The addresses that have been silent for too long lose their
interest, and nobody else. -/
theorem tracks_timeoutOldClients (hw : Calm w) (hRetries : 0 ≤ cfg.gRetries)
    (h : Tracks known cfg s i) {τ : Timetable}
    (hTime : ∀ addr, τ.client addr = (advance w (clientTurn w cfg s addr)).clock) :
    uses (timeoutOldClients w cfg s).2 = {p ∈ i.pairs | ¬ i.Silent cfg τ p.1} ∧
      HeardOf i (timeoutOldClients w cfg s).2 ∧ AsDialled cfg i (timeoutOldClients w cfg s).2 := by
  have hWF := h.wellFormed
  have hStart : ClientsSwept cfg τ i s [] s :=
    ⟨h.toSound, .refl s, fun _ hc _ => hc, by simp, h.asDialled⟩
  -- what is known when the sweep comes to a client
  have hTurn : ∀ before c after, s.gClients = before ++ c :: after →
      ClientsSwept cfg τ i s before (reached (timeoutOldClient w cfg) s.gClients before.length s) →
      c ∈ (reached (timeoutOldClient w cfg) s.gClients before.length s).gClients ∧
      (Overdue cfg c (advance w (reached (timeoutOldClient w cfg) s.gClients before.length s)) ↔
        i.Silent cfg τ (s.cli c).sa.addr) := by
    intro before c after hSplit hI
    have hc : c ∈ s.gClients := by simp [hSplit]
    have hNew : c ∉ before := not_mem_of_append hWF.clients_nodup hSplit
    have hClock := hTime (s.cli c).sa.addr
    rw [clientTurn_eq hWF hSplit] at hClock
    set s' := reached (timeoutOldClient w cfg) s.gClients before.length s
    have hSame : ((advance w s').cli c).sa = (s.cli c).sa := hI.unheard.sa c
    have hHeard : i.heard ((advance w s').cli c).sa.addr =
        some ((advance w s').cli c).lastHeardFrom := by
      rw [hSame, show ((advance w s').cli c).lastHeardFrom = (s.cli c).lastHeardFrom from
        hI.unheard.heard c]
      exact h.heard c hc
    have hIff : Overdue cfg c (advance w s') ↔ i.Silent cfg τ ((advance w s').cli c).sa.addr :=
      overdue_iff_silent hHeard (by rw [hSame, hClock])
    rw [hSame] at hIff
    exact ⟨hI.left c hc hNew, hIff⟩
  have hSwept := untilFailure_visited (I := ClientsSwept cfg τ i s) hStart
    (fun before c after hSplit hI =>
      (uses_timeoutOldClient hw hRetries hI.sound (hTurn before c after hSplit hI).1).1)
    (fun before c after hSplit hI _ => by
      obtain ⟨hc, hSilent⟩ := hTurn before c after hSplit hI
      exact hI.next hw hRetries hc hSilent)
  refine ⟨?_, h.heard.unheard hSwept.2.unheard, hSwept.2.asDialled⟩
  show uses (untilFailure (timeoutOldClient w cfg) s.gClients s).2 = _
  rw [hSwept.2.uses, h.pairs]
  ext p
  constructor
  · intro hp
    obtain ⟨⟨d, hd, c, hc, hAddr, hName⟩, hAll⟩ := hp
    exact ⟨⟨d, hd, c, hc, hAddr, hName⟩, hAll c (hWF.clientsKnown d hd c hc) hAddr⟩
  · exact fun hp => ⟨hp.1, fun _ _ _ => hp.2⟩

-- ---------------------------------------------------------------------------
-- The sweep over the devices
-- ---------------------------------------------------------------------------

/-- A device stands where its name does. -/
theorem devicePlace_eq (h : WellFormed s) {before after : List DevPtr}
    (hSplit : s.gDevices = before ++ d :: after) :
    devicePlace s (s.dev d).deviceName = before.length := by
  refine findIdx_of_append hSplit (fun x hx hSame => ?_) (by simp)
  have hEq : x = d := h.device_ext (by simp [hSplit, hx]) (by simp [hSplit])
    (of_decide_eq_true hSame)
  exact not_mem_of_append (h.names.of_map _) hSplit (hEq ▸ hx)

/-- What one round of the sweep is to do with a device of this name. -/
structure Round (cfg : Config) (τ : Timetable) (i : Interest) (name : CStr) (d : DevPtr)
    (s s' : State) : Prop where
  remembers : Remembers cfg (i.redialled cfg τ name) (s'.dev d)
  uses : uses s' = {p ∈ uses s | name = p.2 → ¬ i.Exhausted cfg τ p.2}

/-- A device that is up is left alone. -/
theorem round_of_up {τ : Timetable} (h : Sound s) (hUp : (s.dev d).status = .up)
    (hOwn : Remembers cfg (i.dialling name) (s.dev d)) (w : World) :
    Round cfg τ i name d s (timeoutOldDevice w cfg d s).2 := by
  have hDue : ¬ Due cfg d (advance w s) := by
    intro hDue
    rcases hDue with ⟨hStatus, -⟩ | ⟨hStatus, -⟩ <;> rw [advance_dev, hUp] at hStatus <;>
      exact absurd hStatus (by decide)
  have hNone := hOwn.up hUp
  have hq := (timeoutOldDevice_of_not_due w cfg hDue).2
  refine ⟨?_, ?_⟩
  · rw [hq.dev, Interest.redialled, hNone]
    exact ⟨fun hConnecting => absurd (hUp.symm.trans hConnecting) (by decide), fun _ => rfl⟩
  · rw [hq.uses h.wellFormed]
    ext p
    refine ⟨fun hp => ⟨hp, fun hEq hGone => ?_⟩, And.left⟩
    obtain ⟨x, hx, -⟩ := hGone
    rw [← hEq, hNone] at hx
    exact absurd hx (by simp)

section Round

variable (hw : Calm w) (hRetries : 0 ≤ cfg.gRetries) (h : Sound s) (hd : d ∈ s.gDevices)
  {τ : Timetable} (hName : (s.dev d).deviceName = name)
include hw hRetries h hd

/-- No round fails, as every command returns 0. -/
theorem timeoutOldDevice_nonneg (hOwn : Remembers cfg x (s.dev d)) :
    0 ≤ (timeoutOldDevice w cfg d s).1 := by
  by_cases hDue : Due cfg d (advance w s)
  · have hNow : Sound (advance w s) := (sound_kept hw hRetries).quiet (quiet_advance w s) h
    obtain ⟨hRet, -⟩ := remembers_timeout hw hNow hd hDue hOwn
    rw [timeoutOldDevice_of_due w cfg hDue, unlessFails_of_nonneg hRet]
  · exact (timeoutOldDevice_of_not_due w cfg hDue).1.ge

/-- A round keeps the lists and statuses sound. -/
theorem sound_timeoutOldDevice : Sound (timeoutOldDevice w cfg d s).2 :=
  (sound_kept hw hRetries).timeoutOldDevice h hd fun _ => trivial

include hName

/-- A device without clients: whatever is done with it, nobody is affected. -/
theorem round_of_nobody (hNobody : (s.dev d).clientsConnected = []) :
    Round cfg τ i name d s (timeoutOldDevice w cfg d s).2 := by
  have hUnused : ∀ a, (a, (s.dev d).deviceName) ∉ uses s := by
    intro a hUses
    obtain ⟨c, hc, -⟩ := (h.wellFormed.mem_uses hd).mp hUses
    rw [hNobody] at hc
    exact absurd hc List.not_mem_nil
  have ht := touched_timeoutOldDevice w cfg d s
  have hStill : ((timeoutOldDevice w cfg d s).2.dev d).clientsConnected = [] :=
    List.eq_nil_of_sublist_nil (hNobody ▸ ht.clients)
  refine ⟨.of_nobody ((sound_timeoutOldDevice hw hRetries h hd).used d (ht.gDevices ▸ hd)) hStill,
    ?_⟩
  have hSame : uses (timeoutOldDevice w cfg d s).2 = uses s := by
    rw [uses_timeoutOldDevice hw hRetries h hd, apply_dropRight_of_not_mem hUnused, ite_self]
  rw [hSame]
  ext p
  refine ⟨fun hp => ⟨hp, fun hEq => ?_⟩, And.left⟩
  exact absurd (show (p.1, (s.dev d).deviceName) ∈ uses s by rwa [hName, hEq]) (hUnused p.1)

/-- A device that is connecting is dialled once more, or given up, if its time is over. -/
theorem round_of_connecting (hStatus : (s.dev d).status = .connecting)
    (hOwn : Remembers cfg (i.dialling name) (s.dev d)) (hTime : τ.device name = (advance w s).clock)
    (hDialled : τ.dialled name = (timeoutOldDevice w cfg d s).2.clock) :
    Round cfg τ i name d s (timeoutOldDevice w cfg d s).2 := by
  obtain ⟨k, hDialling, hLeft⟩ := hOwn.connecting hStatus
  have hDue : Due cfg d (advance w s) ↔
      (s.dev d).connectTime + cfg.gConnectTimeout < τ.device name := by
    rw [hTime]
    constructor
    · intro hDue
      rcases hDue with ⟨-, hLate⟩ | ⟨hOther, -⟩
      · exact hLate
      · exact absurd (hStatus.symm.trans hOther) (by decide)
    · exact fun hLate => Or.inl ⟨hStatus, hLate⟩
  have hGone : i.Exhausted cfg τ name ↔
      Due cfg d (advance w s) ∧ (s.dev d).status = .connecting ∧ (s.dev d).retries < 0 := by
    rw [Interest.Exhausted, hDialling, hDue]
    constructor
    · intro hGone
      obtain ⟨x, hEq, hLate, hMany⟩ := hGone
      obtain rfl := Option.some.inj hEq
      have hMany : cfg.gRetries < (k : Int) := hMany
      exact ⟨hLate, hStatus, by omega⟩
    · intro hGone
      obtain ⟨hLate, -, hNone⟩ := hGone
      have hMany : cfg.gRetries < (k : Int) := by omega
      exact ⟨_, rfl, hLate, hMany⟩
  refine ⟨?_, ?_⟩
  · rw [Interest.redialled, hDialling, Option.map_some]
    by_cases hLate : Due cfg d (advance w s)
    · have hNow : Sound (advance w s) := (sound_kept hw hRetries).quiet (quiet_advance w s) h
      obtain ⟨-, hTimeout⟩ := remembers_timeout hw hNow hd hLate hOwn
      rw [← timeoutOldDevice_snd_of_due w cfg hLate, hDialling, Option.map_some,
        ← hDialled] at hTimeout
      rw [if_pos (hDue.mp hLate)]
      exact hTimeout
    · rw [if_neg fun hTimed => hLate (hDue.mpr hTimed),
        (timeoutOldDevice_of_not_due w cfg hLate).2.dev, ← hDialling]
      exact hOwn
  · rw [uses_timeoutOldDevice hw hRetries h hd, hName]
    ext p
    by_cases hExhausted : i.Exhausted cfg τ name
    · rw [if_pos (hGone.mp hExhausted)]
      constructor
      · exact fun hp => ⟨hp.1, fun hEq => absurd hEq.symm hp.2⟩
      · intro hp
        refine ⟨hp.1, fun hEq => hp.2 hEq.symm ?_⟩
        rwa [hEq]
    · rw [if_neg fun hBoth => hExhausted (hGone.mpr hBoth)]
      refine ⟨fun hp => ⟨hp, fun hEq => ?_⟩, And.left⟩
      rwa [← hEq]

/-- **One round of the sweep.** -/
theorem round_timeoutOldDevice (hOwn : Remembers cfg (i.dialling name) (s.dev d))
    (hTime : τ.device name = (advance w s).clock)
    (hDialled : τ.dialled name = (timeoutOldDevice w cfg d s).2.clock) :
    Round cfg τ i name d s (timeoutOldDevice w cfg d s).2 := by
  by_cases hNobody : (s.dev d).clientsConnected = []
  · exact round_of_nobody hw hRetries h hd hName hNobody
  · rcases (h.used d hd).mpr hNobody with hConnecting | hUp
    · exact round_of_connecting hw hRetries h hd hName hConnecting hOwn hTime hDialled
    · exact round_of_up h hUp hOwn w

end Round

/-- What the sweep has done when it has been at some of the devices. -/
structure DevicesSwept (cfg : Config) (τ : Timetable) (i : Interest) (s : State)
    (before : List DevPtr) (s' : State) : Prop where
  sound : Sound s'
  gDevices : s'.gDevices = s.gDevices
  names : ∀ d, (s'.dev d).deviceName = (s.dev d).deviceName
  left : ∀ d, d ∉ before → s'.dev d = s.dev d
  uses : uses s' =
    {p ∈ uses s | ∀ d ∈ before, (s.dev d).deviceName = p.2 → ¬ i.Exhausted cfg τ p.2}
  remembers : ∀ d ∈ before,
    Remembers cfg (i.redialled cfg τ (s.dev d).deviceName) (s'.dev d)
  unheard : Unheard s s'

/-- One more round of the sweep over the devices. -/
theorem DevicesSwept.next {τ : Timetable} {before : List DevPtr} (hw : Calm w)
    (hRetries : 0 ≤ cfg.gRetries) (h : DevicesSwept cfg τ i s before s') (hd : d ∈ s'.gDevices)
    (hNew : d ∉ before)
    (hRound : Round cfg τ i (s.dev d).deviceName d s' (timeoutOldDevice w cfg d s').2) :
    DevicesSwept cfg τ i s (before ++ [d]) (timeoutOldDevice w cfg d s').2 := by
  have ht := touched_timeoutOldDevice w cfg d s'
  refine
    { sound := sound_timeoutOldDevice hw hRetries h.sound hd
      gDevices := ht.gDevices.trans h.gDevices
      names := fun x => (ht.deviceName x).trans (h.names x)
      left := fun x hx => ?_
      uses := ?_
      remembers := fun x hx => ?_
      unheard := h.unheard.trans ht.steady.unheard }
  · rw [List.mem_append, List.mem_singleton, not_or] at hx
    exact (ht.other x hx.2).trans (h.left x hx.1)
  · rw [hRound.uses, h.uses]
    ext p
    simp only [Set.mem_ofPred_eq, List.forall_mem_append, List.forall_mem_singleton]
    exact and_assoc
  · rcases List.mem_append.mp hx with hx | hx
    · rw [ht.other x fun hEq => hNew (hEq ▸ hx)]
      exact h.remembers x hx
    · obtain rfl := List.mem_singleton.mp hx
      exact hRound.remembers

/-- **The sweep over the devices.** The devices whose last dial has not been answered in time
lose their users, or are dialled once more. -/
theorem tracks_timeoutOldDevices (hw : Calm w) (hRetries : 0 ≤ cfg.gRetries)
    (h : Tracks known cfg s i) {τ : Timetable}
    (hTime : ∀ name, τ.device name = (advance w (deviceTurn w cfg s (devicePlace s name))).clock)
    (hDialled : ∀ name, τ.dialled name = (deviceTurn w cfg s (devicePlace s name + 1)).clock) :
    uses (timeoutOldDevices w cfg s).2 = {p ∈ i.pairs | ¬ i.Exhausted cfg τ p.2} ∧
      HeardOf i (timeoutOldDevices w cfg s).2 ∧
      ∀ i', i'.dialling = i.redialled cfg τ → AsDialled cfg i' (timeoutOldDevices w cfg s).2 := by
  have hWF := h.wellFormed
  have hStart : DevicesSwept cfg τ i s [] s :=
    { sound := h.toSound
      gDevices := rfl
      names := fun _ => rfl
      left := fun _ _ => rfl
      uses := by simp
      remembers := by simp
      unheard := .refl s }
  -- what is known when the sweep comes to a device
  have hTurn : ∀ before d after, s.gDevices = before ++ d :: after →
      DevicesSwept cfg τ i s before (deviceTurn w cfg s before.length) →
      d ∈ (deviceTurn w cfg s before.length).gDevices ∧ d ∉ before ∧
      Remembers cfg (i.dialling (s.dev d).deviceName)
        ((deviceTurn w cfg s before.length).dev d) := by
    intro before d after hSplit hI
    have hd : d ∈ s.gDevices := by simp [hSplit]
    have hNew : d ∉ before := not_mem_of_append (hWF.names.of_map _) hSplit
    rw [hI.left d hNew]
    exact ⟨hI.gDevices ▸ hd, hNew, h.asDialled d hd⟩
  have hSwept := untilFailure_visited (I := DevicesSwept cfg τ i s) hStart
    (fun before d after hSplit hI => by
      obtain ⟨hd, -, hOwn⟩ := hTurn before d after hSplit hI
      exact timeoutOldDevice_nonneg hw hRetries hI.sound hd hOwn)
    (fun before d after hSplit hI hReached => by
      obtain ⟨hd, hNew, hOwn⟩ := hTurn before d after hSplit hI
      have hClock := hTime (s.dev d).deviceName
      have hDial := hDialled (s.dev d).deviceName
      rw [devicePlace_eq hWF hSplit] at hClock hDial
      exact hI.next hw hRetries hd hNew (round_timeoutOldDevice hw hRetries hI.sound hd
        (hI.names d) hOwn hClock (hDial.trans (congrArg State.clock hReached))))
  refine ⟨?_, h.heard.unheard hSwept.2.unheard, fun i' hDialling => ?_⟩
  · show uses (untilFailure (timeoutOldDevice w cfg) s.gDevices s).2 = _
    rw [hSwept.2.uses, h.pairs]
    ext p
    constructor
    · intro hp
      obtain ⟨⟨d, hd, c, hc, hAddr, hName⟩, hAll⟩ := hp
      exact ⟨⟨d, hd, c, hc, hAddr, hName⟩, hAll d hd hName⟩
    · exact fun hp => ⟨hp.1, fun _ _ _ => hp.2⟩
  · intro d hd
    show Remembers cfg (i'.dialling ((untilFailure (timeoutOldDevice w cfg) s.gDevices s).2.dev
      d).deviceName) ((untilFailure (timeoutOldDevice w cfg) s.gDevices s).2.dev d)
    rw [hDialling, hSwept.2.names]
    exact hSwept.2.remembers d (hSwept.2.gDevices ▸ hd)

-- ---------------------------------------------------------------------------
-- Runs
-- ---------------------------------------------------------------------------

/-- Time goes on, and nothing is heard or done. -/
theorem Tracks.advance (h : Tracks known cfg s i) (w : World) :
    Tracks known cfg (advance w s) i where
  wellFormed := h.wellFormed.quiet (quiet_advance w s)
  mirror := h.mirror
  freed := h.freed
  used := h.used
  names := h.names
  pairs := h.pairs
  heard := h.heard
  asDialled := h.asDialled

/-- **An event.** -/
theorem tracks_step (hw : Calm w) (hRetries : 0 ≤ cfg.gRetries) (h : Tracks known cfg s i)
    (e : Event) (hLive : ¬ s.crashed) :
    Tracks known cfg (step w cfg e s).2 (i.step known cfg (timetable w cfg e s) e) := by
  have hSound : Sound (step w cfg e s).2 :=
    (sound_kept hw hRetries).step h.toSound (calls_of_forall (fun _ _ => trivial) e s)
  have hNames := (deviceNames_step w cfg h.wellFormed e).2.trans h.names
  have hNow := h.advance w
  have hStep : step w cfg e s = handle w cfg e (advance w s) := if_neg hLive
  have hParts : uses (step w cfg e s).2 = (i.step known cfg (timetable w cfg e s) e).pairs ∧
      HeardOf (i.step known cfg (timetable w cfg e s) e) (step w cfg e s).2 ∧
      AsDialled cfg (i.step known cfg (timetable w cfg e s) e) (step w cfg e s).2 := by
    cases e with
    | client cli message =>
      obtain ⟨hHeard, hDials⟩ := tracks_processClient hw hRetries hNow cli message
        (τ := timetable w cfg (.client cli message) s) rfl
        fun _ => congrArg (fun r : Int × State => r.2.clock) hStep
      rw [hStep]
      refine ⟨?_, hHeard, hDials⟩
      show _ = edited ((clientMessage message).edits known cli.addr) i.pairs
      rw [h.pairs, ← h.names]
      exact uses_processClient hw hRetries hNow.toSound cli message
    | peer message =>
      obtain ⟨hHeard, hDials⟩ := tracks_processPeer hw hNow message
        (timetable w cfg (.peer message) s)
      rw [hStep]
      refine ⟨?_, hHeard, hDials⟩
      show _ = edited (peerMessage message).edits i.pairs
      rw [h.pairs]
      exact uses_processPeer hw hRetries hNow.toSound message
    | timeoutOldClients =>
      rw [hStep]
      exact tracks_timeoutOldClients hw hRetries hNow fun _ => rfl
    | timeoutOldDevices =>
      obtain ⟨hUses, hHeard, hDials⟩ := tracks_timeoutOldDevices hw hRetries hNow
        (τ := timetable w cfg .timeoutOldDevices s) (fun _ => rfl) fun _ => rfl
      rw [hStep]
      exact ⟨hUses, hHeard, hDials _ rfl⟩
  exact ⟨hSound, hNames, hParts.1.symm, hParts.2.1, hParts.2.2⟩

/-- A server that has just started has nobody interested in anything. -/
theorem Booted.tracks (h : Booted s) (cfg : Config) :
    Tracks (deviceNames s) cfg s .initial where
  toSound := h.sound
  names := rfl
  pairs := h.uses.symm
  heard c hc := by simp [h.gClients] at hc
  asDialled d hd := .of_nobody (h.sound.used d hd) (h.clients d hd)

/-- **Run rule.** Wherever a run leads, the server is where the interest of its clients says. -/
theorem tracks_run (hw : Calm w) (hRetries : 0 ≤ cfg.gRetries) (h : Booted s) (es : List Event) :
    Tracks (deviceNames s) cfg (serverRun w cfg es s) (interest w cfg (deviceNames s) es s) := by
  refine Runs.observe_simulates (J := Tracks (deviceNames s) cfg) (P := fun _ _ => True)
    (fun e s' i h' _ => ?_) es s .initial (h.tracks cfg)
    (Runs.along_of_forall (fun _ _ => trivial) es s)
  by_cases hCrashed : s'.crashed
  · have hStop : (step w cfg e s').2 = s' := by rw [step, if_pos hCrashed]
    rw [if_pos hCrashed, hStop]
    exact h'
  · rw [if_neg hCrashed]
    exact tracks_step hw hRetries h' e hCrashed

/-- **The lists are the interest of the clients.** While every command returns 0 and
memory suffices, after every run: an address is interested in a device if and only if its
client is in the list of the device, and if and only if the device is in the list of its
client; nobody is interested in a name that is no device; and a device is connecting or
up if and only if some address is interested in it. The interest follows from the events and
from when the server comes to each of them: who has been silent for too long, and which device
has been dialled in vain as often as it may, is worked out from these times alone. -/
theorem interest_refined (w : World) (cfg : Config) (sections : List DeviceSection)
    (es : List Event) (hRetries : 0 ≤ cfg.gRetries) (hCommands : ∀ k, (w.system k).result = 0)
    (hMemory : ∀ k, (w.malloc k).isSome) :
    let s := serverRun w cfg es (boot w sections)
    let R := (interest w cfg (deviceNames (boot w sections)) es (boot w sections)).pairs
    (∀ d ∈ s.gDevices, ∀ a,
      ((a, (s.dev d).deviceName) ∈ R ↔
        ∃ c ∈ s.gClients, (s.cli c).sa.addr = a ∧ c ∈ (s.dev d).clientsConnected) ∧
      ((a, (s.dev d).deviceName) ∈ R ↔
        ∃ c ∈ s.gClients, (s.cli c).sa.addr = a ∧ d ∈ (s.cli c).devicesConnected)) ∧
    (∀ p ∈ R, ∃ d ∈ s.gDevices, (s.dev d).deviceName = p.2) ∧
    ∀ d ∈ s.gDevices, ((s.dev d).status = .connecting ∨ (s.dev d).status = .up) ↔
      ∃ a, (a, (s.dev d).deviceName) ∈ R := by
  intro s R
  have h := tracks_run (w := w) ⟨hCommands, hMemory⟩ hRetries (booted_boot w sections) es
  have hR : R = uses s := h.pairs
  have hClients : ∀ d ∈ s.gDevices, ∀ a, (a, (s.dev d).deviceName) ∈ R ↔
      ∃ c ∈ s.gClients, (s.cli c).sa.addr = a ∧ c ∈ (s.dev d).clientsConnected := by
    intro d hd a
    rw [hR, h.wellFormed.mem_uses hd]
    constructor
    · exact fun ⟨c, hc, hAddr⟩ => ⟨c, h.wellFormed.clientsKnown d hd c hc, hAddr, hc⟩
    · exact fun ⟨c, _, hAddr, hc⟩ => ⟨c, hc, hAddr⟩
  refine ⟨fun d hd a => ⟨hClients d hd a, ?_⟩, fun p hp => ?_, ?_⟩
  · rw [hClients d hd a]
    refine exists_congr fun c => and_congr_right fun hc => and_congr_right fun _ => ?_
    exact h.mirror d hd c hc (by simp)
  · rw [hR] at hp
    exact mem_uses_name hp
  · intro d hd
    refine Iff.trans (h.used d hd) ⟨?_, ?_⟩
    · intro hSome
      obtain ⟨c, hc⟩ := List.exists_mem_of_ne_nil _ hSome
      exact ⟨_, (hClients d hd _).mpr ⟨c, h.wellFormed.clientsKnown d hd c hc, rfl, hc⟩⟩
    · intro hSome
      obtain ⟨a, hUses⟩ := hSome
      obtain ⟨c, -, -, hc⟩ := (hClients d hd a).mp hUses
      exact List.ne_nil_of_mem hc

/-- Three clients ask for a link. One leaves; one is silent for too long, while the third keeps in
touch. -/
def expiryEvents : List Event :=
  [aboutPpp clientUp 1, aboutPpp clientUp 2, aboutPpp clientUp 3, noticeAboutPpp notifyIsup,
    aboutPpp clientDown 2, aboutPpp clientStatus 3, .timeoutOldClients]

def expiryRun : State :=
  serverRun (calmWorld 300 []) defaultConfig expiryEvents (boot (calmWorld 300 []) [pppSection])

/-- Who has left with a DOWN and who has been silent for too long is interested no more, and who
has asked for the status in between is. -/
theorem interest_refined_expiry :
    let R := (interest (calmWorld 300 []) defaultConfig
      (deviceNames (boot (calmWorld 300 []) [pppSection])) expiryEvents
      (boot (calmWorld 300 []) [pppSection])).pairs
    ((1, (expiryRun.dev 0).deviceName) ∉ R ∧ (2, (expiryRun.dev 0).deviceName) ∉ R ∧
      (3, (expiryRun.dev 0).deviceName) ∈ R) ∧
    (∀ a, ((a, (expiryRun.dev 0).deviceName) ∈ R ↔ ∃ c ∈ expiryRun.gClients,
        (expiryRun.cli c).sa.addr = a ∧ c ∈ (expiryRun.dev 0).clientsConnected) ∧
      ((a, (expiryRun.dev 0).deviceName) ∈ R ↔ ∃ c ∈ expiryRun.gClients,
        (expiryRun.cli c).sa.addr = a ∧ 0 ∈ (expiryRun.cli c).devicesConnected)) ∧
    (∀ p ∈ R, ∃ d ∈ expiryRun.gDevices, (expiryRun.dev d).deviceName = p.2) ∧
    (((expiryRun.dev 0).status = .connecting ∨ (expiryRun.dev 0).status = .up) ↔
      ∃ a, (a, (expiryRun.dev 0).deviceName) ∈ R) := by
  intro R
  have hDevice : 0 ∈ expiryRun.gDevices := by decide +kernel
  obtain ⟨hLists, hNames, hStatus⟩ := interest_refined (calmWorld 300 []) defaultConfig [pppSection]
    expiryEvents (by decide) (fun k => by simp [calmWorld]) (fun _ => rfl)
  have hMembers := hLists 0 hDevice
  refine ⟨⟨?_, ?_, ?_⟩, hMembers, hNames, hStatus 0 hDevice⟩
  · exact fun hIn => absurd ((hMembers 1).1.mp hIn) (by decide +kernel)
  · exact fun hIn => absurd ((hMembers 2).1.mp hIn) (by decide +kernel)
  · exact (hMembers 3).1.mpr (by decide +kernel)

end LinkControl
