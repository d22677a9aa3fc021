import LinkControl.Server.Obeyed

/-!
# Link server — duplicate datagrams

UDP may deliver a datagram twice. The second copy meets other statuses and lists than the
first, and may run commands again; but while every command returns 0 it changes no device
and no list (`duplicate_harmless`).

The reason is in the single calls: one that has been made has nothing left to do
(`Settled`, `Does.settled`), and made again in a settled state it changes nothing
(`same_of_settled`). That the second copy makes the same call as the first, or none, follows
from the names, which do not change, and from the list of the client, from which DOWN has
taken the device (`clientOp_again`).

Memory may run out between the two halves of an UP: the server has dialled and does not
know for whom. Then the second copy dials once more (`duplicate_redials`). Once the first
copy has got what it asked for, the second asks for nothing.
-/

namespace LinkControl

open ReturnCode

variable {w : World} {cfg : Config} {cli : SockAddr} {c c' : CliPtr} {d : DevPtr} {o : Op}
  {message : CStr} {s s₁ s₂ s₃ s' s'' : State}

/-- All devices are as before, and so are the lists of all clients. -/
structure Same (s s' : State) : Prop where
  gDevices : s'.gDevices = s.gDevices
  dev : s'.dev = s.dev
  gClients : s'.gClients = s.gClients
  devices : ∀ c ∈ s.gClients, (s'.cli c).devicesConnected = (s.cli c).devicesConnected

theorem Quiet.same (h : Quiet s s') : Same s s' :=
  ⟨h.gDevices, h.dev, h.gClients, h.devices⟩

theorem Same.trans (h : Same s s') (h' : Same s' s'') : Same s s'' where
  gDevices := h'.gDevices.trans h.gDevices
  dev := h'.dev.trans h.dev
  gClients := h'.gClients.trans h.gClients
  devices c hc := (h'.devices c (h.gClients ▸ hc)).trans (h.devices c hc)

-- ---------------------------------------------------------------------------
-- Calls with nothing left to do
-- ---------------------------------------------------------------------------

/-- The call would leave its device and all lists as they are, at any time. -/
structure Settled (cfg : Config) (o : Op) (s : State) : Prop where
  device : ∀ t, o.onDevice cfg t (s.dev o.device) = s.dev o.device
  devices : ∀ c ∈ s.gClients, o.onClient (s.dev o.device) c (s.cli c).devicesConnected =
    (s.cli c).devicesConnected

theorem Settled.same (h : Settled cfg o s) (hs : Same s s') : Settled cfg o s' where
  device := by
    rw [hs.dev]
    exact h.device
  devices c hc := by
    rw [hs.gClients] at hc
    rw [hs.dev, hs.devices c hc]
    exact h.devices c hc

/-- A client that has left a device has left it. -/
theorem Device.left_left {v : Device} (hNodup : v.clientsConnected.Nodup) (c : CliPtr)
    (t t' : Int) : (v.left c t).left c t' = v.left c t := by
  have hGone : c ∉ (v.left c t).clientsConnected := by
    unfold Device.left
    split
    · exact List.not_mem_nil
    · exact hNodup.not_mem_erase
  generalize v.left c t = u at hGone ⊢
  have hMore : u.clientsConnected ≠ [c] := by
    intro hLast
    exact hGone (by simp [hLast])
  rw [Device.left, if_neg hMore, List.erase_of_not_mem hGone]

/-- A client that has joined a device, or has been turned away, joins it no further. -/
theorem Device.joined_joined (v : Device) (cfg : Config) (c : CliPtr) (t t' : Int) :
    (v.joined cfg c t).joined cfg c t' = v.joined cfg c t := by
  by_cases hFree : v.clientsConnected = []
  · by_cases hUp : v.status = .up <;> simp [Device.joined, hFree, hUp]
  · by_cases hMem : c ∈ v.clientsConnected <;> simp [Device.joined, hFree, hMem]

/-- A device that is up for nobody stays so when a client asks for it. -/
theorem Device.joined_turnedAway (v : Device) (cfg : Config) (c : CliPtr) (t : Int) :
    ((v.joined cfg c t).clientsConnected = [] ∧ (v.joined cfg c t).status = .up) ↔
      (v.clientsConnected = [] ∧ v.status = .up) := by
  by_cases hFree : v.clientsConnected = []
  · by_cases hUp : v.status = .up <;> simp [Device.joined, hFree, hUp]
  · by_cases hMem : c ∈ v.clientsConnected <;> simp [Device.joined, hFree, hMem]

/-- **A call that has been made** has nothing left to do. -/
theorem Does.settled (hDoes : Does cfg o s s') (h : WellFormed s) (hd : o.device ∈ s.gDevices) :
    Settled cfg o s' := by
  have hNodup := h.clientsNodup o.device hd
  have hDev : s'.dev o.device = o.onDevice cfg s'.clock (s.dev o.device) := by
    rw [hDoes.dev, Function.update_self]
  refine ⟨fun t => ?_, fun c hc => ?_⟩
  · rw [hDev]
    cases o with
    | connect c d => exact Device.joined_joined _ cfg c _ t
    | disconnect c d => exact Device.left_left hNodup c _ t
    | expire c d => exact Device.left_left hNodup c _ t
    | isUp d =>
      by_cases hStatus : (s.dev d).status = .connecting <;> simp [Op.onDevice, Op.device, hStatus]
    | isDown d => rfl
    | forceDown d => rfl
    | timeout d => rfl
  · rw [hDoes.gClients] at hc
    rw [hDoes.devices c hc, hDev]
    have hLists := h.devicesNodup c hc
    have hErased : ∀ d, ((s.cli c).devicesConnected.erase d).erase d =
        (s.cli c).devicesConnected.erase d :=
      fun d => List.erase_of_not_mem hLists.not_mem_erase
    cases o with
    | connect c' d =>
      simp only [Op.onClient, Op.onDevice, Device.joined_turnedAway, Op.device]
      by_cases hNew : c = c' ∧ d ∉ (s.cli c).devicesConnected ∧
        ¬ ((s.dev d).clientsConnected = [] ∧ (s.dev d).status = .up)
      · obtain ⟨rfl, hNot, hServed⟩ := hNew
        simp only [hNot, hServed, not_false_eq_true, and_self, if_true, List.mem_append,
          List.mem_singleton, or_true, not_true_eq_false, false_and, and_false, if_false]
      · simp only [hNew, if_false]
    | disconnect c' d =>
      rcases eq_or_ne c c' with rfl | hOther
      · simp [Op.onClient, hErased]
      · simp [Op.onClient, hOther]
    | expire c' d =>
      rcases eq_or_ne c c' with rfl | hOther
      · simp [Op.onClient, hErased]
      · simp [Op.onClient, hOther]
    | isUp d => rfl
    | isDown d => exact hErased d
    | forceDown d => exact hErased d
    | timeout d => rfl

/-- A settled UP has the client and the device at each other, or is turned away; it needs
no memory either way. -/
theorem Settled.allocated (hSettled : Settled cfg o s) (hRetries : 0 ≤ cfg.gRetries)
    (h : WellFormed s) (hApplies : o.Applies cfg s) : Allocated w s (o.run w cfg s).2 := by
  have hNone : ∀ {s' : State}, s'.mallocs = s.mallocs → Allocated w s s' := by
    intro s' hMallocs k hk hk'
    omega
  by_cases hConnect : ∃ c d, o = .connect c d
  · obtain ⟨c, d, rfl⟩ := hConnect
    obtain ⟨hc, hd⟩ := hApplies
    have hDevice : (s.dev d).joined cfg c 0 = s.dev d := hSettled.device 0
    have hClients := congrArg Device.clientsConnected hDevice
    have hLists := hSettled.devices c hc
    by_cases hFree : (s.dev d).clientsConnected = []
    · have hUp : (s.dev d).status = .up := by
        by_contra hUp
        simp [Device.joined, hFree, hUp] at hClients
      rcases connect_cases hRetries w c d s with ⟨hMore, -⟩ | ⟨-, -, hEq⟩ | ⟨-, hStatus, -⟩ |
        ⟨-, hStatus, -⟩ | ⟨-, hStatus, -⟩
      · exact absurd hFree hMore
      · rw [run_connect, hEq]
        exact hNone rfl
      · rw [hUp] at hStatus
        cases hStatus
      · exact absurd hUp hStatus
      · exact absurd hUp hStatus
    · have hMem : c ∈ (s.dev d).clientsConnected := by
        by_contra hMem
        simp [Device.joined, hFree, hMem] at hClients
      have hListed : d ∈ (s.cli c).devicesConnected := by
        by_contra hListed
        simp [Op.onClient, Op.device, hFree, hListed] at hLists
      rw [run_connect, connectClientToDevice_of_clients w cfg c hFree]
      rcases h.noteClient_cases hc hd w with ⟨-, hEq⟩ | ⟨hNot, -⟩ | ⟨hNot, -⟩
      · have hQuiet := h.quiet (quiet_setErrno s .ealready)
        rcases hQuiet.noteDevice_cases hc hd w with ⟨-, hEq'⟩ | ⟨hNot, -⟩ | ⟨hNot, -⟩
        · rw [hEq, hEq']
          exact hNone rfl
        · exact absurd hListed hNot
        · exact absurd hListed hNot
      · exact absurd hMem hNot
      · exact absurd hMem hNot
  · exact hNone (touched_run fun c d hEq => hConnect ⟨c, d, hEq⟩).mallocs

/-- **A settled call** changes nothing. -/
theorem same_of_settled (hw : Obeyed w) (hRetries : 0 ≤ cfg.gRetries) (h : Tidy s)
    (hApplies : o.Applies cfg s) (hMessage : ∀ d, o ≠ .timeout d) (hSettled : Settled cfg o s) :
    Same s (o.run w cfg s).2 := by
  have hAlloc := hSettled.allocated (w := w) hRetries h.wellFormed hApplies
  have hDoes := does_run hw hRetries h hApplies hMessage hAlloc
  exact {
    gDevices := hDoes.gDevices
    dev := by rw [hDoes.dev, hSettled.device, Function.update_eq_self]
    gClients := hDoes.gClients
    devices := fun c hc => (hDoes.devices c hc).trans (hSettled.devices c hc) }

-- ---------------------------------------------------------------------------
-- The call of the second copy
-- ---------------------------------------------------------------------------

/-- Looking a name up depends on the names alone. -/
theorem getDevice_congr {pp : List DevPtr} {name : CStr} (hNames : ∀ d ∈ pp,
    (s'.dev d).deviceName = (s.dev d).deviceName) :
    (getDevice pp name s').1 = (getDevice pp name s).1 := by
  have hFind : (pp.find? fun d => (s'.dev d).deviceName == name) =
      pp.find? fun d => (s.dev d).deviceName == name := by
    induction pp with
    | nil => rfl
    | cons d rest ih =>
      rw [List.find?_cons, List.find?_cons, hNames d (List.mem_cons_self ..),
        ih fun d hd => hNames d (List.mem_cons_of_mem _ hd)]
  unfold getDevice
  rw [hFind]
  split <;> rfl

/-- The names of the devices are the same. -/
structure Named (s s' : State) : Prop where
  gDevices : s'.gDevices = s.gDevices
  names : ∀ d, (s'.dev d).deviceName = (s.dev d).deviceName

theorem Same.named (h : Same s s') : Named s s' :=
  ⟨h.gDevices, fun d => by rw [h.dev]⟩

theorem Named.trans (h : Named s s') (h' : Named s' s'') : Named s s'' :=
  ⟨h'.gDevices.trans h.gDevices, fun d => (h'.names d).trans (h.names d)⟩

theorem Does.named (h : Does cfg o s s') : Named s s' := by
  refine ⟨h.gDevices, fun d => ?_⟩
  rw [h.dev]
  rcases eq_or_ne d o.device with rfl | hOther
  · rw [Function.update_self]
    cases o with
    | connect c d =>
      simp only [Op.onDevice, Device.joined]
      split
      · split <;> rfl
      · split <;> rfl
    | disconnect c d =>
      simp only [Op.onDevice, Device.left]
      split <;> rfl
    | expire c d =>
      simp only [Op.onDevice, Device.left]
      split <;> rfl
    | isUp d =>
      simp only [Op.onDevice]
      split <;> rfl
    | _ => rfl
  · rw [Function.update_of_ne hOther]

theorem peerOp_congr (h : Named s s') (message : CStr) : peerOp message s' = peerOp message s := by
  unfold peerOp
  simp only [h.gDevices, getDevice_congr fun d _ => h.names d]

/-- A message makes the same call where the names are the same and the client lists the
same devices. -/
theorem clientOp_congr (h : Named s s')
    (hDevices : (s'.cli c).devicesConnected = (s.cli c).devicesConnected) (message : CStr) :
    clientOp c message s' = clientOp c message s := by
  unfold clientOp
  simp only [h.gDevices, hDevices, getDevice_congr fun d _ => h.names d]

/-- The second copy makes the call of the first, or none: DOWN does not find the device
again. -/
theorem clientOp_again (h : WellFormed s) (hc : c ∈ s.gClients) {o' : Op}
    (hOp : clientOp c message s = some o) (hDoes : Does cfg o s s')
    (hAgain : clientOp c message s' = some o') : o' = o := by
  have hNamed := hDoes.named
  have hGlobal : ∀ name, (getDevice s'.gDevices name s').1 = (getDevice s.gDevices name s).1 := by
    intro name
    rw [hNamed.gDevices]
    exact getDevice_congr fun d _ => hNamed.names d
  unfold clientOp at hOp hAgain
  cases hMsg : clientMessage message with
  | up name =>
    simp only [hMsg, hGlobal] at hOp hAgain
    exact Option.some.inj (hAgain.symm.trans hOp)
  | forceDown name =>
    simp only [hMsg, hGlobal] at hOp hAgain
    exact Option.some.inj (hAgain.symm.trans hOp)
  | down name =>
    simp only [hMsg] at hOp hAgain
    obtain ⟨d, hGet, rfl⟩ := Option.map_eq_some_iff.mp hOp
    obtain ⟨d', hGet', rfl⟩ := Option.map_eq_some_iff.mp hAgain
    obtain ⟨hd, hName, -⟩ := getDevice_some (Prod.ext hGet rfl)
    obtain ⟨hd', hName', -⟩ := getDevice_some (Prod.ext hGet' rfl)
    -- the client listed one device of this name, and it has left it
    rw [hDoes.devices c hc] at hd'
    have hLeft : d' ∈ (s.cli c).devicesConnected.erase d := by simpa [Op.onClient] using hd'
    have hOld := List.mem_of_mem_erase hLeft
    have hSame : d' = d := h.device_ext (h.devicesKnown c hc d' hOld) (h.devicesKnown c hc d hd)
      ((hNamed.names d').symm.trans (hName'.trans hName.symm))
    rw [hSame] at hLeft
    exact absurd hLeft (h.devicesNodup c hc).not_mem_erase
  | _ => simp [hMsg] at hOp

/-- A sender that is known stays the client it was. -/
theorem Entered.again (h : Entered w cli c' s s₁) (hWF : WellFormed s₁)
    (hc : c ∈ s.gClients) (hAddr : (s.cli c).sa.addr = cli.addr) : Quiet s s₁ ∧ c' = c := by
  have hKnown : c ∈ s₁.gClients := h.mem_gClients.mpr (Or.inl hc)
  have hSame : c' = c := hWF.client_ext h.known hKnown (by rw [h.addr hc, h.sa, hAddr])
  refine ⟨?_, hSame⟩
  rcases h.path with hq | ⟨s', hj, -⟩
  · exact hq
  · exact absurd (hSame ▸ hc) hj.fresh

-- ---------------------------------------------------------------------------
-- Two copies
-- ---------------------------------------------------------------------------

theorem Allocated.mono (h : Allocated w s s') (hFrom : s.mallocs ≤ s₁.mallocs)
    (hTo : s₂.mallocs ≤ s'.mallocs) : Allocated w s₁ s₂ :=
  fun k hk hk' => h k (hFrom.trans hk) (hk'.trans_le hTo)

theorem clientOp_ne_timeout : clientOp c message s ≠ some (.timeout d) := by
  unfold clientOp
  split <;> simp

theorem peerOp_ne_timeout : peerOp message s ≠ some (.timeout d) := by
  unfold peerOp
  split <;> simp

section Copies

variable (hw : Obeyed w) (hRetries : 0 ≤ cfg.gRetries)
include hw hRetries

/-- A client message that is processed once more. -/
theorem same_processClient (h : Tidy s) (cli : SockAddr) (message : CStr)
    (hAlloc : Allocated w s (processClient w cfg cli message s).2)
    (hq : Quiet (processClient w cfg cli message s).2 s₃) :
    Same (processClient w cfg cli message s).2 (processClient w cfg cli message s₃).2 := by
  have hKept := tidy_kept hw hRetries
  rcases processClient_cases w cfg cli message s with ⟨c, s₁, hEntered, hEq⟩ |
    ⟨s', hEq, -, k, hk, hk', hNone⟩
  swap
  · rw [hEq] at hAlloc
    exact absurd (hAlloc k hk hk') (by simp [hNone])
  rw [hEq] at hAlloc hq ⊢
  have h₁ : Tidy s₁ := hEntered.kept hKept h
  have hc : c ∈ s₁.gClients := hEntered.known
  -- the first copy: where a call is made, it is made for good
  have hFirst : Tidy (clientRequest w cfg c message s₁).2 ∧
      (clientRequest w cfg c message s₁).2.gClients = s₁.gClients ∧
      ((clientRequest w cfg c message s₁).2.cli c).sa.addr = cli.addr ∧
      ∀ o, clientOp c message (clientRequest w cfg c message s₁).2 = some o →
        o.Applies cfg (clientRequest w cfg c message s₁).2 ∧
          Settled cfg o (clientRequest w cfg c message s₁).2 := by
    cases hOp : clientOp c message s₁ with
    | none =>
      have hNothing := clientRequest_of_none w cfg hOp
      refine ⟨hKept.quiet hNothing h₁, hNothing.gClients, ?_, fun o hAgain => ?_⟩
      · rw [hNothing.addr c hc, hEntered.sa]
      · rw [clientOp_congr hNothing.same.named (hNothing.devices c hc), hOp] at hAgain
        cases hAgain
    | some o =>
      have hApplies : o.Applies cfg s₁ := Kept.applies_of_clientOp h₁.wellFormed hc hOp
      have hMessage : ∀ d, o ≠ .timeout d := fun d hEq => clientOp_ne_timeout (hEq ▸ hOp)
      rw [clientRequest_of_op w cfg hOp, unlessFails_done] at hAlloc ⊢
      have hDoes := does_run hw hRetries h₁ hApplies hMessage
        (hAlloc.mono hEntered.mallocs le_rfl)
      have h₂ : Tidy (o.run w cfg s₁).2 := hKept.op h₁ hApplies trivial
        fun c d hEq => Kept.clientOp_ne_expire (hEq ▸ hOp)
      refine ⟨h₂, hDoes.gClients, ?_, fun o' hAgain => ?_⟩
      · rw [hDoes.sa, hEntered.sa]
      · obtain rfl := clientOp_again h₁.wellFormed hc hOp hDoes hAgain
        exact ⟨Kept.applies_of_clientOp h₂.wellFormed (hDoes.gClients.symm ▸ hc) hAgain,
          hDoes.settled h₁.wellFormed hApplies.device_mem⟩
  obtain ⟨h₂, hClients, hAddr, hAgain⟩ := hFirst
  have hc₂ : c ∈ (clientRequest w cfg c message s₁).2.gClients := hClients.symm ▸ hc
  rcases processClient_cases w cfg cli message s₃ with ⟨c', s₄, hEntered', hEq'⟩ |
    ⟨s', hEq', hq', -⟩ <;> rw [hEq']
  · -- the second copy: the same client, in the state the first copy left
    have h₄ : Tidy s₄ := hEntered'.kept hKept (hKept.quiet hq h₂)
    obtain ⟨hq', rfl⟩ := hEntered'.again h₄.wellFormed (hq.gClients.symm ▸ hc₂)
      ((hq.addr _ hc₂).trans hAddr)
    have hSame := (hq.trans hq').same
    refine hSame.trans ?_
    cases hOp : clientOp c' message s₄ with
    | none => exact (clientRequest_of_none w cfg hOp).same
    | some o =>
      obtain ⟨hApplies, hSettled⟩ := hAgain o (by
        rw [← clientOp_congr hSame.named (hSame.devices c' hc₂), hOp])
      rw [clientRequest_of_op w cfg hOp, unlessFails_done]
      exact same_of_settled hw hRetries h₄
        (Kept.applies_of_clientOp h₄.wellFormed hEntered'.known hOp)
        (fun d hEq => clientOp_ne_timeout (hEq ▸ hOp)) (hSettled.same hSame)
  · exact (hq.trans hq').same

/-- A message of the peer that is processed once more. -/
theorem same_processPeer (h : Tidy s) (message : CStr)
    (hAlloc : Allocated w s (processPeer w cfg message s).2)
    (hq : Quiet (processPeer w cfg message s).2 s₃) :
    Same (processPeer w cfg message s).2 (processPeer w cfg message s₃).2 := by
  have hKept := tidy_kept hw hRetries
  cases hOp : peerOp message s with
  | none =>
    have hNothing := processPeer_of_none w cfg hOp
    have hAgain := peerOp_congr (hNothing.trans hq).same.named message
    rw [hOp] at hAgain
    exact (hq.trans (processPeer_of_none w cfg hAgain)).same
  | some o =>
    have hApplies : o.Applies cfg s := Kept.applies_of_peerOp hOp
    have hMessage : ∀ d, o ≠ .timeout d := fun d hEq => peerOp_ne_timeout (hEq ▸ hOp)
    rw [processPeer_of_op w cfg hOp] at hAlloc hq ⊢
    have hDoes := does_run hw hRetries h hApplies hMessage hAlloc
    have h₂ : Tidy (o.run w cfg s).2 := hKept.op h hApplies trivial
      fun c d hEq => Kept.peerOp_ne_expire (hEq ▸ hOp)
    have hAgain := peerOp_congr (hDoes.named.trans hq.same.named) message
    rw [hOp] at hAgain
    rw [processPeer_of_op w cfg hAgain]
    exact hq.same.trans (same_of_settled hw hRetries (hKept.quiet hq h₂)
      (Kept.applies_of_peerOp hAgain) hMessage
      ((hDoes.settled h.wellFormed hApplies.device_mem).same hq.same))

end Copies

/-- A datagram of a client or of the peer, as against a sweep. -/
def Event.IsMessage : Event → Prop
  | .client _ _ | .peer _ => True
  | .timeoutOldClients | .timeoutOldDevices => False

/-- **Duplicate datagrams are harmless**, at whatever time the second copy is processed, if
no allocation fails while the first one is. -/
theorem duplicate_harmless (w : World) (cfg : Config) (sections : List DeviceSection)
    (es : List Event) (e : Event) (hMessage : e.IsMessage) (hRetries : 0 ≤ cfg.gRetries)
    (hCommands : ∀ k, (w.system k).result = 0) :
    let s := serverRun w cfg es (boot w sections)
    let once := (step w cfg e s).2
    Allocated w s once → Same once (step w cfg e once).2 := by
  intro s once hAlloc
  have h : Tidy s := tidy_run hCommands hRetries sections es
  have hNow : Tidy (advance w s) := (tidy_kept hCommands hRetries).quiet (quiet_advance w s) h
  have hq := quiet_advance w once
  by_cases hCrashed : once.crashed = true
  · have hStays : step w cfg e once = (-1, once) := if_pos hCrashed
    rw [hStays]
    exact (Quiet.refl once).same
  have hLive : ¬ s.crashed = true := by
    intro hDead
    have hStays : step w cfg e s = (-1, s) := if_pos hDead
    have hOnce : once = s := congrArg Prod.snd hStays
    exact hCrashed (hOnce ▸ hDead)
  have hOnce : once = (handle w cfg e (advance w s)).2 := congrArg Prod.snd (if_neg hLive)
  have hTwice : step w cfg e once = handle w cfg e (advance w once) := if_neg hCrashed
  rw [hTwice]
  have hFrom : Allocated w (advance w s) once := hAlloc.mono le_rfl le_rfl
  rw [hOnce] at hFrom hq ⊢
  cases e with
  | client cli message => exact same_processClient hCommands hRetries hNow cli message hFrom hq
  | peer message => exact same_processPeer hCommands hRetries hNow message hFrom hq
  | timeoutOldClients => exact hMessage.elim
  | timeoutOldDevices => exact hMessage.elim

/-- The one client of a link that is up leaves twice. -/
theorem duplicate_harmless_down :
    let w := calmWorld 7 []
    let s := serverRun w defaultConfig [aboutPpp clientUp 1, noticeAboutPpp notifyIsup]
      (boot w [pppSection])
    let once := (step w defaultConfig (aboutPpp clientDown 1) s).2
    Same once (step w defaultConfig (aboutPpp clientDown 1) once).2 :=
  duplicate_harmless (calmWorld 7 []) defaultConfig [pppSection] _ (aboutPpp clientDown 1) trivial
    (by decide) (fun k => by simp [calmWorld]) fun _ _ _ => rfl

/-- Memory runs out after the first copy of an UP has dialled, before the client is noted:
the second copy dials again, later, and notes it. -/
theorem duplicate_redials :
    let w := { calmWorld 7 [] with malloc := fun k => if k = 3 then none else some k }
    let s := boot w [pppSection]
    let once := (step w defaultConfig (aboutPpp clientUp 1) s).2
    let twice := (step w defaultConfig (aboutPpp clientUp 1) once).2
    (∀ k, (w.system k).result = 0) ∧ 0 ≤ defaultConfig.gRetries ∧
      (once.dev 0).clientsConnected = [] ∧ (twice.dev 0).clientsConnected ≠ [] ∧
      (once.dev 0).connectTime ≠ (twice.dev 0).connectTime ∧ ¬ Same once twice := by
  intro w s once twice
  have hClients : (once.dev 0).clientsConnected = [] ∧ (twice.dev 0).clientsConnected ≠ [] := by
    decide +kernel
  refine ⟨fun k => by simp [w, calmWorld], by decide, hClients.1, hClients.2, by decide +kernel, ?_⟩
  intro hSame
  rw [hSame.dev] at hClients
  exact hClients.2 hClients.1

end LinkControl
