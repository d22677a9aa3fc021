import LinkControl.Server.Mirror
import LinkControl.Server.Static
import LinkControl.Lib.Edits

/-!
# Link server — the relation behind the lists

`uses` is the relation between addresses and device names that the client lists represent.
While every command returns 0 and memory suffices (`Calm`), each call changes it as the edit of
`Op.edits` does (`uses_run`), a message as the edits of what it says (`ClientMessage.edits`,
`PeerMessage.edits`), and a round of a sweep takes away all that one client, or one device, has
in it. Meanwhile the lists of both sides agree, and a device is connecting or up exactly while it
has clients (`Sound`).
-/

namespace LinkControl

open ReturnCode Edits

variable {w : World} {cfg : Config} {c : CliPtr} {d : DevPtr} {s s' s'' : State}

-- ---------------------------------------------------------------------------
-- The relation
-- ---------------------------------------------------------------------------

/-- The relation the client lists represent. -/
def uses (s : State) : Set (Nat × CStr) :=
  {p | ∃ d ∈ s.gDevices, ∃ c ∈ (s.dev d).clientsConnected,
    (s.cli c).sa.addr = p.1 ∧ (s.dev d).deviceName = p.2}

/-- How a message from an address changes the relation, if these are the names of the devices. -/
def ClientMessage.edits (known : List CStr) (addr : Nat) : ClientMessage → List (Edit Nat CStr)
  | .up name => if known.contains name then [.add addr name] else []
  | .down name => [.erase addr name]
  | .forceDown name => [.dropRight name]
  | .ping | .devices | .status _ | .clientStatus | .unknown => []

/-- How a message from the peer changes the relation. -/
def PeerMessage.edits : PeerMessage → List (Edit Nat CStr)
  | .isdown name => [.dropRight name]
  | .isup _ | .unknown => []

/-- How a call changes the relation. -/
def Op.edits (s : State) : Op → List (Edit Nat CStr)
  | .connect c d => [.add (s.cli c).sa.addr (s.dev d).deviceName]
  | .disconnect c d | .expire c d => [.erase (s.cli c).sa.addr (s.dev d).deviceName]
  | .isUp _ => []
  | .isDown d | .forceDown d => [.dropRight (s.dev d).deviceName]
  | .timeout d =>
    if (s.dev d).status = .connecting ∧ (s.dev d).retries < 0 then
      [.dropRight (s.dev d).deviceName]
    else []

-- ---------------------------------------------------------------------------
-- The relation and the lists
-- ---------------------------------------------------------------------------

/-- Keys and global lists are the same, and no device but `d` has changed. -/
structure Relisted (d : DevPtr) (s s' : State) : Prop where
  gDevices : s'.gDevices = s.gDevices
  other : ∀ d', d' ≠ d → s'.dev d' = s.dev d'
  name : (s'.dev d).deviceName = (s.dev d).deviceName
  sa : ∀ c, (s'.cli c).sa = (s.cli c).sa

/-- What touches one device changes no key and no other device. -/
theorem Touched.relisted (h : Touched d s s') : Relisted d s s' :=
  ⟨h.gDevices, h.other, h.name, h.sa⟩

theorem Relisted.trans (h : Relisted d s s') (h' : Relisted d s' s'') : Relisted d s s'' where
  gDevices := h'.gDevices.trans h.gDevices
  other d' hOther := (h'.other d' hOther).trans (h.other d' hOther)
  name := h'.name.trans h.name
  sa c := (h'.sa c).trans (h.sa c)

/-- Devices keep their names. -/
theorem Relisted.deviceName (h : Relisted d s s') (d' : DevPtr) :
    (s'.dev d').deviceName = (s.dev d').deviceName := by
  rcases eq_or_ne d' d with rfl | hOther
  · exact h.name
  · rw [h.other d' hOther]

theorem relisted_noteDevice (w : World) (c : CliPtr) (d : DevPtr) (s : State) :
    Relisted d s (noteDevice w c d s).2 := by
  refine ⟨(noted_noteDevice w c d s).gDevices, (noted_noteDevice w c d s).other, by simp, ?_⟩
  intro c'
  rcases noteDevice_cases w c d s with ⟨-, hEq⟩ | ⟨-, -, hEq⟩ | ⟨-, -, hEq⟩
  · simp [hEq]
  · simp [hEq]
  · rw [hEq]
    rcases eq_or_ne c' c with rfl | hOther
    · simp
    · simp [hOther]

theorem relisted_noteClient (w : World) (c : CliPtr) (d : DevPtr) (s : State) :
    Relisted d s (noteClient w c d s).2 := by
  rcases noteClient_cases w c d s with ⟨-, hEq⟩ | ⟨-, -, hEq⟩ | ⟨-, -, hEq⟩ <;> rw [hEq]
  · exact (touched_setErrno d s _).relisted.trans (relisted_noteDevice w c d _)
  · exact ⟨rfl, fun _ _ => rfl, rfl, fun _ => rfl⟩
  · refine Relisted.trans ?_ (relisted_noteDevice w c d _)
    exact ⟨rfl, fun d' hOther => by simp [hOther], by simp, fun _ => rfl⟩

/-- Who uses a listed device. -/
theorem WellFormed.mem_uses (h : WellFormed s) (hd : d ∈ s.gDevices) {a : Nat} :
    (a, (s.dev d).deviceName) ∈ uses s ↔
      ∃ c ∈ (s.dev d).clientsConnected, (s.cli c).sa.addr = a := by
  constructor
  · intro hUses
    obtain ⟨d', hd', c, hc, hAddr, hName⟩ := hUses
    obtain rfl := h.device_ext hd' hd hName
    exact ⟨c, hc, hAddr⟩
  · intro hListed
    obtain ⟨c, hc, hAddr⟩ := hListed
    exact ⟨d, hd, c, hc, hAddr, rfl⟩

/-- Only devices of the server are used. -/
theorem mem_uses_name {p : Nat × CStr} (h : p ∈ uses s) :
    ∃ d ∈ s.gDevices, (s.dev d).deviceName = p.2 := by
  obtain ⟨d, hd, -, -, -, hName⟩ := h
  exact ⟨d, hd, hName⟩

/-- Only the users of the one device have changed. -/
theorem Relisted.mem_uses (h : Relisted d s s') (hWF : WellFormed s) (hd : d ∈ s.gDevices)
    (p : Nat × CStr) :
    p ∈ uses s' ↔ (p.2 ≠ (s.dev d).deviceName ∧ p ∈ uses s) ∨
      (p.2 = (s.dev d).deviceName ∧
        ∃ c ∈ (s'.dev d).clientsConnected, (s.cli c).sa.addr = p.1) := by
  constructor
  · intro hUses
    obtain ⟨d', hd', c, hc, hAddr, hName⟩ := hUses
    rw [h.gDevices] at hd'
    rw [h.sa] at hAddr
    rw [h.deviceName] at hName
    rcases eq_or_ne d' d with rfl | hOther
    · exact Or.inr ⟨hName.symm, c, hc, hAddr⟩
    · rw [h.other d' hOther] at hc
      refine Or.inl ⟨fun hSame => hOther ?_, d', hd', c, hc, hAddr, hName⟩
      exact hWF.device_ext hd' hd (hName.trans hSame)
  · intro hParts
    rcases hParts with ⟨hNe, d', hd', c, hc, hAddr, hName⟩ | ⟨hName, c, hc, hAddr⟩
    · have hOther : d' ≠ d := by
        intro hEq
        obtain rfl := hEq
        exact hNe hName.symm
      refine ⟨d', h.gDevices ▸ hd', c, ?_, (h.sa c) ▸ hAddr, (h.deviceName d').trans hName⟩
      rwa [h.other d' hOther]
    · exact ⟨d, h.gDevices ▸ hd, c, hc, (h.sa c) ▸ hAddr, h.name.trans hName.symm⟩

section Calls

variable (h : Relisted d s s') (hWF : WellFormed s) (hd : d ∈ s.gDevices)
include h hWF hd

/-- A change that leaves the client list alone leaves the relation alone. -/
theorem Relisted.uses_same
    (hClients : (s'.dev d).clientsConnected = (s.dev d).clientsConnected) :
    uses s' = uses s := by
  ext p
  rw [h.mem_uses hWF hd, hClients]
  constructor
  · intro hParts
    rcases hParts with ⟨-, hp⟩ | ⟨hName, c, hc, hAddr⟩
    · exact hp
    · exact ⟨d, hd, c, hc, hAddr, hName.symm⟩
  · intro hp
    by_cases hName : p.2 = (s.dev d).deviceName
    · refine Or.inr ⟨hName, (hWF.mem_uses hd).mp ?_⟩
      rwa [← hName]
    · exact Or.inl ⟨hName, hp⟩

/-- A client list that is cleared takes all pairs of the device out of the relation. -/
theorem Relisted.uses_nobody (hClients : (s'.dev d).clientsConnected = []) :
    uses s' = (Edit.dropRight (s.dev d).deviceName).apply (uses s) := by
  ext p
  rw [h.mem_uses hWF hd, hClients]
  constructor
  · intro hParts
    rcases hParts with ⟨hNe, hp⟩ | ⟨-, c, hc, -⟩
    · exact ⟨hp, hNe⟩
    · exact absurd hc List.not_mem_nil
  · exact fun ⟨hp, hNe⟩ => Or.inl ⟨hNe, hp⟩

/-- A client that is taken off the list takes its pair with it, -/
theorem Relisted.uses_less (hc : c ∈ s.gClients)
    (hClients : (s'.dev d).clientsConnected = (s.dev d).clientsConnected.erase c) :
    uses s' = (Edit.erase (s.cli c).sa.addr (s.dev d).deviceName).apply (uses s) := by
  ext p
  rw [h.mem_uses hWF hd, hClients]
  have hErase : ∀ c', c' ∈ (s.dev d).clientsConnected.erase c ↔
      c' ≠ c ∧ c' ∈ (s.dev d).clientsConnected := fun c' =>
    (hWF.clientsNodup d hd).mem_erase_iff
  constructor
  · intro hParts
    rcases hParts with ⟨hNe, hp⟩ | ⟨hName, c', hc', hAddr⟩
    · exact ⟨hp, fun hEq => hNe (congrArg Prod.snd hEq)⟩
    · obtain ⟨hNe, hMem⟩ := (hErase c').mp hc'
      refine ⟨⟨d, hd, c', hMem, hAddr, hName.symm⟩, fun hEq => hNe ?_⟩
      exact hWF.client_ext (hWF.clientsKnown d hd c' hMem) hc (hAddr.trans (congrArg Prod.fst hEq))
  · intro hMem
    obtain ⟨hp, hNe⟩ := hMem
    by_cases hName : p.2 = (s.dev d).deviceName
    · obtain ⟨c', hc', hAddr⟩ := (hWF.mem_uses hd (a := p.1)).mp (hName ▸ hp)
      refine Or.inr ⟨hName, c', (hErase c').mpr ⟨?_, hc'⟩, hAddr⟩
      intro hEq
      obtain rfl := hEq
      exact hNe (Prod.ext hAddr.symm hName)
    · exact Or.inl ⟨hName, hp⟩

/-- and one that is added brings its pair. -/
theorem Relisted.uses_more (hClients : ∀ c', c' ∈ (s'.dev d).clientsConnected ↔
      c' ∈ (s.dev d).clientsConnected ∨ c' = c) :
    uses s' = (Edit.add (s.cli c).sa.addr (s.dev d).deviceName).apply (uses s) := by
  ext p
  rw [h.mem_uses hWF hd]
  constructor
  · intro hParts
    rcases hParts with ⟨-, hp⟩ | ⟨hName, c', hc', hAddr⟩
    · exact Or.inr hp
    · rcases (hClients c').mp hc' with hOld | rfl
      · exact Or.inr ⟨d, hd, c', hOld, hAddr, hName.symm⟩
      · exact Or.inl (Prod.ext hAddr.symm hName)
  · intro hMem
    rcases hMem with rfl | hp
    · exact Or.inr ⟨rfl, c, (hClients c).mpr (Or.inr rfl), rfl⟩
    · by_cases hName : p.2 = (s.dev d).deviceName
      · obtain ⟨c', hc', hAddr⟩ := (hWF.mem_uses hd (a := p.1)).mp (hName ▸ hp)
        exact Or.inr ⟨hName, c', (hClients c').mpr (Or.inl hc'), hAddr⟩
      · exact Or.inl ⟨hName, hp⟩

end Calls

-- ---------------------------------------------------------------------------
-- Every call
-- ---------------------------------------------------------------------------

/-- Every command returns 0, and memory suffices. -/
structure Calm (w : World) : Prop where
  commands : ∀ k, (w.system k).result = 0
  memory : ∀ k, (w.malloc k).isSome

@[simp] theorem Calm.launchResult (hw : Calm w) (s : State) : launchResult w s = 0 := by
  unfold LinkControl.launchResult
  simp [hw.commands]

/-- A device is up, or on its way there, exactly while it has clients. -/
def Used (d : DevPtr) (s : State) : Prop :=
  ((s.dev d).status = .connecting ∨ (s.dev d).status = .up) ↔ (s.dev d).clientsConnected ≠ []

/-- The two families of lists agree, and the statuses follow them. -/
structure Sound (s : State) : Prop extends Mirrored none s where
  used : ∀ d ∈ s.gDevices, Used d s

/-- A device without clients may be down or hanging up. -/
theorem used_of_nobody (hStatus : (s.dev d).status = .down ∨ (s.dev d).status = .disconnecting)
    (hClients : (s.dev d).clientsConnected = []) : Used d s := by
  refine iff_of_false (fun hUp => ?_) fun hSome => hSome hClients
  rcases hStatus with hStatus | hStatus <;> simp [hStatus] at hUp

/-- Only the status and the clients matter. -/
theorem Used.same (h : Used d s) (hStatus : (s'.dev d).status = (s.dev d).status)
    (hClients : (s'.dev d).clientsConnected = (s.dev d).clientsConnected) : Used d s' := by
  unfold Used
  rw [hStatus, hClients]
  exact h

/-- A forced device is down and has no clients. -/
theorem forceDown_used (hw : Calm w) (cfg : Config) (d : DevPtr) (s : State) :
    (((Op.forceDown d).run w cfg s).2.dev d).clientsConnected = [] ∧
      Used d ((Op.forceDown d).run w cfg s).2 := by
  rcases forceDown_cases w cfg d s with ⟨-, hEq⟩ | ⟨-, hLaunch, -⟩ | ⟨-, -, hEq⟩
  · rw [hEq]
    exact ⟨by simp, used_of_nobody (Or.inl (by simp)) (by simp)⟩
  · simp [hw] at hLaunch
  · rw [hEq]
    exact ⟨by simp, used_of_nobody (Or.inl (by simp)) (by simp)⟩

/-- A device that comes up keeps its clients. -/
theorem alterToUp_used (h : Sound s) (hd : d ∈ s.gDevices) :
    ((alterToUp w d s).2.dev d).clientsConnected = (s.dev d).clientsConnected ∧
      Used d (alterToUp w d s).2 := by
  rcases alterToUp_cases w d s with ⟨-, hEq⟩ | ⟨hStatus, hEq⟩ <;> rw [hEq]
  · exact ⟨by simp, (h.used d hd).same (by simp) (by simp)⟩
  · refine ⟨by simp, iff_of_true (Or.inr (by simp)) ?_⟩
    simpa using (h.used d hd).mp (Or.inl hStatus)

section Calls

variable (hw : Calm w) (h : Sound s) (hd : d ∈ s.gDevices)
include hw h hd

/-- The first client makes the server dial, which works; then the client is noted. -/
theorem connect_eq (hRetries : 0 ≤ cfg.gRetries) (c : CliPtr) :
    ∃ s₁, Touched d s s₁ ∧ (s₁.dev d).clientsConnected = (s.dev d).clientsConnected ∧
      (((s.dev d).clientsConnected ≠ [] ∧ s₁ = s) ∨
        ((s.dev d).clientsConnected = [] ∧ (s₁.dev d).status = .connecting ∧
          (s₁.dev d).connectTime = s₁.clock ∧ (s₁.dev d).retries = cfg.gRetries - 1)) ∧
      connectClientToDevice w cfg c d s = noteClient w c d s₁ := by
  rcases connect_cases hRetries w c d s with ⟨hClients, hEq⟩ | ⟨hFree, hUp, -⟩ |
    ⟨-, -, hLaunch, -⟩ | ⟨-, -, hLaunch, -⟩ | ⟨hFree, -, -, -, hEq⟩
  · exact ⟨s, .refl d s, rfl, Or.inl ⟨hClients, rfl⟩, hEq⟩
  · exact absurd hFree ((h.used d hd).mp (Or.inr hUp))
  · simp [hw] at hLaunch
  · simp [hw] at hLaunch
  · set s₁ := dialled w d (readied w cfg d (s.setRetries d cfg.gRetries)) with hs₁
    have ht : Touched d s s₁ := ((touched_setRetries d s _).trans
      (touched_readied w cfg d _)).trans (touched_dialled w d _)
    refine ⟨s₁, ht, ?_, Or.inr ⟨hFree, by simp [hs₁], by simp [hs₁], by simp [hs₁]⟩, hEq⟩
    rw [hFree]
    exact List.eq_nil_of_sublist_nil (hFree ▸ ht.clients)

/-- **Connecting adds the pair.** The device is dialled, if need be, before its client is noted.
-/
theorem uses_connect (hRetries : 0 ≤ cfg.gRetries) (hc : c ∈ s.gClients) :
    uses (connectClientToDevice w cfg c d s).2 =
      (Edit.add (s.cli c).sa.addr (s.dev d).deviceName).apply (uses s) ∧
    Used d (connectClientToDevice w cfg c d s).2 := by
  obtain ⟨s₁, ht, hClients, hDial, hEq⟩ := connect_eq hw h hd hRetries c
  have hStatus : (s₁.dev d).status = .connecting ∨ (s₁.dev d).status = .up := by
    rcases hDial with ⟨hClients, rfl⟩ | ⟨-, hConnecting, -⟩
    · exact (h.used d hd).mpr hClients
    · exact Or.inl hConnecting
  have hAdds := ((h.wellFormed.touched ht).noteClient_adds (ht.gClients ▸ hc) (ht.gDevices ▸ hd)
    hw.memory).2.1
  rw [hEq]
  refine ⟨(ht.relisted.trans (relisted_noteClient w c d s₁)).uses_more h.wellFormed hd ?_, ?_⟩
  · intro c'
    rw [hAdds, hClients]
  · refine iff_of_true ?_ (List.ne_nil_of_mem ((hAdds c).mpr (Or.inr rfl)))
    rwa [(noted_noteClient w c d s₁).status]

/-- A disconnection takes the client off the list, and the device down after its last
client. -/
theorem disconnect_used (c : CliPtr) :
    ((disconnectClientFromDevice w cfg c d s).2.dev d).clientsConnected =
      (s.dev d).clientsConnected.erase c ∧
    Used d (disconnectClientFromDevice w cfg c d s).2 ∧
    0 ≤ (disconnectClientFromDevice w cfg c d s).1 := by
  have hUsed := h.used d hd
  rcases disconnectClientFromDevice_cases w cfg c d s with ⟨hNot, hEq⟩ | ⟨hMem, hMore, hEq⟩ |
    ⟨hLast, hStatus, -⟩ | ⟨-, -, hLaunch, -⟩ | ⟨hLast, hStatus, -⟩ | ⟨hLast, -, -, hEq⟩
  · rw [hEq, List.erase_of_not_mem hNot]
    exact ⟨by simp, hUsed.same (by simp) (by simp), by simp⟩
  · rw [hEq]
    refine ⟨by simp, iff_of_true ?_ ?_, by simp⟩
    · simpa using hUsed.mpr (List.ne_nil_of_mem hMem)
    · simpa [List.erase_eq_nil_iff, List.ne_nil_of_mem hMem] using hMore
  · have := hUsed.mpr (by simp [hLast])
    simp [hStatus] at this
  · simp [hw] at hLaunch
  · have := hUsed.mpr (by simp [hLast])
    simp [hStatus] at this
  · have ht := touched_hungUp w d (s.setClientsConnected d [])
    have hNil : ((hungUp w d (s.setClientsConnected d [])).dev d).clientsConnected = [] :=
      List.eq_nil_of_sublist_nil (by simpa using ht.clients)
    rw [hEq, hLast]
    refine ⟨by simpa using hNil, used_of_nobody (Or.inr (by simp)) (by simpa using hNil), by simp⟩

/-- **Leaving takes the pair away**, wherever the hanging up ends. -/
theorem uses_disconnect (hc : c ∈ s.gClients) :
    uses (disconnectClientFromDevice w cfg c d s).2 =
      (Edit.erase (s.cli c).sa.addr (s.dev d).deviceName).apply (uses s) :=
  (touched_disconnectClientFromDevice w cfg d s c).relisted.uses_less h.wellFormed hd hc
    (disconnect_used hw h hd c).1

/-- Going down takes all clients with it. -/
theorem alterToDown_used :
    ((alterToDown w d s).2.dev d).clientsConnected = [] ∧ Used d (alterToDown w d s).2 := by
  have hBoth : ∀ {s' : State}, (s'.dev d).clientsConnected = [] → (s'.dev d).status = .down →
      (s'.dev d).clientsConnected = [] ∧ Used d s' :=
    fun hNil hDown => ⟨hNil, used_of_nobody (Or.inl hDown) hNil⟩
  rcases alterToDown_cases w d s with ⟨hStatus, hEq⟩ | ⟨-, hLaunch, -⟩ | ⟨-, -, hEq⟩
  · rw [hEq]
    exact hBoth (by simpa using h.freed d hd hStatus) (by simp)
  · simp [hw] at hLaunch
  · rw [hEq]
    exact hBoth (by simp [forcedDown_clients, hw]) (by simp)

/-- A timeout takes all clients with it when the retries are used up, and none else. -/
theorem timeout_used (hDue : Due cfg d s) :
    (((Op.timeout d).run w cfg s).2.dev d).clientsConnected =
      (if (s.dev d).status = .connecting ∧ (s.dev d).retries < 0 then []
        else (s.dev d).clientsConnected) ∧
    Used d ((Op.timeout d).run w cfg s).2 := by
  rcases timeout_cases w hDue with ⟨-, -, hLaunch, -⟩ | ⟨hStatus, hNone, -, hEq⟩ |
    ⟨-, -, hLaunch, -⟩ | ⟨hStatus, hSome, -, hEq⟩ | ⟨-, hLaunch, -⟩ | ⟨hStatus, -, hEq⟩
  · simp [hw] at hLaunch
  · have hNil : ((forcedDown w d (exhausted d s)).dev d).clientsConnected = [] := by
      simp [forcedDown_clients, hw]
    rw [hEq, if_pos ⟨hStatus, hNone⟩]
    exact ⟨by simpa using hNil, used_of_nobody (Or.inl (by simp)) (by simpa using hNil)⟩
  · simp [hw] at hLaunch
  · rw [hEq, if_neg fun hGone => absurd hSome (Int.not_le.mpr hGone.2)]
    refine ⟨by simp, iff_of_true (Or.inl (by simp)) ?_⟩
    simpa using (h.used d hd).mp (Or.inl hStatus)
  · simp [hw] at hLaunch
  · have hNil : ((forcedDown w d s).dev d).clientsConnected = [] := by
      simp [forcedDown_clients, hw]
    rw [hEq, if_neg (by simp [hStatus]), h.freed d hd hStatus]
    exact ⟨by simpa using hNil, used_of_nobody (Or.inl (by simp)) (by simpa using hNil)⟩

end Calls

/-- **A call and its edit.** -/
theorem uses_run (hw : Calm w) (hRetries : 0 ≤ cfg.gRetries) (h : Sound s) {o : Op}
    (hApplies : o.Applies cfg s) :
    uses (o.run w cfg s).2 = edited (o.edits s) (uses s) ∧ Used o.device (o.run w cfg s).2 := by
  have hWF := h.wellFormed
  cases o with
  | connect c d => exact uses_connect hw h hApplies.2 hRetries hApplies.1
  | disconnect c d =>
    exact ⟨uses_disconnect hw h hApplies.2 hApplies.1, (disconnect_used hw h hApplies.2 c).2.1⟩
  | expire c d =>
    rw [run_expire]
    exact ⟨uses_disconnect hw h hApplies.2 hApplies.1, (disconnect_used hw h hApplies.2 c).2.1⟩
  | isUp d =>
    obtain ⟨hClients, hUsed⟩ := alterToUp_used h hApplies
    exact ⟨(touched_alterToUp w d s).relisted.uses_same hWF hApplies hClients, hUsed⟩
  | isDown d =>
    obtain ⟨hClients, hUsed⟩ := alterToDown_used hw h hApplies
    exact ⟨(touched_alterToDown w d s).relisted.uses_nobody hWF hApplies hClients, hUsed⟩
  | forceDown d =>
    obtain ⟨hClients, hUsed⟩ := forceDown_used hw cfg d s
    have ht : Touched d s ((Op.forceDown d).run w cfg s).2 :=
      touched_run (o := .forceDown d) (by simp)
    exact ⟨ht.relisted.uses_nobody hWF hApplies hClients, hUsed⟩
  | timeout d =>
    obtain ⟨hClients, hUsed⟩ := timeout_used hw h hApplies.1 hApplies.2
    have ht : Touched d s ((Op.timeout d).run w cfg s).2 :=
      touched_run (o := .timeout d) (by simp)
    refine ⟨?_, hUsed⟩
    rw [Op.edits]
    split at hClients
    · rename_i hGone
      rw [if_pos hGone]
      exact ht.relisted.uses_nobody hWF hApplies.1 hClients
    · rename_i hStays
      rw [if_neg hStays]
      exact ht.relisted.uses_same hWF hApplies.1 hClients

-- ---------------------------------------------------------------------------
-- The invariant
-- ---------------------------------------------------------------------------

/-- While every command works and every device with clients is up or on its way there,
the lists are never split. -/
theorem not_splits (hw : Calm w) (h : Sound s) {o : Op} (hApplies : o.Applies cfg s) :
    ¬ Splits w o s := by
  have hDown : ∀ {c d}, d ∈ s.gDevices → (s.dev d).clientsConnected = [c] →
      (s.dev d).status ≠ .down := by
    intro c d hd hLast hStatus
    have := (h.used d hd).mpr (by simp [hLast])
    simp [hStatus] at this
  cases o with
  | disconnect c d | expire c d =>
    intro hSplits
    rcases hSplits with ⟨hLast, hStatus | hWhy⟩
    · exact hDown hApplies.2 hLast hStatus
    · simp [hw] at hWhy
  | forceDown d =>
    intro hSplits
    obtain ⟨-, -, hLaunch⟩ := hSplits
    simp [hw] at hLaunch
  | _ => exact id

/-- **Call rule.** While every command returns 0 and memory suffices, every call keeps the lists
and statuses sound. -/
theorem sound_run (hw : Calm w) (hRetries : 0 ≤ cfg.gRetries) (h : Sound s) {o : Op}
    (hApplies : o.Applies cfg s) : Sound (o.run w cfg s).2 := by
  have hOwn := (uses_run hw hRetries h hApplies).2
  have hConfined := confined_run w cfg o s
  have hMirrored : Mirrored none (o.run w cfg s).2 := by
    by_cases hExpire : ∃ c d, o = .expire c d
    · obtain ⟨c, d, rfl⟩ := hExpire
      have hLeaves : (Op.disconnect c d).Applies cfg s := hApplies
      rw [run_expire]
      exact mirrored_disconnect h.toMirrored hApplies.2 (not_splits hw h hLeaves)
    · exact mirrored_run hw.memory h.toMirrored hApplies (not_splits hw h hApplies)
        fun c d hEq => hExpire ⟨c, d, hEq⟩
  refine ⟨hMirrored, fun d hd => ?_⟩
  rcases eq_or_ne d o.device with rfl | hOther
  · exact hOwn
  · rw [hConfined.gDevices] at hd
    have hSame := hConfined.other d hOther
    exact (h.used d hd).same (by rw [hSame]) (by rw [hSame])

/-- They are sound along every such run. -/
theorem sound_kept (hw : Calm w) (hRetries : 0 ≤ cfg.gRetries) :
    Kept w cfg (fun _ _ => True) Sound (fun _ => Sound) := by
  have hSame : ∀ {s s' : State}, Sound s → Mirrored none s' → s'.dev = s.dev →
      s'.gDevices = s.gDevices → Sound s' := fun h hMirrored hDev hDevices =>
    ⟨hMirrored, fun d hd => (h.used d (hDevices ▸ hd)).same (by rw [hDev]) (by rw [hDev])⟩
  refine Kept.uniform (fun h => h.wellFormed) (fun hq h => ?_) (fun hj h => ?_) (fun t a h => ?_)
    (fun h hApplies _ => sound_run hw hRetries h hApplies) (fun h hc hGone => ?_)
  · exact hSame h (h.toMirrored.quiet hq) hq.dev hq.gDevices
  · exact hSame h (h.toMirrored.joined hj) hj.dev hj.gDevices
  · exact hSame h (h.toMirrored.log _) rfl rfl
  · exact hSame h ((h.toMirrored.weaken _).dropped hGone) rfl rfl

-- ---------------------------------------------------------------------------
-- The two sweeps
-- ---------------------------------------------------------------------------

/-- Nobody has joined or left a device. -/
theorem WellFormed.uses_eq (h : WellFormed s) (hDev : s'.dev = s.dev)
    (hDevices : s'.gDevices = s.gDevices)
    (hAddr : ∀ c ∈ s.gClients, (s'.cli c).sa.addr = (s.cli c).sa.addr) : uses s' = uses s := by
  ext p
  constructor
  · intro hUses
    obtain ⟨d, hd, c, hc, hSame, hName⟩ := hUses
    rw [hDevices] at hd
    rw [hDev] at hc hName
    exact ⟨d, hd, c, hc, hAddr c (h.clientsKnown d hd c hc) ▸ hSame, hName⟩
  · intro hUses
    obtain ⟨d, hd, c, hc, hSame, hName⟩ := hUses
    refine ⟨d, hDevices ▸ hd, c, hDev ▸ hc, ?_, hDev ▸ hName⟩
    rwa [hAddr c (h.clientsKnown d hd c hc)]

/-- A quiet change leaves the relation alone. -/
theorem Quiet.uses (hq : Quiet s s') (h : WellFormed s) : uses s' = uses s :=
  h.uses_eq hq.dev hq.gDevices hq.addr

section Sweeps

variable (hw : Calm w) (hRetries : 0 ≤ cfg.gRetries)
include hw hRetries

/-- One round of the sweep over the devices. -/
theorem uses_timeoutOldDevice (h : Sound s) (hd : d ∈ s.gDevices) :
    uses (timeoutOldDevice w cfg d s).2 =
      if Due cfg d (advance w s) ∧ (s.dev d).status = .connecting ∧ (s.dev d).retries < 0 then
        (Edit.dropRight (s.dev d).deviceName).apply (uses s)
      else uses s := by
  have hq := quiet_advance w s
  by_cases hDue : Due cfg d (advance w s)
  · have hNow : Sound (advance w s) := (sound_kept hw hRetries).quiet hq h
    have hRun := (uses_run hw hRetries hNow (o := .timeout d) ⟨hd, hDue⟩).1
    rw [timeoutOldDevice_snd_of_due w cfg hDue, hRun, hq.uses h.wellFormed, Op.edits, advance_dev]
    simp only [hDue, true_and]
    split <;> rfl
  · rw [if_neg fun hGone => hDue hGone.1]
    exact (timeoutOldDevice_of_not_due w cfg hDue).2.uses h.wellFormed

/-- Going through the devices of a client ends its use of them one by one. -/
theorem uses_removeClientFromDevices (c : CliPtr) (ds : List DevPtr) :
    ∀ {s : State}, Sound s → c ∈ s.gClients → (∀ d ∈ ds, d ∈ s.gDevices) →
      (untilFailure (removeClientFromDevice w cfg c) ds s).1 = 0 ∧
      uses (untilFailure (removeClientFromDevice w cfg c) ds s).2 =
        edited ((ds.map fun d => (s.dev d).deviceName).map (.erase (s.cli c).sa.addr))
          (uses s) := by
  induction ds with
  | nil => exact fun _ _ _ => ⟨rfl, rfl⟩
  | cons d rest ih =>
    intro s h hc hKnown
    have hd := hKnown d (List.mem_cons_self ..)
    have ht := touched_removeClientFromDevice w cfg d s c
    have hRet : 0 ≤ (removeClientFromDevice w cfg c d s).1 := by
      have hDone : 0 ≤ (disconnectClientFromDevice w cfg c d s).1 :=
        (disconnect_used hw h hd c).2.2
      unfold removeClientFromDevice
      simp [Int.not_lt.mpr hDone]
    have hNext := uses_run hw hRetries h (o := .expire c d) ⟨hc, hd⟩
    obtain ⟨hDone, hUses⟩ := ih (sound_run hw hRetries h (o := .expire c d) ⟨hc, hd⟩)
      (ht.gClients ▸ hc) fun x hx => ht.gDevices ▸ hKnown x (List.mem_cons_of_mem _ hx)
    rw [untilFailure, unlessFails_of_nonneg hRet]
    refine ⟨hDone, hUses.trans ?_⟩
    have hNames : (rest.map fun x => ((removeClientFromDevice w cfg c d s).2.dev x).deviceName) =
        rest.map fun x => (s.dev x).deviceName :=
      List.map_congr_left fun x _ => ht.deviceName x
    rw [Op.run, hNames, ht.sa c]
    exact congrArg _ hNext.1

/-- One round of the sweep over the clients. -/
theorem uses_timeoutOldClient (h : Sound s) (hc : c ∈ s.gClients) :
    0 ≤ (timeoutOldClient w cfg c s).1 ∧
    uses (timeoutOldClient w cfg c s).2 =
      if Overdue cfg c (advance w s) then (Edit.dropLeft (s.cli c).sa.addr).apply (uses s)
      else uses s := by
  have hq := quiet_advance w s
  by_cases hOver : Overdue cfg c (advance w s)
  · have hNoted : Sound (noteExpired w c s) :=
      (sound_kept hw hRetries).expired (c := c) _ _ ((sound_kept hw hRetries).quiet hq h)
    have hNotedUses : uses (noteExpired w c s) = uses s :=
      h.wellFormed.uses_eq rfl rfl fun _ _ => rfl
    obtain ⟨hDone, hUses⟩ :=
      uses_removeClientFromDevices hw hRetries c s.gDevices hNoted hc fun _ hd => hd
    obtain ⟨-, hClients⟩ := removeClientFromDevices_globals w cfg c s.gDevices (noteExpired w c s)
    have hRemove : removeClientFromAllDevices w cfg c (noteExpired w c s) =
      untilFailure (removeClientFromDevice w cfg c) s.gDevices (noteExpired w c s) := rfl
    rw [timeoutOldClient_of_overdue w cfg hOver, hRemove, unlessFails_of_nonneg hDone.ge,
      dropClient_of_mem (hClients ▸ hc), if_pos hOver]
    refine ⟨le_rfl, ?_⟩
    rw [hNotedUses] at hUses
    refine Eq.trans hUses (edited_erase_all fun name hName => ?_)
    obtain ⟨d, hd, hEq⟩ := mem_uses_name hName
    exact List.mem_map.mpr ⟨d, hd, hEq⟩
  · rw [timeoutOldClient_of_not_overdue w cfg hOver, if_neg hOver]
    exact ⟨le_rfl, hq.uses h.wellFormed⟩

end Sweeps

-- ---------------------------------------------------------------------------
-- Messages
-- ---------------------------------------------------------------------------

theorem mem_deviceNames {name : CStr} :
    name ∈ deviceNames s ↔ ∃ d ∈ s.gDevices, (s.dev d).deviceName = name := List.mem_map

/-- The edits of a message that makes a call are those of the call. -/
theorem edits_of_clientOp {message : CStr} {o : Op} (hOp : clientOp c message s = some o) :
    (clientMessage message).edits (deviceNames s) (s.cli c).sa.addr = o.edits s := by
  unfold clientOp at hOp
  cases hMsg : clientMessage message with
  | up name =>
    rw [hMsg] at hOp
    obtain ⟨d, hGet, rfl⟩ := Option.map_eq_some_iff.mp hOp
    obtain ⟨hd, hName, -⟩ := getDevice_some (Prod.ext hGet rfl)
    have hKnown : name ∈ deviceNames s := mem_deviceNames.mpr ⟨d, hd, hName⟩
    rw [ClientMessage.edits, Op.edits, if_pos (List.contains_iff_mem.mpr hKnown), hName]
  | down name =>
    rw [hMsg] at hOp
    obtain ⟨d, hGet, rfl⟩ := Option.map_eq_some_iff.mp hOp
    obtain ⟨-, hName, -⟩ := getDevice_some (Prod.ext hGet rfl)
    rw [ClientMessage.edits, Op.edits, hName]
  | forceDown name =>
    rw [hMsg] at hOp
    obtain ⟨d, hGet, rfl⟩ := Option.map_eq_some_iff.mp hOp
    obtain ⟨-, hName, -⟩ := getDevice_some (Prod.ext hGet rfl)
    rw [ClientMessage.edits, Op.edits, hName]
  | _ => simp [hMsg] at hOp

/-- A notice that leads to a call edits the relation as the call does. -/
theorem edits_of_peerOp {message : CStr} {o : Op} (hOp : peerOp message s = some o) :
    (peerMessage message).edits = o.edits s := by
  unfold peerOp at hOp
  cases hMsg : peerMessage message with
  | isup name =>
    rw [hMsg] at hOp
    obtain ⟨d, -, rfl⟩ := Option.map_eq_some_iff.mp hOp
    rfl
  | isdown name =>
    rw [hMsg] at hOp
    obtain ⟨d, hGet, rfl⟩ := Option.map_eq_some_iff.mp hOp
    obtain ⟨-, hName, -⟩ := getDevice_some (Prod.ext hGet rfl)
    rw [PeerMessage.edits, Op.edits, hName]
  | unknown => simp [hMsg] at hOp

/-- A name that no device has is used by nobody. -/
theorem not_mem_uses_of_getDevice {name : CStr} (h : (getDevice s.gDevices name s).1 = none)
    (a : Nat) : (a, name) ∉ uses s := by
  intro hUses
  obtain ⟨d, hd, hName⟩ := mem_uses_name hUses
  exact (getDevice_none (Prod.ext h rfl)).1 d hd hName

/-- A message that makes no call changes no interest. -/
theorem edits_of_no_clientOp {message : CStr} (h : Sound s) (hc : c ∈ s.gClients)
    (hOp : clientOp c message s = none) :
    edited ((clientMessage message).edits (deviceNames s) (s.cli c).sa.addr) (uses s) = uses s := by
  unfold clientOp at hOp
  cases hMsg : clientMessage message with
  | up name =>
    rw [hMsg] at hOp
    have hNone := getDevice_none (Prod.ext (Option.map_eq_none_iff.mp hOp) rfl)
    have hUnknown : name ∉ deviceNames s := by
      intro hKnown
      obtain ⟨d, hd, hName⟩ := mem_deviceNames.mp hKnown
      exact hNone.1 d hd hName
    rw [ClientMessage.edits, if_neg (mt List.contains_iff_mem.mp hUnknown), edited_nil]
  | down name =>
    rw [hMsg] at hOp
    have hNone := getDevice_none (Prod.ext (Option.map_eq_none_iff.mp hOp) rfl)
    -- the lists agree, so a name the client does not list is not in use by it
    refine apply_erase_of_not_mem ?_
    intro hUses
    obtain ⟨d, hd, c', hc', hAddr, hName⟩ := hUses
    obtain rfl := h.wellFormed.client_ext (h.wellFormed.clientsKnown d hd c' hc') hc hAddr
    exact hNone.1 d ((h.mirror d hd c' hc (by simp)).mp hc') hName
  | forceDown name =>
    rw [hMsg] at hOp
    exact apply_dropRight_of_not_mem (not_mem_uses_of_getDevice (Option.map_eq_none_iff.mp hOp))
  | _ => rfl

/-- A notice that leads to no call has nothing to edit. -/
theorem edits_of_no_peerOp {message : CStr} (hOp : peerOp message s = none) :
    edited (peerMessage message).edits (uses s) = uses s := by
  unfold peerOp at hOp
  cases hMsg : peerMessage message with
  | isdown name =>
    rw [hMsg] at hOp
    exact apply_dropRight_of_not_mem (not_mem_uses_of_getDevice (Option.map_eq_none_iff.mp hOp))
  | _ => rfl

/-- **A request edits the relation as its message says.** -/
theorem uses_clientRequest (hw : Calm w) (hRetries : 0 ≤ cfg.gRetries) (h : Sound s)
    (hc : c ∈ s.gClients) (message : CStr) :
    uses (clientRequest w cfg c message s).2 =
      edited ((clientMessage message).edits (deviceNames s) (s.cli c).sa.addr) (uses s) := by
  cases hOp : clientOp c message s with
  | none =>
    rw [edits_of_no_clientOp h hc hOp]
    exact (clientRequest_of_none w cfg hOp).uses h.wellFormed
  | some o =>
    rw [edits_of_clientOp hOp, clientRequest_of_op w cfg hOp, unlessFails_done]
    exact (uses_run hw hRetries h (Kept.applies_of_clientOp h.wellFormed hc hOp)).1

/-- So does the datagram that brings it, from a known address or a new one. -/
theorem uses_processClient (hw : Calm w) (hRetries : 0 ≤ cfg.gRetries) (h : Sound s)
    (cli : SockAddr) (message : CStr) :
    uses (processClient w cfg cli message s).2 =
      edited ((clientMessage message).edits (deviceNames s) cli.addr) (uses s) := by
  have hRest : ∀ {c : CliPtr} {s' : State}, Sound s' → s'.dev = s.dev →
      s'.gDevices = s.gDevices → uses s' = uses s → c ∈ s'.gClients →
      (s'.cli c).sa.addr = cli.addr →
      uses (clientRequest w cfg c message (updateClient w c cli s')).2 =
        edited ((clientMessage message).edits (deviceNames s) cli.addr) (uses s) := by
    intro c s' h' hDev hDevices hUses hc hAddr
    have hq : Quiet s' (updateClient w c cli s') := quiet_updateClient w hAddr
    have hRequest := uses_clientRequest hw hRetries ((sound_kept hw hRetries).quiet hq h')
      (hq.gClients ▸ hc) message
    have hNames : deviceNames (updateClient w c cli s') = deviceNames s := by
      rw [deviceNames, deviceNames, hq.dev.trans hDev, hq.gDevices.trans hDevices]
    rw [hq.addr c hc, hAddr, hq.uses h'.wellFormed, hUses, hNames] at hRequest
    exact hRequest
  unfold processClient
  rcases knownClient_cases w cli s with ⟨c, hEq, hc, hAddr⟩ | ⟨c, s', hEq, hj, hSa, -, -⟩ |
    ⟨s', -, -, k, -, -, hNone⟩
  · rw [hEq]
    exact hRest h rfl rfl rfl hc hAddr
  · rw [hEq]
    have hc : c ∈ s'.gClients := by simp [hj.gClients]
    refine hRest ((sound_kept hw hRetries).joined hj h) hj.dev hj.gDevices ?_ hc
      (congrArg SockAddr.addr hSa)
    exact h.wellFormed.uses_eq hj.dev hj.gDevices fun c' hc' => by rw [hj.old c' hc']
  · exact absurd (hw.memory k) (by simp [hNone])

/-- **A notice of the peer edits the relation as its message says.** -/
theorem uses_processPeer (hw : Calm w) (hRetries : 0 ≤ cfg.gRetries) (h : Sound s)
    (message : CStr) :
    uses (processPeer w cfg message s).2 = edited (peerMessage message).edits (uses s) := by
  cases hOp : peerOp message s with
  | none =>
    rw [edits_of_no_peerOp hOp]
    exact (processPeer_of_none w cfg hOp).uses h.wellFormed
  | some o =>
    rw [edits_of_peerOp hOp, processPeer_of_op w cfg hOp]
    exact (uses_run hw hRetries h (Kept.applies_of_peerOp hOp)).1

-- ---------------------------------------------------------------------------
-- The server as it starts
-- ---------------------------------------------------------------------------

/-- A server that has just started has no clients, and every device is down. -/
theorem Booted.sound (h : Booted s) : Sound s where
  wellFormed := h.wellFormed
  mirror d _ c hc := by simp [h.gClients] at hc
  freed d hd _ := h.clients d hd
  used d hd := used_of_nobody (Or.inl (h.status d hd)) (h.clients d hd)

/-- Nobody is interested in anything when the server starts. -/
theorem Booted.uses (h : Booted s) : uses s = ∅ := by
  refine Set.eq_empty_of_forall_notMem fun p hp => ?_
  obtain ⟨d, hd, c, hc, -⟩ := hp
  rw [h.clients d hd] at hc
  exact absurd hc List.not_mem_nil

end LinkControl
