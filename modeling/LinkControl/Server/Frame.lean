import LinkControl.Server.Messages
import Mathlib.Order.Lattice
import Mathlib.Data.Int.Order.Basic

/-!
# Link server — quiet changes and forgotten devices

The lemmas about single list functions, and two facts later modules use in place of
their definitions:

* `Quiet s s'` — no list, device or trace entry changed between `s` and `s'`. This
  is all that look-ups, allocations, replies and the passing of time do.
* `wiped d s` — the state after both halves of the clean-up in `link_force_down`:
  its fields, and (`wiped_cli`) the lists of the clients.
-/

namespace LinkControl

open ReturnCode

-- ---------------------------------------------------------------------------
-- List cells and look-ups
-- ---------------------------------------------------------------------------

/-- Removing a cell is erasing its payload, where it is there. -/
theorem rmCell_eq (p : Nat) (pp : List Nat) :
    rmCell p pp = if p ∈ pp then some (pp.erase p) else none := by
  induction pp with
  | nil => rfl
  | cons q rest ih =>
    rw [rmCell, ih]
    by_cases hq : q = p
    · simp [hq]
    · by_cases hp : p ∈ rest <;> simp [hq, hp, Ne.symm hq]

/-- Freeing a list to its end leaves nothing of it. -/
@[simp] theorem freeCells_eq_zero (pp : List Nat) : freeCells pp = 0 := by
  induction pp with
  | nil => rfl
  | cons p rest ih => simp [freeCells, rmCell_eq, ih]

/-- A device that is found is listed and has the name. -/
theorem getDevice_some {pp : List DevPtr} {name : CStr} {s s' : State} {d : DevPtr}
    (h : getDevice pp name s = (some d, s')) :
    d ∈ pp ∧ (s.dev d).deviceName = name ∧ s' = s := by
  unfold getDevice at h
  split at h
  · rename_i d' hFind
    obtain ⟨rfl, rfl⟩ : d' = d ∧ s = s' := by simpa using h
    exact ⟨List.mem_of_find?_eq_some hFind, by simpa using List.find?_some hFind, rfl⟩
  · simp at h

/-- A device that is not found is nowhere, and `errno` says so. -/
theorem getDevice_none {pp : List DevPtr} {name : CStr} {s s' : State}
    (h : getDevice pp name s = (none, s')) :
    (∀ d ∈ pp, (s.dev d).deviceName ≠ name) ∧ s' = s.setErrno .enodev := by
  unfold getDevice at h
  split at h
  · simp at h
  · rename_i hFind
    exact ⟨by simpa using hFind, by simpa using h.symm⟩

/-- A client that is found is listed and has the address. -/
theorem getClient_some {pp : List CliPtr} {addr : Nat} {s s' : State} {c : CliPtr}
    (h : getClient pp addr s = (some c, s')) :
    c ∈ pp ∧ (s.cli c).sa.addr = addr ∧ s' = s := by
  unfold getClient at h
  split at h
  · rename_i c' hFind
    obtain ⟨rfl, rfl⟩ : c' = c ∧ s = s' := by simpa using h
    exact ⟨List.mem_of_find?_eq_some hFind, by simpa using List.find?_some hFind, rfl⟩
  · simp at h

/-- A client that is not found is nowhere, and `errno` says so. -/
theorem getClient_none {pp : List CliPtr} {addr : Nat} {s s' : State}
    (h : getClient pp addr s = (none, s')) :
    (∀ c ∈ pp, (s.cli c).sa.addr ≠ addr) ∧ s' = s.setErrno .enodev := by
  unfold getClient at h
  split at h
  · simp at h
  · rename_i hFind
    exact ⟨by simpa using hFind, by simpa using h.symm⟩

/-- A block that is none of those in use. -/
theorem fresh_not_mem (used : List Nat) (p : Nat) :
    (if p ∈ used then used.foldr max 0 + 1 else p) ∉ used := by
  have hBound : ∀ l : List Nat, ∀ q ∈ l, q ≤ l.foldr max 0 := by
    intro l
    induction l with
    | nil => simp
    | cons x rest ih =>
      intro q hq
      rcases List.mem_cons.mp hq with rfl | hq
      · exact le_max_left _ _
      · exact (ih q hq).trans (le_max_right _ _)
  split
  · intro hMem
    have := hBound _ _ hMem
    omega
  · assumption

/-- The block of a new client is not one of those in use. -/
theorem freshClient_not_mem (s : State) (p : CliPtr) : freshClient s p ∉ s.gClients :=
  fresh_not_mem s.gClients p

-- ---------------------------------------------------------------------------
-- Quiet changes
-- ---------------------------------------------------------------------------

/-- Nothing that the lists, the devices or the trace hold has changed. -/
structure Quiet (s s' : State) : Prop where
  dev : s'.dev = s.dev
  gDevices : s'.gDevices = s.gDevices
  gClients : s'.gClients = s.gClients
  trace : s'.trace = s.trace
  clock : s.clock ≤ s'.clock
  addr : ∀ c ∈ s.gClients, (s'.cli c).sa.addr = (s.cli c).sa.addr
  devices : ∀ c ∈ s.gClients, (s'.cli c).devicesConnected = (s.cli c).devicesConnected

namespace Quiet

theorem refl (s : State) : Quiet s s :=
  ⟨rfl, rfl, rfl, rfl, le_rfl, fun _ _ => rfl, fun _ _ => rfl⟩

theorem trans {s s' s'' : State} (h : Quiet s s') (h' : Quiet s' s'') : Quiet s s'' where
  dev := h'.dev.trans h.dev
  gDevices := h'.gDevices.trans h.gDevices
  gClients := h'.gClients.trans h.gClients
  trace := h'.trace.trans h.trace
  clock := h.clock.trans h'.clock
  addr c hc := (h'.addr c (h.gClients ▸ hc)).trans (h.addr c hc)
  devices c hc := (h'.devices c (h.gClients ▸ hc)).trans (h.devices c hc)

end Quiet

theorem quiet_setErrno (s : State) (e : Errno) : Quiet s (s.setErrno e) :=
  { Quiet.refl s with }

theorem quiet_advance (w : World) (s : State) : Quiet s (advance w s) :=
  { Quiet.refl s with clock := by rw [advance_clock]; omega }

/-- An allocation touches no list and no device. -/
theorem quiet_malloc (w : World) (s : State) : Quiet s (malloc w s).2 := by
  unfold malloc
  split <;> exact { Quiet.refl s with }

/-- Neither does a reply, also when it cannot be sent. -/
theorem quiet_sendReply (w : World) (c : CliPtr) (text : CStr) (s : State) :
    Quiet s (sendReply w c text s).2 := by
  unfold sendReply
  split <;> exact { Quiet.refl s with }

theorem quiet_getDevice (pp : List DevPtr) (name : CStr) (s : State) :
    Quiet s (getDevice pp name s).2 := by
  unfold getDevice
  split
  · exact Quiet.refl s
  · exact quiet_setErrno s _

/-- An address that is the client's own is taken down once more. -/
theorem quiet_updateClient (w : World) {c : CliPtr} {cli : SockAddr} {s : State}
    (hAddr : (s.cli c).sa.addr = cli.addr) : Quiet s (updateClient w c cli s) := by
  refine ⟨rfl, rfl, rfl, rfl, (quiet_advance w s).clock, fun c' _ => ?_, fun c' _ => ?_⟩ <;>
    rcases eq_or_ne c' c with rfl | hc <;> simp [*]

theorem quiet_appendDevices (w : World) (ds : List DevPtr) (text : CStr) (s : State) :
    Quiet s (appendDevices w ds text s).2 := by
  induction ds generalizing text s with
  | nil => exact Quiet.refl s
  | cons d rest ih =>
    unfold appendDevices
    split
    · exact { Quiet.refl s with }
    · have hm := quiet_malloc w s
      split <;> rename_i hEq <;> rw [hEq] at hm
      · exact hm
      · exact hm.trans (ih _ _)

theorem quiet_appendNames (w : World) (ds : List DevPtr) (text : CStr) (s : State) :
    Quiet s (appendNames w ds text s).2 := by
  induction ds generalizing text s with
  | nil => exact Quiet.refl s
  | cons d rest ih =>
    unfold appendNames
    have hm := quiet_malloc w s
    split <;> rename_i hEq <;> rw [hEq] at hm
    · exact hm
    · exact hm.trans (ih _ _)

theorem quiet_sendDeviceList (w : World) (c : CliPtr) (s : State) :
    Quiet s (sendDeviceList w c s).2 := by
  unfold sendDeviceList
  have hm := quiet_malloc w s
  split <;> rename_i hEq <;> rw [hEq] at hm
  · exact hm
  · rename_i s₁
    have ha := quiet_appendDevices w s₁.gDevices serverDevices s₁
    split <;> rename_i hEq' <;> rw [hEq'] at ha
    · exact hm.trans ha
    · exact (hm.trans ha).trans (quiet_sendReply w c _ _)

theorem quiet_printDeviceStatus (w : World) (d : DevPtr) (s : State) :
    Quiet s (printDeviceStatus w d s).2 := by
  unfold printDeviceStatus
  have hm := quiet_malloc w s
  split <;> rename_i hEq <;> rw [hEq] at hm
  · exact hm
  · rename_i s₁
    split
    · have ha := (quiet_advance w s₁).trans (quiet_malloc w (advance w s₁))
      dsimp only
      split <;> rename_i hEq' <;> rw [hEq'] at ha <;> exact hm.trans ha
    · exact hm

theorem quiet_sendDeviceStatus (w : World) (c : CliPtr) (d : DevPtr) (s : State) :
    Quiet s (sendDeviceStatus w c d s).2 := by
  unfold sendDeviceStatus
  have hm := quiet_malloc w s
  split <;> rename_i hEq <;> rw [hEq] at hm
  · exact hm
  · rename_i s₁
    have hp := quiet_printDeviceStatus w d s₁
    split <;> rename_i hEq' <;> rw [hEq'] at hp
    · exact hm.trans hp
    · exact (hm.trans hp).trans (quiet_sendReply w c _ _)

theorem quiet_sendClientStatus (w : World) (c : CliPtr) (s : State) :
    Quiet s (sendClientStatus w c s).2 := by
  unfold sendClientStatus
  have hm := quiet_malloc w s
  split <;> rename_i hEq <;> rw [hEq] at hm
  · exact hm
  · rename_i s₁
    split
    · exact hm.trans (quiet_sendReply w c _ _)
    · rename_i d rest _
      have hm' := quiet_malloc w s₁
      split <;> rename_i hEq' <;> rw [hEq'] at hm'
      · exact hm.trans hm'
      · rename_i s₂
        have hn := quiet_appendNames w rest (serverClientStatus ++ (s₂.dev d).deviceName) s₂
        split <;> rename_i hEq'' <;> rw [hEq''] at hn
        · exact (hm.trans hm').trans hn
        · exact ((hm.trans hm').trans hn).trans (quiet_sendReply w c _ _)

-- ---------------------------------------------------------------------------
-- Forgetting a device at the clients
-- ---------------------------------------------------------------------------

/-- Forgetting a device never fails, and all it changes is the one list. -/
theorem forgetDevice_eq (d : DevPtr) (c : CliPtr) (s : State) :
    ∃ e, forgetDevice d c s = (0, { s with
      errno := e
      cli := Function.update s.cli c
        { s.cli c with devicesConnected := (s.cli c).devicesConnected.erase d } }) := by
  unfold forgetDevice rmDevice
  rw [rmCell_eq]
  by_cases hd : d ∈ (s.cli c).devicesConnected
  · exact ⟨s.errno, by simp [hd, State.setDevicesConnected]⟩
  · refine ⟨.enodev, ?_⟩
    have hSame : Function.update s.cli c { s.cli c with
        devicesConnected := (s.cli c).devicesConnected.erase d } = s.cli := by
      rw [List.erase_of_not_mem hd]
      exact Function.update_eq_self c s.cli
    simp [hd, hSame, State.setErrno]

@[simp] theorem forgetDevice_fst (d : DevPtr) (c : CliPtr) (s : State) :
    (forgetDevice d c s).1 = 0 := by
  obtain ⟨e, h⟩ := forgetDevice_eq d c s
  rw [h]

/-- The loop over the clients never fails, and all it changes are their lists. -/
theorem forgetDevices_eq (d : DevPtr) (cs : List CliPtr) (s : State) :
    ∃ e f, untilFailure (forgetDevice d) cs s = (0, { s with errno := e, cli := f }) := by
  induction cs generalizing s with
  | nil => exact ⟨s.errno, s.cli, rfl⟩
  | cons c rest ih =>
    obtain ⟨e, h⟩ := forgetDevice_eq d c s
    rw [untilFailure, h, unlessFails_of_nonneg le_rfl]
    obtain ⟨e', f, h'⟩ := ih _
    exact ⟨e', f, h'⟩

/-- A walk over clients takes the device off the lists of those it comes to. -/
theorem forgetDevices_cli (d : DevPtr) :
    ∀ {cs : List CliPtr} (s : State), cs.Nodup → ∀ c,
      (untilFailure (forgetDevice d) cs s).2.cli c =
        if c ∈ cs then { s.cli c with devicesConnected := (s.cli c).devicesConnected.erase d }
        else s.cli c := by
  intro cs
  induction cs with
  | nil => intro s _ c; rfl
  | cons x rest ih =>
    intro s hNodup c
    obtain ⟨hx, hRest⟩ := List.nodup_cons.mp hNodup
    obtain ⟨e, h⟩ := forgetDevice_eq d x s
    rw [untilFailure, h, unlessFails_of_nonneg le_rfl, ih _ hRest c]
    rcases eq_or_ne c x with rfl | hcx
    · simp [hx]
    · simp [hcx]

/-- The lists after a force-down command that returned 0: no client is noted at the
device, and the device is noted at no client. -/
def wiped (d : DevPtr) (s : State) : State :=
  (removeDeviceFromAllClients d (s.setClientsConnected d [])).2

/-- The walk over all clients never fails: a client that does not have the device is passed
over. -/
theorem removeDeviceFromAllClients_fst (d : DevPtr) (s : State) :
    (removeDeviceFromAllClients d s).1 = 0 := by
  obtain ⟨e, f, h⟩ := forgetDevices_eq d s.gClients s
  rw [removeDeviceFromAllClients, h]

/-- Wiping a device touches its client list, the device lists of the clients and `errno`. -/
theorem wiped_eq (d : DevPtr) (s : State) :
    ∃ e f, wiped d s = { s.setClientsConnected d [] with errno := e, cli := f } := by
  obtain ⟨e, f, h⟩ := forgetDevices_eq d s.gClients (s.setClientsConnected d [])
  exact ⟨e, f, congrArg Prod.snd h⟩

section Wiped

variable (d : DevPtr) (s : State)

@[simp] theorem wiped_dev : (wiped d s).dev = (s.setClientsConnected d []).dev := by
  obtain ⟨e, f, h⟩ := wiped_eq d s; rw [h]

@[simp] theorem wiped_clock : (wiped d s).clock = s.clock := by
  obtain ⟨e, f, h⟩ := wiped_eq d s; rw [h]; rfl

@[simp] theorem wiped_trace : (wiped d s).trace = s.trace := by
  obtain ⟨e, f, h⟩ := wiped_eq d s; rw [h]; rfl

@[simp] theorem wiped_commands : (wiped d s).commands = s.commands := by
  obtain ⟨e, f, h⟩ := wiped_eq d s; rw [h]; rfl

/-- Every client that is listed forgets the device. -/
theorem wiped_cli {s : State} (hNodup : s.gClients.Nodup) (c : CliPtr) :
    (wiped d s).cli c =
      if c ∈ s.gClients then
        { s.cli c with devicesConnected := (s.cli c).devicesConnected.erase d }
      else s.cli c :=
  forgetDevices_cli d (s.setClientsConnected d []) hNodup c

end Wiped

end LinkControl
