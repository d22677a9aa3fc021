import LinkControl.Server.Touched

/-!
# Link server — well-formed lists

`WellFormed` is what the two global lists and the two families of membership lists
satisfy whatever the commands do: keys are distinct, no list has an entry twice,
and every entry points to a client or device that is still listed.

It is kept by quiet changes, by a new client (`Joined`), by any change confined to
one device (`Touched`), by noting a client and a device at each other, and by
dropping a client that no device lists.
-/

namespace LinkControl

open ReturnCode

/-- A new client, with an address of its own and no device, ended up at the end of
`g_clients`. -/
structure Joined (c : CliPtr) (s s' : State) : Prop where
  dev : s'.dev = s.dev
  gDevices : s'.gDevices = s.gDevices
  gClients : s'.gClients = s.gClients ++ [c]
  fresh : c ∉ s.gClients
  trace : s'.trace = s.trace
  clock : s.clock ≤ s'.clock
  old : ∀ c' ∈ s.gClients, s'.cli c' = s.cli c'
  addr : ∀ c' ∈ s.gClients, (s.cli c').sa.addr ≠ (s'.cli c).sa.addr
  devices : (s'.cli c).devicesConnected = []

/-- The lists are free of duplicates and dangling entries. -/
structure WellFormed (s : State) : Prop where
  addrs : (s.gClients.map fun c => (s.cli c).sa.addr).Nodup
  names : (s.gDevices.map fun d => (s.dev d).deviceName).Nodup
  clientsNodup : ∀ d ∈ s.gDevices, (s.dev d).clientsConnected.Nodup
  devicesNodup : ∀ c ∈ s.gClients, (s.cli c).devicesConnected.Nodup
  clientsKnown : ∀ d ∈ s.gDevices, ∀ c ∈ (s.dev d).clientsConnected, c ∈ s.gClients
  devicesKnown : ∀ c ∈ s.gClients, ∀ d ∈ (s.cli c).devicesConnected, d ∈ s.gDevices

namespace WellFormed

variable {s s' : State} {c c' : CliPtr} {d d' : DevPtr}

theorem clients_nodup (h : WellFormed s) : s.gClients.Nodup := h.addrs.of_map _

/-- Clients are told apart by their address. -/
theorem client_ext (h : WellFormed s) (hc : c ∈ s.gClients) (hc' : c' ∈ s.gClients)
    (hAddr : (s.cli c).sa.addr = (s.cli c').sa.addr) : c = c' :=
  List.inj_on_of_nodup_map h.addrs hc hc' hAddr

/-- Devices are told apart by their name. -/
theorem device_ext (h : WellFormed s) (hd : d ∈ s.gDevices) (hd' : d' ∈ s.gDevices)
    (hName : (s.dev d).deviceName = (s.dev d').deviceName) : d = d' :=
  List.inj_on_of_nodup_map h.names hd hd' hName

theorem quiet (h : WellFormed s) (hq : Quiet s s') : WellFormed s' where
  addrs := by
    rw [hq.gClients, List.map_congr_left hq.addr]
    exact h.addrs
  names := by
    rw [hq.gDevices, hq.dev]
    exact h.names
  clientsNodup := by
    rw [hq.gDevices, hq.dev]
    exact h.clientsNodup
  devicesNodup c hc := by
    rw [hq.gClients] at hc
    rw [hq.devices c hc]
    exact h.devicesNodup c hc
  clientsKnown := by
    rw [hq.gDevices, hq.dev, hq.gClients]
    exact h.clientsKnown
  devicesKnown c hc := by
    rw [hq.gClients] at hc
    rw [hq.devices c hc, hq.gDevices]
    exact h.devicesKnown c hc

theorem joined (h : WellFormed s) (hj : Joined c s s') : WellFormed s' where
  addrs := by
    have hOld : s.gClients.map (fun x => (s'.cli x).sa.addr) =
        s.gClients.map fun x => (s.cli x).sa.addr :=
      List.map_congr_left fun x hx => by rw [hj.old x hx]
    rw [hj.gClients, List.map_append, hOld]
    refine h.addrs.append (List.nodup_singleton _) ?_
    intro a ha ha'
    obtain ⟨x, hx, rfl⟩ := List.mem_map.mp ha
    exact hj.addr x hx (by simpa using ha')
  names := by
    rw [hj.gDevices, hj.dev]
    exact h.names
  clientsNodup := by
    rw [hj.gDevices, hj.dev]
    exact h.clientsNodup
  devicesNodup x hx := by
    rw [hj.gClients, List.mem_append, List.mem_singleton] at hx
    rcases hx with hx | rfl
    · rw [hj.old x hx]
      exact h.devicesNodup x hx
    · rw [hj.devices]
      exact List.nodup_nil
  clientsKnown := by
    rw [hj.gDevices, hj.dev, hj.gClients]
    exact fun d hd x hx => List.mem_append_left _ (h.clientsKnown d hd x hx)
  devicesKnown x hx := by
    rw [hj.gClients, List.mem_append, List.mem_singleton] at hx
    rcases hx with hx | rfl
    · rw [hj.old x hx, hj.gDevices]
      exact h.devicesKnown x hx
    · rw [hj.devices]
      exact fun d hd => absurd hd List.not_mem_nil

theorem touched (h : WellFormed s) (ht : Touched d s s') : WellFormed s' where
  addrs := by
    rw [ht.gClients, List.map_congr_left fun c _ => congrArg SockAddr.addr (ht.sa c)]
    exact h.addrs
  names := by
    rw [ht.gDevices, List.map_congr_left fun d' _ => ht.deviceName d']
    exact h.names
  clientsNodup d' hd' := (h.clientsNodup d' (ht.gDevices ▸ hd')).sublist (ht.clientsConnected d')
  devicesNodup c hc := (h.devicesNodup c (ht.gClients ▸ hc)).sublist (ht.devices c)
  clientsKnown d' hd' c hc := ht.gClients ▸
    h.clientsKnown d' (ht.gDevices ▸ hd') c ((ht.clientsConnected d').subset hc)
  devicesKnown c hc d' hd' := ht.gDevices ▸
    h.devicesKnown c (ht.gClients ▸ hc) d' ((ht.devices c).subset hd')

/-- A listed client can be noted at a listed device that does not have it. -/
theorem noteClient (h : WellFormed s) (hc : c ∈ s.gClients)
    (hNew : c ∉ (s.dev d).clientsConnected) :
    WellFormed (s.setClientsConnected d ((s.dev d).clientsConnected ++ [c])) where
  addrs := h.addrs
  names := by
    refine (List.map_congr_left fun d' _ => ?_).symm ▸ h.names
    rcases eq_or_ne d' d with rfl | hd <;> simp [*]
  clientsNodup d' hd' := by
    rcases eq_or_ne d' d with rfl | hd
    · simpa using (h.clientsNodup d' hd').append (List.nodup_singleton c)
        (List.disjoint_singleton.mpr hNew)
    · simpa [hd] using h.clientsNodup d' hd'
  devicesNodup := h.devicesNodup
  clientsKnown d' hd' x hx := by
    rcases eq_or_ne d' d with rfl | hd
    · rw [State.setClientsConnected_dev, Function.update_self, List.mem_append,
        List.mem_singleton] at hx
      rcases hx with hx | rfl
      · exact h.clientsKnown d' hd' x hx
      · exact hc
    · rw [State.setClientsConnected_dev, Function.update_of_ne hd] at hx
      exact h.clientsKnown d' hd' x hx
  devicesKnown := h.devicesKnown

/-- A listed device can be noted at a listed client that does not have it. -/
theorem noteDevice (h : WellFormed s) (hd : d ∈ s.gDevices)
    (hNew : d ∉ (s.cli c).devicesConnected) :
    WellFormed (s.setDevicesConnected c ((s.cli c).devicesConnected ++ [d])) where
  addrs := by
    refine (List.map_congr_left fun c' _ => ?_).symm ▸ h.addrs
    rcases eq_or_ne c' c with rfl | hc <;> simp [*]
  names := h.names
  clientsNodup := h.clientsNodup
  devicesNodup c' hc' := by
    rcases eq_or_ne c' c with rfl | hc
    · simpa using (h.devicesNodup c' hc').append (List.nodup_singleton d)
        (List.disjoint_singleton.mpr hNew)
    · simpa [hc] using h.devicesNodup c' hc'
  clientsKnown := h.clientsKnown
  devicesKnown c' hc' x hx := by
    rcases eq_or_ne c' c with rfl | hc
    · rw [State.setDevicesConnected_cli, Function.update_self, List.mem_append,
        List.mem_singleton] at hx
      rcases hx with hx | rfl
      · exact h.devicesKnown c' hc' x hx
      · exact hd
    · rw [State.setDevicesConnected_cli, Function.update_of_ne hc] at hx
      exact h.devicesKnown c' hc' x hx

/-- A client that no device lists can be dropped. -/
theorem dropped (h : WellFormed s)
    (hGone : ∀ d ∈ s.gDevices, c ∉ (s.dev d).clientsConnected) :
    WellFormed { s with gClients := s.gClients.erase c } where
  addrs := h.addrs.sublist (List.erase_sublist.map _)
  names := h.names
  clientsNodup := h.clientsNodup
  devicesNodup x hx := h.devicesNodup x (List.mem_of_mem_erase hx)
  clientsKnown d hd x hx :=
    (List.mem_erase_of_ne (by rintro rfl; exact hGone d hd hx)).mpr (h.clientsKnown d hd x hx)
  devicesKnown x hx := h.devicesKnown x (List.mem_of_mem_erase hx)

end WellFormed

-- ---------------------------------------------------------------------------
-- Noting a client and a device at each other
-- ---------------------------------------------------------------------------

section Note

variable (w : World) (cfg : Config) (c : CliPtr) (d : DevPtr) (s : State)

/-- A cell for a new pointer is allocated and appended, or there is no memory. -/
theorem appendCell_cases {pp : List Nat} {p : Nat} (hNew : p ∉ pp) :
    (w.malloc s.mallocs = none ∧ appendCell w pp p s =
        (none, { s with mallocs := s.mallocs + 1, errno := .enomem })) ∨
    ((w.malloc s.mallocs).isSome ∧ appendCell w pp p s =
        (some (pp ++ [p]), { s with mallocs := s.mallocs + 1 })) := by
  have hCells : p ∉ pp.dropLast := fun h => hNew (List.dropLast_subset _ h)
  unfold appendCell malloc
  cases hm : w.malloc s.mallocs with
  | none => exact Or.inl ⟨rfl, rfl⟩
  | some q => exact Or.inr ⟨rfl, by simp [hCells]⟩

/-- The three outcomes of noting a device at a client: it is there already, there is
no memory, or it is appended. -/
theorem noteDevice_cases :
    ((∃ d' ∈ (s.cli c).devicesConnected, (s.dev d').deviceName = (s.dev d).deviceName) ∧
      noteDevice w c d s = (0, s.setErrno .ealready)) ∨
    ((∀ d' ∈ (s.cli c).devicesConnected, (s.dev d').deviceName ≠ (s.dev d).deviceName) ∧
      w.malloc s.mallocs = none ∧
      noteDevice w c d s = (-1, { s with mallocs := s.mallocs + 1, errno := .enomem })) ∨
    ((∀ d' ∈ (s.cli c).devicesConnected, (s.dev d').deviceName ≠ (s.dev d).deviceName) ∧
      (w.malloc s.mallocs).isSome ∧
      noteDevice w c d s = (0, State.setDevicesConnected
        { s with mallocs := s.mallocs + 1, errno := .enodev } c
        ((s.cli c).devicesConnected ++ [d]))) := by
  unfold noteDevice addDevice
  rcases hGet : getDevice (s.cli c).devicesConnected (s.dev d).deviceName s with ⟨_ | d', s'⟩
  · obtain ⟨hNone, rfl⟩ := getDevice_none hGet
    have hNew : d ∉ (s.cli c).devicesConnected := fun hd => hNone d hd rfl
    rcases appendCell_cases w (s.setErrno .enodev) hNew with ⟨hm, hEq⟩ | ⟨hm, hEq⟩
    · exact Or.inr (Or.inl ⟨hNone, hm, by dsimp only; rw [hEq]; rfl⟩)
    · exact Or.inr (Or.inr ⟨hNone, hm, by dsimp only; rw [hEq]; rfl⟩)
  · obtain ⟨hd', hName, rfl⟩ := getDevice_some hGet
    exact Or.inl ⟨⟨d', hd', hName⟩, by simp⟩

/-- The three outcomes of noting a client at a device. -/
theorem noteClient_cases :
    ((∃ c' ∈ (s.dev d).clientsConnected, (s.cli c').sa.addr = (s.cli c).sa.addr) ∧
      noteClient w c d s = noteDevice w c d (s.setErrno .ealready)) ∨
    ((∀ c' ∈ (s.dev d).clientsConnected, (s.cli c').sa.addr ≠ (s.cli c).sa.addr) ∧
      w.malloc s.mallocs = none ∧
      noteClient w c d s = (-1, { s with mallocs := s.mallocs + 1, errno := .enomem })) ∨
    ((∀ c' ∈ (s.dev d).clientsConnected, (s.cli c').sa.addr ≠ (s.cli c).sa.addr) ∧
      (w.malloc s.mallocs).isSome ∧
      noteClient w c d s = noteDevice w c d (State.setClientsConnected
        { s with mallocs := s.mallocs + 1, errno := .enodev } d
        ((s.dev d).clientsConnected ++ [c]))) := by
  unfold noteClient addClient
  rcases hGet : getClient (s.dev d).clientsConnected (s.cli c).sa.addr s with ⟨_ | c', s'⟩
  · obtain ⟨hNone, rfl⟩ := getClient_none hGet
    have hNew : c ∉ (s.dev d).clientsConnected := fun hc => hNone c hc rfl
    rcases appendCell_cases w (s.setErrno .enodev) hNew with ⟨hm, hEq⟩ | ⟨hm, hEq⟩
    · exact Or.inr (Or.inl ⟨hNone, hm, by dsimp only; rw [hEq]; rfl⟩)
    · exact Or.inr (Or.inr ⟨hNone, hm, by dsimp only; rw [hEq]; rfl⟩)
  · obtain ⟨hc', hAddr, rfl⟩ := getClient_some hGet
    exact Or.inl ⟨⟨c', hc', hAddr⟩, by simp⟩

end Note

end LinkControl
