import LinkControl.LinuxClient.RoundTrip

/-!
# Linux client — servers are independent

What the client holds for one server (`held`) should be what that server's own datagrams
make of it (`tableAfter`). Every datagram changes what is held for its sender in this way
(`processCommand_step`), and nothing that is held for another server, with one exception:
`rm_server` forgets all servers when the one it is to remove comes first in the list
(`Cuts`). `servers_independent` is about all runs without this step.
-/

namespace LinkControl.LinuxClient

open CString Keyed

/-- A datagram: where it comes from, and its text. -/
abbrev Datagram := SockAddr × CStr

/-- The text of a broadcast. -/
def WellFormedText (text : CStr) : Prop :=
  text = broadcastInit ∨ text = broadcastQuit ∨
    ∃ rs : List Report, (∀ r ∈ rs, Sendable r.name) ∧ text = broadcastStatus ++ reportText rs

/-- The listener takes a datagram; -1 is reported and ignored. -/
def listen (w : Surroundings) (d : Datagram) (s : Option State) : Option State :=
  s.bind fun s => (processCommand w d.1 d.2 s).map Prod.snd

/-- What is held for an address: nothing, if there is no server of this address. -/
def held (addr : Nat) (s : State) : Option (List Device) :=
  (getServer addr s).map fun p => (s.srv p).devicesControlled

/-- What a text makes of the table that is held for its sender, on its own. -/
def tableAfter (w : Surroundings) (text : CStr) (table : Option (List Device)) :
    Option (List Device) :=
  if strncmpEq text broadcastInit broadcastInit.length then some []
  else if strncmpEq text broadcastQuit broadcastQuit.length then none
  else (processStatusMessage w (text.drop broadcastStatus.length) (table.getD []) 0).map (·.2.1)

/-- The first server of the list says that it quits, while others are known. -/
def Cuts (d : Datagram) (s : State) : Prop :=
  strncmpEq d.2 broadcastQuit broadcastQuit.length ∧ s.gServers.tail ≠ [] ∧
    ∀ root ∈ s.gServers.head?, (s.srv root).sa.addr = d.1.addr

instance (d : Datagram) (s : State) : Decidable (Cuts d s) := inferInstanceAs (Decidable (_ ∧ _))

/-- A step that loses no server. -/
def Spares (d : Datagram) : Option State → Prop
  | none => True
  | some s => ¬ Cuts d s

instance (d : Datagram) : ∀ s, Decidable (Spares d s)
  | none => isTrue trivial
  | some s => inferInstanceAs (Decidable (¬ Cuts d s))

/-- Servers are told apart by their address, and every device has a name. -/
structure Orderly (s : State) : Prop where
  addrs : (s.gServers.map fun p => (s.srv p).sa.addr).Nodup
  named : ∀ p ∈ s.gServers, Named (s.srv p).devicesControlled

variable {w : Surroundings} {s s' : State} {p : SrvPtr} {a : Nat}

-- ---------------------------------------------------------------------------
-- What is held
-- ---------------------------------------------------------------------------

theorem held_of_mem (h : Orderly s) (hp : p ∈ s.gServers) :
    held (s.srv p).sa.addr s = some (s.srv p).devicesControlled := by
  unfold held getServer
  rcases hFind : s.gServers.find? fun q => (s.srv q).sa.addr == (s.srv p).sa.addr with _ | q
  · simpa using List.find?_eq_none.mp hFind p hp
  · have hAddr : (s.srv q).sa.addr = (s.srv p).sa.addr := by simpa using List.find?_some hFind
    rw [List.inj_on_of_nodup_map h.addrs (List.mem_of_find?_eq_some hFind) hp hAddr]
    rfl

theorem held_eq_none : held a s = none ↔ ∀ p ∈ s.gServers, (s.srv p).sa.addr ≠ a := by
  simp [held, getServer]

/-- Servers of the same address, with the same devices. -/
theorem held_congr (hOrderly : Orderly s) (hOrderly' : Orderly s')
    (hSame : ∀ p, p ∈ s'.gServers ∧ (s'.srv p).sa.addr = a ↔
      p ∈ s.gServers ∧ (s.srv p).sa.addr = a)
    (hDevices : ∀ p ∈ s.gServers, (s.srv p).sa.addr = a →
      (s'.srv p).devicesControlled = (s.srv p).devicesControlled) : held a s' = held a s := by
  cases hHeld : held a s with
  | none =>
    rw [held_eq_none] at hHeld ⊢
    intro p hp hAddr
    obtain ⟨hMem, hOld⟩ := (hSame p).mp ⟨hp, hAddr⟩
    exact hHeld p hMem hOld
  | some table =>
    obtain ⟨p, hp, hAddr⟩ : ∃ p ∈ s.gServers, (s.srv p).sa.addr = a := by
      by_contra hNone
      have := held_eq_none.mpr fun p hp hAddr => hNone ⟨p, hp, hAddr⟩
      simp [this] at hHeld
    obtain ⟨hp', hAddr'⟩ := (hSame p).mpr ⟨hp, hAddr⟩
    have hOld := held_of_mem hOrderly hp
    have hNew := held_of_mem hOrderly' hp'
    rw [hAddr, hHeld] at hOld
    rw [hAddr', hDevices p hp hAddr] at hNew
    rw [hNew, ← hOld]

-- ---------------------------------------------------------------------------
-- One datagram
-- ---------------------------------------------------------------------------

/-- The server of an address is listed. -/
structure Listed (addr : Nat) (p : SrvPtr) (s : State) : Prop extends Orderly s where
  mem : p ∈ s.gServers
  addr_eq : (s.srv p).sa.addr = addr

theorem Listed.held_eq (h : Listed a p s) : held a s = some (s.srv p).devicesControlled := by
  have hHeld := held_of_mem h.toOrderly h.mem
  rwa [h.addr_eq] at hHeld

/-- A change of the one server, which stays where it is. -/
theorem Listed.update (h : Listed a p s) (server : Server) (hAddr : server.sa.addr = a)
    (hNamed : Named server.devicesControlled) {n k : Nat} :
    let s' : State := { s with srv := Function.update s.srv p server, mallocs := n, looks := k }
    Listed a p s' ∧ held a s' = some server.devicesControlled ∧
      ∀ b, b ≠ a → held b s' = held b s := by
  intro s'
  have hAddrs : ∀ q, (s'.srv q).sa.addr = (s.srv q).sa.addr := by
    intro q
    rcases eq_or_ne q p with rfl | hq
    · rw [h.addr_eq]
      simp [s', hAddr]
    · simp [s', hq]
  have hSelf : s'.srv p = server := Function.update_self ..
  have hListed : Listed a p s' := by
    refine ⟨⟨?_, fun q hq => ?_⟩, h.mem, hSelf ▸ hAddr⟩
    · have hSame : (s'.gServers.map fun q => (s'.srv q).sa.addr) =
          s.gServers.map fun q => (s.srv q).sa.addr := List.map_congr_left fun q _ => hAddrs q
      rw [hSame]
      exact h.addrs
    · rcases eq_or_ne q p with rfl | hNe
      · rw [hSelf]
        exact hNamed
      · rw [show s'.srv q = s.srv q from Function.update_of_ne hNe ..]
        exact h.named q hq
  refine ⟨hListed, hSelf ▸ hListed.held_eq, fun b hb => ?_⟩
  refine held_congr h.toOrderly hListed.toOrderly (fun q => by rw [hAddrs]) fun q _ hOther => ?_
  have hNe : q ≠ p := by
    intro hEq
    exact hb (hOther.symm.trans (hEq ▸ h.addr_eq))
  rw [show s'.srv q = s.srv q from Function.update_of_ne hNe ..]

theorem Listed.heardFrom (h : Listed a p s) : Listed a p (heardFrom w p s) ∧
    held a (LinuxClient.heardFrom w p s) = some (s.srv p).devicesControlled ∧
    ∀ b, b ≠ a → held b (LinuxClient.heardFrom w p s) = held b s :=
  h.update { s.srv p with lastHeardFrom := w.time s.looks } h.addr_eq
    (h.named p h.mem)

theorem Listed.setDevicesControlled (h : Listed a p s) {pp : List Device} (hNamed : Named pp)
    (n : Nat) :
    let s' := LinuxClient.setDevicesControlled p pp { s with mallocs := n }
    Listed a p s' ∧ held a s' = some pp ∧ ∀ b, b ≠ a → held b s' = held b s :=
  h.update { s.srv p with devicesControlled := pp } h.addr_eq hNamed

/-- With memory, the sender of a datagram is found or entered at the end. -/
theorem knownServer_eq (hMemory : ∀ k, (w.malloc k).isSome) (h : Orderly s) (sa : SockAddr) :
    ∃ p s', knownServer w sa s = (some p, s') ∧ Listed sa.addr p s' ∧
      (s'.srv p).devicesControlled = (held sa.addr s).getD [] ∧
      (∀ b, b ≠ sa.addr → held b s' = held b s) ∧
      (s' = s ∨ p ∉ s.gServers ∧ s'.gServers = s.gServers ++ [p]) := by
  unfold knownServer
  cases hGet : getServer sa.addr s with
  | some p =>
    have hMem : p ∈ s.gServers := List.mem_of_find?_eq_some hGet
    have hAddr : (s.srv p).sa.addr = sa.addr := by simpa using List.find?_some hGet
    refine ⟨p, s, rfl, ⟨h, hMem, hAddr⟩, ?_, fun _ _ => rfl, Or.inl rfl⟩
    rw [held, hGet]
    rfl
  | none =>
    obtain ⟨q, hq⟩ := Option.isSome_iff_exists.mp (hMemory s.mallocs)
    obtain ⟨c, hc⟩ := Option.isSome_iff_exists.mp (hMemory (s.mallocs + 1))
    simp only [hq]
    set p := freshServer s q with hp
    set s₁ : State := { s with
      mallocs := s.mallocs + 1
      srv := Function.update s.srv p ⟨sa, (s.srv p).lastHeardFrom, []⟩ } with hs₁
    have hFresh : p ∉ s.gServers := fresh_not_mem s.gServers q
    have hNone : ∀ x ∈ s.gServers, (s.srv x).sa.addr ≠ sa.addr := by
      have := List.find?_eq_none.mp hGet
      simpa using this
    have hOld : ∀ x ∈ s.gServers, s₁.srv x = s.srv x := fun x hx =>
      Function.update_of_ne (fun hEq : x = p => hFresh (hEq ▸ hx)) _ _
    have hSelf : s₁.srv p = ⟨sa, (s.srv p).lastHeardFrom, []⟩ := Function.update_self ..
    -- the new server is not there, so it gets a cell at the end
    have hAdd : addServer w p s₁ =
        { s₁ with mallocs := s.mallocs + 2, gServers := s.gServers ++ [p] } := by
      have hNew : getServer (s₁.srv p).sa.addr s₁ = none := by
        refine List.find?_eq_none.mpr fun x hx => ?_
        rw [hOld x hx, hSelf]
        simpa using hNone x hx
      unfold addServer
      rw [hNew, if_neg (by simp), show w.malloc s₁.mallocs = some c from hc]
      exact if_neg fun hMem => hFresh (List.mem_of_mem_dropLast hMem)
    rw [hAdd]
    set s₂ : State := { s₁ with mallocs := s.mallocs + 2, gServers := s.gServers ++ [p] } with hs₂
    have hAddrs : (s₂.gServers.map fun x => (s₂.srv x).sa.addr) =
        (s.gServers.map fun x => (s.srv x).sa.addr) ++ [sa.addr] := by
      show ((s.gServers ++ [p]).map fun x => (s₁.srv x).sa.addr) = _
      rw [List.map_append, List.map_congr_left fun x hx => congrArg (·.sa.addr) (hOld x hx)]
      simp [hSelf]
    have hListed : Listed sa.addr p s₂ := by
      refine ⟨⟨?_, fun x hx => ?_⟩, by simp [hs₂], congrArg (·.sa.addr) hSelf⟩
      · rw [hAddrs]
        refine h.addrs.append (List.nodup_singleton _) fun b hb hb' => ?_
        obtain ⟨x, hx, rfl⟩ := List.mem_map.mp hb
        exact hNone x hx (List.mem_singleton.mp hb')
      · rcases List.mem_append.mp hx with hx | hx
        · rw [show s₂.srv x = s.srv x from hOld x hx]
          exact h.named x hx
        · rw [List.mem_singleton.mp hx, show s₂.srv p = s₁.srv p from rfl, hSelf]
          exact fun _ hd => absurd hd List.not_mem_nil
    refine ⟨p, s₂, rfl, hListed, ?_, fun b hb => ?_, Or.inr ⟨hFresh, rfl⟩⟩
    · rw [show s₂.srv p = s₁.srv p from rfl, hSelf, held, hGet]
      rfl
    · refine held_congr h hListed.toOrderly (fun x => ?_) fun x hx _ => ?_
      · constructor
        · intro hIn
          obtain ⟨hx, hAddr⟩ := hIn
          rcases List.mem_append.mp hx with hx | hx
          · rw [show s₂.srv x = s.srv x from hOld x hx] at hAddr
            exact ⟨hx, hAddr⟩
          · rw [List.mem_singleton.mp hx, hListed.addr_eq] at hAddr
            exact absurd hAddr.symm hb
        · intro hIn
          obtain ⟨hx, hAddr⟩ := hIn
          rw [← show s₂.srv x = s.srv x from hOld x hx] at hAddr
          exact ⟨List.mem_append_left _ hx, hAddr⟩
      · rw [show s₂.srv x = s.srv x from hOld x hx]

/-- A server that does not come first, or comes alone, leaves the others behind. -/
theorem rmServer_eq {pp : List SrvPtr} (hMem : p ∈ pp) (hAlone : pp.head? = some p → pp.tail = []) :
    rmServer p pp = some (pp.erase p) := by
  cases pp with
  | nil => exact absurd hMem List.not_mem_nil
  | cons root rest =>
    rw [rmServer]
    rcases eq_or_ne root p with rfl | hNe
    · have hRest : rest = [] := hAlone rfl
      simp [hRest]
    · have hIn : p ∈ rest := (List.mem_cons.mp hMem).resolve_left (Ne.symm hNe)
      rw [if_neg hNe, rmCell_eq, if_pos hIn, List.erase_cons_tail (by simpa using hNe)]
      rfl

/-- A server that is taken off the list. -/
theorem Listed.remove (h : Listed a p s) :
    let s' : State := { s with gServers := s.gServers.erase p }
    Orderly s' ∧ held a s' = none ∧ ∀ b, b ≠ a → held b s' = held b s := by
  intro s'
  have hNodup : s.gServers.Nodup := h.addrs.of_map _
  have hMem : ∀ q, q ∈ s'.gServers ↔ q ≠ p ∧ q ∈ s.gServers := fun q => hNodup.mem_erase_iff
  have hOrderly : Orderly s' := by
    refine ⟨h.addrs.sublist (List.erase_sublist.map _), fun q hq => ?_⟩
    exact h.named q ((hMem q).mp hq).2
  refine ⟨hOrderly, held_eq_none.mpr fun q hq hAddr => ?_, fun b hb => ?_⟩
  · obtain ⟨hNe, hIn⟩ := (hMem q).mp hq
    exact hNe (List.inj_on_of_nodup_map h.addrs hIn h.mem (hAddr.trans h.addr_eq.symm))
  · refine held_congr h.toOrderly hOrderly (fun q => ?_) fun _ _ _ => rfl
    rw [hMem]
    constructor
    · exact fun hIn => ⟨hIn.1.2, hIn.2⟩
    · intro hIn
      obtain ⟨hq, hAddr⟩ := hIn
      refine ⟨⟨fun hEq => hb ?_, hq⟩, hAddr⟩
      exact hAddr.symm.trans (hEq ▸ h.addr_eq)

/-- A server that is not known has no devices. -/
theorem tableAfter_getD (w : Surroundings) (text : CStr) (table : Option (List Device)) :
    tableAfter w text (some (table.getD [])) = tableAfter w text table := rfl

/-- A listed server takes a broadcast. -/
theorem serverMessage_step (hMemory : ∀ k, (w.malloc k).isSome) (h : Listed a p s) {text : CStr}
    (hText : WellFormedText text)
    (hAlone : strncmpEq text broadcastQuit broadcastQuit.length → s.gServers.head? = some p →
      s.gServers.tail = []) :
    ∃ r s', serverMessage w p text s = some (r, s') ∧ Orderly s' ∧
      held a s' = tableAfter w text (some (s.srv p).devicesControlled) ∧
      ∀ b, b ≠ a → held b s' = held b s := by
  rcases hText with rfl | rfl | ⟨rs, hNames, rfl⟩
  · have hEmpty : dropDevices (s.srv p).devicesControlled = [] := by
      induction (s.srv p).devicesControlled with
      | nil => rfl
      | cons d pp ih => exact ih
    obtain ⟨hListed, hHeld, hOthers⟩ :=
      h.setDevicesControlled (show Named [] from fun _ hd => absurd hd List.not_mem_nil) s.mallocs
    refine ⟨0, _, if_pos rfl, ?_⟩
    rw [hEmpty]
    exact ⟨hListed.toOrderly, hHeld, hOthers⟩
  · have hRemove := rmServer_eq h.mem (hAlone rfl)
    have hMessage : serverMessage w p broadcastQuit s =
        some (0, { s with gServers := s.gServers.erase p }) := by
      rw [serverMessage, if_neg (by decide), if_pos (strncmpEq_iff.mpr (List.prefix_refl _)),
        hRemove]
    obtain ⟨hOrderly, hHeld, hOthers⟩ := h.remove
    exact ⟨0, _, hMessage, hOrderly, hHeld, hOthers⟩
  · have hNamed := h.named p h.mem
    have hDrop : (broadcastStatus ++ reportText rs).drop broadcastStatus.length = reportText rs :=
      List.drop_left
    have hInit : strncmpEq (broadcastStatus ++ reportText rs) broadcastInit broadcastInit.length =
      false := rfl
    have hQuit : strncmpEq (broadcastStatus ++ reportText rs) broadcastQuit broadcastQuit.length =
      false := rfl
    have hStatus : strncmpEq (broadcastStatus ++ reportText rs) broadcastStatus
        broadcastStatus.length := strncmpEq_iff.mpr (List.prefix_append ..)
    obtain ⟨n, hRead⟩ := processStatusMessage_reports hMemory hNames hNamed s.mallocs
    obtain ⟨_, hAlso⟩ := processStatusMessage_reports hMemory hNames hNamed 0
    have hTable := named_placeAll hNamed rs
    set table := placeAll Device.deviceName (rs.map received) (s.srv p).devicesControlled
    have hAfter : tableAfter w (broadcastStatus ++ reportText rs)
        (some (s.srv p).devicesControlled) = some table := by
      rw [tableAfter, hInit, hQuit, hDrop, Option.getD_some, hAlso]
      rfl
    obtain ⟨hListed, hHeld, hOthers⟩ := h.setDevicesControlled hTable n
    refine ⟨0, _, ?_, hListed.toOrderly, hHeld.trans hAfter.symm, hOthers⟩
    rw [serverMessage, hInit, hQuit, if_neg (by simp), if_neg (by simp), if_pos hStatus, hDrop,
      hRead]
    rfl

/-- **One datagram.** It changes what is held for its sender as it would on its own, and what
is held for nobody else. -/
theorem listen_step (hMemory : ∀ k, (w.malloc k).isSome) (h : Orderly s) {d : Datagram}
    (hText : WellFormedText d.2) (hCuts : ¬ Cuts d s) :
    ∃ s', listen w d (some s) = some s' ∧ Orderly s' ∧
      held d.1.addr s' = tableAfter w d.2 (held d.1.addr s) ∧
      ∀ b, b ≠ d.1.addr → held b s' = held b s := by
  obtain ⟨p, s₁, hKnown, hListed, hTable, hOthers, hPlace⟩ := knownServer_eq hMemory h d.1
  obtain ⟨hHeard, hHeldHeard, hOthersHeard⟩ := hListed.heardFrom (w := w)
  have hAlone : strncmpEq d.2 broadcastQuit broadcastQuit.length →
      (heardFrom w p s₁).gServers.head? = some p → (heardFrom w p s₁).gServers.tail = [] := by
    intro hQuit hHead
    rcases hPlace with rfl | ⟨hNew, hList⟩
    · by_contra hMore
      refine hCuts ⟨hQuit, hMore, fun root hRoot => ?_⟩
      obtain rfl : p = root := Option.some.inj (hHead.symm.trans hRoot)
      exact hListed.addr_eq
    · -- a new server comes last
      show s₁.gServers.tail = []
      have hHead' : s₁.gServers.head? = some p := hHead
      rw [hList] at hHead' ⊢
      cases hOld : s.gServers with
      | nil => rfl
      | cons root rest =>
        rw [hOld, List.cons_append, List.head?_cons] at hHead'
        rw [← Option.some.inj hHead', hOld] at hNew
        exact absurd (List.mem_cons_self ..) hNew
  obtain ⟨r, s₂, hMessage, hOrderly, hHeld, hOthersMessage⟩ :=
    serverMessage_step hMemory hHeard hText hAlone
  refine ⟨s₂, ?_, hOrderly, ?_, fun b hb => ?_⟩
  · simp [listen, processCommand, hKnown, hMessage]
  · rw [hHeld, ← hHeard.held_eq, hHeldHeard, hTable, tableAfter_getD]
  · rw [hOthersMessage b hb, hOthersHeard b hb, hOthers b hb]

-- ---------------------------------------------------------------------------
-- Runs
-- ---------------------------------------------------------------------------

/-- The datagrams of one server. -/
def datagramsOf (a : Nat) (ds : List Datagram) : List Datagram := ds.filter fun d => d.1.addr = a

theorem orderly_noServers : Orderly noServers :=
  ⟨List.nodup_nil, fun _ hp => absurd hp List.not_mem_nil⟩

/-- A run that loses no server makes of every server what its own datagrams do. -/
theorem listen_run (hMemory : ∀ k, (w.malloc k).isSome) {ds : List Datagram}
    (hText : ∀ d ∈ ds, WellFormedText d.2) (h : Orderly s)
    (hSpares : Runs.Along (listen w) Spares ds (some s)) :
    ∃ s', Runs.run (listen w) ds (some s) = some s' ∧ Orderly s' ∧ ∀ a, held a s' =
      (datagramsOf a ds).foldl (fun table d => tableAfter w d.2 table) (held a s) := by
  induction ds generalizing s with
  | nil => exact ⟨s, rfl, h, fun _ => rfl⟩
  | cons d ds ih =>
    obtain ⟨s₁, hStep, hOrderly, hSender, hOthers⟩ :=
      listen_step hMemory h (hText d (List.mem_cons_self ..)) hSpares.1
    have hRest := hSpares.2
    rw [hStep] at hRest
    obtain ⟨s', hRun, hOrderly', hHeld⟩ :=
      ih (fun x hx => hText x (List.mem_cons_of_mem _ hx)) hOrderly hRest
    refine ⟨s', by rw [Runs.run_cons, hStep, hRun], hOrderly', fun a => ?_⟩
    rw [hHeld a, datagramsOf, datagramsOf, List.filter_cons]
    by_cases hAddr : d.1.addr = a
    · rw [if_pos (by simpa using hAddr), List.foldl_cons, ← hAddr, hSender]
    · rw [if_neg (by simpa using hAddr), hOthers a (Ne.symm hAddr)]

/-- A run of one server's datagrams has no other server to lose. -/
theorem spares_of_one (hMemory : ∀ k, (w.malloc k).isSome) {ds : List Datagram}
    (hText : ∀ d ∈ ds, WellFormedText d.2) (hOne : ∀ d ∈ ds, d.1.addr = a) (h : Orderly s)
    (hOnly : ∀ b, b ≠ a → held b s = none) : Runs.Along (listen w) Spares ds (some s) := by
  induction ds generalizing s with
  | nil => trivial
  | cons d ds ih =>
    have hAddrs : ∀ p ∈ s.gServers, (s.srv p).sa.addr = a := by
      intro p hp
      by_contra hOther
      exact held_eq_none.mp (hOnly _ hOther) p hp rfl
    have hCuts : ¬ Cuts d s := by
      intro hCuts
      obtain ⟨-, hMore, -⟩ := hCuts
      match hList : s.gServers with
      | [] => simp [hList] at hMore
      | [_] => simp [hList] at hMore
      | p :: q :: rest =>
        have hNodup := h.addrs
        rw [hList, List.map_cons, List.map_cons, hAddrs p (by simp [hList]),
          hAddrs q (by simp [hList])] at hNodup
        simp at hNodup
    obtain ⟨s₁, hStep, hOrderly, -, hOthers⟩ :=
      listen_step hMemory h (hText d (List.mem_cons_self ..)) hCuts
    refine ⟨hCuts, ?_⟩
    rw [hStep]
    refine ih (fun x hx => hText x (List.mem_cons_of_mem _ hx))
      (fun x hx => hOne x (List.mem_cons_of_mem _ hx)) hOrderly fun b hb => ?_
    rw [hOthers b (by rw [hOne d (List.mem_cons_self ..)]; exact hb)]
    exact hOnly b hb

/-- **Servers are independent**, in any run of well-formed broadcasts, with memory, in which
the first server of the list never quits while others are known: whether a server is in
`g_servers` at the end and the devices held for it are the same as if only its own
datagrams had come, and no server is there twice. -/
theorem servers_independent (w : Surroundings) (ds : List Datagram)
    (hText : ∀ d ∈ ds, WellFormedText d.2) (hMemory : ∀ k, (w.malloc k).isSome)
    (hSpares : Runs.Along (listen w) Spares ds (some noServers)) (a : Nat) :
    ∃ s s', Runs.run (listen w) ds (some noServers) = some s ∧
      Runs.run (listen w) (datagramsOf a ds) (some noServers) = some s' ∧
      held a s = held a s' ∧ (s.gServers.map fun p => (s.srv p).sa.addr).Nodup := by
  obtain ⟨s, hRun, hOrderly, hHeld⟩ := listen_run hMemory hText orderly_noServers hSpares
  have hText' : ∀ d ∈ datagramsOf a ds, WellFormedText d.2 := fun d hd =>
    hText d (List.mem_of_mem_filter hd)
  have hOne : ∀ d ∈ datagramsOf a ds, d.1.addr = a := fun d hd => by
    simpa using (List.mem_filter.mp hd).2
  obtain ⟨s', hRun', -, hHeld'⟩ := listen_run hMemory hText' orderly_noServers
    (spares_of_one hMemory hText' hOne orderly_noServers fun _ _ => rfl)
  have hSame : datagramsOf a (datagramsOf a ds) = datagramsOf a ds := by
    simp [datagramsOf, List.filter_filter]
  refine ⟨s, s', hRun, hRun', ?_, hOrderly.addrs⟩
  rw [hHeld, hHeld', hSame]

/-- A broadcast of the server at this address. -/
def broadcastFrom (addr : Nat) (text : CStr) : Datagram := (⟨addr, 6789⟩, text)

/-- Two servers start, the second one reports its device and quits. -/
def twoServers : List Datagram :=
  [broadcastFrom 1 broadcastInit, broadcastFrom 2 broadcastInit,
    broadcastFrom 2 (broadcastStatus ++ reportText [⟨"ppp0".toList, .up, 7, 1⟩]),
    broadcastFrom 2 broadcastQuit]

/-- The second server of a list comes and goes. -/
theorem servers_independent_second :
    ∃ s s', Runs.run (listen ⟨some, fun _ => 0⟩) twoServers (some noServers) = some s ∧
      Runs.run (listen ⟨some, fun _ => 0⟩) (datagramsOf 1 twoServers) (some noServers) = some s' ∧
      held 1 s = held 1 s' ∧ (s.gServers.map fun p => (s.srv p).sa.addr).Nodup := by
  refine servers_independent _ twoServers (fun d hd => ?_) (fun _ => rfl) (by decide +kernel) 1
  simp only [twoServers, List.mem_cons, List.not_mem_nil, or_false] at hd
  rcases hd with rfl | rfl | rfl | rfl
  · exact Or.inl rfl
  · exact Or.inl rfl
  · exact Or.inr (Or.inr ⟨_, by decide, rfl⟩)
  · exact Or.inr (Or.inl rfl)

/-- The first of two servers starts, the second one starts, the first one quits. -/
def firstQuits : List Datagram :=
  [broadcastFrom 1 broadcastInit, broadcastFrom 2 broadcastInit, broadcastFrom 1 broadcastQuit]

/-- The second server is forgotten, though it has only ever said that it is there. -/
theorem servers_dependent : (∀ d ∈ firstQuits, WellFormedText d.2) ∧
    ∃ s s', Runs.run (listen ⟨some, fun _ => 0⟩) firstQuits (some noServers) = some s ∧
      Runs.run (listen ⟨some, fun _ => 0⟩) (datagramsOf 2 firstQuits) (some noServers) = some s' ∧
      held 2 s = none ∧ held 2 s' = some [] := by
  refine ⟨fun d hd => ?_, _, _, rfl, rfl, by decide +kernel, by decide +kernel⟩
  simp only [firstQuits, List.mem_cons, List.not_mem_nil, or_false] at hd
  rcases hd with rfl | rfl | rfl
  · exact Or.inl rfl
  · exact Or.inl rfl
  · exact Or.inr (Or.inl rfl)

end LinkControl.LinuxClient
